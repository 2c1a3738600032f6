import CrudScaffold.Text.Blank
import CrudScaffold.Text.Pieces

/-!
# Fetch plans

A fetch plan says which attributes of a model are loaded together with it: attribute names, and
named subplans for what hangs on an attribute. A plan is built from dotted attribute paths.
-/

namespace CrudScaffold

open Text

/-- Attributes to fetch, and subplans by attribute name. -/
inductive EntityGraph where
  | node (attributes : List String) (subgraphs : List (String × EntityGraph))
  deriving Repr, Inhabited

namespace EntityGraph

/-- Nothing is fetched. -/
def empty : EntityGraph := node [] []

/-- The attributes at the root. -/
def attributes : EntityGraph → List String
  | node attributes _ => attributes

/-- The subplans at the root. -/
def subgraphs : EntityGraph → List (String × EntityGraph)
  | node _ subgraphs => subgraphs

/-- Nothing is fetched at the root or below. -/
def isEmpty (g : EntityGraph) : Bool := g.attributes.isEmpty && g.subgraphs.isEmpty

/-- Add an attribute at the root, unless it is there. -/
def addAttribute (name : String) : EntityGraph → EntityGraph
  | node attributes subgraphs =>
    if attributes.contains name then node attributes subgraphs
    else node (attributes ++ [name]) subgraphs

/-- The subplan under a name. -/
def subgraph? (g : EntityGraph) (name : String) : Option EntityGraph := g.subgraphs.lookup name

/-- Change the subplan under a name, opening an empty one where there is none. -/
def alterSubgraph (name : String) (change : EntityGraph → EntityGraph) :
    List (String × EntityGraph) → List (String × EntityGraph)
  | [] => [(name, change empty)]
  | (n, g) :: rest => if n = name then (n, change g) :: rest else (n, g) :: alterSubgraph name change rest

/-- Add the attribute that a path leads to: every part but the last names a subplan. -/
def addPath : List String → EntityGraph → EntityGraph
  | [], g => g
  | [name], g => g.addAttribute name
  | parent :: rest, node attributes subgraphs =>
    node attributes (alterSubgraph parent (addPath rest) subgraphs)

/-- The paths that count, without the blanks around them, the last one in order first. -/
def orderedPaths (paths : List String) : List String :=
  let trimmed := paths.map fun p => String.ofList (trim p.toList)
  ((trimmed.filter fun p => !p.isEmpty).mergeSort (fun a b => a ≤ b)).reverse

/-- The parts of a dotted path. -/
def parts (path : String) : List String := (splitAtChar '.' path.toList).map .ofList

/-- The plan of a list of dotted paths. Paths are taken in decreasing order, so that the plan depends
on nothing but the set of paths. -/
def ofPaths (paths : List String) : EntityGraph :=
  (orderedPaths paths).foldl (fun g path => g.addPath (parts path)) empty

end EntityGraph

end CrudScaffold
