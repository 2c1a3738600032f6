import CrudScaffold.Toml.Value

/-!
# Tables under construction

While a document is read, its tables carry how they came about: a table is implicit when only a
longer path mentioned it so far, and dotted when a dotted key opened it. These marks decide whether
a later statement may still add to it.
-/

namespace CrudScaffold.Toml

/-- A node of the tree under construction. -/
inductive Node where
  | leaf (value : Value)
  | table (implicit dotted : Bool) (entries : List (String × Node))
  | tables (items : List (List (String × Node)))
  deriving Inhabited

namespace Node

/-- Replace the node under a key that is present. -/
def setKey (key : String) (node : Node) : List (String × Node) → List (String × Node)
  | [] => []
  | (k, n) :: rest => if k = key then (k, node) :: rest else (k, n) :: setKey key node rest

/-- Remove the node under a key. -/
def dropKey (key : String) (entries : List (String × Node)) : List (String × Node) :=
  entries.filter fun (k, _) => k != key

/-- Change the table that a path leads to. Missing tables on the way are opened as implicit ones;
a list of tables is entered at its last table; a dotted path may not enter a table that a header
defined. The change is told whether the table it gets was opened by a dotted key. -/
def alter (dotted : Bool)
    (change : Bool → List (String × Node) → Option (List (String × Node))) :
    List String → Bool → List (String × Node) → Option (List (String × Node))
  | [], isDotted, entries => change isDotted entries
  | key :: path, _, entries =>
    match entries.lookup key with
    | none => do
      let inner ← alter dotted change path dotted []
      some (entries ++ [(key, .table true dotted inner)])
    | some (.leaf _) => none
    | some (.tables items) => do
      let inner ← alter dotted change path false (← items.getLast?)
      some (setKey key (.tables (items.dropLast ++ [inner])) entries)
    | some (.table implicit isDotted inner) =>
      if dotted && !implicit then none
      else do
        let inner ← alter dotted change path isDotted inner
        some (setKey key (.table implicit isDotted inner) entries)

/-- Add a value under a new key at the end of a path that starts in this table. -/
def addPair (path : List String) (key : String) (value : Value)
    (entries : List (String × Node)) : Option (List (String × Node)) :=
  alter true
    (fun isDotted entries =>
      if isDotted == path.isEmpty then none
      else if (entries.lookup key).isSome then none
      else some (entries ++ [(key, .leaf value)]))
    path false entries

mutual
/-- The finished value of a node. -/
def toValue : Node → Value
  | .leaf v => v
  | .table _ _ entries => .table (entriesToValues entries)
  | .tables items => .tables (itemsToValues items)

/-- The finished values of a table. -/
def entriesToValues : List (String × Node) → List (String × Value)
  | [] => []
  | (k, n) :: rest => (k, toValue n) :: entriesToValues rest

/-- The finished values of a list of tables. -/
def itemsToValues : List (List (String × Node)) → List (List (String × Value))
  | [] => []
  | t :: rest => entriesToValues t :: itemsToValues rest
end

end Node

/-- The table of an inline list of pairs, `none` when two of them collide. -/
def inlineTable (pairs : List (List String × String × Value)) : Option Value := do
  let entries ← pairs.foldlM (fun entries (path, key, value) => Node.addPair path key value entries) []
  some (.table (Node.entriesToValues entries))

/-- One statement of a document. -/
inductive Statement where
  | pair (path : List String) (key : String) (value : Value)
  | header (path : List String) (key : String)
  | itemHeader (path : List String) (key : String)

/-- A document under construction: the finished part, and the table that pairs go to. -/
structure Draft where
  root : List (String × Node)
  current : List (String × Node)
  /-- Where the current table belongs; `none` for the table at the top. -/
  target : Option (List String × String)
  /-- The current table is the next item of a list of tables. -/
  isItem : Bool

namespace Draft

/-- Nothing has been read. -/
def empty : Draft := ⟨[], [], none, false⟩

/-- Put the current table where it belongs. -/
def settle (d : Draft) : Option (List (String × Node)) :=
  match d.target with
  | none => some d.current
  | some (path, key) =>
    Node.alter false
      (fun _ entries =>
        if d.isItem then
          match entries.lookup key with
          | some (.tables items) => some (Node.setKey key (.tables (items ++ [d.current])) entries)
          | _ => none
        else if (entries.lookup key).isSome then none
        else some (entries ++ [(key, .table false false d.current)]))
      path false d.root

/-- Look up the node that a header's path leads to, opening implicit tables on the way. -/
def entriesAt (path : List String) (root : List (String × Node)) :
    Option (List (String × Node) × List (String × Node)) := do
  let root ← Node.alter false (fun _ entries => some entries) path false root
  let entries ← find path root
  some (root, entries)
where
  /-- Follow a path whose tables exist. -/
  find : List String → List (String × Node) → Option (List (String × Node))
    | [], entries => some entries
    | key :: path, entries =>
      match entries.lookup key with
      | some (.table _ _ inner) => find path inner
      | some (.tables items) => items.getLast?.bind (find path)
      | _ => none

/-- Take one statement into the document. A header may only open a table that is new or implicit; a
list of tables may only be extended. -/
def add (d : Draft) : Statement → Option Draft
  | .pair path key value => do
    some { d with current := ← Node.addPair path key value d.current }
  | .header path key => do
    let root ← d.settle
    let (root, entries) ← entriesAt path root
    match entries.lookup key with
    | none => some ⟨root, [], some (path, key), false⟩
    | some (.table true false inner) =>
      let root ← Node.alter false (fun _ entries => some (Node.dropKey key entries)) path false root
      some ⟨root, inner, some (path, key), false⟩
    | some _ => none
  | .itemHeader path key => do
    let root ← d.settle
    let (root, entries) ← entriesAt path root
    match entries.lookup key with
    | none =>
      let root ←
        Node.alter false (fun _ entries => some (entries ++ [(key, .tables [])])) path false root
      some ⟨root, [], some (path, key), true⟩
    | some (.tables _) => some ⟨root, [], some (path, key), true⟩
    | some _ => none

end Draft

/-- The document of a list of statements, `none` when two of them define the same thing. -/
def documentOf (statements : List Statement) : Option Entries := do
  let draft ← statements.foldlM Draft.add Draft.empty
  some (Node.entriesToValues (← draft.settle))

end CrudScaffold.Toml
