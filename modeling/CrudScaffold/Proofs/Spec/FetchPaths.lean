import CrudScaffold.Proofs.Text.Path
import CrudScaffold.Spec.EntityGraph
import Mathlib.Data.List.Dedup
import Mathlib.Data.List.Sort
import Mathlib.Data.Set.Basic
import Mathlib.Data.String.Basic

/-!
# The paths of a fetch plan

A plan stands for a set of dotted paths, one for each attribute in it. Adding a path adds it to this
set and nothing else, and a plan is made from its paths in decreasing order, so that two plans of
the same paths are the same plan.
-/

namespace CrudScaffold.EntityGraph

open Text

/-! ## Paths of a plan -/

mutual
/-- For each attribute the names of the subplans that lead to it, and then its own. -/
def routes : EntityGraph → List (List String)
  | node attributes subgraphs => attributes.map (fun a => [a]) ++ routesBelow subgraphs

/-- The routes that start with the name of a subplan. -/
def routesBelow : List (String × EntityGraph) → List (List String)
  | [] => []
  | (name, g) :: rest => g.routes.map (name :: ·) ++ routesBelow rest
end

/-- The path that is written for a route. -/
def dotted (route : List String) : String := .ofList (join ['.'] (route.map String.toList))

/-- The paths of a plan, from its root to its attributes. -/
def paths (g : EntityGraph) : List String := g.routes.map dotted

/-- No node has an attribute twice, nor two subplans of one name. -/
inductive Distinct : EntityGraph → Prop where
  | node {attributes : List String} {subgraphs : List (String × EntityGraph)}
    (attributes_nodup : attributes.Nodup)
    (names_nodup : (subgraphs.map Prod.fst).Nodup)
    (below : ∀ p ∈ subgraphs, Distinct p.2) :
    Distinct (node attributes subgraphs)

variable {g : EntityGraph} {attributes : List String} {subgraphs : List (String × EntityGraph)}
  {name : String} {route segments : List String}

private theorem mem_routesBelow_iff :
    route ∈ routesBelow subgraphs ↔ ∃ p ∈ subgraphs, ∃ rest ∈ p.2.routes, p.1 :: rest = route := by
  induction subgraphs with
  | nil => simp [routesBelow]
  | cons p rest ih =>
    obtain ⟨name, g⟩ := p
    rw [routesBelow, List.mem_append, ih, List.mem_map, List.exists_mem_cons_iff]

private theorem mem_routes_node_iff :
    route ∈ (node attributes subgraphs).routes ↔
      (∃ a ∈ attributes, [a] = route) ∨
        ∃ p ∈ subgraphs, ∃ rest ∈ p.2.routes, p.1 :: rest = route := by
  rw [routes, List.mem_append, List.mem_map, mem_routesBelow_iff]

private theorem not_mem_routes_empty : route ∉ empty.routes := by
  rw [empty, mem_routes_node_iff]
  rintro (⟨_, h, -⟩ | ⟨_, h, -⟩) <;> cases h

private theorem distinct_node_iff :
    (node attributes subgraphs).Distinct ↔
      attributes.Nodup ∧ (subgraphs.map Prod.fst).Nodup ∧ ∀ p ∈ subgraphs, p.2.Distinct := by
  constructor
  · rintro ⟨hattributes, hnames, hbelow⟩
    exact ⟨hattributes, hnames, hbelow⟩
  · rintro ⟨hattributes, hnames, hbelow⟩
    exact ⟨hattributes, hnames, hbelow⟩

private theorem distinct_empty : empty.Distinct := ⟨List.nodup_nil, List.nodup_nil, nofun⟩

/-! ## Changing a subplan -/

/-- When a change adds one condition to a subplan, and a new subplan meets no other, all subplans
together get that condition. -/
theorem forall_mem_alterSubgraph_iff {name : String} {change : EntityGraph → EntityGraph}
    {P : String × EntityGraph → Prop} {Q : Prop}
    (hchange : ∀ g, P (name, change g) ↔ P (name, g) ∧ Q) (hempty : Q → P (name, empty))
    (subgraphs : List (String × EntityGraph)) :
    (∀ p ∈ alterSubgraph name change subgraphs, P p) ↔ (∀ p ∈ subgraphs, P p) ∧ Q := by
  induction subgraphs with
  | nil =>
    rw [alterSubgraph, List.forall_mem_singleton, hchange]
    exact ⟨fun h => ⟨nofun, h.2⟩, fun h => ⟨hempty h.2, h.2⟩⟩
  | cons p rest ih =>
    obtain ⟨n, g⟩ := p
    rw [alterSubgraph]
    split
    · next hn =>
      subst hn
      rw [List.forall_mem_cons, List.forall_mem_cons, hchange, and_right_comm]
    · rw [List.forall_mem_cons, List.forall_mem_cons, ih, and_assoc]

/-- When a change adds one case to a subplan, and a new subplan has no other, all subplans together
get that case. -/
theorem exists_mem_alterSubgraph_iff {change : EntityGraph → EntityGraph}
    {P : String × EntityGraph → Prop} {Q : Prop}
    (hchange : ∀ g, P (name, change g) ↔ P (name, g) ∨ Q) (hempty : ¬ P (name, empty)) :
    (∃ p ∈ alterSubgraph name change subgraphs, P p) ↔ (∃ p ∈ subgraphs, P p) ∨ Q := by
  have hnone : (∀ p ∈ alterSubgraph name change subgraphs, ¬ P p) ↔
      (∀ p ∈ subgraphs, ¬ P p) ∧ ¬ Q :=
    forall_mem_alterSubgraph_iff (fun g => by rw [hchange, not_or]) (fun _ => hempty) subgraphs
  rw [← not_iff_not, not_or]
  push Not
  exact hnone

/-- A subplan keeps its place under its name; a new one comes last. -/
theorem map_fst_alterSubgraph (change : EntityGraph → EntityGraph) :
    (alterSubgraph name change subgraphs).map Prod.fst =
      if name ∈ subgraphs.map Prod.fst then subgraphs.map Prod.fst
      else subgraphs.map Prod.fst ++ [name] := by
  induction subgraphs with
  | nil => rfl
  | cons p rest ih =>
    obtain ⟨n, g⟩ := p
    by_cases hn : n = name
    · simp [alterSubgraph, hn]
    · have hne : name ≠ n := fun h => hn h.symm
      simp only [alterSubgraph, hn, ↓reduceIte, List.map_cons, ih, List.mem_cons, hne, false_or]
      split <;> rfl

/-- Two changes of one subplan are one change. -/
theorem alterSubgraph_alterSubgraph (change change' : EntityGraph → EntityGraph) :
    alterSubgraph name change' (alterSubgraph name change subgraphs) =
      alterSubgraph name (fun g => change' (change g)) subgraphs := by
  induction subgraphs with
  | nil => simp [alterSubgraph]
  | cons p rest ih =>
    obtain ⟨n, g⟩ := p
    by_cases hn : n = name
    · simp [alterSubgraph, hn]
    · simp [alterSubgraph, hn, ih]

/-! ## Adding a path -/

/-- A path of several parts goes on below the subplan of its first part. -/
theorem addPath_cons_cons (parent second : String) (rest : List String) :
    addPath (parent :: second :: rest) (node attributes subgraphs) =
      node attributes (alterSubgraph parent (addPath (second :: rest)) subgraphs) := rfl

private theorem mem_routes_addAttribute_iff :
    route ∈ (g.addAttribute name).routes ↔ route ∈ g.routes ∨ [name] = route := by
  obtain ⟨attributes, subgraphs⟩ := g
  rw [addAttribute]
  split
  · next hthere =>
    refine ⟨.inl, fun h => h.elim id ?_⟩
    rintro rfl
    exact mem_routes_node_iff.mpr (.inl ⟨name, List.contains_iff_mem.mp hthere, rfl⟩)
  · simp only [mem_routes_node_iff, List.mem_append, List.mem_singleton, or_and_right, exists_or,
      exists_eq_left]
    exact or_right_comm

/-- Adding a path adds its route, and no other one. -/
theorem mem_routes_addPath_iff (h : segments ≠ []) :
    route ∈ (g.addPath segments).routes ↔ route ∈ g.routes ∨ segments = route := by
  induction segments generalizing g route with
  | nil => exact absurd rfl h
  | cons parent rest ih =>
    cases rest with
    | nil => exact mem_routes_addAttribute_iff
    | cons second rest =>
      obtain ⟨attributes, subgraphs⟩ := g
      rw [addPath_cons_cons, mem_routes_node_iff, mem_routes_node_iff, or_assoc]
      refine or_congr_right (exists_mem_alterSubgraph_iff (fun sub => ?_) ?_)
      · simp only [ih (List.cons_ne_nil second rest), or_and_right, exists_or, exists_eq_left']
      · rintro ⟨_, hrest, -⟩
        exact not_mem_routes_empty hrest

private theorem distinct_addAttribute_iff : (g.addAttribute name).Distinct ↔ g.Distinct := by
  obtain ⟨attributes, subgraphs⟩ := g
  rw [addAttribute]
  split
  · rfl
  · next hnew =>
    rw [List.contains_iff_mem] at hnew
    rw [distinct_node_iff, distinct_node_iff, ← List.concat_eq_append, List.nodup_concat]
    exact and_congr_left' (and_iff_right hnew)

/-- Adding a path puts no name beside itself. -/
theorem distinct_addPath_iff : (g.addPath segments).Distinct ↔ g.Distinct := by
  induction segments generalizing g with
  | nil => rfl
  | cons parent rest ih =>
    obtain ⟨attributes, subgraphs⟩ := g
    cases rest with
    | nil => exact distinct_addAttribute_iff
    | cons second rest =>
      rw [addPath_cons_cons, distinct_node_iff, distinct_node_iff, map_fst_alterSubgraph]
      refine and_congr_right fun _ => and_congr ?_ ?_
      · split
        · rfl
        · next hnew =>
          rw [← List.concat_eq_append, List.nodup_concat]
          exact and_iff_right hnew
      · rw [forall_mem_alterSubgraph_iff (Q := True), and_true]
        · intro sub
          rw [ih, and_true]
        · exact fun _ => distinct_empty

/-- A path that is added again changes nothing. -/
theorem addPath_addPath (g : EntityGraph) (segments : List String) :
    (g.addPath segments).addPath segments = g.addPath segments := by
  induction segments generalizing g with
  | nil => rfl
  | cons parent rest ih =>
    obtain ⟨attributes, subgraphs⟩ := g
    cases rest with
    | nil =>
      by_cases hthere : parent ∈ attributes
      · simp [addPath, addAttribute, hthere]
      · simp [addPath, addAttribute, hthere]
    | cons second rest => simp only [addPath_cons_cons, alterSubgraph_alterSubgraph, ih]

/-! ## Adding many paths -/

/-- Adding paths adds their routes. -/
theorem mem_routes_foldl_addPath_iff (given : List String) :
    route ∈ (given.foldl (fun g path => g.addPath (parts path)) g).routes ↔
      route ∈ g.routes ∨ ∃ path ∈ given, parts path = route := by
  induction given generalizing g with
  | nil => simp
  | cons path rest ih =>
    have hparts : parts path ≠ [] := by simpa [parts] using splitAtChar_ne_nil '.' path.toList
    rw [List.foldl_cons, ih, mem_routes_addPath_iff hparts, or_assoc, List.exists_mem_cons_iff]

private theorem distinct_foldl_addPath (given : List String) (h : g.Distinct) :
    (given.foldl (fun g path => g.addPath (parts path)) g).Distinct := by
  induction given generalizing g with
  | nil => exact h
  | cons path rest ih => exact ih (distinct_addPath_iff.mpr h)

/-- Where a step does nothing when it is repeated, a sorted list may have each entry once. -/
theorem foldl_dedup_of_pairwise {α β : Type} [DecidableEq α] {r : α → α → Prop} [Std.Antisymm r]
    {step : β → α → β} (hstep : ∀ b a, step (step b a) a = step b a) {l : List α} (h : l.Pairwise r)
    (b : β) : l.dedup.foldl step b = l.foldl step b := by
  induction l generalizing b with
  | nil => rfl
  | cons a l ih =>
    obtain ⟨hfirst, hrest⟩ := List.pairwise_cons.mp h
    by_cases ha : a ∈ l
    · rw [List.dedup_cons_of_mem ha, ih hrest]
      cases l with
      | nil => cases ha
      | cons a' l =>
        -- In a sorted list an entry that comes again comes next.
        obtain rfl : a = a' := by
          rcases List.mem_cons.mp ha with heq | ha
          · exact heq
          · exact antisymm (hfirst a' List.mem_cons_self) ((List.pairwise_cons.mp hrest).1 a ha)
        rw [List.foldl_cons, List.foldl_cons, List.foldl_cons, hstep]
    · rw [List.dedup_cons_of_notMem ha, List.foldl_cons, List.foldl_cons, ih hrest]

/-! ## The plan of given paths -/

/-- The paths that count are the given ones without blanks around them, except for blank ones. -/
theorem mem_orderedPaths_iff {paths : List String} {path : String} :
    path ∈ orderedPaths paths ↔
      path.isEmpty = false ∧ ∃ p ∈ paths, String.ofList (trim p.toList) = path := by
  simp only [orderedPaths, List.mem_reverse, List.mem_mergeSort, List.mem_filter, List.mem_map,
    Bool.not_eq_true']
  exact and_comm

private theorem pairwise_orderedPaths (paths : List String) :
    (orderedPaths paths).Pairwise fun a b => b ≤ a := by
  rw [orderedPaths, List.pairwise_reverse]
  exact List.pairwise_mergeSort' (· ≤ ·) _

/-- The given paths without the blanks around them, except for blank ones. -/
def counted (given : List String) : Set String :=
  {path | path ≠ "" ∧ ∃ p ∈ given, String.ofList (trim p.toList) = path}

private theorem mem_orderedPaths_iff_counted {given : List String} {path : String} :
    path ∈ orderedPaths given ↔ path ∈ counted given := by
  rw [mem_orderedPaths_iff, String.isEmpty_eq_false_iff]
  rfl

/-- The parts of a path are written as this path. -/
theorem dotted_parts (path : String) : dotted (parts path) = path := by
  have hchars : (parts path).map String.toList = splitAtChar '.' path.toList := by
    rw [parts, List.map_map]
    exact (List.map_congr_left fun _ _ => String.toList_ofList).trans (List.map_id _)
  rw [dotted, hchars, join_splitAtChar, String.ofList_toList]

/-- A plan has exactly the paths that count among those it is made from. -/
theorem mem_paths_ofPaths_iff {given : List String} {path : String} :
    path ∈ (ofPaths given).paths ↔ path ∈ counted given := by
  have hroutes (route : List String) :
      route ∈ (ofPaths given).routes ↔ ∃ path ∈ orderedPaths given, parts path = route :=
    (mem_routes_foldl_addPath_iff _).trans (or_iff_right not_mem_routes_empty)
  simp only [paths, List.mem_map, hroutes, ← mem_orderedPaths_iff_counted]
  constructor
  · rintro ⟨_, ⟨path', hpath, rfl⟩, rfl⟩
    rwa [dotted_parts]
  · intro hpath
    exact ⟨parts path, ⟨path, hpath, rfl⟩, dotted_parts path⟩

/-- The same paths make the same plan. -/
theorem ofPaths_congr {given other : List String} (h : counted given = counted other) :
    ofPaths given = ofPaths other := by
  let add (g : EntityGraph) (path : String) : EntityGraph := g.addPath (parts path)
  have hadd (g : EntityGraph) (path : String) : add (add g path) path = add g path :=
    addPath_addPath g (parts path)
  have hmem (path : String) : path ∈ orderedPaths given ↔ path ∈ orderedPaths other := by
    rw [mem_orderedPaths_iff_counted, mem_orderedPaths_iff_counted, h]
  have hsorted (l : List String) : (orderedPaths l).dedup.Pairwise fun a b => b < a := by
    have hle := (pairwise_orderedPaths l).sublist (List.dedup_sublist _)
    refine (hle.and (List.nodup_dedup _)).imp ?_
    rintro a b ⟨hba, hne⟩
    exact lt_of_le_of_ne hba hne.symm
  have hsame : (orderedPaths given).dedup = (orderedPaths other).dedup := by
    refine List.Subset.antisymm_of_pairwise (r := fun a b => b < a) (hsorted given) (hsorted other)
      (fun path hpath => ?_) (fun path hpath => ?_)
    · exact List.mem_dedup.mpr ((hmem path).mp (List.mem_dedup.mp hpath))
    · exact List.mem_dedup.mpr ((hmem path).mpr (List.mem_dedup.mp hpath))
  have honce (l : List String) : (orderedPaths l).dedup.foldl add empty = ofPaths l :=
    foldl_dedup_of_pairwise hadd (pairwise_orderedPaths l) empty
  rw [← honce, ← honce, hsame]

/-- The paths of a plan count as they are. -/
theorem counted_paths_ofPaths (given : List String) :
    counted (ofPaths given).paths = counted given := by
  have htrimmed {path : String} (h : path ∈ counted given) :
      String.ofList (trim path.toList) = path := by
    obtain ⟨-, p, -, rfl⟩ := h
    rw [String.toList_ofList, trim, trim, stripWhile_stripWhile]
  ext path
  constructor
  · rintro ⟨-, p, hp, rfl⟩
    have hcounted := mem_paths_ofPaths_iff.mp hp
    rwa [htrimmed hcounted]
  · intro hpath
    exact ⟨hpath.1, path, mem_paths_ofPaths_iff.mpr hpath, htrimmed hpath⟩

/-- A plan that is made from given paths has exactly those of them that count, and nothing twice in
any node. It is the same plan exactly for the lists of the same paths that count, in whatever order
and however often, so that its own paths make it again. -/
theorem ofPaths_canonical (given : List String) :
    {path | path ∈ (ofPaths given).paths} = counted given ∧
    (ofPaths given).Distinct ∧
    (∀ other, ofPaths given = ofPaths other ↔ counted given = counted other) ∧
    ofPaths (ofPaths given).paths = ofPaths given := by
  have hpaths (l : List String) : {path | path ∈ (ofPaths l).paths} = counted l :=
    Set.ext fun _ => mem_paths_ofPaths_iff
  refine ⟨hpaths given, distinct_foldl_addPath _ distinct_empty, fun other => ⟨fun h => ?_, ?_⟩, ?_⟩
  · rw [← hpaths given, ← hpaths other, h]
  · exact ofPaths_congr
  · exact ofPaths_congr (counted_paths_ofPaths given)

end CrudScaffold.EntityGraph
