import CrudScaffold.Model.Graph
import Mathlib.Logic.Relation

/-!
# Reachability between models

The search of a graph visits exactly the models of the graph that a chain of relation fields leads
to. Hence `reaches` decides the reflexive and transitive closure of the single relation fields, for
every graph and every two names.
-/

namespace CrudScaffold

/-- The related types are the targets of the relation fields. -/
theorem Model.mem_relatedTypes_iff {m : Model} {n : QualifiedName} :
    n ∈ m.relatedTypes ↔ ∃ f ∈ m.fields, f.relation.isRelation = true ∧ f.target = some n := by
  simp only [relatedTypes, relations, List.mem_filterMap, List.mem_filter, and_assoc]

namespace ModelGraph

/-- A relation field of the model of one name leads to the other name. -/
def LeadsTo (g : ModelGraph) (source goal : QualifiedName) : Prop :=
  ∃ m, g.get? source = some m ∧
    ∃ f ∈ m.fields, f.relation.isRelation = true ∧ f.target = some goal

variable {g : ModelGraph} {source goal n : QualifiedName} {unvisited pending : List QualifiedName}

/-- What is found under a name is a model of the graph with this name. -/
theorem mem_and_name_of_get? {m : Model} (h : g.get? n = some m) : m ∈ g.models ∧ m.name = n := by
  refine ⟨List.mem_of_find?_eq_some h, ?_⟩
  simpa using List.find?_some h

/-- The names of the graph are those under which a model is found. -/
theorem mem_order_of_get? {m : Model} (h : g.get? n = some m) : n ∈ g.order := by
  obtain ⟨hm, rfl⟩ := mem_and_name_of_get? h
  exact List.mem_map.mpr ⟨m, hm, rfl⟩

/-- The related names are those that one relation field leads to. -/
theorem mem_related_iff : goal ∈ g.related source ↔ g.LeadsTo source goal := by
  unfold related LeadsTo
  cases h : g.get? source with
  | none => simp
  | some m => simp [Model.mem_relatedTypes_iff]

/-- Only models of the graph lead anywhere. -/
theorem mem_order_of_leadsTo (h : g.LeadsTo source goal) : source ∈ g.order := by
  obtain ⟨_, hm, -⟩ := h
  exact mem_order_of_get? hm

/-! ## The search -/

/-- Every visited name is reached from a pending one. -/
theorem exists_path_of_mem_visit (h : n ∈ g.visit unvisited pending) :
    ∃ p ∈ pending, Relation.ReflTransGen g.LeadsTo p n := by
  fun_induction g.visit unvisited pending with
  | case1 => simp at h
  | case2 unvisited pending found hfound ih =>
    have hp : found ∈ pending := List.mem_of_find?_eq_some hfound
    rcases List.mem_cons.mp h with rfl | hn
    · exact ⟨n, hp, .refl⟩
    · obtain ⟨p, hmem, hpath⟩ := ih hn
      rcases List.mem_append.mp hmem with hrel | hold
      · exact ⟨found, hp, .head (mem_related_iff.mp hrel) hpath⟩
      · exact ⟨p, hold, hpath⟩

/-- Nothing that is pending and not yet visited is left out. -/
theorem mem_visit_of_pending (hp : n ∈ pending) (hu : n ∈ unvisited) :
    n ∈ g.visit unvisited pending := by
  fun_induction g.visit unvisited pending with
  | case1 unvisited pending hnone =>
    have := List.find?_eq_none.mp hnone n hp
    simp [hu] at this
  | case2 unvisited pending found _ ih =>
    by_cases he : n = found
    · exact List.mem_cons.mpr (.inl he)
    · refine List.mem_cons_of_mem _ (ih (List.mem_append_right _ hp) ?_)
      exact (List.mem_erase_of_ne he).mpr hu

/-- The visited names are closed under relation fields as far as they were unvisited before. -/
theorem mem_visit_of_leadsTo {a b : QualifiedName} (ha : a ∈ g.visit unvisited pending)
    (hab : g.LeadsTo a b) (hb : b ∈ unvisited) : b ∈ g.visit unvisited pending := by
  fun_induction g.visit unvisited pending with
  | case1 => simp at ha
  | case2 unvisited pending found _ ih =>
    by_cases he : b = found
    · exact List.mem_cons.mpr (.inl he)
    · have hrest : b ∈ unvisited.erase found := (List.mem_erase_of_ne he).mpr hb
      refine List.mem_cons_of_mem _ ?_
      rcases List.mem_cons.mp ha with rfl | ha
      · exact mem_visit_of_pending (List.mem_append_left _ (mem_related_iff.mpr hab)) hrest
      · exact ih ha hrest

/-- A search from one name over all names visits every model that is reached from there. -/
theorem mem_visit_order (hpath : Relation.ReflTransGen g.LeadsTo source n) (hn : n ∈ g.order) :
    n ∈ g.visit g.order [source] := by
  induction hpath with
  | refl => exact mem_visit_of_pending (List.mem_singleton_self _) hn
  | tail _ hstep ih => exact mem_visit_of_leadsTo (ih (mem_order_of_leadsTo hstep)) hstep hn

/-- The search decides whether a chain of relation fields leads from one name to another. -/
theorem reaches_iff_reflTransGen :
    g.reaches source goal = true ↔ Relation.ReflTransGen g.LeadsTo source goal := by
  simp only [reaches, Bool.or_eq_true, beq_iff_eq, List.any_eq_true, List.contains_iff_mem,
    mem_related_iff]
  constructor
  · rintro (rfl | ⟨n, hn, hstep⟩)
    · exact .refl
    · obtain ⟨p, hp, hpath⟩ := exists_path_of_mem_visit hn
      obtain rfl := List.mem_singleton.mp hp
      exact hpath.tail hstep
  · intro hpath
    -- The last step leaves a model of the graph, which the search has visited.
    cases hpath with
    | refl => exact .inl rfl
    | tail hpath hstep =>
      exact .inr ⟨_, mem_visit_order hpath (mem_order_of_leadsTo hstep), hstep⟩

end ModelGraph

end CrudScaffold
