import CrudScaffold.Proofs.Keys
import CrudScaffold.Proofs.Run.Claims

/-!
# Plans in which no name is taken

A taken name stops a model exactly where some name is due twice in a run. Where all due names are
distinct, every model gets all that is due, and nothing but a fault of its own stops it.
-/

namespace CrudScaffold

/-- Every name that is claimed by the time a model is through is that of an emitted artifact. -/
theorem PlannedModel.exists_of_mem_claimedUntil {plan : List PlannedModel} {i : Nat}
    {p : PlannedModel} (hp : p ∈ plan) {n : QualifiedName} (h : n ∈ claimedUntil plan i p) :
    ∃ q ∈ plan, ∃ x ∈ q.specs, x.name = n := by
  obtain ⟨x, hx, rfl⟩ := List.mem_map.mp h
  have hfirst {q : PlannedModel} (hq : q ∈ plan) (hx : x ∈ q.first.specs) :
      ∃ q ∈ plan, ∃ y ∈ q.specs, y.name = x.name :=
    ⟨q, hq, x, List.mem_append_left _ hx, rfl⟩
  have hsecond {q : PlannedModel} (hq : q ∈ plan) (hx : x ∈ q.second.specs) :
      ∃ q ∈ plan, ∃ y ∈ q.specs, y.name = x.name :=
    ⟨q, hq, x, List.mem_append_right _ hx, rfl⟩
  split at hx
  · rcases List.mem_append.mp hx with hx | hx
    · obtain ⟨q, hq, hx⟩ := List.mem_flatMap.mp hx
      exact hfirst (List.mem_of_mem_take hq) hx
    · exact hfirst hp hx
  · rcases List.mem_append.mp hx with hx | hx
    · rcases List.mem_append.mp hx with hx | hx
      · obtain ⟨q, hq, hx⟩ := List.mem_flatMap.mp hx
        exact hfirst hq hx
      · obtain ⟨q, hq, hx⟩ := List.mem_flatMap.mp hx
        exact hsecond (List.mem_of_mem_take hq) hx
    · exact hsecond hp hx

namespace Catalog

open PlannedModel

variable (c : Catalog)

/-- Every model gets all that is due, and nothing stops it but a fault of its own. -/
def Undisturbed : Prop :=
  c.plan.map (fun p => (p.title, p.specs, p.error)) =
    c.entries.map fun e => (e.declared.qualifiedName, c.due e, c.fault? e)

/-- All names that are due in a run. -/
def dueNames : List QualifiedName := (c.entries.flatMap c.due).map Spec.name

variable {c}

/-- A catalog is undisturbed if no model is stopped at a taken name. -/
theorem undisturbed_of_fares
    (h : ∀ (i : Nat) (e : Entry) (p : PlannedModel), c.entries[i]? = some e → c.plan[i]? = some p →
      c.Fares e (claimedUntil c.plan i p) p → p.specs = c.due e ∧ p.error = c.fault? e) :
    c.Undisturbed := by
  refine List.ext_getElem? fun i => ?_
  rw [List.getElem?_map, List.getElem?_map]
  cases he : c.entries[i]? with
  | none =>
    have hlength : c.plan.length ≤ i := by
      rw [c.length_plan]
      exact List.getElem?_eq_none_iff.mp he
    rw [List.getElem?_eq_none hlength]
    rfl
  | some e =>
    obtain ⟨p, hp, htitle, hfares⟩ := c.exists_planned he
    obtain ⟨hspecs, herror⟩ := h i e p he hp hfares
    rw [hp, Option.map_some, Option.map_some, htitle, hspecs, herror]

/-- Nothing is disturbed where no model was stopped at a taken name. -/
theorem undisturbed_of_error_ne
    (h : ∀ p ∈ c.plan, ∀ n, p.error ≠ some (.duplicateArtifactName n)) : c.Undisturbed := by
  refine undisturbed_of_fares fun i e p _ hp hfares => ?_
  cases hfares with
  | whole hspecs herror => exact ⟨hspecs, herror⟩
  | cut s rest _ herror _ => exact absurd herror (h p (List.mem_of_getElem? hp) s.name)

/-- Nothing is disturbed where no name is due twice. -/
theorem undisturbed_of_nodup (h : c.dueNames.Nodup) : c.Undisturbed := by
  refine undisturbed_of_fares fun i e p he hp hfares => ?_
  cases hfares with
  | whole hspecs herror => exact ⟨hspecs, herror⟩
  | cut s rest hdue _ htaken =>
    -- The artifact that holds the taken name is due as well, for this model or for another one.
    exfalso
    rw [dueNames, List.map_flatMap] at h
    obtain ⟨q, hq, x, hx, hname⟩ := exists_of_mem_claimedUntil (List.mem_of_getElem? hp) htaken
    obtain ⟨j, hj⟩ := List.mem_iff_getElem?.mp hq
    obtain ⟨e', he', -, hfares'⟩ := c.exists_entry hj
    have hxdue : s.name ∈ (c.due e').map Spec.name :=
      hname ▸ List.mem_map_of_mem (hfares'.specs_prefix.subset hx)
    have hsdue : s.name ∈ (c.due e).map Spec.name := by
      rw [hdue]
      exact List.mem_map_of_mem (List.mem_append_right _ List.mem_cons_self)
    obtain rfl := index_eq_of_nodup_flatMap h he he' hsdue hxdue
    obtain rfl : p = q := Option.some.inj (hp.symm.trans hj)
    have hown := (List.nodup_flatMap.mp h).1 e (List.mem_of_getElem? he)
    rw [hdue, List.map_append, List.nodup_append] at hown
    exact hown.2.2 _ (List.mem_map_of_mem hx) _ (List.mem_map_of_mem List.mem_cons_self) hname

namespace Undisturbed

variable (h : c.Undisturbed)
include h

/-- The emitted artifacts are those that are due. -/
theorem emissionOrder_perm :
    (Generator.emissionOrder c.plan).Perm (c.entries.flatMap c.due) := by
  have hspecs := congrArg (List.flatMap fun t => t.2.1) h
  rw [List.flatMap_map, List.flatMap_map] at hspecs
  exact (Generator.emissionOrder_perm c.plan).trans (.of_eq hspecs)

/-- No name is due twice. -/
theorem nodup_dueNames : c.dueNames.Nodup :=
  (h.emissionOrder_perm.map Spec.name).nodup_iff.mp c.nodup_emissionOrder

end Undisturbed

end Catalog

end CrudScaffold
