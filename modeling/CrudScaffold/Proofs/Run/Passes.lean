import CrudScaffold.Run.Plan

/-!
# The passes of a plan

A pass takes all models one after the other, and each meets the names that the models before it have
claimed. The first pass gives first shares to models that have no share yet, and the second pass adds
second shares to what the first has left.
-/

namespace CrudScaffold

namespace PlannedModel

variable {pass : NameRegistry → PlannedModel → PlannedModel × NameRegistry} {names : NameRegistry}
  {ps : List PlannedModel} {p : PlannedModel}

/-- In a pass every model meets the names that the models before it have claimed. -/
theorem getElem?_passAll (i : Nat) :
    (passAll pass names ps).1[i]? =
      ps[i]?.map fun p => (pass (passAll pass names (ps.take i)).2 p).1 := by
  induction ps generalizing names i with
  | nil => rfl
  | cons p ps ih =>
    cases i with
    | zero => rfl
    | succ i => simpa [passAll] using ih i

/-- The first models of a pass are not touched by the later ones. -/
theorem take_passAll (i : Nat) :
    (passAll pass names ps).1.take i = (passAll pass names (ps.take i)).1 := by
  induction ps generalizing names i with
  | nil => simp [passAll]
  | cons p ps ih =>
    cases i with
    | zero => rfl
    | succ i => simpa [passAll] using ih i

/-- What a pass leaves alone in each model it leaves alone in all of them. -/
theorem map_passAll {α : Type} {f : PlannedModel → α}
    (hstep : ∀ names p, f (pass names p).1 = f p) : (passAll pass names ps).1.map f = ps.map f := by
  induction ps generalizing names with
  | nil => rfl
  | cons p ps ih => simp [passAll, hstep, ih]

/-! ## What each pass changes -/

/-- The first pass keeps the title of a model. -/
@[simp] theorem title_passFirst : (passFirst names p).1.title = p.title := by
  unfold passFirst
  split <;> rfl

/-- The first pass keeps the second share. -/
@[simp] theorem second_passFirst : (passFirst names p).1.second = p.second := by
  unfold passFirst
  split <;> rfl

/-- The second pass keeps the title of a model. -/
@[simp] theorem title_passSecond : (passSecond names p).1.title = p.title := by
  unfold passSecond
  split <;> rfl

/-- The second pass keeps the first share. -/
@[simp] theorem first_passSecond : (passSecond names p).1.first = p.first := by
  unfold passSecond
  split <;> rfl

end PlannedModel

/-! ## Both passes -/

namespace Catalog

open PlannedModel

variable (c : Catalog)

/-- The models before both passes. -/
def fresh : List PlannedModel := c.entries.map (ofEntry c.graph c.resolver.naming)

/-- The models between both passes, and the names that are claimed then. -/
def halfway : List PlannedModel × NameRegistry := passAll passFirst {} c.fresh

/-- The plan is what the second pass makes of the first. -/
theorem passes_eq : c.passes = passAll passSecond c.halfway.2 c.halfway.1 := rfl

/-- A model before both passes has no share in the run. -/
theorem shares_of_mem_fresh {p : PlannedModel} (h : p ∈ c.fresh) : p.first = {} ∧ p.second = {} := by
  obtain ⟨e, -, rfl⟩ := List.mem_map.mp h
  unfold ofEntry
  split <;> exact ⟨rfl, rfl⟩

/-- A model between both passes has no second share. -/
theorem second_of_mem_halfway {p : PlannedModel} (h : p ∈ c.halfway.1) : p.second = {} := by
  have hseconds : c.halfway.1.map PlannedModel.second = c.fresh.map PlannedModel.second :=
    map_passAll fun _ _ => second_passFirst
  have hmem : p.second ∈ c.fresh.map PlannedModel.second := by
    rw [← hseconds]
    exact List.mem_map_of_mem h
  obtain ⟨q, hq, heq⟩ := List.mem_map.mp hmem
  rw [← heq]
  exact (c.shares_of_mem_fresh hq).2

end Catalog

end CrudScaffold
