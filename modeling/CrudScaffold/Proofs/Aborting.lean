import Mathlib.Control.Monad.Basic

/-!
# Computations that may abort

A computation over a state that may abort ends with a result and a state, or with a state alone. A
sequence aborts where the first of its parts does, and leaves the state as it is then.
-/

namespace CrudScaffold

variable {σ α β : Type} {x : OptionT (StateM σ) α} {f : α → OptionT (StateM σ) β} {s t : σ}

/-- A sequence goes on with the result of its first part. -/
theorem run_bind_of_some {a : α} (h : x.run.run s = (some a, t)) :
    (x >>= f).run.run s = (f a).run.run t := by
  rw [OptionT.run_bind, Option.elimM, StateT.run_bind, h]
  rfl

/-- A sequence aborts with its first part. -/
theorem run_bind_of_none (h : x.run.run s = (none, t)) : (x >>= f).run.run s = (none, t) := by
  rw [OptionT.run_bind, Option.elimM, StateT.run_bind, h]
  rfl

/-- A sequence comes to a result exactly when both of its parts do. -/
theorem run_bind_eq_some_iff {b : β} {u : σ} :
    (x >>= f).run.run s = (some b, u) ↔
      ∃ a t, x.run.run s = (some a, t) ∧ (f a).run.run t = (some b, u) := by
  constructor
  · intro h
    rcases hx : x.run.run s with ⟨_ | a, t⟩
    · cases (run_bind_of_none hx).symm.trans h
    · exact ⟨a, t, rfl, (run_bind_of_some hx).symm.trans h⟩
  · rintro ⟨a, t, hx, hf⟩
    exact (run_bind_of_some hx).trans hf

/-- A sequence aborts where its first part does, or where the second one does after the first. -/
theorem run_bind_eq_none_iff {u : σ} :
    (x >>= f).run.run s = (none, u) ↔
      x.run.run s = (none, u) ∨ ∃ a t, x.run.run s = (some a, t) ∧ (f a).run.run t = (none, u) := by
  constructor
  · intro h
    rcases hx : x.run.run s with ⟨_ | a, t⟩
    · cases (run_bind_of_none hx).symm.trans h
      exact .inl rfl
    · exact .inr ⟨a, t, rfl, (run_bind_of_some hx).symm.trans h⟩
  · rintro (hx | ⟨a, t, hx, hf⟩)
    · exact run_bind_of_none hx
    · exact (run_bind_of_some hx).trans hf

/-- A result alone leaves the state as it is. -/
theorem run_pure_eq_some_iff {a b : α} :
    (pure a : OptionT (StateM σ) α).run.run s = (some b, t) ↔ a = b ∧ s = t := by
  constructor
  · intro h
    obtain ⟨hresult, hstate⟩ := Prod.mk.inj h
    exact ⟨Option.some.inj hresult, hstate⟩
  · rintro ⟨rfl, rfl⟩
    rfl

/-- A computation that cannot abort comes to its result. -/
theorem run_lift (action : StateM σ α) (s : σ) :
    (liftM action : OptionT (StateM σ) α).run.run s =
      (some (action.run s).1, (action.run s).2) :=
  rfl

/-- A mapped computation ends as the computation does, with its result mapped. -/
theorem run_map (g : α → β) (x : OptionT (StateM σ) α) (s : σ) :
    (g <$> x).run.run s = ((x.run.run s).1.map g, (x.run.run s).2) := by
  rw [OptionT.run_map, StateT.run_map]
  rfl

end CrudScaffold
