import Mathlib.Data.List.Forall2

/-!
# Computations that end well

A sequence of computations ends well exactly when each of them does, and goes wrong where the first
of them does. Renaming what went wrong does not change what ends well.
-/

namespace CrudScaffold

variable {ε ε' α β : Type} {x : Except ε α} {f : α → Except ε β}

/-- A sequence ends well exactly when both of its parts do. -/
theorem bind_eq_ok_iff {b : β} : x >>= f = .ok b ↔ ∃ a, x = .ok a ∧ f a = .ok b := by
  cases x with
  | error e => exact ⟨nofun, nofun⟩
  | ok a =>
    constructor
    · intro h
      exact ⟨a, rfl, h⟩
    · rintro ⟨a', ha, hf⟩
      cases ha
      exact hf

/-- A sequence goes on with the result of its first part. -/
theorem ok_bind (a : α) : (Except.ok a : Except ε α) >>= f = f a := rfl

/-- A mapped computation ends well exactly when the computation does. -/
theorem map_eq_ok_iff {g : α → β} {b : β} : g <$> x = .ok b ↔ ∃ a, x = .ok a ∧ g a = b := by
  cases x with
  | error e => exact ⟨nofun, nofun⟩
  | ok a =>
    constructor
    · intro h
      exact ⟨a, rfl, Except.ok.inj h⟩
    · rintro ⟨a', ha, rfl⟩
      cases ha
      rfl

/-- What is left of a computation that ends well is its result. -/
theorem toOption_eq_some_iff {a : α} : x.toOption = some a ↔ x = .ok a := by
  cases x with
  | error e => exact ⟨nofun, nofun⟩
  | ok a' =>
    constructor
    · intro h
      exact congrArg Except.ok (Option.some.inj h)
    · intro h
      exact congrArg some (Except.ok.inj h)

/-- A sequence goes wrong where its first part does, or where the second one does after the first. -/
theorem bind_eq_error_iff {e : ε} :
    x >>= f = .error e ↔ x = .error e ∨ ∃ a, x = .ok a ∧ f a = .error e := by
  cases x with
  | error e' =>
    constructor
    · intro h
      exact .inl (congrArg Except.error (Except.error.inj h))
    · rintro (h | ⟨a, ha, -⟩)
      · exact congrArg Except.error (Except.error.inj h)
      · cases ha
  | ok a =>
    constructor
    · intro h
      exact .inr ⟨a, rfl, h⟩
    · rintro (h | ⟨a', ha, hf⟩)
      · cases h
      · cases ha
        exact hf

/-- A row of checks goes wrong at one of them. -/
theorem exists_of_forM_eq_error {l : List α} {check : α → Except ε Unit} {e : ε}
    (h : l.forM check = .error e) : ∃ a ∈ l, check a = .error e := by
  induction l with
  | nil => cases h
  | cons a l ih =>
    rcases bind_eq_error_iff.mp h with hfirst | ⟨-, -, hrest⟩
    · exact ⟨a, List.mem_cons_self, hfirst⟩
    · obtain ⟨b, hb, he⟩ := ih hrest
      exact ⟨b, List.mem_cons_of_mem a hb, he⟩

/-- A row of checks ends well exactly when each of them does. -/
theorem forM_eq_ok_iff {l : List α} {check : α → Except ε Unit} :
    l.forM check = .ok () ↔ ∀ a ∈ l, check a = .ok () := by
  induction l with
  | nil => exact ⟨fun _ => nofun, fun _ => rfl⟩
  | cons a l ih =>
    rw [List.forall_mem_cons, ← ih]
    constructor
    · intro h
      obtain ⟨⟨⟩, ha, hl⟩ := bind_eq_ok_iff.mp h
      exact ⟨ha, hl⟩
    · rintro ⟨ha, hl⟩
      exact bind_eq_ok_iff.mpr ⟨(), ha, hl⟩

/-- A row ends well with the results of its computations, each from its own input. -/
theorem exists_of_mem_mapM {step : α → Except ε β} {l : List α} {l' : List β}
    (h : l.mapM step = .ok l') {b : β} (hb : b ∈ l') : ∃ a ∈ l, step a = .ok b := by
  induction l generalizing l' with
  | nil =>
    cases h
    cases hb
  | cons a l ih =>
    rw [List.mapM_cons] at h
    obtain ⟨first, hfirst, h⟩ := bind_eq_ok_iff.mp h
    obtain ⟨rest, hrest, h⟩ := bind_eq_ok_iff.mp h
    cases h
    rcases List.mem_cons.mp hb with rfl | hb
    · exact ⟨a, List.mem_cons_self, hfirst⟩
    · obtain ⟨a', ha', hstep⟩ := ih hrest hb
      exact ⟨a', List.mem_cons_of_mem a ha', hstep⟩

/-- A row ends well exactly when each of its computations does. -/
theorem exists_mapM_eq_ok_iff {step : α → Except ε β} {l : List α} :
    (∃ l', l.mapM step = .ok l') ↔ ∀ a ∈ l, ∃ b, step a = .ok b := by
  induction l with
  | nil => exact ⟨fun _ => nofun, fun _ => ⟨[], rfl⟩⟩
  | cons a l ih =>
    rw [List.forall_mem_cons, ← ih]
    constructor
    · rintro ⟨_, h⟩
      rw [List.mapM_cons] at h
      obtain ⟨b, hb, h⟩ := bind_eq_ok_iff.mp h
      obtain ⟨rest, hrest, -⟩ := bind_eq_ok_iff.mp h
      exact ⟨⟨b, hb⟩, rest, hrest⟩
    · rintro ⟨⟨b, hb⟩, rest, hrest⟩
      refine ⟨b :: rest, ?_⟩
      rw [List.mapM_cons, hb, hrest]
      rfl

/-- What each computation of a row keeps of its input, the row keeps of its inputs. -/
theorem map_eq_of_mapM_eq_ok {γ : Type} {step : α → Except ε β} {kept : β → γ} {given : α → γ}
    (hstep : ∀ a b, step a = .ok b → kept b = given a) {l : List α} {l' : List β}
    (h : l.mapM step = .ok l') : l'.map kept = l.map given := by
  induction l generalizing l' with
  | nil =>
    cases h
    rfl
  | cons a l ih =>
    rw [List.mapM_cons] at h
    obtain ⟨b, hb, h⟩ := bind_eq_ok_iff.mp h
    obtain ⟨rest, hrest, h⟩ := bind_eq_ok_iff.mp h
    cases h
    rw [List.map_cons, List.map_cons, hstep a b hb, ih hrest]

/-- A row of computations that all end well gives their results. -/
theorem mapM_eq_ok_map {step : α → Except ε β} {result : α → β} {l : List α}
    (h : ∀ a ∈ l, step a = .ok (result a)) : l.mapM step = .ok (l.map result) := by
  induction l with
  | nil => rfl
  | cons a l ih =>
    rw [List.forall_mem_cons] at h
    rw [List.mapM_cons, h.1, ih h.2]
    rfl

/-- A row that ends well relates each input to its result as its computation does. -/
theorem forall₂_of_mapM_eq_ok {Related : α → β → Prop} {step : α → Except ε β} {l : List α}
    {l' : List β} (h : l.mapM step = .ok l')
    (hstep : ∀ a ∈ l, ∀ b, step a = .ok b → Related a b) : List.Forall₂ Related l l' := by
  induction l generalizing l' with
  | nil =>
    cases h
    exact .nil
  | cons a l ih =>
    rw [List.mapM_cons] at h
    obtain ⟨b, hb, h⟩ := bind_eq_ok_iff.mp h
    obtain ⟨rest, hrest, h⟩ := bind_eq_ok_iff.mp h
    cases h
    refine .cons (hstep a List.mem_cons_self b hb) (ih hrest ?_)
    exact fun a' ha' => hstep a' (List.mem_cons_of_mem a ha')

/-- Renaming errors leaves alone what ends well. -/
theorem mapError_eq_ok_iff {rename : ε → ε'} {a : α} :
    x.mapError rename = .ok a ↔ x = .ok a := by
  cases x with
  | error e => exact ⟨nofun, nofun⟩
  | ok a' =>
    constructor
    · intro h
      exact congrArg Except.ok (Except.ok.inj h)
    · intro h
      exact congrArg Except.ok (Except.ok.inj h)

/-- Renaming errors renames what goes wrong. -/
theorem mapError_eq_error_iff {rename : ε → ε'} {e' : ε'} :
    x.mapError rename = .error e' ↔ ∃ e, x = .error e ∧ rename e = e' := by
  cases x with
  | error e =>
    constructor
    · intro h
      exact ⟨e, rfl, Except.error.inj h⟩
    · rintro ⟨_, he, hrename⟩
      cases he
      exact congrArg Except.error hrename
  | ok a => exact ⟨nofun, nofun⟩

end CrudScaffold
