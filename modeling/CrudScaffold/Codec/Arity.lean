/-!
# Arity of composite identifiers

A composite identifier has two, three or four components. Each component sits in a named slot.
-/

namespace CrudScaffold

/-- Number of components in a composite identifier. -/
inductive Arity where
  | two
  | three
  | four
  deriving DecidableEq, Repr

/-- A number of components outside the supported range. -/
structure UnsupportedArity where
  got : Nat
  deriving DecidableEq, Repr

/-- The wording of the refusal. -/
def UnsupportedArity.message (e : UnsupportedArity) : String :=
  s!"composite identifiers have 2 to 4 components, got {e.got}"

namespace Arity

/-- The number of components. -/
def count : Arity → Nat
  | two => 2
  | three => 3
  | four => 4

/-- The arity with this number of components. -/
def ofCount : Nat → Except UnsupportedArity Arity
  | 2 => .ok two
  | 3 => .ok three
  | 4 => .ok four
  | n => .error ⟨n⟩

/-- Slot names of the composite values, from left to right. -/
def slotNames : Arity → List String
  | two => ["left", "right"]
  | three => ["left", "middle", "right"]
  | four => ["left", "inner_left", "inner_right", "right"]

/-- Every arity is found again from its number. -/
theorem ofCount_count (a : Arity) : ofCount a.count = .ok a := by cases a <;> rfl

/-- There is one slot per component. -/
theorem length_slotNames (a : Arity) : a.slotNames.length = a.count := by cases a <;> rfl

/-- Exactly the numbers from two to four are arities. -/
theorem ofCount_ok_iff {n : Nat} {a : Arity} : ofCount n = .ok a ↔ a.count = n := by
  constructor
  · intro h
    match n, h with
    | 2, h => injection h with h; subst h; rfl
    | 3, h => injection h with h; subst h; rfl
    | 4, h => injection h with h; subst h; rfl
  · rintro rfl
    exact ofCount_count a

end Arity

end CrudScaffold
