/-!
# Integers of a fixed width

Components of identifiers are often integers of a fixed width. Their text is read as decimal digits
after an optional sign, and is refused when the number does not fit.
-/

namespace CrudScaffold

/-- A type of integers with this many bits. -/
structure IntegerType where
  signed : Bool
  bits : Nat
  deriving DecidableEq, Repr

namespace IntegerType

/-- The integer types under their names; the sizes of pointers have 64 bits. -/
def named : List (String × IntegerType) :=
  [("u8", ⟨false, 8⟩), ("u16", ⟨false, 16⟩), ("u32", ⟨false, 32⟩), ("u64", ⟨false, 64⟩),
    ("u128", ⟨false, 128⟩), ("usize", ⟨false, 64⟩), ("i8", ⟨true, 8⟩), ("i16", ⟨true, 16⟩),
    ("i32", ⟨true, 32⟩), ("i64", ⟨true, 64⟩), ("i128", ⟨true, 128⟩), ("isize", ⟨true, 64⟩)]

variable (t : IntegerType)

/-- The least number of the type. -/
def low : Int := if t.signed then -Int.ofNat (Nat.pow 2 (t.bits - 1)) else 0

/-- The greatest number of the type. -/
def high : Int :=
  if t.signed then Int.ofNat (Nat.pow 2 (t.bits - 1)) - 1 else Int.ofNat (Nat.pow 2 t.bits) - 1

/-- The number is one of the type. -/
def Holds (n : Int) : Prop := t.low ≤ n ∧ n ≤ t.high

instance (n : Int) : Decidable (t.Holds n) := inferInstanceAs (Decidable (_ ∧ _))

/-- The number that decimal digits write. -/
def ofDigits? (digits : List Char) : Option Nat :=
  if digits.isEmpty || !digits.all Char.isDigit then none
  else some (digits.foldl (fun n c => n * 10 + (c.toNat - '0'.toNat)) 0)

/-- The number that a text writes, if it is one of the type. A minus belongs to signed types only. -/
def ofText? (text : String) : Option Int :=
  let value : Option Int :=
    match text.toList with
    | '+' :: digits => (ofDigits? digits).map Int.ofNat
    | '-' :: digits => if t.signed then (ofDigits? digits).map fun n => -Int.ofNat n else none
    | digits => (ofDigits? digits).map Int.ofNat
  value.filter fun n => t.Holds n

/-- What is read is a number of the type. -/
theorem holds_of_ofText? {text : String} {n : Int} (h : t.ofText? text = some n) : t.Holds n := by
  simpa using (Option.filter_eq_some_iff.1 h).2

end IntegerType

end CrudScaffold
