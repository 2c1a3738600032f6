/-!
# The shortest decimal of a binary fraction

A decimal number is read as the nearest 64-bit binary fraction, and a binary fraction is written with
the fewest decimal digits that read back as the same one, in positional form or, where that is long,
with an exponent. All arithmetic is exact, on natural numbers.
-/

namespace CrudScaffold.Decimal

/-- A binary fraction `mantissa · 2 ^ exponent`. -/
structure Binary where
  mantissa : Nat
  exponent : Int
  deriving DecidableEq, Repr

/-- The quotient of two numbers, rounded to the nearest whole; a half goes to the even neighbour. -/
def roundHalfEven (num den : Nat) : Nat :=
  let q := num / den
  let r := num % den
  if 2 * r < den then q else if 2 * r > den then q + 1 else if q % 2 = 0 then q else q + 1

/-- The power `base ^ exponent` as numerator and denominator. -/
def powRatio (base : Nat) (exponent : Int) : Nat × Nat :=
  if exponent ≥ 0 then (Nat.pow base exponent.toNat, 1) else (1, Nat.pow base (-exponent).toNat)

/-- The nearest binary fraction with a mantissa below `2 ^ 53`, `none` beyond the largest one. -/
def nearest (num den : Nat) : Option Binary :=
  if num = 0 then some ⟨0, 0⟩
  else
    let size : Int := (Nat.log2 num : Int) - Nat.log2 den
    let (sn, sd) := powRatio 2 size
    let size := if num * sd < den * sn then size - 1 else size
    let exponent := max (size - 52) (-1074)
    let (en, ed) := powRatio 2 exponent
    let m := roundHalfEven (num * ed) (den * en)
    let b : Binary := if m = Nat.pow 2 53 then ⟨Nat.pow 2 52, exponent + 1⟩ else ⟨m, exponent⟩
    if b.exponent > 971 then none else some b

/-- Whether `digits · 10 ^ place` reads back as the binary fraction: it lies between the midpoints
to the two neighbours, which belong to the fraction when its mantissa is even. -/
def readsBack (b : Binary) (digits : Nat) (place : Int) : Bool :=
  let (pn, pd) := powRatio 10 place
  let (en, ed) := powRatio 2 (b.exponent - 2)
  -- Everything over the common denominator `pd · ed`, in quarter units of the last binary place.
  let value := digits * pn * ed
  let low := if b.mantissa = Nat.pow 2 52 ∧ b.exponent > -1074 then 4 * b.mantissa - 1
    else 4 * b.mantissa - 2
  let high := 4 * b.mantissa + 2
  if b.mantissa % 2 = 0 then low * en * pd ≤ value ∧ value ≤ high * en * pd
  else low * en * pd < value ∧ value < high * en * pd

/-- The nearest number with its last digit at `place` that reads back, if there is one. -/
def candidate (b : Binary) (place : Int) : Option Nat :=
  let (pn, pd) := powRatio 10 place
  let (en, ed) := powRatio 2 b.exponent
  let num := b.mantissa * en * pd
  let den := ed * pn
  let below := num / den
  let nearer := roundHalfEven num den
  let other := if nearer = below then below + 1 else below
  if readsBack b nearer place then some nearer
  else if readsBack b other place then some other
  else none

/-- The digits and the place of the shortest decimal that reads back; the place goes down from
`place` for at most `fuel` steps. -/
def shortestFrom (b : Binary) : Nat → Int → Nat × Int
  | 0, place => ((candidate b place).getD 0, place)
  | fuel + 1, place =>
    match candidate b place with
    | some d => if d = 0 then shortestFrom b fuel (place - 1) else (d, place)
    | none => shortestFrom b fuel (place - 1)

/-- The digits and the place of the shortest decimal that reads back. -/
def shortest (b : Binary) : Nat × Int :=
  if b.mantissa = 0 then (0, 0)
  else
    let (en, ed) := powRatio 2 b.exponent
    -- No number of this many digits before the point is at or below the value.
    let top : Int := ((Nat.toDigits 10 (b.mantissa * en / ed)).length : Int)
    shortestFrom b 1100 top

/-- Positional text of `digits · 10 ^ place`, with a point in every case. -/
def positional (digits : Nat) (place : Int) : String :=
  let ds := Nat.toDigits 10 digits
  if place ≥ 0 then .ofList (if digits = 0 then ['0'] else ds ++ List.replicate place.toNat '0') ++ ".0"
  else
    let n := (-place).toNat
    let ds := List.replicate (n + 1 - ds.length) '0' ++ ds
    .ofList (ds.take (ds.length - n)) ++ "." ++ .ofList (ds.drop (ds.length - n))

/-- The text of `digits · 10 ^ place` with one digit in front of the point and an exponent of two
digits or more. -/
def scientific (digits : Nat) (place : Int) : String :=
  let ds := Nat.toDigits 10 digits
  let exponent : Int := place + ds.length - 1
  let size := Nat.toDigits 10 exponent.natAbs
  .ofList (ds.take 1 ++ (if ds.length > 1 then '.' :: ds.drop 1 else []) ++
    ['e', if exponent < 0 then '-' else '+'] ++ List.replicate (2 - size.length) '0' ++ size)

/-- The text of `digits · 10 ^ place`: positional for numbers from a ten-thousandth up to below
`10 ^ 16`, with an exponent otherwise. -/
def short (digits : Nat) (place : Int) : String :=
  let size : Int := (Nat.toDigits 10 digits).length + place
  if digits = 0 || (-3 ≤ size && size ≤ 16) then positional digits place
  else scientific digits place

end CrudScaffold.Decimal
