/-!
# Cutting and joining texts

Texts are cut at single characters and at the path separator `::`. Cutting keeps every piece, the
empty ones included, so that joining the pieces again gives the text back.
-/

namespace CrudScaffold.Text

/-- Put a character in front of the first piece. -/
def consFirst (c : Char) : List (List Char) → List (List Char)
  | [] => [[c]]
  | p :: ps => (c :: p) :: ps

/-- The pieces between the occurrences of a character. -/
def splitAtChar (sep : Char) : List Char → List (List Char)
  | [] => [[]]
  | c :: r => if c = sep then [] :: splitAtChar sep r else consFirst c (splitAtChar sep r)

/-- The pieces between the occurrences of `::`, found from the left. -/
def splitPath : List Char → List (List Char)
  | [] => [[]]
  | ':' :: ':' :: r => [] :: splitPath r
  | c :: r => consFirst c (splitPath r)

/-- What stands before and after the rightmost `::`. -/
def splitLastPath : List Char → Option (List Char × List Char)
  | [] => none
  | c :: r =>
    match splitLastPath r with
    | some (before, after) => some (c :: before, after)
    | none =>
      match c, r with
      | ':', ':' :: after => some ([], after)
      | _, _ => none

/-- The text with a separator between each two pieces. -/
def join (sep : List Char) : List (List Char) → List Char
  | [] => []
  | [p] => p
  | p :: q :: ps => p ++ sep ++ join sep (q :: ps)

/-- The lines of a text: a line end is a line feed, with or without a carriage return before it,
and the empty rest after the last line end is no line. -/
def lines (cs : List Char) : List (List Char) :=
  let pieces := splitAtChar '\n' cs
  let closed := pieces.dropLast.map fun l => if l.getLast? = some '\r' then l.dropLast else l
  match pieces.getLast? with
  | some [] | none => closed
  | some rest => closed ++ [rest]

/-- The text starts with these characters. -/
def startsWith (pre cs : List Char) : Bool := pre.isPrefixOf cs

/-- The text ends with these characters. -/
def endsWith (suf cs : List Char) : Bool := suf.isSuffixOf cs

/-- The characters occur somewhere in the text, one after the other. -/
def containsSlice (needle : List Char) : List Char → Bool
  | [] => needle.isEmpty
  | c :: r => needle.isPrefixOf (c :: r) || containsSlice needle r

/-- A text has at least one piece. -/
theorem splitAtChar_ne_nil (sep : Char) (cs : List Char) : splitAtChar sep cs ≠ [] := by
  cases cs with
  | nil => simp [splitAtChar]
  | cons c r =>
    simp only [splitAtChar]
    split
    · simp
    · cases splitAtChar sep r <;> simp [consFirst]

/-- Joining the pieces of a text gives the text back. -/
theorem join_splitAtChar (sep : Char) (cs : List Char) : join [sep] (splitAtChar sep cs) = cs := by
  induction cs with
  | nil => rfl
  | cons c r ih =>
    by_cases h : c = sep
    · subst h
      simp only [splitAtChar, ↓reduceIte]
      cases hp : splitAtChar c r with
      | nil => exact absurd hp (splitAtChar_ne_nil c r)
      | cons p ps => rw [hp] at ih; simp [join, ih]
    · simp only [splitAtChar, h, ↓reduceIte]
      cases hp : splitAtChar sep r with
      | nil => exact absurd hp (splitAtChar_ne_nil sep r)
      | cons p ps =>
        rw [hp] at ih
        cases ps with
        | nil => simpa [consFirst, join] using ih
        | cons q qs => simpa [consFirst, join] using ih

end CrudScaffold.Text
