/-!
# Blanks

The characters with the Unicode property White_Space, and trimming by them. A text is blank when
it holds nothing else.
-/

namespace CrudScaffold.Text

/-- Characters with the Unicode property White_Space. -/
def isSpace (c : Char) : Bool :=
  let n := c.toNat
  (9 ≤ n && n ≤ 13) || n == 0x20 || n == 0x85 || n == 0xA0 || n == 0x1680 ||
    (0x2000 ≤ n && n ≤ 0x200A) || n == 0x2028 || n == 0x2029 || n == 0x202F || n == 0x205F ||
    n == 0x3000

/-- Every character is a space; the empty text is blank. -/
def isBlank (cs : List Char) : Bool := cs.all isSpace

/-- Drop a class of characters at the end. -/
def dropEndWhile (p : Char → Bool) (cs : List Char) : List Char :=
  (cs.reverse.dropWhile p).reverse

/-- Drop a class of characters at both ends. -/
def stripWhile (p : Char → Bool) (cs : List Char) : List Char := dropEndWhile p (cs.dropWhile p)

/-- Drop the spaces at both ends. -/
def trim (cs : List Char) : List Char := stripWhile isSpace cs

end CrudScaffold.Text
