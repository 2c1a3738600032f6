import CrudScaffold.Text.CharClass
import CrudScaffold.Text.Pieces

/-!
# Words and case conventions

A name is cut into words at every character that is no letter or number, between a lowercase letter
and an uppercase one, and before the last letter of a run of capitals that goes on in lowercase
(`HTTPLog` is `HTTP`, `Log`). The words are then written in one of three conventions: `snake_case`,
`kebab-case` and `UpperCamelCase`.
-/

namespace CrudScaffold.Text

/-- The case of the last cased letter of the word so far. -/
inductive CaseMode where
  | boundary
  | lower
  | upper
  deriving DecidableEq, Repr

/-- The mode after one more letter, when no word ends there. -/
def CaseMode.after (mode : CaseMode) (c : Char) : CaseMode :=
  if isLowercase c then .lower else if isUppercase c then .upper else mode

/-- The words of a run of letters and numbers; `word` holds the letters of the current word in
reverse. -/
def wordsOfRun (mode : CaseMode) (word : List Char) : List Char → List (List Char)
  | [] => if word.isEmpty then [] else [word.reverse]
  | [c] => [(c :: word).reverse]
  | c :: next :: r =>
    let mode' := mode.after c
    if mode' = .lower ∧ isUppercase next then
      (c :: word).reverse :: wordsOfRun .boundary [] (next :: r)
    else if mode = .upper ∧ isUppercase c ∧ isLowercase next then
      word.reverse :: wordsOfRun .boundary [c] (next :: r)
    else
      wordsOfRun mode' (c :: word) (next :: r)

/-- The maximal runs of letters and numbers, the empty ones included. -/
def alphanumericRuns : List Char → List (List Char)
  | [] => [[]]
  | c :: r =>
    if isAlphanumeric c then consFirst c (alphanumericRuns r) else [] :: alphanumericRuns r

/-- The words of a text. -/
def words (cs : List Char) : List (List Char) :=
  (alphanumericRuns cs).flatMap (wordsOfRun .boundary [])

/-- A word in lowercase; a capital sigma at its end becomes the final sigma. -/
def lowerWord : List Char → List Char
  | [] => []
  | ['Σ'] => ['ς']
  | c :: r => lowerOf c ++ lowerWord r

/-- A word with its first letter in uppercase and the rest in lowercase. -/
def capitalWord : List Char → List Char
  | [] => []
  | c :: r => upperOf c ++ lowerWord r

/-- Lowercase words with underscores between them. -/
def snakeCase (s : String) : String :=
  .ofList (join ['_'] ((words s.toList).map lowerWord))

/-- Lowercase words with hyphens between them. -/
def kebabCase (s : String) : String :=
  .ofList (join ['-'] ((words s.toList).map lowerWord))

/-- Capitalised words with nothing between them. -/
def upperCamelCase (s : String) : String :=
  .ofList ((words s.toList).flatMap capitalWord)

end CrudScaffold.Text
