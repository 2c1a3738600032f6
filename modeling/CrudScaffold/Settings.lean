import CrudScaffold.Text.Blank

/-!
# Settings

Free-form settings: keys with text values, in the order of the keys. A blank value counts as not set.
-/

namespace CrudScaffold

/-- Keys with values, in increasing order of the keys. -/
structure Settings where
  entries : List (String × String) := []
  deriving DecidableEq, Repr

namespace Settings

/-- Put an entry at its place among ordered entries, replacing one with the same key. -/
def insertEntry (key value : String) : List (String × String) → List (String × String)
  | [] => [(key, value)]
  | (k, v) :: rest =>
    if key < k then (key, value) :: (k, v) :: rest
    else if key = k then (key, value) :: rest
    else (k, v) :: insertEntry key value rest

/-- Set a key. -/
def insert (s : Settings) (key value : String) : Settings := ⟨insertEntry key value s.entries⟩

/-- Settings of a list of entries; a later entry replaces an earlier one with the same key. -/
def ofList (entries : List (String × String)) : Settings :=
  entries.foldl (fun s (k, v) => s.insert k v) {}

/-- The number of keys. -/
def size (s : Settings) : Nat := s.entries.length

/-- The value of a key, unless it is blank. -/
def get? (s : Settings) (key : String) : Option String :=
  (s.entries.lookup key).filter fun v => !Text.isBlank v.toList

/-- The value of a key, or a default. -/
def getD (s : Settings) (key default : String) : String := (s.get? key).getD default

end Settings

end CrudScaffold
