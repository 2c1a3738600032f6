import CrudScaffold.Store.Basic

/-!
# Artifacts in memory

A memory is a list of artifacts under distinct names. It may be told to fail every write, or to
answer every question with no, as if each artifact came to be between the question and the write.
-/

namespace CrudScaffold

/-- Artifacts under their names, in the order in which they came. -/
structure Memory where
  artifacts : List (QualifiedName × String) := []
  /-- How many artifacts were written. -/
  writes : Nat := 0
  /-- Every write fails. -/
  failing : Bool := false
  /-- Every question is answered with no. -/
  blind : Bool := false
  deriving DecidableEq, Repr

namespace Memory

variable (s : Memory)

/-- What is kept under a name. -/
def contents? (n : QualifiedName) : Option String := s.artifacts.lookup n

/-- Something is kept under a name. -/
def contains (n : QualifiedName) : Bool := (s.contents? n).isSome

/-- The names in their order. -/
def names : List QualifiedName := (s.artifacts.map Prod.fst).mergeSort QualifiedName.le

/-- Put an empty artifact under a name, unless there is one. -/
def addEmpty (n : QualifiedName) : Memory :=
  if s.contains n then s else { s with artifacts := s.artifacts ++ [(n, "")] }

/-- Put empty artifacts under names. -/
def withExisting (names : List QualifiedName) : Memory := names.foldl addEmpty s

/-- The answer to the question for a name. -/
def answers (n : QualifiedName) : Bool := !s.blind && s.contains n

/-- Write an artifact under a new name. -/
def write (n : QualifiedName) (text : String) : Except IoFault Unit × Memory :=
  if s.failing then (.error (.other "write target unavailable"), s)
  else if s.contains n then (.error (.alreadyExists n.path), s)
  else (.ok (), { s with artifacts := s.artifacts ++ [(n, text)], writes := s.writes + 1 })

/-- The store that is a memory. -/
def store : Store (StateM Memory) where
  holds n := fun s => (s.answers n, s)
  write n text := fun s => s.write n text

end Memory

end CrudScaffold
