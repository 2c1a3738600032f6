import CrudScaffold.Store.Memory

/-!
# What a memory keeps

A memory changes in one way only: an artifact is added under a name that had none.
-/

namespace CrudScaffold.Memory

variable {s : Memory} {n k : QualifiedName} {text : String}

/-- The memory with one more written artifact. -/
def keep (s : Memory) (n : QualifiedName) (text : String) : Memory :=
  { s with artifacts := s.artifacts ++ [(n, text)], writes := s.writes + 1 }

/-- An added artifact is found unless its name had one before. -/
theorem contents?_keep :
    (s.keep n text).contents? k =
      (s.contents? k).or (if k = n then some text else none) := by
  rw [contents?, keep, List.lookup_append, contents?]
  by_cases h : k = n
  · simp [h]
  · have hne : (k == n) = false := beq_false_of_ne h
    simp [List.lookup_cons, hne, h]

/-- Adding counts as one write. -/
theorem writes_keep : (s.keep n text).writes = s.writes + 1 := rfl

/-- What is there stays there. -/
theorem contents?_keep_of_some {old : String} (h : s.contents? k = some old) :
    (s.keep n text).contents? k = some old := by
  rw [contents?_keep, h, Option.some_or]

/-- An artifact that is added under a free name is found there. -/
theorem contents?_keep_self (h : s.contents? n = none) :
    (s.keep n text).contents? n = some text := by
  rw [contents?_keep, h, Option.none_or, if_pos rfl]

/-- Other free names stay free. -/
theorem contents?_keep_of_ne (h : s.contents? k = none) (hne : k ≠ n) :
    (s.keep n text).contents? k = none := by
  rw [contents?_keep, h, Option.none_or, if_neg hne]

/-- A memory contains the names under which it has something. -/
theorem contains_eq_false_iff : s.contains n = false ↔ s.contents? n = none := by
  rw [contains, Option.isSome_eq_false_iff, Option.isNone_iff_eq_none]

/-- A write that succeeds adds under a free name; one that fails changes nothing. -/
theorem write_cases (s : Memory) (n : QualifiedName) (text : String) :
    (∃ fault, s.write n text = (.error fault, s)) ∨
      s.contents? n = none ∧ s.write n text = (.ok (), s.keep n text) := by
  unfold write
  split
  · exact .inl ⟨_, rfl⟩
  · split
    · exact .inl ⟨_, rfl⟩
    · next hfree =>
      exact .inr ⟨contains_eq_false_iff.mp (Bool.eq_false_iff.mpr hfree), rfl⟩

end CrudScaffold.Memory
