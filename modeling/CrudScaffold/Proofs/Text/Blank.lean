import CrudScaffold.Text.Blank
import CrudScaffold.Text.Pieces
import Mathlib.Data.List.Induction

/-!
# Blanks around pieces

Blanks around a text are blanks around its first and its last piece, unless the separator is a blank
itself. It makes no difference then whether a text is trimmed before its pieces are.
-/

namespace CrudScaffold.Text

variable {sep c : Char} {p : List Char}

/-! ## Trimming -/

/-- A blank in front does not count. -/
theorem trim_cons_of_isSpace (h : isSpace c = true) : trim (c :: p) = trim p := by
  unfold trim stripWhile
  rw [List.dropWhile_cons_of_pos h]

private theorem dropEndWhile_append_of_isSpace (h : isSpace c = true) :
    dropEndWhile isSpace (p ++ [c]) = dropEndWhile isSpace p := by
  unfold dropEndWhile
  rw [List.reverse_append, List.reverse_singleton, List.singleton_append,
    List.dropWhile_cons_of_pos h]

/-- A blank at the end does not count. -/
theorem trim_append_of_isSpace (h : isSpace c = true) : trim (p ++ [c]) = trim p := by
  unfold trim stripWhile
  rw [List.dropWhile_append]
  split
  · next hp =>
    rw [List.isEmpty_iff.mp hp, List.dropWhile_cons_of_pos h]
    rfl
  · exact dropEndWhile_append_of_isSpace h

/-- A separator that is no blank differs from every blank. -/
theorem ne_of_isSpace (hsep : isSpace sep = false) (h : isSpace c = true) : c ≠ sep := by
  rintro rfl
  rw [hsep] at h
  cases h

/-! ## Trimming pieces -/

/-- One more character at the end belongs to the last piece. -/
theorem exists_splitAtChar_append (cs : List Char) (h : c ≠ sep) :
    ∃ front last, splitAtChar sep cs = front ++ [last] ∧
      splitAtChar sep (cs ++ [c]) = front ++ [last ++ [c]] := by
  induction cs with
  | nil => exact ⟨[], [], rfl, by simp [splitAtChar, h, consFirst]⟩
  | cons d r ih =>
    obtain ⟨front, last, hr, hrc⟩ := ih
    by_cases hd : d = sep
    · exact ⟨[] :: front, last, by simp [splitAtChar, hd, hr], by simp [splitAtChar, hd, hrc]⟩
    · simp only [List.cons_append, splitAtChar, hd, ↓reduceIte, hr, hrc]
      cases front with
      | nil => exact ⟨[], d :: last, rfl, rfl⟩
      | cons q front => exact ⟨(d :: q) :: front, last, rfl, rfl⟩

/-- Blanks in front of a text are in front of its first piece. -/
theorem map_trim_splitAtChar_dropWhile (hsep : isSpace sep = false) (cs : List Char) :
    (splitAtChar sep (cs.dropWhile isSpace)).map trim = (splitAtChar sep cs).map trim := by
  induction cs with
  | nil => rfl
  | cons c r ih =>
    by_cases hc : isSpace c = true
    · rw [List.dropWhile_cons_of_pos hc, ih, splitAtChar, if_neg (ne_of_isSpace hsep hc)]
      cases hr : splitAtChar sep r with
      | nil => exact absurd hr (splitAtChar_ne_nil sep r)
      | cons q qs => simp only [consFirst, List.map_cons, trim_cons_of_isSpace hc]
    · rw [List.dropWhile_cons_of_neg hc]

/-- Blanks at the end of a text are at the end of its last piece. -/
theorem map_trim_splitAtChar_dropEndWhile (hsep : isSpace sep = false) (cs : List Char) :
    (splitAtChar sep (dropEndWhile isSpace cs)).map trim = (splitAtChar sep cs).map trim := by
  induction cs using List.reverseRecOn with
  | nil => rfl
  | append_singleton r c ih =>
    by_cases hc : isSpace c = true
    · obtain ⟨front, last, hr, hrc⟩ := exists_splitAtChar_append r (ne_of_isSpace hsep hc)
      rw [dropEndWhile_append_of_isSpace hc, ih, hr, hrc]
      simp only [List.map_append, List.map_singleton, trim_append_of_isSpace hc]
    · rw [dropEndWhile, List.reverse_append, List.reverse_singleton, List.singleton_append,
        List.dropWhile_cons_of_neg hc, List.reverse_cons, List.reverse_reverse]

/-- A text need not be trimmed when its pieces are. -/
theorem map_trim_splitAtChar_trim (hsep : isSpace sep = false) (cs : List Char) :
    (splitAtChar sep (trim cs)).map trim = (splitAtChar sep cs).map trim :=
  (map_trim_splitAtChar_dropEndWhile hsep _).trans (map_trim_splitAtChar_dropWhile hsep cs)

end CrudScaffold.Text
