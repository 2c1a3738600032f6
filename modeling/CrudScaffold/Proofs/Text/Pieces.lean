import CrudScaffold.Text.Pieces

/-!
# The pieces between separators

Cutting at a character and joining with it are the list operations of the core library. The pieces
of a text are its longest runs without the separator, one more than there are separators, and
joining pieces loses nothing as long as no piece holds a separator.
-/

namespace CrudScaffold.Text

variable {sep : Char} {cs p : List Char} {ps : List (List Char)}

/-- Cutting at a character splits the list of characters there. -/
theorem splitAtChar_eq_splitOn (sep : Char) (cs : List Char) :
    splitAtChar sep cs = cs.splitOn sep := by
  induction cs with
  | nil => rfl
  | cons c r ih =>
    rw [splitAtChar, List.splitOn_cons_eq_if_modifyHead, ih]
    by_cases h : c = sep
    · simp [h]
    · simp only [h, beq_iff_eq, ↓reduceIte]
      cases hr : r.splitOn sep with
      | nil => exact absurd hr (List.splitOn_ne_nil sep r)
      | cons q qs => rfl

/-- Joining intercalates the separator. -/
theorem join_eq_intercalate (sep : List Char) (ps : List (List Char)) :
    join sep ps = sep.intercalate ps := by
  induction ps with
  | nil => rfl
  | cons p ps ih =>
    cases ps with
    | nil => rw [join, List.intercalate_singleton]
    | cons q qs => rw [join, ih, List.intercalate_cons_cons]

/-- Pieces without a separator are found again after joining. -/
theorem splitAtChar_join (hne : ps ≠ []) (hfree : ∀ p ∈ ps, sep ∉ p) :
    splitAtChar sep (join [sep] ps) = ps := by
  rw [splitAtChar_eq_splitOn, join_eq_intercalate]
  exact List.splitOn_intercalate sep hfree hne

/-- There is one piece more than there are separators. -/
theorem length_splitAtChar (sep : Char) (cs : List Char) :
    (splitAtChar sep cs).length = cs.count sep + 1 := by
  rw [splitAtChar_eq_splitOn]
  induction cs with
  | nil => rfl
  | cons c r ih =>
    rw [List.splitOn_cons_eq_if_modifyHead, List.count_cons]
    split
    · rw [List.length_cons, ih]
    · rw [List.length_modifyHead, ih, Nat.add_zero]

/-- Joining keeps the separators of the pieces and adds one between each two. -/
theorem count_join (hne : ps ≠ []) :
    (join [sep] ps).count sep + 1 = ps.flatten.count sep + ps.length := by
  induction ps with
  | nil => exact absurd rfl hne
  | cons p ps ih =>
    cases ps with
    | nil => simp [join]
    | cons q qs =>
      have := ih (List.cons_ne_nil q qs)
      simp only [join, List.count_append, List.count_singleton_self, List.flatten_cons,
        List.length_cons] at this ⊢
      omega

/-- Cutting gives the number of joined pieces again only if no piece holds a separator. -/
theorem not_mem_of_length_splitAtChar_join
    (h : (splitAtChar sep (join [sep] ps)).length = ps.length) : ∀ p ∈ ps, sep ∉ p := by
  intro p hp
  have hne : ps ≠ [] := List.ne_nil_of_mem hp
  have hcount : (join [sep] ps).count sep + 1 = ps.flatten.count sep + ps.length := count_join hne
  rw [length_splitAtChar] at h
  -- The separators within the pieces are what exceeds the number of gaps.
  have hzero : ps.flatten.count sep = 0 := by omega
  exact fun hsep => List.count_eq_zero.mp hzero (List.mem_flatten_of_mem hp hsep)

/-- No piece of a text holds a separator. -/
theorem not_mem_of_mem_splitAtChar (h : p ∈ splitAtChar sep cs) : sep ∉ p :=
  not_mem_of_length_splitAtChar_join (by rw [join_splitAtChar]) p h

/-! ## Pieces as runs -/

/-- A longest run without the separator: on both sides a separator or an end of the text. -/
def IsPiece (sep : Char) (cs p : List Char) : Prop :=
  sep ∉ p ∧ ∃ before after, cs = before ++ p ++ after ∧
    (before = [] ∨ before.getLast? = some sep) ∧ (after = [] ∨ after.head? = some sep)

/-- A run at the start of a text, up to a separator or the end, is one of the pieces. -/
theorem mem_splitAtChar_append {after : List Char} (hfree : sep ∉ p)
    (hafter : after = [] ∨ after.head? = some sep) : p ∈ splitAtChar sep (p ++ after) := by
  rw [splitAtChar_eq_splitOn]
  rcases hafter with rfl | hafter
  · rw [List.append_nil, List.splitOn_eq_singleton hfree]
    exact List.mem_singleton_self p
  · obtain ⟨rest, rfl⟩ := List.head?_eq_some_iff.mp hafter
    rw [List.splitOn_append_cons_self_of_not_mem hfree]
    exact List.mem_cons_self

/-- Every longest run is one of the pieces. -/
theorem mem_splitAtChar_of_isPiece (h : IsPiece sep cs p) : p ∈ splitAtChar sep cs := by
  obtain ⟨hfree, before, after, rfl, hbefore, hafter⟩ := h
  have hlast := mem_splitAtChar_append hfree hafter
  rcases hbefore with rfl | hbefore
  · exact hlast
  · obtain ⟨front, rfl⟩ := List.getLast?_eq_some_iff.mp hbefore
    rw [splitAtChar_eq_splitOn] at hlast ⊢
    rw [List.append_assoc, List.append_assoc, List.singleton_append,
      List.splitOn_append_cons_self]
    exact List.mem_append_right _ hlast

/-- In a joined text every piece stands between separators or ends of the text. -/
theorem exists_join_append (sep : Char) (front : List (List Char)) (p : List Char)
    (back : List (List Char)) :
    ∃ before after, join [sep] (front ++ p :: back) = before ++ p ++ after ∧
      (before = [] ∨ before.getLast? = some sep) ∧ (after = [] ∨ after.head? = some sep) := by
  induction front with
  | nil =>
    cases back with
    | nil => exact ⟨[], [], by simp [join], .inl rfl, .inl rfl⟩
    | cons q qs =>
      exact ⟨[], sep :: join [sep] (q :: qs), by simp [join], .inl rfl, .inr rfl⟩
  | cons q front ih =>
    obtain ⟨before, after, hjoin, hbefore, hafter⟩ := ih
    refine ⟨q ++ [sep] ++ before, after, ?_, .inr ?_, hafter⟩
    · rw [join_eq_intercalate] at hjoin ⊢
      rw [List.cons_append, List.intercalate_cons_of_ne_nil (by simp), hjoin]
      simp only [List.append_assoc]
    · rcases hbefore with rfl | hbefore
      · simp
      · rw [List.getLast?_append, hbefore, Option.some_or]

/-- Every piece is a longest run. -/
theorem isPiece_of_mem_splitAtChar (h : p ∈ splitAtChar sep cs) : IsPiece sep cs p := by
  refine ⟨not_mem_of_mem_splitAtChar h, ?_⟩
  obtain ⟨front, back, hsplit⟩ := List.append_of_mem h
  have hpiece := exists_join_append sep front p back
  rwa [← hsplit, join_splitAtChar] at hpiece

/-- The pieces are the longest runs without the separator. -/
theorem mem_splitAtChar_iff : p ∈ splitAtChar sep cs ↔ IsPiece sep cs p :=
  ⟨isPiece_of_mem_splitAtChar, mem_splitAtChar_of_isPiece⟩

end CrudScaffold.Text
