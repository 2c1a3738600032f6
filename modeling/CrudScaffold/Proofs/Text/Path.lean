import CrudScaffold.Text.Blank
import CrudScaffold.Text.Pieces
import Mathlib.Data.List.DropRight

/-!
# Segments of a path

A path is cut at its rightmost separator. What comes after it is a segment: no separator is in it, and
it does not start with a colon, because then there would be a separator further to the right. So a
segment that is put behind a separator is found again.
-/

namespace CrudScaffold.Text

variable {p : Char → Bool} {cs before after needle : List Char}

/-! ## The rightmost separator -/

/-- A text that can follow the rightmost separator of a path. -/
structure IsSegment (cs : List Char) : Prop where
  whole : ¬ [':', ':'] <:+: cs
  head : cs.head? ≠ some ':'

/-- The check for a slice finds the texts that it is a part of. -/
theorem containsSlice_iff : containsSlice needle cs = true ↔ needle <:+: cs := by
  induction cs with
  | nil => rw [containsSlice, List.isEmpty_iff, List.infix_nil]
  | cons c r ih =>
    rw [containsSlice, Bool.or_eq_true, ih, List.isPrefixOf_iff_prefix, List.infix_cons_iff]

/-- Whether a text is a segment is found out by the check for a slice. -/
theorem isSegment_iff :
    IsSegment cs ↔ containsSlice [':', ':'] cs = false ∧ (cs.head? == some ':') = false := by
  rw [Bool.eq_false_iff, Bool.eq_false_iff, ne_eq, ne_eq, containsSlice_iff, beq_iff_eq]
  exact ⟨fun h => ⟨h.whole, h.head⟩, fun h => ⟨h.1, h.2⟩⟩

instance (cs : List Char) : Decidable (IsSegment cs) := decidable_of_iff _ isSegment_iff.symm

private theorem separator_prefix_cons_iff {c : Char} :
    [':', ':'] <+: c :: cs ↔ c = ':' ∧ cs.head? = some ':' := by
  rw [List.cons_prefix_cons, eq_comm]
  refine and_congr_right fun _ => ?_
  cases cs with
  | nil => simp
  | cons d r => simp [List.cons_prefix_cons, eq_comm]

/-- A text without separators is not cut. -/
theorem splitLastPath_eq_none_iff : splitLastPath cs = none ↔ ¬ [':', ':'] <:+: cs := by
  induction cs with
  | nil => simp [splitLastPath]
  | cons c r ih =>
    rw [List.infix_cons_iff, separator_prefix_cons_iff, not_or, ← ih]
    cases hr : splitLastPath r with
    | some cut => simp [splitLastPath, hr]
    | none =>
      simp only [splitLastPath, hr, and_true]
      split
      · simp
      · next hother =>
        simp only [true_iff]
        rintro ⟨rfl, hhead⟩
        cases r with
        | nil => cases hhead
        | cons d after =>
          obtain rfl : d = ':' := Option.some.inj hhead
          exact hother after rfl rfl

/-- A segment behind a separator is found again. -/
theorem splitLastPath_append (h : IsSegment after) (before : List Char) :
    splitLastPath (before ++ ':' :: ':' :: after) = some (before, after) := by
  induction before with
  | nil =>
    have hlast : splitLastPath (':' :: after) = none := by
      rw [splitLastPath_eq_none_iff, List.infix_cons_iff, separator_prefix_cons_iff, not_or]
      exact ⟨fun hfirst => h.head hfirst.2, h.whole⟩
    rw [List.nil_append, splitLastPath, hlast]
  | cons c before ih => simp only [List.cons_append, splitLastPath, ih]

/-- What is behind the rightmost separator is a segment. -/
theorem of_splitLastPath (h : splitLastPath cs = some (before, after)) :
    cs = before ++ ':' :: ':' :: after ∧ IsSegment after := by
  induction cs generalizing before with
  | nil => cases h
  | cons c r ih =>
    cases hr : splitLastPath r with
    | some cut =>
      simp only [splitLastPath, hr, Option.some.injEq, Prod.mk.injEq] at h
      obtain ⟨rfl, rfl⟩ := h
      obtain ⟨hcut, hsegment⟩ := ih hr
      exact ⟨congrArg (c :: ·) hcut, hsegment⟩
    | none =>
      have hwhole : ¬ [':', ':'] <:+: r := splitLastPath_eq_none_iff.mp hr
      simp only [splitLastPath, hr] at h
      split at h
      · next after' =>
        simp only [Option.some.injEq, Prod.mk.injEq] at h
        obtain ⟨rfl, rfl⟩ := h
        refine ⟨rfl, fun hinner => hwhole (List.infix_cons hinner), fun hhead => hwhole ?_⟩
        exact List.infix_cons_iff.mpr (.inl (separator_prefix_cons_iff.mpr ⟨rfl, hhead⟩))
      · cases h

/-! ## The separators from the left -/

/-- A character that does not open a separator belongs to the first piece. -/
theorem splitPath_cons {c : Char} (h : c = ':' → cs.head? ≠ some ':') :
    splitPath (c :: cs) = consFirst c (splitPath cs) := by
  refine splitPath.eq_3 c cs fun r hc hr => h hc ?_
  rw [hr]
  rfl

/-- A text without separators is its only piece. -/
theorem splitPath_of_whole (h : ¬ [':', ':'] <:+: cs) : splitPath cs = [cs] := by
  induction cs with
  | nil => rfl
  | cons c r ih =>
    rw [List.infix_cons_iff, separator_prefix_cons_iff, not_or] at h
    rw [splitPath_cons fun hc hhead => h.1 ⟨hc, hhead⟩, ih h.2]
    rfl

/-- The pieces of a text with a separator and a segment at its end: the segment ends the last piece, and
the rest is the same for all segments. A colon in front of the separator goes to the last piece, because
the separators are found from the left. -/
theorem exists_splitPath_append (before : List Char) :
    ∃ front lead, front ≠ [] ∧ (lead = [] ∨ lead = [':']) ∧
      ∀ after, IsSegment after →
        splitPath (before ++ ':' :: ':' :: after) = front ++ [lead ++ after] := by
  induction before using splitPath.induct with
  | case1 =>
    refine ⟨[[]], [], List.cons_ne_nil _ _, .inl rfl, fun after h => ?_⟩
    rw [List.nil_append, splitPath, splitPath_of_whole h.whole]
    rfl
  | case2 r ih =>
    obtain ⟨front, lead, -, hlead, hpieces⟩ := ih
    refine ⟨[] :: front, lead, List.cons_ne_nil _ _, hlead, fun after h => ?_⟩
    rw [List.cons_append, List.cons_append, splitPath, hpieces after h, List.cons_append]
  | case3 c r hopens ih =>
    by_cases hlast : c = ':' ∧ r = []
    · obtain ⟨rfl, rfl⟩ := hlast
      refine ⟨[[]], [':'], List.cons_ne_nil _ _, .inr rfl, fun after h => ?_⟩
      have hwhole : ¬ [':', ':'] <:+: ':' :: after := by
        rw [List.infix_cons_iff, separator_prefix_cons_iff, not_or]
        exact ⟨fun hfirst => h.head hfirst.2, h.whole⟩
      rw [List.cons_append, List.nil_append, splitPath, splitPath_of_whole hwhole]
      rfl
    · obtain ⟨front, lead, hne, hlead, hpieces⟩ := ih
      obtain ⟨first, rest, rfl⟩ := List.exists_cons_of_ne_nil hne
      refine ⟨(c :: first) :: rest, lead, List.cons_ne_nil _ _, hlead, fun after h => ?_⟩
      have hnone : c = ':' → (r ++ ':' :: ':' :: after).head? ≠ some ':' := by
        intro hc hhead
        cases r with
        | nil => exact hlast ⟨hc, rfl⟩
        | cons d r => exact hopens r hc (congrArg (· :: r) (Option.some.inj hhead))
      rw [List.cons_append, splitPath_cons hnone, hpieces after h]
      rfl

private theorem splitPath_ne_nil (cs : List Char) : splitPath cs ≠ [] := by
  have hne (c : Char) (ps : List (List Char)) : consFirst c ps ≠ [] := by
    cases ps <;> exact List.cons_ne_nil _ _
  induction cs using splitPath.induct with
  | case1 => exact List.cons_ne_nil _ _
  | case2 r ih => exact List.cons_ne_nil _ _
  | case3 c r hopens ih =>
    rw [splitPath.eq_3 c r hopens]
    exact hne c _

/-- A text without a colon at its end keeps its pieces in front of a separator and a segment. -/
theorem splitPath_append (h : IsSegment after) (hlast : before.getLast? ≠ some ':') :
    splitPath (before ++ ':' :: ':' :: after) = splitPath before ++ [after] := by
  have hrest {c : Char} {r : List Char} (hlast : (c :: r).getLast? ≠ some ':') :
      r.getLast? ≠ some ':' := by
    cases r with
    | nil => nofun
    | cons d r => rwa [List.getLast?_cons_cons] at hlast
  induction before using splitPath.induct with
  | case1 =>
    rw [List.nil_append, splitPath.eq_2, splitPath_of_whole h.whole]
    rfl
  | case2 r ih =>
    rw [List.cons_append, List.cons_append, splitPath.eq_2, splitPath.eq_2,
      ih (hrest (hrest hlast)), List.cons_append]
  | case3 c r hopens ih =>
    -- A colon in front of the separator would be the end of the text.
    have hnone : c = ':' → (r ++ ':' :: ':' :: after).head? ≠ some ':' := by
      rintro rfl hhead
      cases r with
      | nil => exact hlast rfl
      | cons d r => exact hopens r rfl (congrArg (· :: r) (Option.some.inj hhead))
    obtain ⟨first, rest, hpieces⟩ := List.exists_cons_of_ne_nil (splitPath_ne_nil r)
    rw [List.cons_append, splitPath_cons hnone, ih (hrest hlast), splitPath.eq_3 c r hopens, hpieces]
    rfl

/-! ## Stripping -/

/-- What is dropped at the ends is of the class. -/
theorem exists_stripWhile (p : Char → Bool) (cs : List Char) :
    ∃ front back, cs = front ++ stripWhile p cs ++ back ∧
      (∀ c ∈ front, p c = true) ∧ ∀ c ∈ back, p c = true := by
  refine ⟨cs.takeWhile p, (cs.dropWhile p).rtakeWhile p, ?_, ?_, ?_⟩
  · have hback : stripWhile p cs ++ (cs.dropWhile p).rtakeWhile p = cs.dropWhile p :=
      List.rdropWhile_append_rtakeWhile
    rw [List.append_assoc, hback, List.takeWhile_append_dropWhile]
  · intro c hc
    exact List.mem_takeWhile_imp hc
  · intro c hc
    exact List.mem_rtakeWhile_imp hc

/-- Stripping keeps everything that is not of the class. -/
theorem countP_stripWhile (p : Char → Bool) (cs : List Char) :
    (stripWhile p cs).countP (fun c => !p c) = cs.countP fun c => !p c := by
  obtain ⟨front, back, hcs, hfront, hback⟩ := exists_stripWhile p cs
  have hnone {l : List Char} (hl : ∀ c ∈ l, p c = true) : l.countP (fun c => !p c) = 0 := by
    rw [List.countP_eq_zero]
    intro c hc
    simp [hl c hc]
  conv_rhs => rw [hcs]
  rw [List.countP_append, List.countP_append, hnone hfront, hnone hback]
  omega

/-- What was stripped stays as it is. -/
theorem stripWhile_stripWhile (p : Char → Bool) (cs : List Char) :
    stripWhile p (stripWhile p cs) = stripWhile p cs := by
  have hkept : stripWhile p cs <+: cs.dropWhile p := List.rdropWhile_prefix p (cs.dropWhile p)
  have hfront : (stripWhile p cs).dropWhile p = stripWhile p cs := by
    rw [List.dropWhile_eq_self_iff]
    intro hlen
    rw [hkept.getElem hlen]
    exact List.dropWhile_get_zero_not p cs (hlen.trans_le hkept.length_le)
  rw [stripWhile, hfront]
  exact List.rdropWhile_idempotent p (cs.dropWhile p)

/-- Nothing is dropped in front exactly if the first character is not of the class. -/
theorem dropWhile_eq_self_iff_head? : cs.dropWhile p = cs ↔ ∀ c ∈ cs.head?, p c = false := by
  cases cs with
  | nil => simp
  | cons c r =>
    rw [List.dropWhile_eq_self_iff]
    simp

/-- Stripping changes nothing exactly if neither the first nor the last character is of the class. -/
theorem stripWhile_eq_self_iff :
    stripWhile p cs = cs ↔ (∀ c ∈ cs.head?, p c = false) ∧ ∀ c ∈ cs.getLast?, p c = false := by
  have hlast : dropEndWhile p cs = cs ↔ ∀ c ∈ cs.getLast?, p c = false := by
    rw [dropEndWhile, List.reverse_eq_iff, dropWhile_eq_self_iff_head?, List.head?_reverse]
  rw [← dropWhile_eq_self_iff_head?, ← hlast]
  constructor
  · intro h
    have hfront : cs.dropWhile p = cs := by
      have hkept : stripWhile p cs <+: cs.dropWhile p := List.rdropWhile_prefix p (cs.dropWhile p)
      rw [h] at hkept
      exact (List.dropWhile_suffix p).eq_of_length_le hkept.length_le
    rw [stripWhile, hfront] at h
    exact ⟨hfront, h⟩
  · rintro ⟨hfront, hback⟩
    rw [stripWhile, hfront, hback]

end CrudScaffold.Text
