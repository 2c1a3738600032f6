import CrudScaffold.Text.WordCase
import Mathlib.Data.List.Basic

/-!
# One name in two case conventions

A word holds letters and numbers, and writing it in lowercase makes no separator. So the words of a
name can be told apart in snake case as well as in kebab case: two names are the same in one of them
if they are in the other.
-/

namespace CrudScaffold.Text

variable {c d sep : Char} {cs p : List Char}

/-! ## The letters of words -/

/-- A word holds letters of its run and letters that were read before it. -/
theorem mem_of_mem_wordsOfRun {mode : CaseMode} {word : List Char}
    (hp : p ∈ wordsOfRun mode word cs) (hc : c ∈ p) : c ∈ word ∨ c ∈ cs := by
  fun_induction wordsOfRun mode word cs with
  | case1 => cases hp
  | case2 mode word =>
    rw [List.mem_singleton.mp hp, List.mem_reverse] at hc
    exact .inl hc
  | case3 mode word last =>
    rw [List.mem_singleton.mp hp, List.mem_reverse, List.mem_cons] at hc
    exact hc.symm.imp_right List.mem_singleton.mpr
  | case4 mode word first next rest mode' hends ih =>
    rcases List.mem_cons.mp hp with rfl | hp
    · rw [List.mem_reverse, List.mem_cons] at hc
      exact hc.symm.imp_right fun hfirst => List.mem_cons.mpr (.inl hfirst)
    · exact .inr (List.mem_cons_of_mem first ((ih hp).resolve_left List.not_mem_nil))
  | case5 mode word first next rest mode' hgoes hends ih =>
    rcases List.mem_cons.mp hp with rfl | hp
    · exact .inl (List.mem_reverse.mp hc)
    · rw [List.mem_cons, ← List.mem_singleton]
      exact .inr (ih hp)
  | case6 mode word first next rest mode' hgoes hgoes' ih =>
    have hread := ih hp
    rw [List.mem_cons, or_assoc, or_left_comm, ← List.mem_cons] at hread
    exact hread

/-- The runs of a text hold its letters and numbers. -/
theorem of_mem_alphanumericRuns (hp : p ∈ alphanumericRuns cs) (hc : c ∈ p) :
    isAlphanumeric c = true := by
  induction cs generalizing p with
  | nil =>
    rw [List.mem_singleton.mp hp] at hc
    cases hc
  | cons d r ih =>
    rw [alphanumericRuns] at hp
    split at hp
    · next hd =>
      cases hr : alphanumericRuns r with
      | nil => 
        rw [hr] at hp
        rw [List.mem_singleton.mp hp] at hc
        exact List.mem_singleton.mp hc ▸ hd
      | cons q qs =>
        rw [hr, consFirst] at hp
        rcases List.mem_cons.mp hp with rfl | hp
        · rcases List.mem_cons.mp hc with rfl | hc
          · exact hd
          · exact ih (hr ▸ List.mem_cons_self) hc
        · exact ih (hr ▸ List.mem_cons_of_mem _ hp) hc
    · rcases List.mem_cons.mp hp with rfl | hp
      · cases hc
      · exact ih hp hc

/-- Words consist of letters and numbers. -/
theorem isAlphanumeric_of_mem_words (hp : p ∈ words cs) (hc : c ∈ p) :
    isAlphanumeric c = true := by
  obtain ⟨run, hrun, hp⟩ := List.mem_flatMap.mp hp
  rcases mem_of_mem_wordsOfRun hp hc with hc | hc
  · cases hc
  · exact of_mem_alphanumericRuns hrun hc

/-! ## Lowercase -/

private theorem toNat_ofNat_of_pos {n : Nat} (h : 0 < (Char.ofNat n).toNat) :
    (Char.ofNat n).toNat = n := by
  by_cases hvalid : n.isValidChar
  · rw [Char.ofNat, dif_pos hvalid]
    rfl
  · rw [Char.ofNat, dif_neg hvalid] at h
    cases h

/-- Shifts to lowercase lead to the letter `a` or beyond. -/
theorem le_of_shiftIn_lowerRuns {code : Nat} {shift : Int}
    (h : shiftIn Table.lowerRuns code = some shift) : 97 ≤ code + shift := by
  have hruns : Table.lowerRuns.all fun run => 97 ≤ (run.1 : Int) + run.2.2.2 := by decide
  obtain ⟨⟨first, last, step, shift⟩, hrun, rfl⟩ := Option.map_eq_some_iff.mp h
  have hlow := List.all_eq_true.mp hruns _ (List.mem_of_find?_eq_some hrun)
  have hin := List.find?_some hrun
  simp only [Bool.and_eq_true, decide_eq_true_eq] at hlow hin
  show 97 ≤ code + shift
  omega

/-- No lowercase form is an ASCII character before the letter `a`, unless the character stands for
itself. -/
theorem eq_of_mem_lowerOf (h : d ∈ lowerOf c) (hpos : 0 < d.toNat) (hascii : d.toNat < 97) :
    d = c := by
  have hexpansions : ∀ x ∈ Table.lowerExpansions, ∀ n ∈ x.2, 97 ≤ n := by decide
  unfold lowerOf mapCase at h
  split at h
  · next codes hcodes =>
    obtain ⟨before, after, heq, -⟩ := List.lookup_eq_some_iff.mp hcodes
    obtain ⟨n, hn, rfl⟩ := List.mem_map.mp h
    have hlow : 97 ≤ n := hexpansions (c.toNat, codes) (by simp [heq]) n hn
    rw [toNat_ofNat_of_pos hpos] at hascii
    omega
  · split at h
    · next shift hshift =>
      have hlow : 97 ≤ c.toNat + shift := le_of_shiftIn_lowerRuns hshift
      rw [List.mem_singleton.mp h] at hpos hascii
      rw [toNat_ofNat_of_pos hpos] at hascii
      omega
    · exact List.mem_singleton.mp h

/-- A word in lowercase holds lowercase forms of its letters, or a final sigma. -/
theorem of_mem_lowerWord (h : d ∈ lowerWord p) : (∃ c ∈ p, d ∈ lowerOf c) ∨ d = 'ς' := by
  fun_induction lowerWord p with
  | case1 => cases h
  | case2 => exact .inr (List.mem_singleton.mp h)
  | case3 c rest _ ih =>
    rcases List.mem_append.mp h with hd | hd
    · exact .inl ⟨c, List.mem_cons_self, hd⟩
    · exact (ih hd).imp_left fun ⟨c', hc', hd⟩ => ⟨c', List.mem_cons_of_mem c hc', hd⟩

/-- An ASCII character before the letter `a` stands in a word in lowercase only if it is a letter or
a number. -/
theorem not_mem_lowerWord_of_ascii (hneither : isAlphanumeric c = false) (hpos : 0 < c.toNat)
    (hascii : c.toNat < 97) (hp : p ∈ words cs) : c ∉ lowerWord p := by
  intro hmem
  rcases of_mem_lowerWord hmem with ⟨d, hd, hlower⟩ | rfl
  · rw [eq_of_mem_lowerOf hlower hpos hascii, isAlphanumeric_of_mem_words hp hd] at hneither
    cases hneither
  · exact absurd hascii (by decide)

/-- Neither separator stands in a word. -/
theorem not_mem_lowerWord (hsep : sep = '_' ∨ sep = '-') (hp : p ∈ words cs) :
    sep ∉ lowerWord p := by
  rcases hsep with rfl | rfl
  · exact not_mem_lowerWord_of_ascii (by decide) (by decide) (by decide) hp
  · exact not_mem_lowerWord_of_ascii (by decide) (by decide) (by decide) hp

/-! ## Case conventions -/

/-- Joining with another separator changes the separators only. -/
theorem map_join {sep' : Char} {ps : List (List Char)} (h : ∀ p ∈ ps, sep ∉ p) :
    (join [sep] ps).map (fun c => if c = sep then sep' else c) = join [sep'] ps := by
  have hkept : ∀ p ∈ ps, p.map (fun c => if c = sep then sep' else c) = p := by
    intro p hp
    refine (List.map_congr_left fun c hc => if_neg ?_).trans (List.map_id p)
    exact ne_of_mem_of_not_mem hc (h p hp)
  fun_induction join [sep] ps with
  | case1 => rfl
  | case2 p => exact hkept p (List.mem_singleton_self p)
  | case3 p q rest ih =>
    have hrest := ih (fun p hp => h p (List.mem_cons_of_mem _ hp))
      fun p hp => hkept p (List.mem_cons_of_mem _ hp)
    rw [List.map_append, List.map_append, hkept p List.mem_cons_self, hrest]
    simp [join]

/-- The words of a name in lowercase hold no separator. -/
theorem not_mem_of_mem_lowerWords (hsep : sep = '_' ∨ sep = '-') :
    ∀ p ∈ (words cs).map lowerWord, sep ∉ p := by
  intro p hp
  obtain ⟨word, hword, rfl⟩ := List.mem_map.mp hp
  exact not_mem_lowerWord hsep hword

/-- Kebab case is snake case with hyphens. -/
theorem kebabCase_eq_map_snakeCase (s : String) :
    kebabCase s = .ofList ((snakeCase s).toList.map fun c => if c = '_' then '-' else c) := by
  rw [snakeCase, String.toList_ofList, map_join (not_mem_of_mem_lowerWords (.inl rfl))]
  rfl

/-- Snake case is kebab case with underscores. -/
theorem snakeCase_eq_map_kebabCase (s : String) :
    snakeCase s = .ofList ((kebabCase s).toList.map fun c => if c = '-' then '_' else c) := by
  rw [kebabCase, String.toList_ofList, map_join (not_mem_of_mem_lowerWords (.inr rfl))]
  rfl

/-- A slash never stands in a name in snake case. -/
theorem slash_not_mem_snakeCase (s : String) : '/' ∉ (snakeCase s).toList := by
  have hjoin : ∀ ps : List (List Char), (∀ p ∈ ps, '/' ∉ p) → '/' ∉ join ['_'] ps := by
    intro ps hps
    fun_induction join ['_'] ps with
    | case1 => nofun
    | case2 p => exact hps p (List.mem_singleton_self p)
    | case3 p q rest ih =>
      rw [List.forall_mem_cons] at hps
      simp [hps.1, ih hps.2]
  rw [snakeCase, String.toList_ofList]
  refine hjoin _ fun p hp => ?_
  obtain ⟨word, hword, rfl⟩ := List.mem_map.mp hp
  exact not_mem_lowerWord_of_ascii (by decide) (by decide) (by decide) hword

/-- Two names are the same in kebab case exactly if they are in snake case. -/
theorem kebabCase_eq_iff {s t : String} :
    kebabCase s = kebabCase t ↔ snakeCase s = snakeCase t := by
  constructor
  · intro h
    rw [snakeCase_eq_map_kebabCase, h, ← snakeCase_eq_map_kebabCase]
  · intro h
    rw [kebabCase_eq_map_snakeCase, h, ← kebabCase_eq_map_snakeCase]

end CrudScaffold.Text
