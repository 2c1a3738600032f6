import CrudScaffold.Codec.Segments
import CrudScaffold.Proofs.Text.Pieces

/-!
# Writing and reading segments

Reading undoes writing for clear components, those that are present, not blank and free of the
separator, and refuses what was written for any others. A separator too many in one component is
never made up for by an empty one elsewhere: the number of pieces is right only if no component
holds a separator. Writing undoes reading for every text that is read at all.
-/

namespace CrudScaffold.Segments

open Text

variable {c : Option String} {ids : List (Option String)} {value e : String} {arity : Arity}
  {parts : List String}

private theorem map_ofList_map_toList (texts : List String) :
    (texts.map String.toList).map String.ofList = texts := by
  simp [Function.comp_def]

/-- The component is absent, or holds nothing but spaces. -/
def Blank (c : Option String) : Prop := ∀ s, c = some s → isBlank s.toList = true

/-- The component is present, not blank and free of the separator. -/
def Clear (c : Option String) : Prop :=
  ∃ s, c = some s ∧ isBlank s.toList = false ∧ separator ∉ s.toList

/-- Nothing is written for absent and blank components, and for no others. -/
theorem written_eq_nil_iff : written c = [] ↔ Blank c := by
  unfold Blank
  cases c with
  | none => simp [written]
  | some s =>
    simp only [written, Option.some.injEq, forall_eq']
    split
    · next hblank => simp [hblank]
    · next hblank =>
      refine ⟨fun hnil => ?_, fun h => absurd h hblank⟩
      rw [hnil]
      rfl

/-- What is not written as a blank is written as it stands. -/
theorem eq_some_of_written (h : isBlank (written c) = false) : c = some (.ofList (written c)) := by
  cases c with
  | none => simp [written, isBlank] at h
  | some s =>
    simp only [written] at h ⊢
    split at h
    · simp [isBlank] at h
    · next hblank => simp [hblank]

/-- A component is clear exactly when what is written for it is neither blank nor cut by a
separator. -/
theorem clear_iff_written :
    Clear c ↔ isBlank (written c) = false ∧ separator ∉ written c := by
  constructor
  · rintro ⟨s, rfl, hblank, hfree⟩
    simpa [written, hblank] using hfree
  · rintro ⟨hblank, hfree⟩
    exact ⟨_, eq_some_of_written hblank, by simpa using hblank, by simpa using hfree⟩

/-- A text that is not blank is written as it stands. -/
theorem written_some {s : String} (h : isBlank s.toList = false) : written (some s) = s.toList := by
  simp [written, h]

/-! ## Writing -/

/-- Nothing is written for a composite exactly when all its components are absent or blank. -/
theorem encode_eq_none_iff : encode ids = none ↔ ∀ c ∈ ids, Blank c := by
  simp [encode, List.isEmpty_iff, written_eq_nil_iff]

/-- Otherwise the texts of its components are joined. -/
theorem encode_eq_some_iff :
    encode ids = some e ↔
      (∃ c ∈ ids, ¬ Blank c) ∧ e.toList = join [separator] (ids.map written) := by
  have hnone : encode ids = none ↔ ∀ c ∈ ids, Blank c := encode_eq_none_iff
  unfold encode at hnone ⊢
  split at hnone
  · next hempty =>
    have hall := hnone.mp rfl
    simp only [hempty, ↓reduceIte, reduceCtorEq, false_iff, not_and]
    rintro ⟨c, hc, hb⟩
    exact absurd (hall c hc) hb
  · next hempty =>
    have hsome : ∃ c ∈ ids, ¬ Blank c := by simpa using hnone
    simp only [hempty, hsome, ↓reduceIte, Option.some.injEq, true_and, Bool.false_eq_true]
    constructor
    · rintro rfl
      exact String.toList_ofList
    · intro he
      rw [← he, String.ofList_toList]

/-! ## Reading -/

/-- A text is read as its pieces, if their number is right and none is blank. -/
theorem split_ok_iff :
    split value arity = .ok parts ↔
      parts.map String.toList = splitAtChar separator value.toList ∧
      parts.length = arity.count ∧ ∀ p ∈ parts, isBlank p.toList = false := by
  unfold split
  simp only [List.all_eq_true, Bool.not_eq_true']
  constructor
  · intro h
    split at h
    · next hp =>
      obtain rfl := Except.ok.inj h
      simpa [Function.comp_def] using hp
    · cases h
  · rintro ⟨hpieces, hlength, hblank⟩
    have hpiece : ∀ p ∈ parts.map String.toList, isBlank p = false := by
      simpa using hblank
    rw [← hpieces, map_ofList_map_toList, List.length_map, if_pos ⟨hlength, hpiece⟩]

/-- A refusal names the text and the number of segments that it should have had. -/
theorem split_error_iff {fault : MalformedIdentifier} :
    split value arity = .error fault ↔
      fault = ⟨value, arity.count⟩ ∧ ¬ ∃ parts, split value arity = .ok parts := by
  unfold split
  simp only
  split <;> simp [eq_comm]

/-- What was read joins to the text again. -/
theorem encode_of_split (h : split value arity = .ok parts) :
    encode (parts.map some) = some value := by
  obtain ⟨hpieces, hlength, hblank⟩ := split_ok_iff.mp h
  have hwritten : (parts.map some).map written = splitAtChar separator value.toList := by
    rw [← hpieces, List.map_map]
    exact List.map_congr_left fun p hp => written_some (hblank p hp)
  refine encode_eq_some_iff.mpr ⟨?_, ?_⟩
  · have hne : parts ≠ [] := by
      rintro rfl
      exact splitAtChar_ne_nil _ _ hpieces.symm
    obtain ⟨p, hp⟩ := List.exists_mem_of_ne_nil parts hne
    refine ⟨some p, List.mem_map_of_mem hp, fun hb => ?_⟩
    exact Bool.false_ne_true ((hblank p hp).symm.trans (hb p rfl))
  · rw [hwritten, join_splitAtChar]

/-! ## Reading what was written -/

/-- The pieces of what was written for clear components are the texts of the components. -/
theorem splitAtChar_of_clear (hclear : ∀ c ∈ ids, Clear c) (he : encode ids = some e) :
    splitAtChar separator e.toList = ids.map written := by
  obtain ⟨⟨c, hc, -⟩, hjoin⟩ := encode_eq_some_iff.mp he
  rw [hjoin]
  apply splitAtChar_join
  · exact List.ne_nil_of_mem (List.mem_map_of_mem hc)
  · intro p hp
    obtain ⟨c, hc, rfl⟩ := List.mem_map.mp hp
    exact (clear_iff_written.mp (hclear c hc)).2

/-- What was written for clear components is read. -/
theorem exists_split_of_clear (hlength : ids.length = arity.count) (hclear : ∀ c ∈ ids, Clear c)
    (he : encode ids = some e) : ∃ parts, split e arity = .ok parts := by
  refine ⟨ids.map fun c => .ofList (written c), split_ok_iff.mpr ⟨?_, ?_, ?_⟩⟩
  · rw [splitAtChar_of_clear hclear he, List.map_map]
    exact List.map_congr_left fun c _ => String.toList_ofList
  · rw [List.length_map, hlength]
  · intro p hp
    obtain ⟨c, hc, rfl⟩ := List.mem_map.mp hp
    rw [String.toList_ofList]
    exact (clear_iff_written.mp (hclear c hc)).1

/-- If what was written for as many components as are expected is read at all, then the parts are
the components, which are all clear. -/
theorem eq_map_some_of_split (hlength : ids.length = arity.count) (he : encode ids = some e)
    (h : split e arity = .ok parts) : ids = parts.map some ∧ ∀ c ∈ ids, Clear c := by
  obtain ⟨hpieces, hcount, hblank⟩ := split_ok_iff.mp h
  obtain ⟨⟨c, hc, -⟩, hjoin⟩ := encode_eq_some_iff.mp he
  -- As many pieces as components: no component holds a separator.
  have hfree : ∀ p ∈ ids.map written, separator ∉ p := by
    apply not_mem_of_length_splitAtChar_join
    rw [← hjoin, ← hpieces, List.length_map, List.length_map, hcount, hlength]
  have hparts : parts.map String.toList = ids.map written := by
    rw [hpieces, hjoin]
    exact splitAtChar_join (List.ne_nil_of_mem (List.mem_map_of_mem hc)) hfree
  have hnonblank : ∀ c ∈ ids, isBlank (written c) = false := by
    intro c hc
    have hmem : written c ∈ parts.map String.toList := hparts ▸ List.mem_map_of_mem hc
    obtain ⟨p, hp, hpc⟩ := List.mem_map.mp hmem
    rw [← hpc]
    exact hblank p hp
  refine ⟨?_, fun c hc => ?_⟩
  · rw [← map_ofList_map_toList parts, hparts, List.map_map, List.map_map]
    refine (List.map_id ids).symm.trans (List.map_congr_left fun c hc => ?_)
    exact eq_some_of_written (hnonblank c hc)
  · exact clear_iff_written.mpr ⟨hnonblank c hc, hfree _ (List.mem_map_of_mem hc)⟩

/-- Reading decides whether the written components are all clear. -/
theorem exists_split_iff_clear (hlength : ids.length = arity.count) (he : encode ids = some e) :
    (∃ parts, split e arity = .ok parts) ↔ ∀ c ∈ ids, Clear c :=
  ⟨fun ⟨_, h⟩ => (eq_map_some_of_split hlength he h).2,
    fun hclear => exists_split_of_clear hlength hclear he⟩

/-- A text is read exactly when it has one separator less than segments and every stretch between
them holds something else than spaces. -/
theorem exists_split_iff :
    (∃ parts, split value arity = .ok parts) ↔
      value.toList.count separator + 1 = arity.count ∧
      ∀ p, IsPiece separator value.toList p → ∃ ch ∈ p, isSpace ch = false := by
  have hnonblank : ∀ p, isBlank p = false ↔ ∃ ch ∈ p, isSpace ch = false := by
    simp [isBlank]
  simp only [← hnonblank, ← mem_splitAtChar_iff, ← length_splitAtChar]
  constructor
  · rintro ⟨parts, h⟩
    obtain ⟨hpieces, hcount, hblank⟩ := split_ok_iff.mp h
    rw [← hpieces, List.length_map]
    exact ⟨hcount, by simpa using hblank⟩
  · rintro ⟨hcount, hblank⟩
    refine ⟨(splitAtChar separator value.toList).map .ofList, split_ok_iff.mpr ⟨?_, ?_, ?_⟩⟩
    · simp [Function.comp_def]
    · rw [List.length_map, hcount]
    · simpa using hblank

end CrudScaffold.Segments
