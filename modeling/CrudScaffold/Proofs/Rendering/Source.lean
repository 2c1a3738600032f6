import CrudScaffold.Proofs.Except
import CrudScaffold.Rendering.Source

/-!
# Artifacts that have a source text

An artifact has a source text if it can be rendered, its tokens are read back as items, and all of these
can be printed. Only the last of these aborts the program where it goes wrong.
-/

namespace CrudScaffold

open Code
open Layout (together)

/-- Items have a source text unless a part of them cannot be printed. -/
theorem Code.Item.source?_eq_none_iff (items : List Item) (nesting : Nat) :
    source? items nesting = none ↔
      Layout.isPrintable (together 0 (itemLayouts (.ofNesting nesting) false items)) = false := by
  unfold source? Layout.toText?
  cases Layout.isPrintable (together 0 (itemLayouts (.ofNesting nesting) false items)) <;> simp

namespace Renderer

variable {r : Renderer} {s : Spec} {tokens : Tokens} {text : String}

/-- The text of a file starts with the fixed header. -/
theorem exists_body_of_fileText (h : fileText tokens = .ok text) :
    ∃ body, text = fileHeader ++ body := by
  unfold fileText at h
  split at h
  · cases h
  · split at h
    · exact ⟨_, (Except.ok.inj h).symm⟩
    · cases h

/-- The program aborts over tokens that are read back as items of which a part cannot be printed. -/
theorem fileText_eq_abort_iff :
    fileText tokens = .error .abort ↔
      ∃ items, Item.listOfTokens? tokens = some items ∧
        Layout.isPrintable
          (together 0 (itemLayouts (.ofNesting tokens.length) false items)) = false := by
  simp only [← Item.source?_eq_none_iff]
  unfold fileText
  split
  · next hitems => simp [hitems]
  · next items hitems =>
    rw [hitems]
    simp only [Option.some.injEq, exists_eq_left']
    split
    · next body hbody => simp [hbody]
    · next hbody => simp [hbody]

/-- The source text of an artifact is set from its tokens. -/
theorem exists_tokens_of_source (h : r.source s = .ok text) :
    ∃ tokens, r.artifact s = .ok tokens ∧ fileText tokens = .ok text := by
  obtain ⟨tokens, htokens, htext⟩ := bind_eq_ok_iff.mp (mapError_eq_ok_iff.mp h)
  exact ⟨tokens, mapError_eq_ok_iff.mp htokens, htext⟩

/-- What is rendered starts with the fixed header. -/
theorem exists_body_of_source (h : r.source s = .ok text) : ∃ body, text = fileHeader ++ body := by
  obtain ⟨tokens, -, htext⟩ := exists_tokens_of_source h
  exact exists_body_of_fileText htext

/-- The program aborts over an artifact exactly if it does so over its tokens. -/
theorem source_eq_abort_iff :
    r.source s = .error .abort ↔ ∃ tokens, r.artifact s = .ok tokens ∧
      fileText tokens = .error .abort := by
  unfold source
  rw [mapError_eq_error_iff]
  constructor
  · rintro ⟨fault, h, habort⟩
    cases fault with
    | fault f => cases habort
    | abort =>
      rcases bind_eq_error_iff.mp h with h | ⟨tokens, htokens, habort⟩
      · -- An artifact that cannot be rendered is a fault, and no abort.
        obtain ⟨_, -, hnever⟩ := mapError_eq_error_iff.mp h
        cases hnever
      · exact ⟨tokens, mapError_eq_ok_iff.mp htokens, habort⟩
  · rintro ⟨tokens, htokens, habort⟩
    refine ⟨.abort, ?_, rfl⟩
    rw [htokens]
    exact habort

end Renderer

end CrudScaffold
