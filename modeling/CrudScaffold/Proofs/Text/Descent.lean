import CrudScaffold.Proofs.Text.FilePath

/-!
# Paths that only go down

A path only goes down if it neither starts at the root nor leads back. Of what is appended to a path all
parts have to, so that the names at the end lead below it. A single dot does no harm, but where it
opens the whole path it stays a component of its own.
-/

namespace CrudScaffold.FilePath

variable {p q : FilePath} {cs : List Component} {names : List String}

/-- The path does not start at the root, and never leads back. -/
structure Descends (p : FilePath) : Prop where
  relative : p.isAbsolute = false
  forward : .parent ∉ p.components

/-- Nothing but names follow the components of another path. -/
def LeadsBelow (p root : FilePath) : Prop :=
  ∃ names : List String, names ≠ [] ∧ (∀ name ∈ names, IsName name) ∧
    p.components = root.components ++ names.map .named

/-! ## Components that are not names -/

private theorem IsOpening.parent_not_mem (h : IsOpening cs) : .parent ∉ cs := by
  cases h <;> simp

private theorem IsOpening.named_not_mem (h : IsOpening cs) (name : String) : .named name ∉ cs := by
  cases h <;> simp

private theorem IsOpening.here_mem_iff (h : IsOpening cs) : .here ∈ cs ↔ cs = [.here] := by
  cases h <;> simp

/-- Only the parts of a path lead back, not what opens it. -/
theorem parent_mem_components_iff :
    .parent ∈ p.components ↔ .parent ∈ p.parts.filterMap Component.ofPart? := by
  rw [components_eq, List.mem_append, or_iff_right p.isOpening_opening.parent_not_mem]

/-- A single dot is a component only where it opens the path. -/
theorem here_mem_components_iff : .here ∈ p.components ↔ p.opening = [.here] := by
  have hpart : .here ∉ p.parts.filterMap Component.ofPart? := by
    rw [List.mem_filterMap]
    rintro ⟨part, -, hhere⟩
    unfold Component.ofPart? at hhere
    split at hhere <;> simp at hhere
  rw [components_eq, List.mem_append, or_iff_left hpart, p.isOpening_opening.here_mem_iff]

/-- A relative path opens with a dot if that is its first part. -/
theorem here_mem_components_iff_head? (hp : p.isAbsolute = false) :
    .here ∈ p.components ↔ p.parts.head? = some ['.'] := by
  rw [here_mem_components_iff, opening, hp, if_neg Bool.false_ne_true]
  split
  · next hdot => simp [hdot]
  · next hdot => simp [hdot]

/-- A path descends exactly if it is relative and has no part that leads up. -/
theorem descends_iff :
    p.Descends ↔ p.isAbsolute = false ∧ .parent ∉ p.parts.filterMap Component.ofPart? := by
  rw [← parent_mem_components_iff]
  exact ⟨fun h => ⟨h.relative, h.forward⟩, fun h => ⟨h.1, h.2⟩⟩

instance (p : FilePath) : Decidable p.Descends := decidable_of_iff _ descends_iff.symm

/-! ## Appending -/

/-- A name goes down. -/
theorem descends_of_isName {name : String} (h : IsName name) : (FilePath.mk name).Descends := by
  refine ⟨isAbsolute_of_isName h, ?_⟩
  rw [components_of_isName h]
  simp

/-- What is appended has to go down as well as what it is appended to. -/
theorem descends_push_iff : (p.push q).Descends ↔ p.Descends ∧ q.Descends := by
  cases hq : q.isAbsolute with
  | true =>
    have hpush : p.push q = q := by rw [push, if_pos hq]
    have hnot : ¬ q.Descends := fun h => Bool.false_ne_true (h.relative.symm.trans hq)
    rw [hpush]
    exact iff_of_false hnot fun h => hnot h.2
  | false =>
    have hnone : Component.ofPart? [] = none := rfl
    simp only [descends_iff, isAbsolute_push hq, filterMap_parts_push hq hnone, List.mem_append,
      not_or, hq, true_and, and_assoc]

/-- Of parts that are appended one after the other all have to go down. -/
theorem descends_foldl_push_iff :
    (names.foldl (fun p name => p.push ⟨name⟩) p).Descends ↔
      p.Descends ∧ ∀ name ∈ names, (FilePath.mk name).Descends := by
  induction names generalizing p with
  | nil => simp
  | cons name names ih => rw [List.foldl_cons, ih, descends_push_iff, List.forall_mem_cons, and_assoc]

/-- What opens a path still does when relative parts are appended. -/
theorem opening_foldl_push (hp : p.text ≠ "")
    (h : ∀ name ∈ names, (FilePath.mk name).isAbsolute = false) :
    (names.foldl (fun p name => p.push ⟨name⟩) p).opening = p.opening := by
  induction names generalizing p with
  | nil => rfl
  | cons name names ih =>
    rw [List.forall_mem_cons] at h
    have hpushed : (p.push ⟨name⟩).text ≠ "" := by
      obtain ⟨front, htext, -⟩ := exists_text_push h.1 hp
      intro hempty
      rw [hempty] at htext
      simp at htext
    rw [List.foldl_cons, ih hpushed h.2, opening_push h.1 fun hempty => absurd hempty hp]

/-- Parts lead below the path that they are appended to, if they only go down and there is a name among
them. Only where there is nothing in front of them a dot must not open them. -/
theorem leadsBelow_push_iff (hq : q.Descends) {name : String} (hname : .named name ∈ q.components) :
    (p.push q).LeadsBelow p ↔ (p.text = "" → .here ∉ q.components) := by
  rw [here_mem_components_iff_head? hq.relative]
  constructor
  · rintro ⟨names, -, -, hcomponents⟩ hp hdot
    have hhere : .here ∈ q.components := (here_mem_components_iff_head? hq.relative).mpr hdot
    have hnone : p.components = [] := by
      rw [components_eq, parts_of_empty hp, opening, isAbsolute, hp, parts_of_empty hp]
      rfl
    rw [push_of_empty hp, hnone, List.nil_append] at hcomponents
    rw [hcomponents] at hhere
    simp at hhere
  · intro hhere
    obtain ⟨names, hnames⟩ := exists_forward hq.forward
    have hparts : q.parts.filterMap Component.ofPart? = names.map .named := by
      rw [← List.append_right_inj, ← components_eq]
      exact hnames.eq
    refine ⟨names, ?_, hnames.isName, ?_⟩
    · rintro rfl
      rw [components_eq, hparts, List.map_nil, List.append_nil] at hname
      exact q.isOpening_opening.named_not_mem name hname
    · rw [components_push_relative hq.relative hhere, hparts]

end CrudScaffold.FilePath
