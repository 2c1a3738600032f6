import CrudScaffold.Manifest.Validation
import Mathlib.Data.List.Nodup

/-!
# Declarations without faults

The check of a declaration finds no fault exactly if the declaration is in order: it has a name and
one kind of identifier, its fields have names of their own, and relations that lead back say where
to.
-/

namespace CrudScaffold.Manifest

/-- The field is declared to lead to at most one instance of another model. -/
def Field.IsToOne (f : Field) : Prop := f.cardinality.any Cardinality.isToOne = true

namespace Model

variable {m : Model} {f : Field} {before fields : List Field}

/-- A declaration that is in order. -/
structure InOrder (m : Model) : Prop where
  named : blankName m.name = false
  /-- The identifier has either a type or components. -/
  identified : ∃ i, m.identifier = some i ∧ i.type.isSome = !i.composite.isSome
  fields_named : ∀ f ∈ m.fields, blankName f.name = false
  fields_distinct : (m.fields.map Field.name).Nodup
  /-- A bidirectional to-one relation names its reverse field. -/
  reverse_named : ∀ f ∈ m.fields, f.bidirectional = true → f.IsToOne → f.reverse.isSome = true

private theorem identifierFaults_eq_nil_iff :
    m.identifierFaults = [] ↔ ∃ i, m.identifier = some i ∧ i.type.isSome = !i.composite.isSome := by
  unfold identifierFaults
  cases m.identifier with
  | none => simp
  | some i =>
    obtain ⟨field, type, composite⟩ := i
    cases type <;> cases composite <;> simp

private theorem fieldFaults_eq_nil_iff :
    m.fieldFaults before f = [] ↔ blankName f.name = false ∧ (∀ g ∈ before, g.name ≠ f.name) ∧
      (f.bidirectional = true → f.IsToOne → f.reverse.isSome = true) := by
  have hreverse : ¬ (f.bidirectional && f.reverse.isNone && f.cardinality.any Cardinality.isToOne) =
      true ↔ (f.bidirectional = true → f.IsToOne → f.reverse.isSome = true) := by
    unfold Field.IsToOne
    cases f.bidirectional <;> cases f.reverse <;> simp
  have hbefore : ¬ (before.any fun g => g.name == f.name) = true ↔
      ∀ g ∈ before, g.name ≠ f.name := by
    simp
  rw [← hreverse, ← hbefore, fieldFaults]
  cases blankName f.name with
  | true => simp
  | false => simp [List.append_eq_nil_iff, ite_eq_right_iff]

/-- Each field is in order after those before it exactly if all of them are in order and have names
of their own, apart from each other and from those before. -/
theorem fieldsFaults_eq_nil_iff :
    m.fieldsFaults before fields = [] ↔
      (∀ f ∈ fields, blankName f.name = false) ∧
      ((fields.map Field.name).Nodup ∧ ∀ f ∈ fields, ∀ g ∈ before, g.name ≠ f.name) ∧
      ∀ f ∈ fields, f.bidirectional = true → f.IsToOne → f.reverse.isSome = true := by
  induction fields generalizing before with
  | nil => simp [fieldsFaults]
  | cons f rest ih =>
    have hapart : (∀ f' ∈ rest, ∀ g ∈ before ++ [f], g.name ≠ f'.name) ↔
        (∀ f' ∈ rest, ∀ g ∈ before, g.name ≠ f'.name) ∧ f.name ∉ rest.map Field.name := by
      simp only [List.forall_mem_append, List.forall_mem_singleton, forall_and, List.mem_map,
        not_exists, not_and, ne_comm]
    rw [fieldsFaults, List.append_eq_nil_iff, fieldFaults_eq_nil_iff, ih, hapart, List.map_cons,
      List.nodup_cons, List.forall_mem_cons, List.forall_mem_cons, List.forall_mem_cons]
    constructor
    · rintro ⟨⟨hnamed, hnew, hreverse⟩, hrestNamed, ⟨hdistinct, hothers, hfirst⟩, hrestReverse⟩
      exact ⟨⟨hnamed, hrestNamed⟩, ⟨⟨hfirst, hdistinct⟩, hnew, hothers⟩, hreverse, hrestReverse⟩
    · rintro ⟨⟨hnamed, hrestNamed⟩, ⟨⟨hfirst, hdistinct⟩, hnew, hothers⟩, hreverse, hrestReverse⟩
      exact ⟨⟨hnamed, hnew, hreverse⟩, hrestNamed, ⟨hdistinct, hothers, hfirst⟩, hrestReverse⟩

/-- The check accepts exactly the declarations that are in order. -/
theorem isValid_iff : m.findings.isValid = true ↔ m.InOrder := by
  have hname : (if blankName m.name then [Fault.emptyModelName] else []) = [] ↔
      blankName m.name = false := by
    rw [ite_eq_right_iff]
    simp
  have hnone : ∀ f ∈ m.fields, ∀ g ∈ ([] : List Field), g.name ≠ f.name := fun _ _ => nofun
  rw [Findings.isValid, List.isEmpty_iff, findings, List.append_eq_nil_iff, List.append_eq_nil_iff,
    hname, identifierFaults_eq_nil_iff, fieldsFaults_eq_nil_iff, and_iff_left hnone]
  constructor
  · rintro ⟨⟨hnamed, hidentified⟩, hfields, hdistinct, hreverse⟩
    exact ⟨hnamed, hidentified, hfields, hdistinct, hreverse⟩
  · rintro ⟨hnamed, hidentified, hfields, hdistinct, hreverse⟩
    exact ⟨⟨hnamed, hidentified⟩, hfields, hdistinct, hreverse⟩

end Model

end CrudScaffold.Manifest
