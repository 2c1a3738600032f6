import CrudScaffold.Codec.Composite
import CrudScaffold.Proofs.Codec.Segments

/-!
# Composites and their written forms

Parsing and deserialising a text both read it as a composite. For components that keep the text
they are built from as their identifier, reading restores a composite from its written form exactly
when all its components are clear, and two composites that were read are the same exactly when their
texts are.
-/

namespace CrudScaffold

open Text

/-- Components that have the text they are built from as their identifier. -/
class CodecComponent (α : Type) extends Identifiable α, FromIdentifier α where
  identifier_fromIdentifier (text : String) : identifier (fromIdentifier text) = some text

export CodecComponent (identifier_fromIdentifier)

instance : CodecComponent String where
  identifier_fromIdentifier _ := rfl

namespace Composite

variable {κ : Type} [Composite κ] {arity : Arity}
  {decode : String → Except MalformedIdentifier κ} {value : String} {c : κ}

/-- The reader cuts a text into segments and builds a composite that has these as identifiers. -/
structure Reads (arity : Arity) (decode : String → Except MalformedIdentifier κ) : Prop where
  length_componentIds (c : κ) : (componentIds c).length = arity.count
  of_split_ok {value : String} {parts : List String} (h : Segments.split value arity = .ok parts) :
    ∃ c, decode value = .ok c ∧ componentIds c = parts.map some
  of_split_error {value : String} {fault : MalformedIdentifier}
    (h : Segments.split value arity = .error fault) : decode value = .error fault

/-- What is read has the segments of the text as identifiers. -/
theorem Reads.exists_split (hr : Reads arity decode) (h : decode value = .ok c) :
    ∃ parts, Segments.split value arity = .ok parts ∧ componentIds c = parts.map some := by
  cases hs : Segments.split value arity with
  | error fault =>
    rw [hr.of_split_error hs] at h
    cases h
  | ok parts =>
    obtain ⟨d, hd, hids⟩ := hr.of_split_ok hs
    rw [h] at hd
    obtain rfl := Except.ok.inj hd
    exact ⟨parts, rfl, hids⟩

/-- A written form is read exactly if all components are clear, and then as the same composite. -/
def Restores (arity : Arity) (decode : String → Except MalformedIdentifier κ) : Prop :=
  ∀ c e, encode c = some e →
    ((∀ id ∈ componentIds c, Segments.Clear id) → ∃ d, decode e = .ok d ∧ same d c = true) ∧
    (¬ (∀ id ∈ componentIds c, Segments.Clear id) → decode e = .error ⟨e, arity.count⟩)

/-- A reader of segments restores composites from their written forms. -/
theorem Reads.restores (hr : Reads arity decode) : Restores arity decode := by
  intro c e he
  have hlength := hr.length_componentIds c
  have hclear := Segments.exists_split_iff_clear hlength he
  refine ⟨fun h => ?_, fun h => ?_⟩
  · obtain ⟨parts, hs⟩ := hclear.mpr h
    obtain ⟨d, hd, hids⟩ := hr.of_split_ok hs
    refine ⟨d, hd, ?_⟩
    rw [same, hids, (Segments.eq_map_some_of_split hlength he hs).1, beq_self_eq_true]
  · exact hr.of_split_error (Segments.split_error_iff.mpr ⟨rfl, fun hs => h (hclear.mp hs)⟩)

/-- What splits is read, what is read is written and shown as its text, and composites that were
read are the same, with the same hash, exactly for the same texts. -/
structure Faithful (arity : Arity) (decode : String → Except MalformedIdentifier κ) : Prop where
  accepts (value : String) :
    (∃ c, decode value = .ok c) ↔ ∃ parts, Segments.split value arity = .ok parts
  writes {value : String} {c : κ} (h : decode value = .ok c) :
    encode c = some value ∧ display c = value
  separates {value other : String} {c d : κ} (hc : decode value = .ok c)
    (hd : decode other = .ok d) :
    (same c d = true ↔ value = other) ∧ (value = other → hashCode c = hashCode d)

/-- A reader of segments is faithful. -/
theorem Reads.faithful (hr : Reads arity decode) : Faithful arity decode where
  accepts value := by
    constructor
    · rintro ⟨c, hc⟩
      obtain ⟨parts, hs, -⟩ := hr.exists_split hc
      exact ⟨parts, hs⟩
    · rintro ⟨parts, hs⟩
      obtain ⟨c, hc, -⟩ := hr.of_split_ok hs
      exact ⟨c, hc⟩
  writes hc := by
    obtain ⟨parts, hs, hids⟩ := hr.exists_split hc
    have he := Segments.encode_of_split hs
    rw [← hids] at he
    refine ⟨he, ?_⟩
    rw [display, encode, he, Option.getD_some]
  separates {value other c d} hc hd := by
    obtain ⟨parts, hs, hids⟩ := hr.exists_split hc
    obtain ⟨others, ht, hids'⟩ := hr.exists_split hd
    have hsame : same c d = true ↔ value = other := by
      rw [same, beq_iff_eq]
      constructor
      · -- Equal identifiers are written as one text, and each of the two texts is what is written.
        intro heq
        have he := Segments.encode_of_split hs
        rw [← hids, heq, hids', Segments.encode_of_split ht] at he
        exact (Option.some.inj he).symm
      · rintro rfl
        rw [hc] at hd
        rw [Except.ok.inj hd]
    exact ⟨hsame, fun heq => hashCode_eq_of_same (hsame.mpr heq)⟩

end Composite

/-! ## The three composites -/

variable {α β γ δ : Type} {value : String} {parts : List String}

/-- The two segments go to the two slots in their order. -/
theorem Pair.decodeWith_of_split (left : String → α) (right : String → β)
    (h : Segments.split value .two = .ok parts) :
    ∃ l r, parts = [l, r] ∧ decodeWith value left right = .ok ⟨left l, right r⟩ := by
  match parts, Segments.length_of_split h with
  | [l, r], _ => exact ⟨l, r, rfl, by simp only [decodeWith, h]⟩

/-- The three segments go to the three slots in their order. -/
theorem Triple.decodeWith_of_split (left : String → α) (middle : String → β) (right : String → γ)
    (h : Segments.split value .three = .ok parts) :
    ∃ l m r, parts = [l, m, r] ∧
      decodeWith value left middle right = .ok ⟨left l, middle m, right r⟩ := by
  match parts, Segments.length_of_split h with
  | [l, m, r], _ => exact ⟨l, m, r, rfl, by simp only [decodeWith, h]⟩

/-- The four segments go to the four slots in their order. -/
theorem Quadruple.decodeWith_of_split (left : String → α) (innerLeft : String → β)
    (innerRight : String → γ) (right : String → δ) (h : Segments.split value .four = .ok parts) :
    ∃ l il ir r, parts = [l, il, ir, r] ∧
      decodeWith value left innerLeft innerRight right =
        .ok ⟨left l, innerLeft il, innerRight ir, right r⟩ := by
  match parts, Segments.length_of_split h with
  | [l, il, ir, r], _ => exact ⟨l, il, ir, r, rfl, by simp only [decodeWith, h]⟩

variable [CodecComponent α] [CodecComponent β]

/-- Pairs are read by segments. -/
theorem Pair.reads_decode :
    Composite.Reads .two (decode : String → Except MalformedIdentifier (Pair α β)) where
  length_componentIds _ := rfl
  of_split_ok h := by
    obtain ⟨l, r, rfl, hd⟩ := @decodeWith_of_split α β _ _ fromIdentifier fromIdentifier h
    refine ⟨_, hd, ?_⟩
    simp only [componentIds, identifier_fromIdentifier, List.map_cons, List.map_nil]
  of_split_error h := by simp only [decode, decodeWith, h]

variable [CodecComponent γ]

/-- Triples are read by segments. -/
theorem Triple.reads_decode :
    Composite.Reads .three (decode : String → Except MalformedIdentifier (Triple α β γ)) where
  length_componentIds _ := rfl
  of_split_ok h := by
    obtain ⟨l, m, r, rfl, hd⟩ :=
      @decodeWith_of_split α β γ _ _ fromIdentifier fromIdentifier fromIdentifier h
    refine ⟨_, hd, ?_⟩
    simp only [componentIds, identifier_fromIdentifier, List.map_cons, List.map_nil]
  of_split_error h := by simp only [decode, decodeWith, h]

variable [CodecComponent δ]

/-- Quadruples are read by segments. -/
theorem Quadruple.reads_decode :
    Composite.Reads .four (decode : String → Except MalformedIdentifier (Quadruple α β γ δ)) where
  length_componentIds _ := rfl
  of_split_ok h := by
    obtain ⟨l, il, ir, r, rfl, hd⟩ := @decodeWith_of_split α β γ δ _ _
      fromIdentifier fromIdentifier fromIdentifier fromIdentifier h
    refine ⟨_, hd, ?_⟩
    simp only [componentIds, identifier_fromIdentifier, List.map_cons, List.map_nil]
  of_split_error h := by simp only [decode, decodeWith, h]

/-! ## Both directions -/

namespace Composite

/-- What was written is read exactly if all components are present, not blank and free of the
separator, and then as these components; nothing is written exactly for absent and blank ones. So a
composite is restored from its written form exactly when it is fully populated in this sense. -/
theorem reading_undoes_writing :
    (∀ (arity : Arity) (ids : List (Option String)), ids.length = arity.count →
      (Segments.encode ids = none ↔ ∀ c ∈ ids, Segments.Blank c) ∧
      ∀ e, Segments.encode ids = some e →
        ((∃ parts, Segments.split e arity = .ok parts) ↔ ∀ c ∈ ids, Segments.Clear c) ∧
        (∀ parts, Segments.split e arity = .ok parts → ids = parts.map some) ∧
        (∀ fault, Segments.split e arity = .error fault → fault = ⟨e, arity.count⟩)) ∧
    (∀ (α β : Type) [CodecComponent α] [CodecComponent β],
      Restores .two (Pair.decode : String → Except _ (Pair α β))) ∧
    (∀ (α β γ : Type) [CodecComponent α] [CodecComponent β] [CodecComponent γ],
      Restores .three (Triple.decode : String → Except _ (Triple α β γ))) ∧
    (∀ (α β γ δ : Type) [CodecComponent α] [CodecComponent β] [CodecComponent γ] [CodecComponent δ],
      Restores .four (Quadruple.decode : String → Except _ (Quadruple α β γ δ))) := by
  refine ⟨fun arity ids hlength => ⟨Segments.encode_eq_none_iff, fun e he => ?_⟩, ?_, ?_, ?_⟩
  · refine ⟨Segments.exists_split_iff_clear hlength he, fun parts hs => ?_, fun fault hs => ?_⟩
    · exact (Segments.eq_map_some_of_split hlength he hs).1
    · exact (Segments.split_error_iff.mp hs).1
  · intros
    exact Pair.reads_decode.restores
  · intros
    exact Triple.reads_decode.restores
  · intros
    exact Quadruple.reads_decode.restores

/-- A component that holds a separator is not made up for by an absent one: what is written for
three components has three separators, and is refused. Two clear components are restored. -/
theorem surplus_separator_is_refused :
    Segments.encode [some "a_b", none, some "c"] = some "a_b__c" ∧
    Segments.split "a_b__c" .three = .error ⟨"a_b__c", 3⟩ ∧
    ∃ d : Pair String String, Pair.decode "alice_bob" = .ok d ∧ same d ⟨"alice", "bob"⟩ = true := by
  have hcut : Segments.encode [some "a_b", none, some "c"] = some "a_b__c" := by decide
  have hclear : ¬ ∀ c ∈ [some "a_b", none, some "c"], Segments.Clear c := by
    intro h
    obtain ⟨s, hs, -⟩ := h none (by simp)
    cases hs
  obtain ⟨hsegments, hpairs, -⟩ := reading_undoes_writing
  have hread := ((hsegments .three _ rfl).2 _ hcut).1
  refine ⟨hcut, ?_, ?_⟩
  · exact Segments.split_error_iff.mpr ⟨rfl, fun hs => hclear (hread.mp hs)⟩
  · refine (hpairs String String ⟨"alice", "bob"⟩ "alice_bob" (by decide)).1 ?_
    intro id hid
    have hid : id ∈ [some "alice", some "bob"] := hid
    rcases (by simpa using hid : id = some "alice" ∨ id = some "bob") with rfl | rfl
    · exact ⟨_, rfl, by decide, by decide⟩
    · exact ⟨_, rfl, by decide, by decide⟩

/-- A text is read exactly if it has one separator less than components and every stretch between
them holds something else than spaces; its parts are written as the text again, and go to the slots
in their order. So what was read is written and shown as its text, and composites that were read are
the same, with the same hash, exactly for the same texts. -/
theorem writing_undoes_reading :
    (∀ (value : String) (arity : Arity),
      ((∃ parts, Segments.split value arity = .ok parts) ↔
        value.toList.count separator + 1 = arity.count ∧
        ∀ p, IsPiece separator value.toList p → ∃ ch ∈ p, isSpace ch = false) ∧
      ∀ parts, Segments.split value arity = .ok parts →
        Segments.encode (parts.map some) = some value) ∧
    (∀ (α β : Type) (value : String) (left : String → α) (right : String → β) (parts),
      Segments.split value .two = .ok parts →
      ∃ l r, parts = [l, r] ∧ Pair.decodeWith value left right = .ok ⟨left l, right r⟩) ∧
    (∀ (α β γ : Type) (value : String) (left : String → α) (middle : String → β)
      (right : String → γ) (parts), Segments.split value .three = .ok parts →
      ∃ l m r, parts = [l, m, r] ∧
        Triple.decodeWith value left middle right = .ok ⟨left l, middle m, right r⟩) ∧
    (∀ (α β γ δ : Type) (value : String) (left : String → α) (innerLeft : String → β)
      (innerRight : String → γ) (right : String → δ) (parts),
      Segments.split value .four = .ok parts →
      ∃ l il ir r, parts = [l, il, ir, r] ∧
        Quadruple.decodeWith value left innerLeft innerRight right =
          .ok ⟨left l, innerLeft il, innerRight ir, right r⟩) ∧
    (∀ (α β : Type) [CodecComponent α] [CodecComponent β],
      Faithful .two (Pair.decode : String → Except _ (Pair α β))) ∧
    (∀ (α β γ : Type) [CodecComponent α] [CodecComponent β] [CodecComponent γ],
      Faithful .three (Triple.decode : String → Except _ (Triple α β γ))) ∧
    (∀ (α β γ δ : Type) [CodecComponent α] [CodecComponent β] [CodecComponent γ] [CodecComponent δ],
      Faithful .four (Quadruple.decode : String → Except _ (Quadruple α β γ δ))) := by
  refine ⟨fun _ _ => ⟨Segments.exists_split_iff, fun _ => Segments.encode_of_split⟩,
    ?_, ?_, ?_, ?_, ?_, ?_⟩
  · intro α β value left right parts h
    exact Pair.decodeWith_of_split left right h
  · intro α β γ value left middle right parts h
    exact Triple.decodeWith_of_split left middle right h
  · intro α β γ δ value left innerLeft innerRight right parts h
    exact Quadruple.decodeWith_of_split left innerLeft innerRight right h
  · intros
    exact Pair.reads_decode.faithful
  · intros
    exact Triple.reads_decode.faithful
  · intros
    exact Quadruple.reads_decode.faithful

/-- Outer blanks belong to the text: they reach the slot builder, are written again, and tell two
pairs apart. -/
theorem outer_blanks_are_kept :
    Segments.split " a_b" .two = .ok [" a", "b"] ∧
    Segments.encode [some " a", some "b"] = some " a_b" ∧
    (∃ l r, [" a", "b"] = [l, r] ∧
      Pair.decodeWith " a_b" String.length id = .ok ⟨l.length, r⟩) ∧
    ∃ c d : Pair String String, Pair.decode " a_b" = .ok c ∧ Pair.decode "a_b" = .ok d ∧
      display c = " a_b" ∧ same c d = false := by
  have hs : Segments.split " a_b" .two = .ok [" a", "b"] := rfl
  have hc : (Pair.decode " a_b" : Except _ (Pair String String)) = .ok ⟨" a", "b"⟩ := rfl
  have hd : (Pair.decode "a_b" : Except _ (Pair String String)) = .ok ⟨"a", "b"⟩ := rfl
  obtain ⟨hsegments, hbuild, -, -, hpairs, -⟩ := writing_undoes_reading
  have hfaithful := hpairs String String
  refine ⟨hs, (hsegments _ _).2 _ hs, hbuild _ _ _ _ _ _ hs, _, _, hc, hd,
    (hfaithful.writes hc).2, ?_⟩
  rw [Bool.eq_false_iff]
  intro hsame
  exact absurd ((hfaithful.separates hc hd).1.mp hsame) (by decide)

end Composite

end CrudScaffold
