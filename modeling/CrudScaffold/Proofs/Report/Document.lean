import CrudScaffold.Proofs.Except
import CrudScaffold.Proofs.Toml.Sheet
import CrudScaffold.Report.Document

/-!
# Reports are read again

The text of a report holds all that is in it. Its sheet can be written, so the reader gets the tables of
the sheet back. From these every field is read as it was written down: names of alternatives are found
again, what is absent has its default, and a list is read in either of its forms.
-/

namespace CrudScaffold

open Toml Toml.Decoder

variable {α β : Type} {es : Entries} {name : String}

/-! ## Fields of a table -/

namespace Toml

/-- A named alternative is read from its name. -/
theorem Decoder.variant_string {variants : List (String × α)} {a : α}
    (h : variants.lookup name = some a) : variant variants (.string name) = .ok a := by
  rw [variant, variant.named, h]

private theorem Decoder.check_eq_ok {d : Decoder α} {v : Value} {a : α} (h : d v = .ok a) :
    d.check v = .ok () := by
  rw [check, h]
  rfl

/-- A record is built from a table whose values have their shapes. -/
theorem record_table {checks : List (String × (Value → Except ShapeError Unit))}
    {build : Fields → Except ShapeError α}
    (h : ∀ e ∈ es, ∀ check ∈ checks.lookup e.1, check e.2 = .ok ()) :
    record name checks build (.table es) = build ⟨es, none⟩ := by
  rw [record, record.ofEntries, forM_eq_ok_iff.mpr]
  · rfl
  · intro e he
    split
    split
    · next check hcheck => exact h _ he check hcheck
    · rfl

namespace Fields

variable {d : Decoder α}

private theorem required_of_lookup {v : Value} (h : es.lookup name = some v) :
    (⟨es, none⟩ : Fields).required name d = d v := by
  rw [required, Entries.get?, h]

private theorem withDefault_of_lookup {v : Value} {default : α} (h : es.lookup name = some v) :
    (⟨es, none⟩ : Fields).withDefault name d default = d v := by
  rw [withDefault, Entries.get?, h]

/-- What is there or not is read as it was written. -/
theorem withDefault_optional {o : Option α} {write : α → Value} (h : es.lookup name = o.map write)
    (hread : ∀ a, d (write a) = .ok a) :
    (⟨es, none⟩ : Fields).withDefault name (fun v => (d v).map some) none = .ok o := by
  rw [withDefault, Entries.get?, h]
  cases o with
  | none => rfl
  | some a => exact congrArg (Except.map some) (hread a)

end Fields

/-! ## Tables of sheets -/

private theorem Sheet.entries_texts (texts : List (String × String)) :
    (Sheet.mk texts []).entries = texts.map fun (k, s) => (k, .string s) := by
  simp [entries, emptyEntries, listEntries]

private theorem Sheet.keys_texts (texts : List (String × String)) :
    (Sheet.mk texts []).entries.map Prod.fst = texts.map Prod.fst := by
  rw [entries_texts, List.map_map]
  rfl

/-- A list of tables as it is written, in brackets where it holds nothing. -/
def writtenList : List Entries → Value
  | [] => .array []
  | t :: rest => .tables (t :: rest)

private theorem Sheet.entries_singleton (texts : List (String × String)) (key : String) (items : List Sheet) :
    (Sheet.mk texts [.mk key items]).entries =
      texts.map (fun (k, s) => (k, .string s)) ++ [(key, writtenList (itemTables items))] := by
  cases items with
  | nil => simp [entries, emptyEntries, listEntries, itemTables, tablesUnder, writtenList]
  | cons s items => simp [entries, emptyEntries, listEntries, itemTables, tablesUnder, writtenList]

private theorem Sheet.keys_singleton (texts : List (String × String)) (key : String) (items : List Sheet) :
    (Sheet.mk texts [.mk key items]).entries.map Prod.fst = texts.map Prod.fst ++ [key] := by
  rw [entries_singleton, List.map_append, List.map_map]
  rfl

/-- A list is read in either form. -/
theorem Decoder.list_writtenList {d : Decoder α} {sheet : α → Sheet}
    (h : ∀ a, d (.table (sheet a).entries) = .ok a) (l : List α) :
    list d (writtenList (itemTables (l.map sheet))) = .ok l := by
  have hitems (l : List α) : (itemTables (l.map sheet)).mapM (fun t => d (.table t)) = .ok l := by
    induction l with
    | nil => rfl
    | cons a l ih =>
      rw [List.map_cons, itemTables, List.mapM_cons, h, ih]
      rfl
  cases l with
  | nil => rfl
  | cons a l => exact hitems (a :: l)

end Toml

/-! ## Reports -/

private theorem check_string (s : String) : string.check (.string s) = .ok () := rfl

/-- What is written of an artifact is read as it was. -/
theorem ArtifactReport.decode_sheet (a : ArtifactReport) :
    decode (.table a.sheet.entries) = .ok a := by
  have hname : a.sheet.entries.lookup "name" = some (.string a.name) := rfl
  have hkind : a.sheet.entries.lookup "kind" = some (.string a.kind.text) := rfl
  have houtcome : a.sheet.entries.lookup "outcome" = some (.string a.outcome.text) := rfl
  have hreason : a.sheet.entries.lookup "reason" = a.reason.map .string := by
    obtain ⟨_, _, _, _ | reason⟩ := a
    · rfl
    · rfl
  -- The checks look at what is there, in its order; the fields are then taken in their own.
  rw [decode, record_table]
  · rw [Fields.required_of_lookup hname, Fields.required_of_lookup hkind,
      Fields.required_of_lookup houtcome, Fields.withDefault_optional hreason fun _ => rfl,
      variant_string a.kind.lookup_text, variant_string a.outcome.lookup_text]
    rfl
  · have hkind := check_eq_ok (variant_string a.kind.lookup_text)
    have houtcome := check_eq_ok (variant_string a.outcome.lookup_text)
    rw [sheet, Sheet.entries_texts]
    simp [optionalText, List.lookup_cons, check_string, hkind, houtcome]

/-- What is written of a model is read as it was. -/
theorem ModelReport.decode_sheet (m : ModelReport) : decode (.table m.sheet.entries) = .ok m := by
  have hlist := list_writtenList ArtifactReport.decode_sheet m.artifacts
  have hmodel : m.sheet.entries.lookup "model" = some (.string m.model) := rfl
  have hstatus : m.sheet.entries.lookup "status" = some (.string m.status.text) := rfl
  have hkind : m.sheet.entries.lookup "error_kind" = m.errorKind.map fun k => .string k.text := by
    rw [sheet, Sheet.entries_singleton]
    cases m.errorKind <;> cases m.reason <;> rfl
  have hreason : m.sheet.entries.lookup "reason" = m.reason.map .string := by
    rw [sheet, Sheet.entries_singleton]
    cases m.errorKind <;> cases m.reason <;> rfl
  have hartifacts : m.sheet.entries.lookup "artifacts" =
      some (writtenList (itemTables (m.artifacts.map ArtifactReport.sheet))) := by
    rw [sheet, Sheet.entries_singleton]
    cases m.errorKind <;> cases m.reason <;> rfl
  rw [decode, record_table]
  · rw [Fields.required_of_lookup hmodel, Fields.required_of_lookup hstatus,
      Fields.withDefault_optional hkind fun k => variant_string k.lookup_text,
      Fields.withDefault_optional hreason fun _ => rfl, Fields.withDefault_of_lookup hartifacts,
      hlist, variant_string m.status.lookup_text]
    rfl
  · have hstatus := check_eq_ok (variant_string m.status.lookup_text)
    have hkind (k : ErrorKind) := check_eq_ok (variant_string k.lookup_text)
    rw [sheet, Sheet.entries_singleton]
    simp [optionalText, or_imp, forall_and, List.lookup_cons, check_string, hstatus, hkind,
      check_eq_ok hlist]

/-- What is written of a run is read as it was. -/
theorem RunReport.decode_sheet (r : RunReport) : decode (.table r.sheet.entries) = .ok r := by
  have hlist := list_writtenList ModelReport.decode_sheet r.models
  have hentries : r.sheet.entries =
      [("models", writtenList (itemTables (r.models.map ModelReport.sheet)))] :=
    Sheet.entries_singleton [] "models" _
  rw [hentries, decode, record_table]
  · rw [Fields.withDefault_of_lookup rfl, hlist]
    rfl
  · simp [List.lookup_cons, check_eq_ok hlist]

/-! ## What can be written -/

variable {depth : Nat} {keys : List String}

/-- It is enough that the keys are among such as differ and need no quotes. -/
theorem Toml.Sheet.isWritable_of_sublist {texts : List (String × String)} {lists : List SheetList}
    (hkeys : ((Sheet.mk texts lists).entries.map Prod.fst).Sublist keys)
    (hbare : ∀ key ∈ keys, IsBareKey key) (hnodup : keys.Nodup) (hroom : depth ≤ keyPartLimit)
    (hitems : ∀ key items, .mk key items ∈ lists → ∀ s ∈ items, s.IsWritable (depth + 1)) :
    (Sheet.mk texts lists).IsWritable depth :=
  .mk hroom (fun key hkey => hbare key (hkeys.mem hkey)) (hnodup.sublist hkeys) hitems

private theorem Toml.Sheet.isWritable_singleton {texts : List (String × String)} {key : String}
    {sheet : α → Sheet} {l : List α} (hkeys : (texts.map Prod.fst ++ [key]).Sublist keys)
    (hbare : ∀ key ∈ keys, IsBareKey key) (hnodup : keys.Nodup) (hroom : depth ≤ keyPartLimit)
    (hsheet : ∀ a, (sheet a).IsWritable (depth + 1)) :
    (Sheet.mk texts [.mk key (l.map sheet)]).IsWritable depth := by
  rw [← Sheet.keys_singleton texts key (l.map sheet)] at hkeys
  refine isWritable_of_sublist hkeys hbare hnodup hroom ?_
  intro key' items hmem s hs
  obtain ⟨rfl, rfl⟩ : key' = key ∧ items = l.map sheet := by simpa using hmem
  obtain ⟨a, -, rfl⟩ := List.mem_map.mp hs
  exact hsheet a

private theorem sublist_optionalText (key : String) (text : Option String) :
    ((optionalText key text).map Prod.fst).Sublist [key] := by
  cases text with
  | none => exact List.nil_sublist [key]
  | some s => exact List.Sublist.refl [key]

/-- The report on an artifact can be written as a table. -/
theorem ArtifactReport.isWritable_sheet (a : ArtifactReport) : a.sheet.IsWritable 2 := by
  have hkeys : (a.sheet.entries.map Prod.fst).Sublist ["name", "kind", "outcome", "reason"] := by
    rw [sheet, Sheet.keys_texts, List.map_append]
    exact (List.Sublist.refl _).append (sublist_optionalText "reason" a.reason)
  exact Sheet.isWritable_of_sublist hkeys (by decide +kernel) (by decide +kernel) (by decide)
    (by simp)

/-- The report on a model can be written as a table. -/
theorem ModelReport.isWritable_sheet (m : ModelReport) : m.sheet.IsWritable 1 := by
  have hkeys : (([("model", m.model), ("status", m.status.text)] ++
      optionalText "error_kind" (m.errorKind.map ErrorKind.text) ++
      optionalText "reason" m.reason).map Prod.fst).Sublist
        ["model", "status", "error_kind", "reason"] := by
    rw [List.map_append, List.map_append]
    exact ((List.Sublist.refl _).append (sublist_optionalText "error_kind" _)).append
      (sublist_optionalText "reason" m.reason)
  exact Sheet.isWritable_singleton (hkeys.append (List.Sublist.refl _)) (by decide +kernel)
    (by decide +kernel) (by decide) ArtifactReport.isWritable_sheet

/-- The report on a run can be written as a document. -/
theorem RunReport.isWritable_sheet (r : RunReport) : r.sheet.IsWritable 0 :=
  Sheet.isWritable_singleton (List.Sublist.refl ["models"]) (by decide +kernel) (by decide +kernel)
    (by decide) ModelReport.isWritable_sheet

/-- Whatever a report says, it is read from its text again. -/
theorem RunReport.ofText_toText (r : RunReport) : ofText r.toText = .ok r := by
  rw [ofText, Decoder.ofText, toText, Sheet.parse_toText r.isWritable_sheet]
  simp only [r.decode_sheet]
  rfl

end CrudScaffold
