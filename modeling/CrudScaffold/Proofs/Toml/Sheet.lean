import CrudScaffold.Proofs.Toml.Draft
import CrudScaffold.Proofs.Toml.Line
import Mathlib.Data.List.Forall2
import Mathlib.Data.List.Nodup

/-!
# Sheets are read again

The lines of a sheet lead a document under construction from one place to the next: those of its texts
and of its empty lists fill the current table, and behind them every header opens an item that is
filled in the same way. What is read in the end is the table of the sheet. The keys of a sheet have to be
written without quotes and to differ, and the headers have to be short enough for the reader.
-/

namespace CrudScaffold.Toml

open Draft Node

variable {key : String} {lines lines' : List String} {st : Statement} {d d' d'' : Draft}
  {frames : List Frame} {es pairs : Entries} {done : List Entries} {items : List Sheet}
  {lists : List SheetList} {s : Sheet} {depth : Nat}

/-! ## From line to line -/

/-- The lines lead from one document under construction to another. -/
def Leads (lines : List String) (d d' : Draft) : Prop :=
  ∃ ss, StateAll lines ss ∧ ss.foldlM Draft.add d = some d'

namespace Leads

/-- No lines leave a draft as it is. -/
theorem refl (d : Draft) : Leads [] d d := ⟨[], .nil, rfl⟩

/-- Lines lead on from where others led. -/
theorem append (h : Leads lines d d') (h' : Leads lines' d' d'') : Leads (lines ++ lines') d d'' := by
  obtain ⟨ss, hss, hd⟩ := h
  obtain ⟨ss', hss', hd'⟩ := h'
  refine ⟨ss ++ ss', hss.append hss', ?_⟩
  rw [List.foldlM_append, hd]
  exact hd'

/-- A blank line changes nothing. -/
theorem blank (h : Leads lines d d') : Leads ("" :: lines) d d' := by
  obtain ⟨ss, hss, hd⟩ := h
  exact ⟨ss, .blank hss, hd⟩

/-- A line leads to the draft with its statement. -/
theorem line {first : String} (hline : States first st) (hadd : d.add st = some d')
    (h : Leads lines d' d'') : Leads (first :: lines) d d'' := by
  obtain ⟨ss, hss, hd⟩ := h
  refine ⟨st :: ss, .line hline hss, ?_⟩
  rw [List.foldlM_cons, hadd]
  exact hd

/-- An empty line in front makes no difference. -/
theorem withoutLeadingBlank (h : Leads lines d d') : Leads (withoutLeadingBlank lines) d d' := by
  obtain ⟨ss, hss, hd⟩ := h
  refine ⟨ss, ?_, hd⟩
  unfold Toml.withoutLeadingBlank
  split
  · cases hss with
    | blank hss => exact hss
    | line hline =>
      obtain ⟨c, cs, hcs, -⟩ := hline.starts
      cases hcs
  · exact hss

/-- Lines that lead to a finished document are read as it. -/
theorem parse (h : Leads lines .empty d) (hd : d.Settles es) : parse (linesText lines) = some es := by
  obtain ⟨ss, hss, hfold⟩ := h
  rw [parse_linesText hss, documentOf, hfold]
  simp only [Option.bind_eq_bind, Option.bind_some]
  rw [hd, Option.bind_some, entriesToValues_ofEntries]

end Leads

/-! ## Pairs -/

/-- The line gives the key of an entry its value, which has no tables of its own. -/
structure StatesEntry (line : String) (e : String × Value) : Prop where
  states : States line (.pair [] e.1 e.2)
  leaf : ofValue e.2 = .leaf e.2

private theorem forall₂_texts {texts : List (String × String)} (h : ∀ e ∈ texts, IsBareKey e.1) :
    List.Forall₂ StatesEntry (texts.map fun (k, s) => k ++ " = " ++ writeText s)
      (texts.map fun (k, s) => (k, .string s)) := by
  rw [List.forall₂_map_left_iff, List.forall₂_map_right_iff, List.forall₂_same]
  intro e he
  exact ⟨states_text (h e he) e.2, rfl⟩

private theorem forall₂_empty (h : ∀ key ∈ (emptyEntries lists).map Prod.fst, IsBareKey key) :
    List.Forall₂ StatesEntry (emptyLines lists) (emptyEntries lists) := by
  induction lists with
  | nil => exact .nil
  | cons l lists ih =>
    obtain ⟨key, _ | ⟨s, items⟩⟩ := l
    · obtain ⟨hkey, hrest⟩ := List.forall_mem_cons.mp h
      exact .cons ⟨states_empty hkey, rfl⟩ (ih hrest)
    · exact ih h

private theorem key_not_mem_of_nodup {e : String × Value}
    (h : ((es ++ e :: pairs).map Prod.fst).Nodup) :
    e.1 ∉ es.map Prod.fst := by
  intro hmem
  rw [List.map_append, List.nodup_append] at h
  exact h.2.2 e.1 hmem e.1 List.mem_cons_self rfl

/-- Lines of pairs with new keys fill the current table. -/
theorem leads_pairs (h : List.Forall₂ StatesEntry lines pairs) (hd : d.current = ofEntries es)
    (hkeys : ((es ++ pairs).map Prod.fst).Nodup) :
    Leads lines d { d with current := ofEntries (es ++ pairs) } := by
  induction h generalizing d es with
  | nil =>
    rw [List.append_nil, ← hd]
    exact .refl d
  | @cons line e lines pairs hline _ ih =>
    have hkey : e.1 ∉ es.map Prod.fst := key_not_mem_of_nodup hkeys
    rw [List.append_cons] at hkeys ⊢
    exact .line hline.states (add_pair hd hkey hline.leaf) (ih rfl hkeys)

/-! ## Sheets -/

/-- In this depth of a document the sheet can be written so that it is read again. -/
inductive Sheet.IsWritable : Nat → Sheet → Prop where
  | mk {depth : Nat} {texts : List (String × String)} {lists : List SheetList}
      (room : depth ≤ keyPartLimit)
      (bare : ∀ key ∈ (Sheet.mk texts lists).entries.map Prod.fst, IsBareKey key)
      (nodup : ((Sheet.mk texts lists).entries.map Prod.fst).Nodup)
      (items : ∀ key items, .mk key items ∈ lists → ∀ s ∈ items, IsWritable (depth + 1) s) :
      IsWritable depth (.mk texts lists)

private theorem Sheet.IsWritable.depth_le (h : s.IsWritable depth) : depth ≤ keyPartLimit := by
  cases h with
  | mk room => exact room

/-- At the start of a table so deep in a document, the lines of the sheet fill it. -/
def Sheet.IsRead (depth : Nat) (s : Sheet) : Prop :=
  ∀ (d : Draft) (frames : List Frame), frames.length = depth → (∀ f ∈ frames, IsBareKey f.key) →
    d.current = [] → d.StandsAt frames →
    ∃ d', Leads (s.lines (pathText (frames.map Frame.key))) d d' ∧ d'.Settles (plug frames s.entries)

private theorem tablesUnder_append_singleton (key : String) (ts : List Entries) (t : Entries) :
    tablesUnder key (ts ++ [t]) = [(key, .tables (ts ++ [t]))] := by
  cases ts <;> rfl

/-- The lines of the sheets of a list add them to it. -/
theorem leads_itemLines (hpath : ∀ f ∈ frames, IsBareKey f.key) (hroom : frames.length < keyPartLimit)
    (hkey : IsBareKey key) (hfresh : key ∉ es.map Prod.fst)
    (hitems : ∀ s ∈ items, s.IsRead (frames.length + 1))
    (hd : d.Settles (plug frames (es ++ tablesUnder key done))) :
    ∃ d', Leads (itemLines (pathText (frames.map Frame.key ++ [key])) items) d d' ∧
      d'.Settles (plug frames (es ++ tablesUnder key (done ++ itemTables items))) := by
  -- Every sheet that is read joins those in front of the next one.
  induction items generalizing d done with
  | nil => exact ⟨d, .refl d, by simpa [itemTables] using hd⟩
  | cons s items ih =>
    obtain ⟨hs, hitems⟩ := List.forall_mem_cons.mp hitems
    let f : Frame := ⟨es, key, done, hfresh⟩
    have hheader : States ("[[" ++ pathText (frames.map Frame.key ++ [key]) ++ "]]")
        (.itemHeader (frames.map Frame.key) key) :=
      states_itemHeader (List.forall_mem_map.mpr hpath) hkey (by simpa using hroom)
    have hpath' : ∀ f' ∈ frames ++ [f], IsBareKey f'.key :=
      List.forall_mem_append.mpr ⟨hpath, List.forall_mem_singleton.mpr hkey⟩
    obtain ⟨d₁, hlines, hd₁⟩ := hs (item frames f) (frames ++ [f]) (by simp) hpath' rfl
      (standsAt_item frames f)
    rw [List.map_append, List.map_singleton] at hlines
    rw [plug_append_singleton, ← tablesUnder_append_singleton] at hd₁
    obtain ⟨d₂, hrest, hd₂⟩ := ih hitems hd₁
    refine ⟨d₂, (Leads.line hheader (add_itemHeader (f := f) hd) hlines).blank.append hrest, ?_⟩
    rwa [List.append_assoc] at hd₂

/-- The lines of the lists of a sheet add them to its table. -/
theorem leads_listLines (hpath : ∀ f ∈ frames, IsBareKey f.key)
    (hbare : ∀ key ∈ (listEntries lists).map Prod.fst, IsBareKey key)
    (hkeys : ((es ++ listEntries lists).map Prod.fst).Nodup)
    (hitems : ∀ key items, .mk key items ∈ lists → ∀ s ∈ items,
      frames.length < keyPartLimit ∧ s.IsRead (frames.length + 1))
    (hd : d.Settles (plug frames es)) :
    ∃ d', Leads (listLines (pathText (frames.map Frame.key)) lists) d d' ∧
      d'.Settles (plug frames (es ++ listEntries lists)) := by
  induction lists generalizing d es with
  | nil => exact ⟨d, .refl d, by simpa [listEntries] using hd⟩
  | cons l lists ih =>
    obtain ⟨key, items⟩ := l
    obtain ⟨hfirst, hlists⟩ : (∀ s ∈ items, _) ∧ ∀ key items, .mk key items ∈ lists → _ :=
      ⟨hitems key items List.mem_cons_self, fun _ _ h => hitems _ _ (List.mem_cons_of_mem _ h)⟩
    rw [listLines, subpath_pathText]
    cases items with
    -- An empty list has been stated among the pairs.
    | nil => exact ih hbare hkeys hlists hd
    | cons s items =>
      have hentries : listEntries (.mk key (s :: items) :: lists) =
          (key, .tables (itemTables (s :: items))) :: listEntries lists := rfl
      rw [hentries] at hbare hkeys ⊢
      obtain ⟨hkey, hbare⟩ := List.forall_mem_cons.mp hbare
      have hfresh : key ∉ es.map Prod.fst := key_not_mem_of_nodup hkeys
      have hroom : frames.length < keyPartLimit := (hfirst s List.mem_cons_self).1
      have hbegin : d.Settles (plug frames (es ++ tablesUnder key [])) := by
        rwa [tablesUnder, List.append_nil]
      rw [List.append_cons es] at hkeys ⊢
      have hread : ∀ s' ∈ s :: items, s'.IsRead (frames.length + 1) := fun s' hs' => (hfirst s' hs').2
      obtain ⟨d₁, hlines, hd₁⟩ := leads_itemLines hpath hroom hkey hfresh hread hbegin
      obtain ⟨d₂, hrest, hd₂⟩ := ih hbare hkeys hlists hd₁
      exact ⟨d₂, hlines.append hrest, hd₂⟩

private theorem Sheet.IsWritable.isRead (h : s.IsWritable depth) : s.IsRead depth := by
  induction h with
  | @mk depth texts lists room bare nodup items ih =>
    rintro d frames rfl hpath hcurrent hstands
    rw [Sheet.entries, List.map_append, List.map_append] at bare
    obtain ⟨hfilled, hlists⟩ := List.forall_mem_append.mp bare
    obtain ⟨htexts, hempty⟩ := List.forall_mem_append.mp hfilled
    have hpairs := List.rel_append (forall₂_texts (by simpa using htexts)) (forall₂_empty hempty)
    have hitems : ∀ key items, .mk key items ∈ lists → ∀ s ∈ items,
        frames.length < keyPartLimit ∧ s.IsRead (frames.length + 1) :=
      fun key inner hmem s hs => ⟨(items key inner hmem s hs).depth_le, ih key inner hmem s hs⟩
    rw [Sheet.entries] at nodup
    rw [Sheet.lines, Sheet.entries]
    obtain ⟨d', hlines, hd'⟩ := leads_listLines hpath hlists nodup hitems (hstands _)
    rw [List.map_append] at nodup
    have hstart : d.current = ofEntries [] := hcurrent
    exact ⟨d', (leads_pairs hpairs hstart nodup.of_append_left).append hlines, hd'⟩

/-- A sheet that can be written is read again. -/
theorem Sheet.parse_toText (h : s.IsWritable 0) : parse s.toText = some s.entries := by
  obtain ⟨d, hlines, hd⟩ := h.isRead .empty [] rfl (by simp) rfl standsAt_empty
  exact hlines.withoutLeadingBlank.parse hd

end CrudScaffold.Toml
