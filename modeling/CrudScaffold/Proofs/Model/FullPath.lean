import CrudScaffold.Proofs.Model.Filing
import CrudScaffold.Proofs.Model.Lookup
import CrudScaffold.Proofs.Model.WellFormed

/-!
# Full paths as references

An indexed type is found by its full path exactly if the path is read as the name of the type. A crate
in front of a reference is dropped, but one in front of a filed name is not: a type that is filed below
`crate` is not found there. What is left of its path is looked up as that of another type, or, directly
below the crate, as a simple name.
-/

namespace CrudScaffold

open Text

/-! ## Names and their paths -/

namespace QualifiedName

/-- The path of the name is a reference to it: it is read as the name, and no crate is dropped in front
of it. -/
structure Referable (n : QualifiedName) : Prop where
  named : n.name ≠ ""
  segment : IsSegment n.name.toList
  trimmed : trim n.path.toList = n.path.toList
  outside : ¬ "crate::".toList <+: n.path.toList

/-- Nothing but the crate, once or more often, stands in front of the simple name. -/
def BelowCrate (n : QualifiedName) : Prop :=
  ¬ [':', ':'] <:+: n.name.toList ∧
    ∃ k, trim n.path.toList = (List.replicate k "crate::".toList).flatten ++ n.name.toList

end QualifiedName

namespace TypeIndex

variable {index : TypeIndex} {n : QualifiedName} {seenFrom : Namespace} {cs : List Char}

/-! ## Dropping the crate -/

/-- Where there is no crate, none is dropped. -/
theorem dropCrate_eq_self (h : ¬ "crate::".toList <+: cs) : dropCrate cs = cs := by
  obtain ⟨⟨k, hk⟩, -⟩ := exists_dropCrate cs
  cases k with
  | zero => exact hk.symm
  | succ k =>
    rw [List.replicate_succ, List.flatten_cons, List.append_assoc] at hk
    exact absurd ⟨_, hk.symm⟩ h

/-- The crate is dropped as often as it is there. -/
theorem dropCrate_append (k : Nat) (cs : List Char) :
    dropCrate ((List.replicate k "crate::".toList).flatten ++ cs) = dropCrate cs := by
  induction k with
  | zero => rfl
  | succ k ih =>
    rw [List.replicate_succ, List.flatten_cons, List.append_assoc]
    exact ih

/-- What is left of the path of a name is the simple name exactly if there is nothing else but the
crate. -/
theorem dropCrate_trim_path_iff :
    ¬ [':', ':'] <:+: n.name.toList ∧ dropCrate (trim n.path.toList) = n.name.toList ↔
      n.BelowCrate := by
  refine and_congr_right fun hsimple => ?_
  obtain ⟨⟨k, hk⟩, -⟩ := exists_dropCrate (trim n.path.toList)
  constructor
  · intro h
    rw [h] at hk
    exact ⟨k, hk⟩
  · rintro ⟨k, hk⟩
    rw [hk, dropCrate_append]
    have hseparator : [':', ':'] <:+: "crate::".toList := ⟨"crate".toList, [], rfl⟩
    exact dropCrate_eq_self fun hcrate => hsimple (hseparator.trans hcrate.isInfix)

/-- What is left of the path of a name is read as the name exactly if nothing is dropped and the path
itself is read as the name. -/
theorem parse_dropCrate_trim_path_iff (hbare : n.space.IsBare) (hroot : n.space.isRoot = false) :
    [':', ':'] <:+: dropCrate (trim n.path.toList) ∧
      QualifiedName.parse (.ofList (dropCrate (trim n.path.toList))) = some n ↔ n.Referable := by
  constructor
  · rintro ⟨-, hread⟩
    obtain ⟨front, back, hpath, hfront, hback⟩ := exists_stripWhile isSpace n.path.toList
    obtain ⟨⟨k, hk⟩, hcrate⟩ := exists_dropCrate (trim n.path.toList)
    rw [← trim] at hpath
    generalize dropCrate (trim n.path.toList) = text at hread hk hcrate
    have hblank {cs : List Char} (h : ∀ c ∈ cs, isSpace c = true) : cs.head? ≠ some ':' :=
      fun hhead => absurd (h ':' (List.mem_of_head? hhead)) (by decide)
    have hparts : n.path.toList =
        front ++ (List.replicate k "crate::".toList).flatten ++ text ++ back := by
      rw [List.append_assoc front, ← hk]
      exact hpath
    have hdropped : (front ++ (List.replicate k "crate::".toList).flatten).head? ≠ some ':' := by
      rw [List.head?_append]
      cases front with
      | cons c front => exact hblank hfront
      | nil => cases k <;> simp [List.replicate_succ]
    obtain ⟨hnone, rfl⟩ :=
      QualifiedName.eq_nil_of_parse_part hparts hread hdropped (hblank hback)
    obtain ⟨rfl, hcrates⟩ := List.append_eq_nil_iff.mp hnone
    rw [List.nil_append, List.append_nil] at hpath
    rw [hcrates, List.nil_append] at hk
    subst hk
    rw [← hpath, String.ofList_toList] at hread
    obtain ⟨hnamed, hsegment, htrimmed⟩ := (QualifiedName.parse_path_iff hbare).mp hread
    exact ⟨hnamed, hsegment, htrimmed, htrimmed ▸ hcrate⟩
  · rintro ⟨hnamed, hsegment, htrimmed, houtside⟩
    rw [htrimmed, dropCrate_eq_self houtside, String.ofList_toList]
    refine ⟨⟨n.space.text.toList, n.name.toList, ?_⟩,
      (QualifiedName.parse_path_iff hbare).mpr ⟨hnamed, hsegment, htrimmed⟩⟩
    simp [QualifiedName.path, hroot]

/-! ## Filed names -/

/-- The names under which DTOs are filed have no colons at the ends of their namespaces, if those that
were filed before have none. -/
theorem isBare_of_mem_dtoNames (hindex : ∀ n ∈ index.names, n.space.IsBare)
    (dtos : List Manifest.Dto) : ∀ n ∈ index.dtoNames dtos, n.space.IsBare := by
  induction dtos generalizing index with
  | nil => exact fun _ => nofun
  | cons dto rest ih =>
    have hspace {space : Namespace} (h : index.dtoSpace? dto = some space) : space.IsBare := by
      unfold dtoSpace? at h
      split at h
      · exact Option.some.inj h ▸ Namespace.isBare_ofText _
      · obtain ⟨model, hmodel, rfl⟩ := Option.map_eq_some_iff.mp h
        have hfiled := hindex model (contains_iff.mp (contains_of_resolve hmodel))
        exact hfiled.sibling (by decide) (by decide) (by decide)
    have hinsert : ∀ n ∈ (index.insertDto dto).names, n.space.IsBare := by
      unfold insertDto
      split
      · next space h =>
        intro n hn
        rcases mem_names_insert.mp hn with hn | rfl
        · exact hindex n hn
        · exact hspace h
      · exact hindex
    intro n hn
    rw [dtoNames, List.mem_append, Option.mem_toList, Option.map_eq_some_iff] at hn
    rcases hn with ⟨space, h, rfl⟩ | hn
    · exact hspace h
    · exact ih hinsert n hn

/-- A type is indexed exactly if it is known, or a DTO or model of this name is declared. -/
theorem contains_ofManifest_iff {manifest : Manifest} {known : List String} :
    (ofManifest manifest known).contains n = true ↔
      n ∈ known.filterMap QualifiedName.parse ∨ n ∈ manifest.dtoNames ∨ n ∈ manifest.modelNames := by
  rw [contains, origin?_ofManifest]
  by_cases hknown : n ∈ known.filterMap QualifiedName.parse
  · simp [hknown]
  · by_cases hdto : n ∈ manifest.dtoNames
    · simp [hknown, hdto]
    · simp [hknown, hdto]

/-- No indexed name has colons at the ends of its namespace. -/
theorem isBare_of_contains {manifest : Manifest} {known : List String}
    (h : (ofManifest manifest known).contains n = true) : n.space.IsBare := by
  have hmodels : ∀ n ∈ manifest.modelNames, n.space.IsBare := by
    intro n hn
    obtain ⟨m, -, hread⟩ := List.mem_filterMap.mp hn
    exact QualifiedName.isBare_space_of_parse hread
  rcases contains_ofManifest_iff.mp h with hn | hn | hn
  · obtain ⟨path, -, hread⟩ := List.mem_filterMap.mp hn
    exact QualifiedName.isBare_space_of_parse hread
  · refine isBare_of_mem_dtoNames (fun n hn => hmodels n ?_) manifest.dtos n hn
    rw [← contains_iff, contains, origin?_fileAll] at hn
    by_contra hnot
    simp [hnot, origin?] at hn
  · exact hmodels n hn

/-! ## Looking up full paths -/

/-- No name is indexed twice. -/
theorem nodup_names_ofManifest (manifest : Manifest) (known : List String) :
    (ofManifest manifest known).names.Nodup := by
  have hfile {index : TypeIndex} (origin : TypeOrigin) (names : List QualifiedName)
      (h : index.names.Nodup) : (index.fileAll origin names).names.Nodup := by
    induction names generalizing index with
    | nil => exact h
    | cons name rest ih => exact ih (nodup_names_insert h)
  rw [ofManifest, foldl_insertKnown_eq, foldl_insertDto_eq, foldl_insertModel_eq]
  exact hfile _ _ (hfile _ _ (hfile _ _ List.nodup_nil))

/-- An indexed type outside the root is found by its full path exactly if the path is a reference to
it, or if the type stands directly below the crate and is what its simple name means. -/
theorem found_by_path_iff {manifest : Manifest} {known : List String}
    (h : (ofManifest manifest known).contains n = true) (hroot : n.space.isRoot = false)
    (seenFrom : Namespace) :
    let index := ofManifest manifest known
    index.resolve n.path seenFrom = some n ↔
      n.Referable ∨
        n.BelowCrate ∧ (n.space = seenFrom ∨
          index.contains (seenFrom.qualify n.name) = false ∧
            ∀ k, index.contains k = true → k.name = n.name → k = n) := by
  intro index
  have hn : n ∈ index.names := contains_iff.mp h
  have hpath := parse_dropCrate_trim_path_iff (isBare_of_contains h) hroot
  have hsimple := dropCrate_trim_path_iff (n := n)
  rw [resolve_eq_some_iff (nodup_names_ofManifest manifest known)]
  generalize dropCrate (trim n.path.toList) = text at hpath hsimple ⊢
  have hbelow (hwhole : ¬ [':', ':'] <:+: text) (hname : n.name = .ofList text) : n.BelowCrate := by
    obtain rfl : text = n.name.toList := by rw [hname, String.toList_ofList]
    exact hsimple.mp ⟨hwhole, rfl⟩
  constructor
  · rintro (⟨hqualified, hread, -⟩ | ⟨hwhole, hown, -⟩ | ⟨hwhole, helsewhere, -, hname, hunique⟩)
    · exact .inl (hpath.mp ⟨hqualified, hread⟩)
    · refine .inr ⟨hbelow hwhole ?_, .inl ?_⟩
      · rw [hown]
        rfl
      · rw [hown]
        rfl
    · refine .inr ⟨hbelow hwhole hname, .inr ⟨?_, fun k hk hsame => ?_⟩⟩
      · rw [hname, ← Bool.not_eq_true, contains_iff]
        exact helsewhere
      · exact hunique k (contains_iff.mp hk) (hsame.trans hname)
  · rintro (hreferable | ⟨hcrate, hmeans⟩)
    · obtain ⟨hqualified, hread⟩ := hpath.mpr hreferable
      exact .path hqualified hread hn
    · obtain ⟨hwhole, rfl⟩ := hsimple.mpr hcrate
      rcases hmeans with hspace | ⟨helsewhere, hunique⟩
      · refine .here hwhole ?_ hn
        rw [String.ofList_toList, ← hspace]
        rfl
      · rw [← Bool.not_eq_true, contains_iff] at helsewhere
        refine .only hwhole ?_ hn ?_ fun k hk hsame => ?_
        · rwa [String.ofList_toList]
        · rw [String.ofList_toList]
        · exact hunique k (contains_iff.mpr hk) (by rw [hsame, String.ofList_toList])

/-! ### Invoices and money -/

private def invoices : Manifest where
  models := [{ name := "Invoice", space := "billing::model" }]
  dtos := [{ name := "InvoiceView", model := "billing::model::Invoice" }]

private def invoiceView : QualifiedName := ⟨⟨"billing::dto"⟩, "InvoiceView"⟩

private def topMoney : QualifiedName := ⟨⟨"crate"⟩, "Money"⟩

private def innerMoney : QualifiedName := ⟨⟨"crate::ext"⟩, "Money"⟩

/-- A view of invoices, whose namespace follows from its model, is found by its full path. Money
directly below the crate is found because there is no other money. -/
theorem invoice_views_are_found_by_path :
    let index := ofManifest invoices ["crate::Money"]
    index.contains invoiceView = true ∧ invoiceView.space.isRoot = false ∧
      index.resolve "billing::dto::InvoiceView" ⟨"shop::model"⟩ = some invoiceView ∧
      index.contains topMoney = true ∧ topMoney.space.isRoot = false ∧
      index.resolve "crate::Money" ⟨"shop::model"⟩ = some topMoney := by
  intro index
  have hview : index.contains invoiceView = true := by decide
  have hmoney : index.contains topMoney = true := by decide
  have hreferable : invoiceView.Referable :=
    { named := by decide
      segment := ⟨fun h => absurd (containsSlice_iff.mpr h) (by decide), by decide⟩
      trimmed := by decide
      outside := fun h => absurd (List.isPrefixOf_iff_prefix.mpr h) (by decide) }
  have hbelow : topMoney.BelowCrate :=
    ⟨fun h => absurd (containsSlice_iff.mpr h) (by decide), 1, by decide⟩
  refine ⟨hview, rfl, (found_by_path_iff hview rfl _).mpr (.inl hreferable), hmoney, rfl, ?_⟩
  refine (found_by_path_iff hmoney rfl _).mpr (.inr ⟨hbelow, .inr ⟨by decide, fun k hk hname => ?_⟩⟩)
  have hnames : index.names = [⟨⟨"billing::model"⟩, "Invoice"⟩, invoiceView, topMoney] := by decide
  rw [contains_iff, hnames] at hk
  simp only [List.mem_cons, List.not_mem_nil, or_false] at hk
  rcases hk with rfl | rfl | rfl
  · exact absurd hname (by decide)
  · exact absurd hname (by decide)
  · rfl

/-- A known type below the crate is filed under its full path and is not found by it, wherever it is
seen from. -/
theorem money_below_crate_is_not_found :
    let index := ofManifest {} ["crate::ext::Money"]
    index.contains innerMoney = true ∧ innerMoney.space.isRoot = false ∧
      innerMoney.path = "crate::ext::Money" ∧
      ∀ seenFrom, index.resolve innerMoney.path seenFrom = none :=
  ⟨by decide, rfl, by decide, fun _ => rfl⟩

end TypeIndex

end CrudScaffold
