import CrudScaffold.Proofs.Model.Filing

/-!
# DTOs and the models that they refer to

A declared DTO refers to a model by a text. The index resolves this text as it does any reference; a
model compares it with its own path and its own simple name. Both agree on references that are written
as they are looked up, unless the reference is a simple name that several types have. A model has each
variant under a name of its own, so that of several DTOs of one name it gets the first.
-/

namespace CrudScaffold

/-- The DTO refers to a declared model by the path or by the simple name of the resolved one. -/
def Manifest.Dto.refersTo (dto : Manifest.Dto) (m : Manifest.Model) : Bool :=
  dto.model == m.resolvedName.path || dto.model == m.name

/-! ## Variants -/

namespace Resolver

variable {r : Resolver} {m : Manifest.Model} {model : Model} {variants : List Model.DtoVariant}
  {v : Model.DtoVariant} {k : String} {dto : Manifest.Dto} {i : Nat}

/-- A variant is added only under a new name. -/
theorem addVariant_eq : addVariant = appendNew Model.DtoVariant.name := rfl

/-- A variant that a model refers to is that of the first declared DTO of its name, or the default one
where there is none. -/
theorem referredVariant_cases {declared : List Manifest.Dto}
    (h : r.referredVariant m declared k = .ok v) :
    v.name = k ∧ ((∃ dto, declared.find? (fun d => d.name == k) = some dto ∧ v = variantOf dto) ∨
      declared.find? (fun d => d.name == k) = none ∧
        v = { name := r.naming.defaultDtoName m.name }) := by
  unfold referredVariant at h
  split at h
  · next dto hfound =>
    have hname : dto.name = k := by simpa using List.find?_some hfound
    cases h
    exact ⟨hname, .inl ⟨dto, hfound, rfl⟩⟩
  · next hnone =>
    split at h
    · next hdefault =>
      cases h
      exact ⟨rfl, .inr ⟨hnone, by rw [← beq_iff_eq.mp hdefault]⟩⟩
    · cases h

/-- The collected variants: all that are declared, or the default one alone. -/
theorem exists_of_collectVariants (h : r.collectVariants m = .ok variants) :
    ∃ referred, m.dtos.mapM (r.referredVariant m (r.dtosOf m)) = .ok referred ∧
      (variants = (referred ++ (r.dtosOf m).map variantOf).foldl addVariant [] ∨
        (referred ++ (r.dtosOf m).map variantOf).foldl addVariant [] = [] ∧
          variants = [{ name := r.naming.defaultDtoName m.name }]) := by
  obtain ⟨referred, hreferred, h⟩ := bind_eq_ok_iff.mp h
  refine ⟨referred, hreferred, ?_⟩
  dsimp only at h
  split at h
  · next hempty =>
    rw [Bool.and_eq_true, List.isEmpty_iff] at hempty
    exact .inr ⟨hempty.1, (Except.ok.inj h).symm⟩
  · exact .inl (Except.ok.inj h).symm

/-- Under the name of a declared DTO a model has the variant of the first one of that name. -/
theorem find?_collectVariants (h : r.collectVariants m = .ok variants)
    (hdto : (r.dtosOf m).find? (fun d => d.name == k) = some dto) :
    variants.find? (fun w => w.name == k) = some (variantOf dto) := by
  obtain ⟨referred, hreferred, hvariants⟩ := exists_of_collectVariants h
  have hcollected : ((referred ++ (r.dtosOf m).map variantOf).foldl addVariant []).find?
      (fun w => w.name == k) = some (variantOf dto) := by
    have hdeclared : ((r.dtosOf m).map variantOf).find? (fun w => w.name == k) =
        some (variantOf dto) := by
      rw [List.find?_map]
      exact congrArg (Option.map variantOf) hdto
    rw [addVariant_eq, find?_foldl_appendNew, List.find?_nil, Option.none_or, List.find?_append, hdeclared]
    cases hfound : referred.find? fun w => w.name == k with
    | none => rfl
    | some v =>
      -- What the model refers to under this name is the same DTO.
      obtain ⟨k', -, hv⟩ := exists_of_mem_mapM hreferred (List.mem_of_find?_eq_some hfound)
      obtain ⟨hname, hcases⟩ := referredVariant_cases hv
      have hk : k' = k := by
        rw [← hname]
        simpa using List.find?_some hfound
      subst hk
      rcases hcases with ⟨dto', hdto', rfl⟩ | ⟨hnone, -⟩
      · rw [hdto] at hdto'
        cases hdto'
        rfl
      · rw [hdto] at hnone
        cases hnone
  rcases hvariants with rfl | ⟨hempty, -⟩
  · exact hcollected
  · rw [hempty] at hcollected
    cases hcollected

/-- No two collected variants have one name. -/
theorem nodup_collectVariants (h : r.collectVariants m = .ok variants) :
    (variants.map Model.DtoVariant.name).Nodup := by
  obtain ⟨referred, -, rfl | ⟨-, rfl⟩⟩ := exists_of_collectVariants h
  · rw [addVariant_eq]
    exact nodup_foldl_appendNew _ List.nodup_nil
  · exact List.nodup_singleton _

/-- A variant whose name no declared DTO has is the default one. -/
theorem eq_default_of_collectVariants (h : r.collectVariants m = .ok variants) (hv : v ∈ variants)
    (hnone : (r.dtosOf m).find? (fun d => d.name == v.name) = none) :
    v = { name := r.naming.defaultDtoName m.name } := by
  obtain ⟨referred, hreferred, hvariants⟩ := exists_of_collectVariants h
  rcases hvariants with rfl | ⟨-, rfl⟩
  · rw [addVariant_eq] at hv
    have hmem := (mem_of_mem_foldl_appendNew _ hv).resolve_left List.not_mem_nil
    rcases List.mem_append.mp hmem with hv | hv
    · obtain ⟨k, -, hk⟩ := exists_of_mem_mapM hreferred hv
      obtain ⟨rfl, ⟨dto, hdto, -⟩ | ⟨-, hdefault⟩⟩ := referredVariant_cases hk
      · rw [hnone] at hdto
        cases hdto
      · exact hdefault
    · obtain ⟨dto, hdto, rfl⟩ := List.mem_map.mp hv
      have hne := List.find?_eq_none.mp hnone dto hdto
      simp [variantOf] at hne
  · exact List.mem_singleton.mp hv

/-! ## Origins -/

/-- The DTOs of a model, searched for a name. -/
theorem find?_dtosOf_eq (r : Resolver) (m : Manifest.Model) (k : String) :
    (r.dtosOf m).find? (fun d => d.name == k) =
      r.dtos.find? fun d => d.refersTo m && d.name == k := by
  have hdtos : r.dtosOf m = r.dtos.filter fun d => d.refersTo m := rfl
  rw [hdtos, List.find?_filter]
  simp only [Bool.decide_and, Bool.decide_eq_true]

/-- The place of the first declared DTO of a name that refers to a model. -/
def originOf? (r : Resolver) (m : Manifest.Model) (name : String) : Option Nat :=
  r.dtos.findIdx? fun dto => dto.refersTo m && dto.name == name

/-- A DTO is the first of its name that refers to a model exactly if it does and none before it does.
-/
theorem originOf?_eq_some_iff (hi : r.dtos[i]? = some dto) :
    r.originOf? m dto.name = some i ↔
      dto.refersTo m = true ∧ ∀ j < i, ∀ d, r.dtos[j]? = some d → d.name = dto.name →
        d.refersTo m = false := by
  obtain ⟨hlt, rfl⟩ := List.getElem?_eq_some_iff.mp hi
  rw [originOf?, List.findIdx?_eq_some_iff_getElem]
  constructor
  · rintro ⟨_, hfirst, hbefore⟩
    refine ⟨(Bool.and_eq_true _ _ ▸ hfirst).1, fun j hj d hd hname => ?_⟩
    obtain ⟨_, rfl⟩ := List.getElem?_eq_some_iff.mp hd
    have hnot := hbefore j hj
    rw [hname, beq_self_eq_true, Bool.and_true] at hnot
    exact Bool.eq_false_iff.mpr hnot
  · rintro ⟨hrefers, hbefore⟩
    refine ⟨hlt, by rw [hrefers, beq_self_eq_true]; rfl, fun j hj hfirst => ?_⟩
    rw [Bool.and_eq_true, beq_iff_eq] at hfirst
    have hnot := hbefore j hj _ (List.getElem?_eq_getElem (hj.trans hlt)) hfirst.2
    rw [hfirst.1] at hnot
    cases hnot

/-- What the first DTO of a name is, it is also among those that refer to the model. -/
theorem find?_dtosOf (hi : r.originOf? m k = some i) (hdto : r.dtos[i]? = some dto) :
    (r.dtosOf m).find? (fun d => d.name == k) = some dto := by
  obtain ⟨hlt, rfl⟩ := List.getElem?_eq_some_iff.mp hdto
  obtain ⟨_, hfirst, hbefore⟩ := List.findIdx?_eq_some_iff_getElem.mp hi
  rw [find?_dtosOf_eq, List.find?_eq_some_iff_getElem]
  refine ⟨hfirst, i, hlt, rfl, fun j hj => ?_⟩
  rw [Bool.not_eq_true']
  exact Bool.eq_false_iff.mpr (hbefore j hj)

/-- A variant of a resolved model comes from the first declared DTO of its name that refers to the
model, and shows of its fields those that the model has; or no such DTO is declared, and the variant is
the default one. -/
theorem variant_cases (h : r.resolve m = .ok model) (hv : v ∈ model.variants) :
    (∃ i dto, r.originOf? m v.name = some i ∧ r.dtos[i]? = some dto ∧
      v = restrict model.identifier model.fields (variantOf dto)) ∨
    (r.originOf? m v.name = none ∧
      v = restrict model.identifier model.fields { name := r.naming.defaultDtoName m.name }) := by
  obtain ⟨_, _, variants, -, -, hvariants, -, rfl, -, hmodel, -⟩ := exists_of_resolve h
  rw [hmodel] at hv
  obtain ⟨w, hw, rfl⟩ := List.mem_map.mp hv
  have hname : (restrict model.identifier model.fields w).name = w.name := rfl
  rw [hname]
  cases horigin : r.originOf? m w.name with
  | some i =>
    obtain ⟨hlt, -⟩ := List.findIdx?_eq_some_iff_getElem.mp horigin
    have hdto : r.dtos[i]? = some r.dtos[i] := List.getElem?_eq_getElem hlt
    have hfound := find?_collectVariants hvariants (find?_dtosOf horigin hdto)
    have hself := (find?_key_eq_some_iff (nodup_collectVariants hvariants)).mpr ⟨hw, rfl⟩
    rw [hself] at hfound
    exact .inl ⟨i, _, rfl, hdto, by rw [Option.some.inj hfound]⟩
  | none =>
    have hnone : (r.dtosOf m).find? (fun d => d.name == w.name) = none := by
      rw [find?_dtosOf_eq, List.find?_eq_none]
      intro d hd
      exact Bool.eq_false_iff.mp (List.findIdx?_eq_none_iff.mp horigin d hd)
    exact .inr ⟨rfl, by rw [eq_default_of_collectVariants hvariants hw hnone]⟩

/-- A resolved model has a variant that comes from the declared DTO at a place, under its name and in
its namespace. By `variant_cases` the variant is then what the DTO gives. -/
def Attached (r : Resolver) (m : Manifest.Model) (model : Model) (i : Nat) (dto : Manifest.Dto) :
    Prop :=
  ∃ v ∈ model.variants, v.name = dto.name ∧ v.space = dto.space.map Namespace.ofText ∧
    r.originOf? m v.name = some i

/-- A declared DTO is attached to a model exactly if it refers to it and no DTO of its name before it
does. -/
theorem attached_iff (h : r.resolve m = .ok model) (hi : r.dtos[i]? = some dto) :
    r.Attached m model i dto ↔
      dto.refersTo m = true ∧ ∀ j < i, ∀ d, r.dtos[j]? = some d → d.name = dto.name →
        d.refersTo m = false := by
  rw [← originOf?_eq_some_iff hi]
  constructor
  · rintro ⟨v, -, hname, -, horigin⟩
    rwa [← hname]
  · intro horigin
    obtain ⟨_, _, variants, -, -, hvariants, -, rfl, -, hmodel, -⟩ := exists_of_resolve h
    have hfound := find?_collectVariants hvariants (find?_dtosOf horigin hi)
    refine ⟨restrict model.identifier model.fields (variantOf dto), ?_, rfl, rfl, horigin⟩
    rw [hmodel]
    exact List.mem_map_of_mem (List.mem_of_find?_eq_some hfound)

end Resolver

/-! ## References -/

namespace TypeIndex

variable {index : TypeIndex} {reference : String} {n : QualifiedName}

/-- A reference is written as it is looked up: without blanks around it and without the crate in
front, and a path is written as what it is read as. -/
structure Plain (reference : String) : Prop where
  trimmed : Text.trim reference.toList = reference.toList
  crate : dropCrate reference.toList = reference.toList
  printed : ∀ n, QualifiedName.parse reference = some n → n.path = reference

/-- A plain reference with a separator means the type that it is read as. -/
theorem resolve_of_path (h : Plain reference) (hpath : [':', ':'] <:+: reference.toList)
    (seenFrom : Namespace) :
    index.resolve reference seenFrom =
      (QualifiedName.parse reference).filter index.contains := by
  have hslice : Text.containsSlice [':', ':'] reference.toList = true :=
    Text.containsSlice_iff.mpr hpath
  simp only [resolve, h.trimmed, h.crate, hslice, ↓reduceIte, String.ofList_toList]

/-- Seen from the root, a plain reference without a separator means a type of the root, or else the
only type of this simple name. -/
theorem resolve_of_simple (h : Plain reference) (hsimple : ¬ [':', ':'] <:+: reference.toList) :
    index.resolve reference .root = some n ↔
      if index.contains ⟨.root, reference⟩ = true then n = ⟨.root, reference⟩
      else index.named reference = [n] := by
  have hslice : Text.containsSlice [':', ':'] reference.toList = false := by
    rw [← Bool.not_eq_true, Text.containsSlice_iff]
    exact hsimple
  simp only [resolve, h.trimmed, h.crate, hslice, Bool.false_eq_true, ↓reduceIte,
    String.ofList_toList, Namespace.qualify]
  split
  · rw [Option.some.injEq, eq_comm]
  · split
    · next only honly => rw [honly, Option.some.injEq, List.singleton_inj]
    · next hother =>
      constructor
      · intro hnone
        cases hnone
      · intro hone
        exact absurd hone (hother n)

/-- Seen from the root, a plain reference means an indexed type exactly if it is the path of the type,
or its simple name and no other type has it. -/
theorem resolve_plain_iff (h : Plain reference) (hn : n ∈ index.names) (hname : n.name ≠ "")
    (hsegment : Text.IsSegment n.name.toList) (hspace : Namespace.ofText n.space.text = n.space) :
    index.resolve reference .root = some n ↔
      reference = n.path ∨ reference = n.name ∧ index.named n.name = [n] := by
  by_cases hpath : [':', ':'] <:+: reference.toList
  · -- the simple name holds no separator, so the reference can only be the path
    rw [resolve_of_path h hpath, Option.filter_eq_some_iff]
    have hother : reference ≠ n.name := by
      rintro rfl
      exact hsegment.whole hpath
    constructor
    · rintro ⟨hread, -⟩
      exact .inl (h.printed n hread).symm
    · rintro (rfl | ⟨hsame, -⟩)
      · refine ⟨?_, contains_iff.mpr hn⟩
        have hread := (@QualifiedName.parse_declared_iff n.path n.space.text n.name rfl).mpr
          ⟨hname, hsegment, h.trimmed⟩
        rwa [hspace] at hread
      · exact absurd hsame hother
  · rw [resolve_of_simple h hpath]
    have hpath_iff : reference = n.path ↔ n = ⟨.root, reference⟩ := by
      constructor
      · rintro rfl
        exact QualifiedName.eq_root_of_path hpath
      · intro hroot
        rw [hroot]
        rfl
    rw [hpath_iff]
    split
    · next hroot =>
      constructor
      · exact .inl
      · rintro (hsame | ⟨hsame, hnamed⟩)
        · exact hsame
        · have hmem : (⟨.root, reference⟩ : QualifiedName) ∈ index.named n.name :=
            mem_named_iff.mpr ⟨contains_iff.mp hroot, hsame⟩
          rw [hnamed, List.mem_singleton] at hmem
          exact hmem.symm
    · next hroot =>
      constructor
      · intro hnamed
        have hmem : n ∈ index.named reference := hnamed ▸ List.mem_singleton_self n
        have hsame : n.name = reference := (mem_named_iff.mp hmem).2
        exact .inr ⟨hsame.symm, hsame ▸ hnamed⟩
      · rintro (rfl | ⟨rfl, hnamed⟩)
        · exact absurd (contains_iff.mpr hn) hroot
        · exact hnamed

/-- A model whose path is legible is indexed under its name. -/
theorem mem_names_of_legible {manifest : Manifest} {m : Manifest.Model} (hm : m ∈ manifest.models)
    (h : m.Legible) (known : List String) :
    m.resolvedName ∈ (ofManifest manifest known).names := by
  have hfiled : m.resolvedName ∈ manifest.modelNames :=
    List.mem_filterMap.mpr ⟨m, hm, Manifest.Model.parse_qualifiedName_iff.mpr h⟩
  rw [← contains_iff, contains, origin?_ofManifest, if_pos hfiled]
  split
  · rfl
  · split <;> rfl

end TypeIndex

/-! ## DTOs of a manifest -/

namespace Catalog

/-- A declared DTO is attached to every resolved model whose path or simple name it gives, unless it
is shadowed: then a DTO of its name before it refers to the model too. The index resolves a plain
reference to a model with a legible path in the same cases, unless it is ambiguous: then it is a simple
name that belongs to more types than this model, and not its path. So a DTO is attached to a model
that its reference means, and to no other, except where it is either shadowed or ambiguous. -/
theorem attached_iff_resolves (manifest : Manifest) (known : List String) (naming : Naming)
    (crate : String) {m : Manifest.Model} (hm : m ∈ manifest.models) {model : Model}
    (hresolve : (ofManifest manifest known naming crate).resolver.resolve m = .ok model)
    {i : Nat} {dto : Manifest.Dto} (hdto : manifest.dtos[i]? = some dto) :
    let r := (ofManifest manifest known naming crate).resolver
    let shadowed := ∃ j < i, ∃ d, manifest.dtos[j]? = some d ∧ d.name = dto.name ∧
      d.refersTo m = true
    let ambiguous := dto.model ≠ model.name.path ∧ r.index.named model.name.name ≠ [model.name]
    (r.Attached m model i dto ↔ dto.refersTo m = true ∧ ¬ shadowed) ∧
    (m.Legible → TypeIndex.Plain dto.model →
      (r.index.resolve dto.model .root = some model.name ↔
        dto.refersTo m = true ∧ ¬ ambiguous) ∧
      ((r.Attached m model i dto ↔ r.index.resolve dto.model .root = some model.name) ↔
        (dto.refersTo m = true → (shadowed ↔ ambiguous)))) := by
  intro r shadowed ambiguous
  obtain ⟨-, -, -, -, -, -, hname, -⟩ := Resolver.exists_of_resolve hresolve
  have hattached : r.Attached m model i dto ↔ dto.refersTo m = true ∧ ¬ shadowed := by
    have hplace : r.dtos[i]? = some dto := hdto
    rw [Resolver.attached_iff hresolve hplace]
    refine and_congr_right fun _ => ?_
    constructor
    · rintro hfirst ⟨j, hj, d, hd, hsame, hrefers⟩
      rw [hfirst j hj d hd hsame] at hrefers
      cases hrefers
    · intro hfirst j hj d hd hsame
      rw [← Bool.not_eq_true]
      exact fun hrefers => hfirst ⟨j, hj, d, hd, hsame, hrefers⟩
  refine ⟨hattached, fun hlegible hplain => ?_⟩
  have hmeans : r.index.resolve dto.model .root = some model.name ↔
      dto.refersTo m = true ∧ ¬ ambiguous := by
    have hindexed : model.name ∈ r.index.names := by
      rw [hname]
      exact TypeIndex.mem_names_of_legible hm hlegible known
    have hrefers : dto.refersTo m = true ↔
        dto.model = model.name.path ∨ dto.model = model.name.name := by
      rw [Manifest.Dto.refersTo, Bool.or_eq_true, beq_iff_eq, beq_iff_eq, hname]
      rfl
    have hspace : Namespace.ofText model.name.space.text = model.name.space := by
      rw [hname]
      exact Namespace.ofText_text m.space
    have hnamed : model.name.name = m.name := by rw [hname]; rfl
    rw [TypeIndex.resolve_plain_iff hplain hindexed (hnamed ▸ hlegible.named)
      (hnamed ▸ hlegible.segment) hspace, hrefers]
    by_cases hpath : dto.model = model.name.path
    · simp [ambiguous, hpath]
    · simp [ambiguous, hpath]
  refine ⟨hmeans, ?_⟩
  rw [hattached, hmeans]
  exact and_congr_right_iff.trans (imp_congr_right fun _ => not_iff_not)

/-! ### Customers -/

private def viewedCustomer (space : String) : Manifest.Model where
  name := "Customer"
  space
  identifier := some { type := some "u64" }

private def customerView : Manifest.Dto := { name := "CustomerView", model := "Customer" }

private def viewedShops (spaces : List String) : Manifest where
  models := spaces.map viewedCustomer
  dtos := [customerView]

/-- The view of the only customer is attached to it, and refers to it. -/
theorem only_customer_has_view :
    let r := (ofManifest (viewedShops ["shop::model"]) [] {} "scrud_runtime").resolver
    ∃ model, r.resolve (viewedCustomer "shop::model") = .ok model ∧
      r.Attached (viewedCustomer "shop::model") model 0 customerView ∧
      r.index.resolve customerView.model .root = some model.name := by
  intro r
  obtain ⟨model, hresolve⟩ : ∃ model, r.resolve (viewedCustomer "shop::model") = .ok model :=
    ⟨_, rfl⟩
  have hname : model.name = ⟨⟨"shop::model"⟩, "Customer"⟩ := by
    obtain ⟨-, -, -, -, -, -, hname, -⟩ := Resolver.exists_of_resolve hresolve
    rw [hname]
    decide
  have hm : viewedCustomer "shop::model" ∈ (viewedShops ["shop::model"]).models :=
    List.mem_singleton_self _
  have hlegible : (viewedCustomer "shop::model").Legible :=
    Manifest.Model.parse_qualifiedName_iff.mp (by decide)
  have hplain : TypeIndex.Plain customerView.model := by
    refine ⟨by decide, by decide, fun n hn => ?_⟩
    have hread : QualifiedName.parse customerView.model = some ⟨.root, "Customer"⟩ := by decide
    rw [hread] at hn
    cases hn
    decide
  have hdto : (viewedShops ["shop::model"]).dtos[0]? = some customerView := rfl
  obtain ⟨hattached, hagree⟩ := attached_iff_resolves (viewedShops ["shop::model"]) [] {}
    "scrud_runtime" hm hresolve hdto
  obtain ⟨hmeans, -⟩ := hagree hlegible hplain
  refine ⟨model, hresolve, hattached.mpr ⟨by decide, ?_⟩, hmeans.mpr ⟨by decide, ?_⟩⟩
  · rintro ⟨j, hj, -⟩
    cases hj
  · rintro ⟨-, hother⟩
    rw [hname] at hother
    exact hother (by decide)

/-- The view of customers is attached to both of two customers, whereas its reference means none of
them. -/
theorem two_customers_have_view :
    let r := (ofManifest (viewedShops ["shop::model", "crm::model"]) [] {} "scrud_runtime").resolver
    r.index.resolve customerView.model .root = none ∧
      ∃ shop crm, r.resolve (viewedCustomer "shop::model") = .ok shop ∧
        r.resolve (viewedCustomer "crm::model") = .ok crm ∧ shop.name ≠ crm.name ∧
        r.Attached (viewedCustomer "shop::model") shop 0 customerView ∧
        r.Attached (viewedCustomer "crm::model") crm 0 customerView := by
  intro r
  obtain ⟨shop, hshop⟩ : ∃ shop, r.resolve (viewedCustomer "shop::model") = .ok shop := ⟨_, rfl⟩
  obtain ⟨crm, hcrm⟩ : ∃ crm, r.resolve (viewedCustomer "crm::model") = .ok crm := ⟨_, rfl⟩
  have hfirst {m : Manifest.Model} : ∀ j < 0, ∀ d, r.dtos[j]? = some d →
      d.name = customerView.name → d.refersTo m = false := fun j hj => absurd hj (Nat.not_lt_zero j)
  refine ⟨by decide, shop, crm, hshop, hcrm, ?_, ?_, ?_⟩
  · obtain ⟨-, -, -, -, -, -, hnameShop, -⟩ := Resolver.exists_of_resolve hshop
    obtain ⟨-, -, -, -, -, -, hnameCrm, -⟩ := Resolver.exists_of_resolve hcrm
    rw [hnameShop, hnameCrm]
    decide
  · exact (Resolver.attached_iff hshop rfl).mpr ⟨by decide, hfirst⟩
  · exact (Resolver.attached_iff hcrm rfl).mpr ⟨by decide, hfirst⟩

end Catalog

end CrudScaffold
