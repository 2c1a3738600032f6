import CrudScaffold.Assembly.Transfer
import CrudScaffold.Proofs.Model.Reachability

/-!
# Embedded DTOs

A DTO holds the DTO of a related model exactly when no chain of relation fields leads back from
there. All other relations of the graph show as identifiers. So no DTO contains itself, through
however many others: a chain of embeddings is a chain of relation fields, and its first embedding
is the proof that there is no such chain back.
-/

namespace CrudScaffold

/-- The type under which a relation field shows related instances of one type. -/
def Model.Field.shown (f : Model.Field) (inner : TypeRef) : TypeRef :=
  match f.relation with
  | .toMany => .list inner
  | _ => inner.toOptional

/-- What stands for a related instance in a DTO. -/
def RelatedShape.type : RelatedShape → TypeRef
  | .embedded dto _ => .named dto
  | .reference => .text

namespace ModelGraph

/-- A relation field of one model of the graph has another model of the graph as its target. -/
structure Relates (g : ModelGraph) (m : Model) (f : Model.Field) (n : Model) : Prop where
  owner : g.get? m.name = some m
  field : f ∈ m.fields
  relation : f.relation.isRelation = true
  target : f.target = some n.name
  related : g.get? n.name = some n

/-- The DTOs of one model show some relation field through the primary DTO of the other. -/
def Embeds (g : ModelGraph) (naming : Naming) (m n : Model) : Prop :=
  ∃ f v, g.Relates m f n ∧ n.primaryVariant? = some v ∧
    (Assembly.mk m g naming).relatedShape f =
      .embedded (Naming.dtoName n v) (naming.mapperName n v)

variable {g : ModelGraph} {naming : Naming} {m n : Model} {f : Model.Field}

/-- A relation field is one step between the names of its models. -/
theorem Relates.leadsTo (h : g.Relates m f n) : g.LeadsTo m.name n.name :=
  ⟨m, h.owner, f, h.field, h.relation, h.target⟩

end ModelGraph

namespace Assembly

variable {g : ModelGraph} {naming : Naming} {m n : Model} {f : Model.Field}
  {v : Model.DtoVariant}

/-- A model with a generated DTO is shown through its primary variant. -/
theorem shownAs?_of_primary (a : Assembly) (hget : a.graph.get? n.name = some n)
    (hbean : n.traits.scrudBean = true) (hv : n.primaryVariant? = some v) :
    a.shownAs? n.name = some (Naming.dtoName n v, a.naming.mapperName n v) := by
  simp only [shownAs?, hget, hbean, ↓reduceIte, hv, Option.map_some]

/-- Where a chain of relation fields leads back, the relation collapses. -/
theorem relatedShape_of_back (h : g.Relates m f n)
    (hback : Relation.ReflTransGen g.LeadsTo n.name m.name) :
    (Assembly.mk m g naming).relatedShape f = .reference := by
  have hreach := ModelGraph.reaches_iff_reflTransGen.mpr hback
  simp only [relatedShape, h.target, hreach, ↓reduceIte]

/-- Where no chain of relation fields leads back, a model with a generated DTO is embedded. -/
theorem relatedShape_of_not_back (h : g.Relates m f n) (hbean : n.traits.scrudBean = true)
    (hv : n.primaryVariant? = some v)
    (hback : ¬ Relation.ReflTransGen g.LeadsTo n.name m.name) :
    (Assembly.mk m g naming).relatedShape f =
      .embedded (Naming.dtoName n v) (naming.mapperName n v) := by
  have hreach : ¬ g.reaches n.name m.name = true :=
    fun hr => hback (ModelGraph.reaches_iff_reflTransGen.mp hr)
  have hshown := shownAs?_of_primary ⟨m, g, naming⟩ h.related hbean hv
  simp only [relatedShape, h.target, hreach, hshown, Bool.false_eq_true, ↓reduceIte]

/-- What is embedded is the primary DTO of a model of the graph. -/
theorem relatedShape_cases (hm : g.get? m.name = some m) (hf : f ∈ m.fields)
    (hrel : f.relation.isRelation = true) :
    (Assembly.mk m g naming).relatedShape f = .reference ∨
      ∃ n v, g.Relates m f n ∧ n.traits.scrudBean = true ∧ n.primaryVariant? = some v := by
  by_cases hshape : (Assembly.mk m g naming).relatedShape f = .reference
  · exact .inl hshape
  · refine .inr ?_
    unfold relatedShape at hshape
    cases ht : f.target with
    | none => simp [ht] at hshape
    | some target =>
      cases hget : g.get? target with
      | none => simp [ht, shownAs?, hget] at hshape
      | some n =>
        obtain ⟨-, rfl⟩ := ModelGraph.mem_and_name_of_get? hget
        cases hbean : n.traits.scrudBean with
        | false => simp [ht, shownAs?, hget, hbean] at hshape
        | true =>
          cases hv : n.primaryVariant? with
          | none => simp [ht, shownAs?, hget, hv] at hshape
          | some v => exact ⟨n, v, ⟨hm, hf, hrel, ht, hget⟩, hbean, hv⟩

/-- The member of a relation field has the type of its shape, optional or in a list. -/
theorem memberType_eq_shown (a : Assembly) (hrel : f.relation.isRelation = true) :
    a.memberType f = f.shown (a.relatedShape f).type := by
  unfold memberType Model.Field.shown
  cases hf : f.relation with
  | scalar => simp [hf, RelationKind.isRelation] at hrel
  | embedded => simp [hf, RelationKind.isRelation] at hrel
  | toOne => cases a.relatedShape f <;> rfl
  | toMany => cases a.relatedShape f <;> rfl

/-- Every DTO whose variant covers a relation field has a member of the type of its shape. -/
theorem relation_mem_dtoSpec (a : Assembly) (hf : f ∈ a.model.fields)
    (hrel : f.relation.isRelation = true) (w : Model.DtoVariant) (hw : w.includes f.name = true) :
    ⟨f.name, f.shown (a.relatedShape f).type, some f.name⟩ ∈ (a.dtoSpec w).fields := by
  have hcovered : f ∈ a.coveredFields w := List.mem_filter.mpr ⟨hf, hw⟩
  rw [← a.memberType_eq_shown hrel]
  simp only [Spec.fields, dtoSpec, dtoMembers, List.filterMap_map, List.mem_filterMap]
  refine ⟨_, List.mem_cons_of_mem _ (List.mem_map.mpr ⟨f, hcovered, rfl⟩), rfl⟩

end Assembly

namespace ModelGraph

variable {g : ModelGraph} {naming : Naming} {m n : Model}

/-- An embedding is a relation field from which no chain leads back. -/
theorem Embeds.leadsTo_and_not_back (h : g.Embeds naming m n) :
    g.LeadsTo m.name n.name ∧ ¬ Relation.ReflTransGen g.LeadsTo n.name m.name := by
  obtain ⟨f, v, hf, -, hshape⟩ := h
  refine ⟨hf.leadsTo, fun hback => ?_⟩
  rw [Assembly.relatedShape_of_back hf hback] at hshape
  cases hshape

/-- A chain of embeddings is a chain of relation fields. -/
theorem reflTransGen_leadsTo_of_embeds (h : Relation.ReflTransGen (g.Embeds naming) m n) :
    Relation.ReflTransGen g.LeadsTo m.name n.name :=
  h.lift Model.name fun _ _ hstep => hstep.leadsTo_and_not_back.1

/-- No chain of embeddings, of whatever length, leads from a DTO to itself. A relation of the graph
to a model with a generated DTO embeds that DTO exactly when no chain of relation fields leads back,
and shows the identifier otherwise; every DTO that covers the field has the member that follows. A
relation to anything else shows the identifier. -/
theorem embedding_acyclic_and_exact (g : ModelGraph) (naming : Naming) :
    (∀ m, ¬ Relation.TransGen (g.Embeds naming) m m) ∧
    (∀ m f n v, g.Relates m f n → n.traits.scrudBean = true → n.primaryVariant? = some v →
      let a : Assembly := ⟨m, g, naming⟩
      let dto := Naming.dtoName n v
      let back := Relation.ReflTransGen g.LeadsTo n.name m.name
      (a.relatedShape f = .embedded dto (naming.mapperName n v) ↔ ¬ back) ∧
      (a.relatedShape f = .reference ↔ back) ∧
      ∀ w, w.includes f.name = true →
        (¬ back → ⟨f.name, f.shown (.named dto), some f.name⟩ ∈ (a.dtoSpec w).fields) ∧
        (back → ⟨f.name, f.shown .text, some f.name⟩ ∈ (a.dtoSpec w).fields)) ∧
    ∀ m f, g.get? m.name = some m → f ∈ m.fields → f.relation.isRelation = true →
      (¬ ∃ n v, g.Relates m f n ∧ n.traits.scrudBean = true ∧ n.primaryVariant? = some v) →
      (Assembly.mk m g naming).relatedShape f = .reference := by
  refine ⟨fun m hcycle => ?_, fun m f n v hf hbean hv => ?_, fun m f hm hf hrel hnone => ?_⟩
  · -- The rest of a cycle would be a chain back from its first embedding.
    obtain ⟨n, hfirst, hrest⟩ := Relation.TransGen.head'_iff.mp hcycle
    exact hfirst.leadsTo_and_not_back.2 (reflTransGen_leadsTo_of_embeds hrest)
  · intro a dto back
    have hmember := a.relation_mem_dtoSpec hf.field hf.relation
    by_cases hback : back
    · have hshape : a.relatedShape f = .reference := Assembly.relatedShape_of_back hf hback
      rw [hshape] at hmember ⊢
      exact ⟨by simp [hback], by simp [hback],
        fun w hw => ⟨fun hn => absurd hback hn, fun _ => hmember w hw⟩⟩
    · have hshape : a.relatedShape f = .embedded dto (naming.mapperName n v) :=
        Assembly.relatedShape_of_not_back hf hbean hv hback
      rw [hshape] at hmember ⊢
      exact ⟨by simp [hback], by simp [hback],
        fun w hw => ⟨fun _ => hmember w hw, fun hb => absurd hb hback⟩⟩
  · exact (Assembly.relatedShape_cases hm hf hrel).resolve_right hnone

/-! ## A shop -/

private def shopModel (name : String) (fields : List Model.Field) : Model where
  name := ⟨⟨"shop::model"⟩, name⟩
  parentSpace := ⟨"shop"⟩
  identifier := ⟨"id", .scalar "u64"⟩
  fields
  variants := [{ name := name ++ "Dto" }]
  generation := {}
  traits := ⟨true, true, false, false⟩
  eagerFetch := []

private def shopField (name : String) (relation : RelationKind) (target : String) : Model.Field :=
  { name, declaredType := target, relation, target := some ⟨⟨"shop::model"⟩, target⟩ }

private def toOrders : Model.Field := shopField "orders" .toMany "Order"
private def toProfile : Model.Field := shopField "profile" .toOne "Profile"
private def customerModel : Model := shopModel "Customer" [toOrders, toProfile]
private def orderModel : Model := shopModel "Order" [shopField "customer" .toOne "Customer"]
private def profileModel : Model := shopModel "Profile" []
private def shopGraph : ModelGraph := ⟨[orderModel, customerModel, profileModel]⟩

/-- The DTO of a customer holds that of the profile, which leads nowhere, and the identifiers of the
orders, which lead back to the customer. -/
theorem customer_embeds_profile_only :
    shopGraph.Relates customerModel toProfile profileModel ∧
    shopGraph.Relates customerModel toOrders orderModel ∧
    (Assembly.mk customerModel shopGraph {}).relatedShape toProfile =
      .embedded ⟨⟨"shop::dto"⟩, "ProfileDto"⟩ ⟨⟨"shop::mapper"⟩, "ProfileDtoMapper"⟩ ∧
    (Assembly.mk customerModel shopGraph {}).relatedShape toOrders = .reference := by
  have hprofile : shopGraph.Relates customerModel toProfile profileModel := by
    constructor <;> decide
  have horders : shopGraph.Relates customerModel toOrders orderModel := by
    constructor <;> decide
  have hleaf : ¬ Relation.ReflTransGen shopGraph.LeadsTo profileModel.name customerModel.name := by
    rw [← reaches_iff_reflTransGen]
    decide +kernel
  have hback : Relation.ReflTransGen shopGraph.LeadsTo orderModel.name customerModel.name := by
    rw [← reaches_iff_reflTransGen]
    decide +kernel
  have hexact := (embedding_acyclic_and_exact shopGraph {}).2.1
  refine ⟨hprofile, horders, ?_, ?_⟩
  · exact (hexact _ _ _ { name := "ProfileDto" } hprofile rfl rfl).1.mpr hleaf
  · exact (hexact _ _ _ { name := "OrderDto" } horders rfl rfl).2.1.mpr hback

end ModelGraph

end CrudScaffold
