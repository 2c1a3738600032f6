import CrudScaffold.Proofs.Assembly.Operations
import CrudScaffold.Proofs.Model.WellFormed

/-!
# Lookups of relations

After its baseline operations a repository has one lookup for each to-one relation of its model. What
the lookup asks the store for follows from the declaration of the relation: a bidirectional one is
looked up at the related type, by the field that leads back, any other one by a join from the owner.
-/

namespace CrudScaffold

/-- What the lookup of a declared relation between two types asks for. -/
inductive Manifest.Field.AsksFor (d : Manifest.Field) (owner target : QualifiedName) :
    QueryShape → Prop where
  /-- The related type is asked for the instance whose reverse field holds the owner, or has the owner
  among others where several owners share it. -/
  | directly {reverse : String} {isCollection : Bool} (bidirectional : d.bidirectional = true)
    (reverse_eq : d.reverse = some reverse)
    (isCollection_iff : isCollection = true ↔ d.cardinality = some .manyToOne) :
    AsksFor d owner target (.directEquality target reverse isCollection)
  /-- The owner is joined to its relation, also where a reverse field is named for nothing. -/
  | joined (oneWay : d.bidirectional = false) : AsksFor d owner target (.join owner d.name target)

namespace Resolver

open Assembly

variable {r : Resolver} {m : Manifest.Model} {model : Model} {f : Model.Field} {d : Manifest.Field}
  {target : QualifiedName}

/-- A to-one field of a resolved model comes from the declaration of its name, and leads to what the
declared target, or else the declared type, is resolved to. -/
structure Declares (r : Resolver) (m : Manifest.Model) (model : Model) (f : Model.Field)
    (d : Manifest.Field) (target : QualifiedName) : Prop where
  declared : d ∈ plainFields m model.identifier
  name : f.name = d.name
  only : ∀ d' ∈ m.fields, d'.name = f.name → d' = d
  toOne : d.IsToOne
  resolved : ∃ reference, d.target.or (elementTypeName? d.type) = some reference ∧
    r.index.resolve reference m.declaredSpace = some target
  leads : f.target = some target

/-- A lookup takes an identifier and gives the related instance, if there is one, by the query that the
declaration asks for. -/
structure LooksUp (a : Assembly) (d : Manifest.Field) (target : QualifiedName) (o : Operation) :
    Prop where
  name : o.name = Naming.finder d.name
  params : o.params = [a.idParam]
  returns : o.returns = .optional (.named target)
  failure : o.failure = some .runtime
  query : ∃ shape, d.AsksFor a.model.name target shape ∧
    o.body = .query ⟨shape, a.model.traits.disableable⟩

/-- A to-one field of a resolved model has exactly one declaration. -/
theorem exists_declares_of_resolve (h : r.resolve m = .ok model) (hf : f ∈ model.toOneRelations) :
    ∃ d target, r.Declares m model f d target ∧ FollowsFrom d f := by
  obtain ⟨hmem, htoOne⟩ := List.mem_filter.mp hf
  obtain ⟨target, htarget⟩ := exists_target_of_resolve h hf
  obtain ⟨_, _, _, hidentifier, -, -, -, rfl, -⟩ := exists_of_resolve h
  obtain ⟨hvalid, -⟩ := declaredIdentifier_eq_ok_iff.mp hidentifier
  rcases mem_fields_of_resolve h hmem with ⟨d, hplain, hfield⟩ | hcolumn
  · have hd : d ∈ m.fields := List.mem_of_mem_filter hplain
    have hfollows := followsFrom_of_field hvalid hd hfield
    have hdistinct := (Manifest.Model.isValid_iff.mp hvalid).fields_distinct
    obtain ⟨-, hresolved⟩ := target?_eq_some_iff.mp ((of_field hfield).2.symm.trans htarget)
    refine ⟨d, target, ⟨hplain, hfollows.name, fun d' hd' hname => ?_, ?_, ?_, htarget⟩, hfollows⟩
    · exact List.inj_on_of_nodup_map hdistinct hd' hd (hname.trans hfollows.name)
    · rw [Manifest.Field.IsToOne, ← RelationKind.ofCardinality_eq_toOne_iff, ← hfollows.relation]
      exact beq_iff_eq.mp htoOne
    · exact hresolved
  · rw [(column_of_mem_columns hcolumn).2] at htoOne
    cases htoOne

/-- Of the two to-one cardinalities one is one-to-one and the other many-to-one. -/
theorem isToOne_cases (h : d.IsToOne) :
    d.cardinality = some .oneToOne ∨ d.cardinality = some .manyToOne := by
  unfold Manifest.Field.IsToOne at h
  cases hc : d.cardinality with
  | none => simp [hc] at h
  | some c => cases c <;> simp [hc, Cardinality.isToOne] at h ⊢

/-- The lookup of a field asks for what its declaration says. -/
theorem exists_shape_of_declares {a : Assembly} (h : r.Declares m a.model f d target)
    (hfollows : FollowsFrom d f) :
    ∃ shape, a.lookupShape? f = some shape ∧ d.AsksFor a.model.name target shape := by
  have hrelation : f.relation = .toOne := by
    rw [hfollows.relation, RelationKind.ofCardinality_eq_toOne_iff]
    exact h.toOne
  unfold lookupShape?
  rw [h.leads, Option.map_some]
  cases hreverse : f.reverse with
  | none =>
    refine ⟨_, rfl, ?_⟩
    have honeWay : d.bidirectional = false := by
      by_contra hboth
      have hsome := hfollows.reverse_iff.mpr ⟨hrelation, by simpa using hboth⟩
      rw [hreverse] at hsome
      cases hsome
    rw [h.name]
    exact .joined honeWay
  | some back =>
    refine ⟨_, rfl, ?_⟩
    obtain ⟨-, hboth⟩ := hfollows.reverse_iff.mp (by rw [hreverse]; rfl)
    obtain ⟨hname, hone⟩ := hfollows.reverse_eq back hreverse
    refine .directly hboth hname ?_
    rw [Bool.not_eq_true', ← Bool.not_eq_true, hone]
    rcases isToOne_cases h.toOne with hc | hc <;> simp [hc]

/-- The repository of a resolved model has the baseline operations and then one lookup for each to-one
field of the model, in the order of the fields, which is that of their declarations. -/
theorem lookups_follow_declarations (h : r.resolve m = .ok model) (graph : ModelGraph)
    (naming : Naming) :
    let a : Assembly := ⟨model, graph, naming⟩
    (a.storageOperations.take 8).map Operation.name = baselineNames ∧
    List.Forall₂ (fun f o => ∃ d target, r.Declares m model f d target ∧ LooksUp a d target o)
      model.toOneRelations (a.storageOperations.drop 8) ∧
    model.toOneRelations.map Model.Field.name =
      ((plainFields m model.identifier).filter fun d => d.cardinality.any Cardinality.isToOne).map
        Manifest.Field.name ∧
    ∀ s, a.repositorySpec = .ok s → s.operations = a.storageOperations := by
  intro a
  have hsplit : a.storageOperations =
      (a.baselineOperations.map fun o => { o with failure := some .runtime }) ++
        (model.toOneRelations.filterMap a.finderOperation?).map fun o =>
          { o with failure := some .runtime } := List.map_append
  have hlength : (a.baselineOperations.map fun o => { o with failure := some .runtime }).length =
      8 := rfl
  refine ⟨?_, ?_, ?_, fun s hs => (views_repositorySpec hs).1⟩
  · rw [hsplit, List.take_left' hlength]
    rfl
  · rw [hsplit, List.drop_left' hlength, List.forall₂_map_right_iff]
    refine forall₂_filterMap fun f hf => ?_
    obtain ⟨d, target, hdeclares, hfollows⟩ := exists_declares_of_resolve h hf
    obtain ⟨shape, hshape, hasks⟩ := exists_shape_of_declares (a := a) hdeclares hfollows
    refine ⟨_, by rw [finderOperation?, hshape, Option.map_some], d, target, hdeclares, ?_⟩
    exact
      { name := by rw [hdeclares.name]
        params := rfl
        returns := by simp only [hdeclares.leads]
        failure := rfl
        query := ⟨shape, hasks, rfl⟩ }
  · obtain ⟨declared, hfields, hfollow⟩ := exists_fields_of_resolve h
    have hcolumns : ((r.addedColumns m model.identifier).filter fun f => f.relation == .toOne) =
        [] := by
      refine List.filter_eq_nil_iff.mpr fun f hf => ?_
      rw [(column_of_mem_columns (List.mem_of_mem_filter hf)).2]
      decide
    rw [Model.toOneRelations, hfields, List.filter_append, hcolumns, List.append_nil]
    refine map_filter_eq_of_forall₂ hfollow (fun d f hdf => hdf.name) fun d f hdf => ?_
    rw [hdf.relation, Bool.eq_iff_iff, beq_iff_eq]
    exact RelationKind.ofCardinality_eq_toOne_iff

/-! ### An order with its customer, invoice and carrier -/

private def sales (name : String) : QualifiedName := ⟨⟨"shop::model"⟩, name⟩

private def salesResolver : Resolver where
  index := ⟨["Customer", "Invoice", "Carrier"].map fun name => (sales name, .model)⟩
  naming := {}
  dtos := []
  runtimeCrate := "scrud_runtime"

-- Customers lead back to many orders and invoices to one. Carriers do not lead back, although a
-- reverse field is named.
private def shippedOrder : Manifest.Model where
  name := "Order"
  space := "shop::model"
  identifier := some { type := some "u64" }
  fields :=
    [{ name := "customer", type := "Customer", cardinality := some .manyToOne,
       target := some "Customer", bidirectional := true, reverse := some "orders" },
     { name := "total", type := "u64" },
     { name := "invoice", type := "Invoice", cardinality := some .oneToOne,
       target := some "Invoice", bidirectional := true, reverse := some "order" },
     { name := "carrier", type := "Carrier", cardinality := some .manyToOne,
       target := some "Carrier", reverse := some "shipments" }]

/-- The customer and the invoice of an order are looked up directly, the carrier by a join. -/
theorem order_lookups_follow_declarations :
    ∃ model, salesResolver.resolve shippedOrder = .ok model ∧ ∀ graph naming,
      let a : Assembly := ⟨model, graph, naming⟩
      (a.storageOperations.drop 8).map Operation.body =
        [.query ⟨.directEquality (sales "Customer") "orders" true, false⟩,
         .query ⟨.directEquality (sales "Invoice") "order" false, false⟩,
         .query ⟨.join (sales "Order") "carrier" (sales "Carrier"), false⟩] ∧
      List.Forall₂
        (fun f o => ∃ d target, salesResolver.Declares shippedOrder model f d target ∧
          LooksUp a d target o)
        model.toOneRelations (a.storageOperations.drop 8) := by
  obtain ⟨model, hresolve⟩ : ∃ model, salesResolver.resolve shippedOrder = .ok model := ⟨_, rfl⟩
  refine ⟨model, hresolve, fun graph naming => ⟨?_, ?_⟩⟩
  · cases hresolve
    rfl
  · exact (lookups_follow_declarations hresolve graph naming).2.1

end Resolver

end CrudScaffold
