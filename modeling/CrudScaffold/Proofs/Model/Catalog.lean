import CrudScaffold.Model.Catalog
import CrudScaffold.Proofs.Keys
import CrudScaffold.Proofs.Model.TypeIndex

/-!
# Catalogs of the same declarations

The graph of a catalog finds the first resolved model of a name. A declaration is resolved against the
meaning of its references, so that the order of the declarations does not matter for it; and as long as
resolved models have distinct names, it does not matter for what the graph finds either.
-/

namespace CrudScaffold

/-! ## Resolving -/

namespace Resolver

variable {r : Resolver} {index : TypeIndex}

/-- An identifier is resolved by what the references to its entities mean. -/
theorem identifier_congr (h : index.resolve = r.index.resolve) :
    { r with index }.identifier = r.identifier := by
  have hslot : { r with index }.slot = r.slot := by
    funext space s
    simp only [slot, h]
  funext space i
  simp only [identifier, hslot]

/-- A field is resolved by what the reference to its target means. -/
theorem field_congr (h : index.resolve = r.index.resolve) : { r with index }.field = r.field := by
  have htarget : { r with index }.target? = r.target? := by
    funext space f
    simp only [target?, h]
  funext space f
  unfold field
  rw [htarget]

/-- A declaration is resolved by what its references mean. -/
theorem resolve_congr (h : index.resolve = r.index.resolve) :
    { r with index }.resolve = r.resolve := by
  have hidentifier : { r with index }.declaredIdentifier = r.declaredIdentifier := by
    funext m
    simp only [declaredIdentifier, identifier_congr h]
  funext m
  unfold resolve
  rw [hidentifier, field_congr h]
  rfl

end Resolver

/-! ## The graph of a catalog -/

namespace ModelGraph

variable {g : ModelGraph} {m : Model} {n : QualifiedName}

/-- A model of a new name is put last. -/
theorem put_of_forall_ne {models : List Model} (h : ∀ m' ∈ models, m'.name ≠ m.name) :
    put m models = models ++ [m] := by
  induction models with
  | nil => rfl
  | cons m' rest ih =>
    have hrest := ih fun m'' hm'' => h m'' (List.mem_cons_of_mem m' hm'')
    rw [put, if_neg (h m' List.mem_cons_self), hrest, List.cons_append]

/-- What is found under a name stays; a model of a new name is found under it. -/
theorem get?_insertNew :
    (Catalog.insertNew g m).get? n = (g.get? n).or (if m.name = n then some m else none) := by
  unfold Catalog.insertNew
  cases hm : g.get? m.name with
  | some old =>
    by_cases hn : m.name = n
    · simp [← hn, hm]
    · simp [hn]
  | none =>
    have hnew : ∀ m' ∈ g.models, m'.name ≠ m.name := by
      simpa [get?] using hm
    simp only [Option.isNone_none, ↓reduceIte, get?, insert, put_of_forall_ne hnew,
      List.find?_append, List.find?_singleton, beq_iff_eq]

/-- Of several models of one name the first one is found. -/
theorem get?_foldl_insertNew (models : List Model) :
    (models.foldl Catalog.insertNew g).get? n =
      (g.get? n).or (models.find? fun m => m.name == n) := by
  induction models generalizing g with
  | nil => simp
  | cons m rest ih =>
    rw [List.foldl_cons, ih, get?_insertNew, Option.or_assoc, List.find?_cons]
    by_cases hn : m.name = n
    · simp [hn]
    · simp [hn, beq_false_of_ne hn]

end ModelGraph

namespace Catalog

variable {c : Catalog} {m : Model} {n : QualifiedName}

/-- The graph finds the first resolved model of a name. -/
theorem get?_graph : c.graph.get? n = c.models.find? fun m => m.name == n :=
  ModelGraph.get?_foldl_insertNew c.models

/-- What the graph finds is a resolved model of the name. -/
theorem mem_models_of_get?_graph (h : c.graph.get? n = some m) : m ∈ c.models ∧ m.name = n := by
  rw [get?_graph] at h
  exact ⟨List.mem_of_find?_eq_some h, by simpa using List.find?_some h⟩

/-- Where resolved models have distinct names, the graph finds each of them. -/
theorem get?_graph_iff (h : (c.models.map Model.name).Nodup) :
    c.graph.get? n = some m ↔ m ∈ c.models ∧ m.name = n := by
  rw [get?_graph, find?_key_eq_some_iff h]

/-! ## Declarations in another order -/

/-- What a declared model is resolved to. -/
def entry (c : Catalog) (declared : Manifest.Model) : Entry :=
  ⟨declared, (c.resolver.resolve declared).mapError (.unresolvable declared)⟩

variable {manifest : Manifest} {models : List Manifest.Model} {known : List String}
  {naming : Naming} {crate : String}

/-- A catalog has one entry for each declared model. -/
theorem entries_ofManifest :
    (ofManifest manifest known naming crate).entries =
      manifest.models.map (ofManifest manifest known naming crate).entry :=
  rfl

/-- A declared model is resolved alike whatever the order of the declarations. -/
theorem entry_ofManifest_perm (h : models.Perm manifest.models) :
    (ofManifest { manifest with models } known naming crate).entry =
      (ofManifest manifest known naming crate).entry := by
  funext declared
  have hresolve := Resolver.resolve_congr (r := (ofManifest manifest known naming crate).resolver)
    (TypeIndex.resolve_ofManifest_perm h known)
  unfold entry
  rw [← hresolve]
  rfl

/-- The entries of the same declarations are the same. -/
theorem entries_ofManifest_perm (h : models.Perm manifest.models) :
    (ofManifest { manifest with models } known naming crate).entries.Perm
      (ofManifest manifest known naming crate).entries := by
  rw [entries_ofManifest, entries_ofManifest, entry_ofManifest_perm h]
  exact h.map _

/-- The resolved models of the same declarations are the same. -/
theorem models_ofManifest_perm (h : models.Perm manifest.models) :
    (ofManifest { manifest with models } known naming crate).models.Perm
      (ofManifest manifest known naming crate).models :=
  (entries_ofManifest_perm h).filterMap _

/-- The graph finds the same models, as long as resolved models have distinct names. -/
theorem get?_graph_ofManifest_perm (h : models.Perm manifest.models)
    (hnames : ((ofManifest manifest known naming crate).models.map Model.name).Nodup) :
    (ofManifest { manifest with models } known naming crate).graph.get? =
      (ofManifest manifest known naming crate).graph.get? := by
  have hmodels : (ofManifest { manifest with models } known naming crate).models.Perm
      (ofManifest manifest known naming crate).models := models_ofManifest_perm h
  have hnames' := (hmodels.map Model.name).nodup_iff.mpr hnames
  funext n
  refine Option.ext fun m => ?_
  rw [get?_graph_iff hnames', get?_graph_iff hnames]
  exact and_congr_left' hmodels.mem_iff

end Catalog

end CrudScaffold
