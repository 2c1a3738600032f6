import CrudScaffold.Proofs.Assembly.Closure
import CrudScaffold.Proofs.Model.Resolution
import CrudScaffold.Proofs.Name.Namespace
import CrudScaffold.Proofs.Store.Directory
import CrudScaffold.Proofs.Text.Descent

/-!
# Artifacts below the output root

Namespaces are any texts, and their segments are appended to the output root as paths. The file of an
artifact is below the root exactly if each segment only goes down. The artifacts of a model are in its own
namespace, in siblings of it and in the namespaces that its DTO variants declare. A sibling goes down with
the namespace, so that it depends on the declared namespaces alone whether all artifacts stay below the
root.
-/

namespace CrudScaffold

open FilePath

/-! ## Single artifacts -/

/-- No segment of a namespace leads out of a root. -/
structure Namespace.Confined (ns : Namespace) (root : FilePath) : Prop where
  descends : ∀ segment ∈ ns.segments, (FilePath.mk segment).Descends
  /-- Where the root is an empty path, the first segment opens the whole path, and not with a dot. -/
  opens : root.text = "" → ∀ segment ∈ ns.segments.head?, .here ∉ (FilePath.mk segment).components

instance (ns : Namespace) (root : FilePath) : Decidable (ns.Confined root) :=
  decidable_of_iff
    ((∀ segment ∈ ns.segments, (FilePath.mk segment).Descends) ∧
      (root.text = "" → ∀ segment ∈ ns.segments.head?, .here ∉ (FilePath.mk segment).components))
    ⟨fun h => ⟨h.1, h.2⟩, fun h => ⟨h.1, h.2⟩⟩

namespace QualifiedName

variable {n : QualifiedName} {r : ArtifactRoots}

/-- The file of an artifact is below the output root: its own path only goes down, and nothing but names
comes after the root. -/
structure StaysBelow (n : QualifiedName) (r : ArtifactRoots) : Prop where
  descends : (n.relativeFile ArtifactRoots.extension).Descends
  below : (r.pathOf n).LeadsBelow r.output

/-- The file of an artifact goes down if each segment of its namespace does. -/
theorem descends_relativeFile_iff :
    (n.relativeFile ArtifactRoots.extension).Descends ↔
      ∀ segment ∈ n.space.segments, (FilePath.mk segment).Descends := by
  have hstart : (FilePath.mk "").Descends := ⟨rfl, by decide⟩
  have hfile := descends_of_isName n.isName_fileName
  simp only [relativeFile_eq, descends_foldl_push_iff, hstart, true_and, fileNames, List.mem_append,
    List.mem_singleton, or_imp, forall_and, forall_eq, hfile, and_true]

/-- The file of an artifact is opened by a dot where the first segment of its namespace is. -/
theorem here_mem_components_relativeFile_iff
    (h : (n.relativeFile ArtifactRoots.extension).Descends) :
    .here ∈ (n.relativeFile ArtifactRoots.extension).components ↔
      ∃ segment ∈ n.space.segments.head?, .here ∈ (FilePath.mk segment).components := by
  have hfile : .here ∉ (FilePath.mk n.fileName).components := by
    rw [components_of_isName n.isName_fileName]
    simp
  rw [descends_relativeFile_iff] at h
  rw [relativeFile_eq, fileNames]
  cases hsegments : n.space.segments with
  | nil => simpa [push_of_empty] using hfile
  | cons segment segments =>
    rw [hsegments, List.forall_mem_cons] at h
    have hne : segment ≠ "" :=
      Namespace.ne_empty_of_mem_segments (hsegments ▸ List.mem_cons_self)
    have hrelative : ∀ name ∈ segments ++ [n.fileName], (FilePath.mk name).isAbsolute = false := by
      intro name hname
      rcases List.mem_append.mp hname with hname | hname
      · exact (h.2 name hname).relative
      · rw [List.mem_singleton.mp hname]
        exact isAbsolute_of_isName n.isName_fileName
    rw [List.cons_append, List.foldl_cons, push_of_empty rfl, here_mem_components_iff,
      opening_foldl_push hne hrelative, ← here_mem_components_iff]
    simp

/-- The name of the file is the last component of its path. -/
theorem fileName_mem_components_relativeFile (n : QualifiedName) :
    .named n.fileName ∈ (n.relativeFile ArtifactRoots.extension).components := by
  have hcomponents : (n.relativeFile ArtifactRoots.extension).components =
      (FilePath.ofParts n.space.segments).components ++ [.named n.fileName] :=
    components_push_name n.isName_fileName
  rw [hcomponents]
  exact List.mem_append_right _ (List.mem_singleton_self _)

/-- The file of an artifact stays below the output root exactly if its namespace does. -/
theorem staysBelow_iff : n.StaysBelow r ↔ n.space.Confined r.output := by
  have hbelow (h : (n.relativeFile ArtifactRoots.extension).Descends) :
      (r.pathOf n).LeadsBelow r.output ↔ (r.output.text = "" →
        ¬ ∃ segment ∈ n.space.segments.head?, .here ∈ (FilePath.mk segment).components) := by
    rw [← here_mem_components_relativeFile_iff h, ArtifactRoots.pathOf, ArtifactRoots.fileBelow]
    exact leadsBelow_push_iff h n.fileName_mem_components_relativeFile
  constructor
  · rintro ⟨hdescends, hpath⟩
    refine ⟨descends_relativeFile_iff.mp hdescends, fun hroot segment hsegment hdot => ?_⟩
    exact (hbelow hdescends).mp hpath hroot ⟨segment, hsegment, hdot⟩
  · rintro ⟨hsegments, hopens⟩
    have hdescends := descends_relativeFile_iff.mpr hsegments
    refine ⟨hdescends, (hbelow hdescends).mpr fun hroot => ?_⟩
    rintro ⟨segment, hsegment, hdot⟩
    exact hopens hroot segment hsegment hdot

end QualifiedName

/-! ## The artifacts of a model -/

namespace Namespace

variable {ns : Namespace} {root : FilePath}

/-- A sibling stays below a root with the namespace that it is a sibling of, also with a colon that its own
segment takes with it. -/
theorem Confined.sibling (h : ns.Confined root) {segment : String}
    (hwhole : Text.IsSegment segment.toList) (hname : IsName segment) (hcolon : IsName (":" ++ segment)) :
    (ns.parent.child segment).Confined root := by
  obtain ⟨front, lead, hfront, hlead, hsegments⟩ := exists_segments_sibling ns hwhole hname.ne_empty
  have hlast : IsName (lead ++ segment) := by
    rcases hlead with rfl | rfl
    · rwa [String.empty_append]
    · exact hcolon
  constructor
  · intro s hs
    rw [hsegments, List.mem_append, List.mem_singleton] at hs
    rcases hs with hs | rfl
    · exact h.descends s (hfront.subset hs)
    · exact descends_of_isName hlast
  · intro hroot s hs
    rw [hsegments] at hs
    cases front with
    | nil =>
      obtain rfl := Option.some.inj hs
      rw [components_of_isName hlast]
      simp
    | cons first rest =>
      obtain ⟨back, hback⟩ := hfront
      refine h.opens hroot s ?_
      rw [← hback]
      exact hs

end Namespace

namespace Naming

/-- The namespaces of the kinds are names, with and without a colon in front. -/
theorem isName_subspace {kind : ArtifactKind} {segment : String} (h : kind.subspace? = some segment) :
    Text.IsSegment segment.toList ∧ IsName segment ∧ IsName (":" ++ segment) := by
  cases kind <;> cases h <;> decide +kernel

/-- The artifacts of all kinds stay below a root with the namespace of their model. -/
theorem confined_spaceFor {model : Model} {root : FilePath} (h : model.space.Confined root)
    (hsiblings : model.parentSpace = model.space.parent) (kind : ArtifactKind) :
    (spaceFor model kind).Confined root := by
  unfold spaceFor
  split
  · next segment hsegment =>
    obtain ⟨hwhole, hname, hcolon⟩ := isName_subspace hsegment
    rw [hsiblings]
    exact h.sibling hwhole hname hcolon
  · exact h

end Naming

namespace Assembly

variable {a : Assembly} {x : Spec}

/-- An artifact is in the namespace of its kind, or in one that a variant declares. -/
theorem HasArtifact.space_cases (h : a.HasArtifact x) :
    (∃ kind, x.name.space = Naming.spaceFor a.model kind) ∨
      ∃ v ∈ a.model.variants, v.space = some x.name.space := by
  cases h with
  | @dto v hv =>
    cases hspace : v.space with
    | none => exact .inl ⟨.dto, by rw [dtoSpec, Naming.dtoName, hspace]; rfl⟩
    | some space => exact .inr ⟨v, hv, by rw [hspace, dtoSpec, Naming.dtoName, hspace]; rfl⟩
  | repository hx => exact .inl ⟨.repository, by rw [(of_repositorySpec hx).1]; rfl⟩
  | mapper => exact .inl ⟨.mapper, rfl⟩
  | idAdapter => exact .inl ⟨.idAdapter, rfl⟩
  | serviceInterface => exact .inl ⟨.serviceInterface, rfl⟩
  | serviceImpl => exact .inl ⟨.serviceImpl, rfl⟩
  | controller => exact .inl ⟨.controller, rfl⟩

end Assembly

namespace Resolver

variable {r : Resolver} {m : Manifest.Model} {model : Model}

/-- The file of an artifact of a resolved model is below the output root exactly if no segment of its
namespace leads out of it. All artifacts of the model are below the root exactly if neither the declared
namespace leads out of it nor one that a variant declares. -/
theorem artifacts_stay_below_iff (h : r.resolve m = .ok model) (graph : ModelGraph) (naming : Naming)
    (roots : ArtifactRoots) :
    let a : Assembly := ⟨model, graph, naming⟩
    (∀ x, x = a.predicatesSpec ∨ a.HasArtifact x →
        (x.name.StaysBelow roots ↔ x.name.space.Confined roots.output)) ∧
      ((∀ x, x = a.predicatesSpec ∨ a.HasArtifact x → x.name.StaysBelow roots) ↔
        m.declaredSpace.Confined roots.output ∧
          ∀ v ∈ model.variants, ∀ space ∈ v.space, space.Confined roots.output) := by
  intro a
  obtain ⟨-, -, -, -, -, -, hname, -⟩ := exists_of_resolve h
  have hspace : model.space = m.declaredSpace := congrArg QualifiedName.space hname
  refine ⟨fun x _ => QualifiedName.staysBelow_iff, ?_⟩
  simp only [QualifiedName.staysBelow_iff]
  constructor
  · intro hall
    constructor
    · rw [← hspace]
      exact hall a.predicatesSpec (.inl rfl)
    · intro v hv space hdeclared
      have hdto := hall (a.dtoSpec v) (.inr (.dto hv))
      rwa [Assembly.dtoSpec, Naming.dtoName, hdeclared] at hdto
  · rintro ⟨hdeclared, hvariants⟩ x hx
    have hkinds : ∀ kind, (Naming.spaceFor model kind).Confined roots.output :=
      Naming.confined_spaceFor (hspace ▸ hdeclared) (by rw [parentSpace_of_resolve h, hspace])
    rcases hx with rfl | hx
    · exact hkinds .predicateFactory
    · rcases hx.space_cases with ⟨kind, hkind⟩ | ⟨v, hv, hvariant⟩
      · rw [hkind]
        exact hkinds kind
      · exact hvariants v hv _ hvariant

/-! ### Parcels in unusual places -/

private def parcelResolver : Resolver where
  index := {}
  naming := {}
  dtos := [{ name := "Label", model := "Parcel", space := some "v1.0::..label" }]
  runtimeCrate := "scrud_runtime"

private def parcelRoots : ArtifactRoots := { output := ⟨"out"⟩ }

private def parcel (space : String) : Manifest.Model where
  name := "Parcel"
  space := space
  identifier := some { type := some "u64" }

/-- Slashes, dots and colons that are in excess do no harm in a declared namespace, if each segment only
goes down. -/
theorem artifacts_of_parcel_stay_below :
    ∃ model, parcelResolver.resolve (parcel "shop/./eu:::model") = .ok model ∧
      ∃ v ∈ model.variants,
        (parcelRoots.pathOf (Naming.dtoName model v)).text = "out/v1.0/..label/label.rs" ∧
        (parcelRoots.pathOf (Naming.mapperName {} model v)).text =
          "out/shop/./eu/:mapper/label_mapper.rs" ∧
        ∀ x, x = (Assembly.mk model {} {}).predicatesSpec ∨ (Assembly.mk model {} {}).HasArtifact x →
          x.name.StaysBelow parcelRoots := by
  obtain ⟨model, hresolve⟩ :
      ∃ model, parcelResolver.resolve (parcel "shop/./eu:::model") = .ok model := ⟨_, rfl⟩
  have hdeclared : (parcel "shop/./eu:::model").declaredSpace.Confined parcelRoots.output := by
    decide +kernel
  have hvariants : ∀ v ∈ model.variants, ∀ space ∈ v.space, space.Confined parcelRoots.output := by
    cases hresolve
    decide +kernel
  obtain ⟨v, hv, hdto, hmapper⟩ : ∃ v ∈ model.variants,
      (parcelRoots.pathOf (Naming.dtoName model v)).text = "out/v1.0/..label/label.rs" ∧
      (parcelRoots.pathOf (Naming.mapperName {} model v)).text =
        "out/shop/./eu/:mapper/label_mapper.rs" := by
    cases hresolve
    decide +kernel
  exact ⟨model, hresolve, v, hv, hdto, hmapper,
    (artifacts_stay_below_iff hresolve {} {} parcelRoots).2.mpr ⟨hdeclared, hvariants⟩⟩

/-- A segment of two dots leads out of the output root, and one that starts with a slash leads anywhere. -/
theorem predicates_of_parcel_leave_root :
    (∃ model, parcelResolver.resolve (parcel "..::model") = .ok model ∧
      (parcelRoots.pathOf (Assembly.mk model {} {}).predicatesSpec.name).text =
        "out/../model/parcel_predicates.rs" ∧
      ¬ (Assembly.mk model {} {}).predicatesSpec.name.StaysBelow parcelRoots) ∧
    ∃ model, parcelResolver.resolve (parcel "/etc::model") = .ok model ∧
      (parcelRoots.pathOf (Assembly.mk model {} {}).predicatesSpec.name).text =
        "/etc/model/parcel_predicates.rs" ∧
      ¬ (Assembly.mk model {} {}).predicatesSpec.name.StaysBelow parcelRoots := by
  constructor
  · refine ⟨_, rfl, by decide +kernel, ?_⟩
    rw [QualifiedName.staysBelow_iff]
    decide +kernel
  · refine ⟨_, rfl, by decide +kernel, ?_⟩
    rw [QualifiedName.staysBelow_iff]
    decide +kernel

end Resolver

end CrudScaffold
