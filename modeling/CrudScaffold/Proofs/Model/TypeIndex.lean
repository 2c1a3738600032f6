import CrudScaffold.Model.TypeIndex
import Mathlib.Data.List.Perm.Basic
import Mathlib.Data.List.Nodup

/-!
# What references mean

What a reference means depends on the indexed names alone, and not on their order. A reference with a
path asks whether a name is indexed; a simple name asks for the only indexed name that ends in it. So
an index of the same models in another order gives every reference the same meaning.
-/

namespace CrudScaffold.TypeIndex

/-- The indexed names in the order in which they were first filed. -/
def names (index : TypeIndex) : List QualifiedName := index.entries.map Prod.fst

variable {index other : TypeIndex} {n name : QualifiedName} {origin : TypeOrigin}

/-! ## Filing a type -/

/-- A type that is filed again keeps its place; a new one comes last. -/
theorem map_fst_put (entries : List (QualifiedName × TypeOrigin)) :
    (put name origin entries).map Prod.fst =
      if name ∈ entries.map Prod.fst then entries.map Prod.fst
      else entries.map Prod.fst ++ [name] := by
  induction entries with
  | nil => rfl
  | cons entry rest ih =>
    obtain ⟨n, o⟩ := entry
    by_cases hn : n = name
    · simp [put, hn]
    · have hne : name ≠ n := fun h => hn h.symm
      simp only [put, hn, ↓reduceIte, List.map_cons, ih, List.mem_cons, hne, false_or]
      split <;> rfl

/-- Filing a type adds its name unless it is there. -/
theorem names_insert :
    (index.insert name origin).names =
      if name ∈ index.names then index.names else index.names ++ [name] :=
  map_fst_put index.entries

/-- The indexed names after a type was filed. -/
theorem mem_names_insert :
    n ∈ (index.insert name origin).names ↔ n ∈ index.names ∨ n = name := by
  rw [names_insert]
  split
  · next h =>
    constructor
    · exact .inl
    · rintro (hn | rfl)
      · exact hn
      · exact h
  · rw [List.mem_append, List.mem_singleton]

/-- No name is indexed twice. -/
theorem nodup_names_insert (h : index.names.Nodup) : (index.insert name origin).names.Nodup := by
  rw [names_insert]
  split
  · exact h
  · next hnew =>
    rw [← List.concat_eq_append]
    exact h.concat hnew

/-- Filing a type keeps two indexes alike. -/
theorem names_insert_perm (h : index.names.Perm other.names) :
    (index.insert name origin).names.Perm (other.insert name origin).names := by
  rw [names_insert, names_insert]
  by_cases hmem : name ∈ index.names
  · rw [if_pos hmem, if_pos (h.mem_iff.mp hmem)]
    exact h
  · rw [if_neg hmem, if_neg fun ho => hmem (h.mem_iff.mpr ho)]
    exact h.append_right [name]

/-! ## References -/

/-- A type is indexed exactly if its name is. -/
theorem contains_iff : index.contains n = true ↔ n ∈ index.names := by
  rw [contains, origin?, Option.isSome_iff_ne_none, ne_eq, List.lookup_eq_none_iff]
  simp only [bne_iff_ne, ne_eq, names, List.mem_map]
  constructor
  · intro h
    by_contra hnone
    exact h fun p hp heq => hnone ⟨p, hp, heq.symm⟩
  · rintro ⟨p, hp, rfl⟩ hnone
    exact hnone p hp rfl

/-- The name of a type that is indexed stands among those of its simple name. -/
theorem mem_named_iff {simple : String} :
    n ∈ index.named simple ↔ n ∈ index.names ∧ n.name = simple := by
  rw [named, List.mem_filter, beq_iff_eq]
  rfl

/-- Indexes of the same names have the same types of a simple name. -/
theorem named_perm (h : index.names.Perm other.names) (simple : String) :
    (index.named simple).Perm (other.named simple) :=
  h.filter _

/-- A reference means the same in indexes of the same names. -/
theorem resolve_congr (h : index.names.Perm other.names) : index.resolve = other.resolve := by
  have hcontains : index.contains = other.contains := by
    funext n
    rw [Bool.eq_iff_iff, contains_iff, contains_iff, h.mem_iff]
  funext reference seenFrom
  unfold resolve
  simp only [hcontains]
  split
  · rfl
  · split
    · rfl
    · -- Two indexes of the same names have either both or neither a type to themselves.
      have hnamed := named_perm h (.ofList (dropCrate (Text.trim reference.toList)))
      split
      · next only hone =>
        rw [hone, List.singleton_perm] at hnamed
        rw [← hnamed]
      · next hother =>
        split
        · next only hone =>
          rw [hone, List.perm_singleton] at hnamed
          exact absurd hnamed (hother only)
        · rfl

/-! ## The index of a manifest -/

/-- The declared models add the names of their paths. -/
theorem mem_names_foldl_insertModel (models : List Manifest.Model) :
    n ∈ (models.foldl insertModel index).names ↔
      n ∈ index.names ∨ ∃ m ∈ models, QualifiedName.parse m.qualifiedName = some n := by
  induction models generalizing index with
  | nil => simp
  | cons m rest ih =>
    rw [List.foldl_cons, ih, List.exists_mem_cons_iff, ← or_assoc]
    refine or_congr_left ?_
    cases hm : QualifiedName.parse m.qualifiedName with
    | none => simp [insertModel, hm]
    | some name => simp only [insertModel, hm, mem_names_insert, Option.some.injEq, eq_comm]

/-- No name is indexed twice, whatever models are declared. -/
theorem nodup_names_foldl_insertModel (models : List Manifest.Model) (h : index.names.Nodup) :
    (models.foldl insertModel index).names.Nodup := by
  induction models generalizing index with
  | nil => exact h
  | cons m rest ih =>
    refine ih ?_
    unfold insertModel
    split
    · exact nodup_names_insert h
    · exact h

/-- Models in another order are indexed alike. -/
theorem names_foldl_insertModel_perm {models models' : List Manifest.Model}
    (h : models.Perm models') (hnodup : index.names.Nodup) :
    (models.foldl insertModel index).names.Perm (models'.foldl insertModel index).names := by
  rw [List.perm_ext_iff_of_nodup (nodup_names_foldl_insertModel models hnodup)
    (nodup_names_foldl_insertModel models' hnodup)]
  intro n
  simp only [mem_names_foldl_insertModel, h.mem_iff]

/-- Declared DTOs keep two indexes alike. -/
theorem names_foldl_insertDto_perm (dtos : List Manifest.Dto)
    (h : index.names.Perm other.names) :
    (dtos.foldl insertDto index).names.Perm (dtos.foldl insertDto other).names := by
  induction dtos generalizing index other with
  | nil => exact h
  | cons dto rest ih =>
    refine ih ?_
    have hspace : index.dtoSpace? dto = other.dtoSpace? dto := by
      unfold dtoSpace?
      rw [resolve_congr h]
    unfold insertDto
    rw [hspace]
    split
    · exact names_insert_perm h
    · exact h

/-- Types from elsewhere keep two indexes alike. -/
theorem names_foldl_insertKnown_perm (known : List String)
    (h : index.names.Perm other.names) :
    (known.foldl insertKnown index).names.Perm (known.foldl insertKnown other).names := by
  induction known generalizing index other with
  | nil => exact h
  | cons path rest ih =>
    refine ih ?_
    unfold insertKnown
    split
    · exact names_insert_perm h
    · exact h

/-- File types of one origin. -/
def fileAll (origin : TypeOrigin) (index : TypeIndex) (names : List QualifiedName) : TypeIndex :=
  names.foldl (fun index n => index.insert n origin) index

/-- Declared models are filed under what their paths are read as. -/
theorem foldl_insertModel_eq (models : List Manifest.Model) :
    models.foldl insertModel index =
      index.fileAll .model (models.filterMap fun m => QualifiedName.parse m.qualifiedName) := by
  rw [fileAll, List.foldl_filterMap]
  refine congrArg (fun file => models.foldl file index) ?_
  funext index m
  unfold insertModel
  cases QualifiedName.parse m.qualifiedName <;> rfl

/-- An index knows nothing of a model but its path. -/
theorem ofManifest_congr {manifest manifest' : Manifest} (hdtos : manifest'.dtos = manifest.dtos)
    (hpaths : manifest'.models.map Manifest.Model.qualifiedName =
      manifest.models.map Manifest.Model.qualifiedName) (known : List String) :
    ofManifest manifest' known = ofManifest manifest known := by
  have hnames (models : List Manifest.Model) :
      (models.filterMap fun m => QualifiedName.parse m.qualifiedName) =
        (models.map Manifest.Model.qualifiedName).filterMap QualifiedName.parse := by
    rw [List.filterMap_map]
    rfl
  unfold ofManifest
  rw [foldl_insertModel_eq, foldl_insertModel_eq, hnames, hnames, hpaths, hdtos]

/-- A reference means the same whatever the order in which the models are declared. -/
theorem resolve_ofManifest_perm {manifest : Manifest} {models : List Manifest.Model}
    (h : models.Perm manifest.models) (known : List String) :
    (ofManifest { manifest with models } known).resolve = (ofManifest manifest known).resolve :=
  resolve_congr <| names_foldl_insertKnown_perm known <|
    names_foldl_insertDto_perm manifest.dtos <| names_foldl_insertModel_perm h List.nodup_nil

end CrudScaffold.TypeIndex
