import CrudScaffold.Proofs.Model.TypeIndex
import CrudScaffold.Proofs.Text.Path
import Mathlib.Data.Set.Basic
import Mathlib.Tactic.Tauto

/-!
# Looking up types

What a reference means follows from the set of the filed names, whatever their origins and however
often and in whatever order they were filed. An index may also keep a second table, with a list of
types for each simple name: filing a type keeps both tables in step, and they give the same answers.
-/

namespace CrudScaffold.TypeIndex

open Text

variable {index : TypeIndex} {n name : QualifiedName} {origin : TypeOrigin}
  {simple reference : String} {seenFrom : Namespace}

/-! ## Filing types -/

/-- The index of types that are filed one after the other. -/
def ofFiled (filed : List (QualifiedName × TypeOrigin)) : TypeIndex :=
  filed.foldl (fun index entry => index.insert entry.1 entry.2) {}

/-- Filing types adds their names to those that were indexed, each once. -/
theorem names_foldl_insert (filed : List (QualifiedName × TypeOrigin)) (h : index.names.Nodup) :
    (filed.foldl (fun index entry => index.insert entry.1 entry.2) index).names.Nodup ∧
      ∀ n, n ∈ (filed.foldl (fun index entry => index.insert entry.1 entry.2) index).names ↔
        n ∈ index.names ∨ n ∈ filed.map Prod.fst := by
  induction filed generalizing index with
  | nil => exact ⟨h, by simp⟩
  | cons entry rest ih =>
    obtain ⟨hnodup, hmem⟩ := ih (nodup_names_insert h)
    refine ⟨hnodup, fun n => ?_⟩
    rw [List.foldl_cons, hmem, mem_names_insert, List.map_cons, List.mem_cons, or_assoc]

/-- The indexed names are those that were filed, each once. -/
theorem names_ofFiled (filed : List (QualifiedName × TypeOrigin)) :
    (ofFiled filed).names.Nodup ∧ ∀ n, n ∈ (ofFiled filed).names ↔ n ∈ filed.map Prod.fst := by
  have hempty : ({} : TypeIndex).names.Nodup := List.nodup_nil
  obtain ⟨hnodup, hmem⟩ := names_foldl_insert filed hempty
  exact ⟨hnodup, fun n => (hmem n).trans (or_iff_right List.not_mem_nil)⟩

/-! ## What references mean -/

/-- What a reference means among types, when there are no blanks around it and no crate in front of
it any more. -/
inductive Means (types : Set QualifiedName) (seenFrom : Namespace) (text : List Char)
    (n : QualifiedName) : Prop where
  /-- A path means the type that it is read as. -/
  | path (qualified : [':', ':'] <:+: text) (read : QualifiedName.parse (.ofList text) = some n)
    (filed : n ∈ types)
  /-- A simple name means the type of this name in the namespace that it is seen from. -/
  | here (simple : ¬ [':', ':'] <:+: text) (own : n = seenFrom.qualify (.ofList text))
    (filed : n ∈ types)
  /-- Where there is none, it means the only type of this name. -/
  | only (simple : ¬ [':', ':'] <:+: text) (elsewhere : seenFrom.qualify (.ofList text) ∉ types)
    (filed : n ∈ types) (named : n.name = .ofList text)
    (unique : ∀ k ∈ types, k.name = .ofList text → k = n)

/-- A simple name has one type exactly if an indexed type has it and no other one does. -/
theorem named_eq_singleton_iff (hnodup : index.names.Nodup) :
    index.named simple = [n] ↔
      n ∈ index.names ∧ n.name = simple ∧ ∀ k ∈ index.names, k.name = simple → k = n := by
  constructor
  · intro hone
    have hmem (k : QualifiedName) : k = n ↔ k ∈ index.names ∧ k.name = simple := by
      rw [← mem_named_iff, hone, List.mem_singleton]
    obtain ⟨hn, hname⟩ := (hmem n).mp rfl
    exact ⟨hn, hname, fun k hk hsame => (hmem k).mpr ⟨hk, hsame⟩⟩
  · rintro ⟨hn, hname, hunique⟩
    have hnamed : (index.named simple).Nodup := hnodup.filter _
    rw [← List.perm_singleton, List.perm_ext_iff_of_nodup hnamed (List.nodup_singleton n)]
    intro k
    rw [mem_named_iff, List.mem_singleton]
    constructor
    · rintro ⟨hk, hsame⟩
      exact hunique k hk hsame
    · rintro rfl
      exact ⟨hn, hname⟩

/-- The index finds what a reference means among its names. -/
theorem resolve_eq_some_iff (hnodup : index.names.Nodup) :
    index.resolve reference seenFrom = some n ↔
      Means {k | k ∈ index.names} seenFrom (dropCrate (trim reference.toList)) n := by
  unfold resolve
  dsimp only
  generalize dropCrate (trim reference.toList) = text
  by_cases hpath : [':', ':'] <:+: text
  · rw [if_pos (containsSlice_iff.mpr hpath), Option.filter_eq_some_iff, contains_iff]
    constructor
    · rintro ⟨hread, hn⟩
      exact .path hpath hread hn
    · rintro (⟨-, hread, hn⟩ | ⟨hsimple, -, -⟩ | ⟨hsimple, -, -, -, -⟩)
      · exact ⟨hread, hn⟩
      · exact absurd hpath hsimple
      · exact absurd hpath hsimple
  · rw [if_neg fun hslice => hpath (containsSlice_iff.mp hslice)]
    by_cases hhere : seenFrom.qualify (.ofList text) ∈ index.names
    · rw [if_pos (contains_iff.mpr hhere), Option.some.injEq]
      constructor
      · rintro rfl
        exact .here hpath rfl hhere
      · rintro (⟨hslice, -, -⟩ | ⟨-, hown, -⟩ | ⟨-, helsewhere, -, -, -⟩)
        · exact absurd hslice hpath
        · exact hown.symm
        · exact absurd hhere helsewhere
    · rw [if_neg fun hcontains => hhere (contains_iff.mp hcontains)]
      suffices hmeans : Means {k | k ∈ index.names} seenFrom text n ↔
          index.named (.ofList text) = [n] by
        rw [hmeans]
        split
        · next only hone => rw [hone, Option.some.injEq, List.singleton_inj]
        · next hother => exact ⟨nofun, fun hone => absurd hone (hother n)⟩
      rw [named_eq_singleton_iff hnodup]
      constructor
      · rintro (⟨hslice, -, -⟩ | ⟨-, rfl, hn⟩ | ⟨-, -, hn, hname, hunique⟩)
        · exact absurd hslice hpath
        · exact absurd hn hhere
        · exact ⟨hn, hname, hunique⟩
      · rintro ⟨hn, hname, hunique⟩
        exact .only hpath hhere hn hname hunique

/-- What is dropped from a reference is the crate in front of it, as often as it is there. -/
theorem exists_dropCrate (cs : List Char) :
    (∃ k, cs = (List.replicate k "crate::".toList).flatten ++ dropCrate cs) ∧
      ¬ "crate::".toList <+: dropCrate cs := by
  have hcrate : "crate::".toList = ['c', 'r', 'a', 't', 'e', ':', ':'] := rfl
  rw [hcrate]
  fun_induction dropCrate cs with
  | case1 rest ih =>
    obtain ⟨⟨k, hk⟩, hprefix⟩ := ih
    refine ⟨⟨k + 1, ?_⟩, hprefix⟩
    rw [List.replicate_succ, List.flatten_cons, List.append_assoc, ← hk]
    rfl
  | case2 cs hother =>
    refine ⟨⟨0, rfl⟩, ?_⟩
    rintro ⟨rest, rfl⟩
    exact hother rest rfl

/-! ## Two tables -/

/-- An index that keeps a list of the types of each simple name beside the origins of all types. -/
structure Tables where
  origins : List (QualifiedName × TypeOrigin) := []
  bySimpleName : List (String × List QualifiedName) := []

namespace Tables

/-- Add a type to the list of its simple name, opening one where there is none. -/
def append (name : QualifiedName) :
    List (String × List QualifiedName) → List (String × List QualifiedName)
  | [] => [(name.name, [name])]
  | (simple, types) :: rest =>
    if simple = name.name then (simple, types ++ [name]) :: rest
    else (simple, types) :: append name rest

/-- The list that is kept for a simple name. -/
def kept (t : Tables) (simple : String) : List QualifiedName :=
  (t.bySimpleName.lookup simple).getD []

/-- File a type. Only a new one is added to the list of its simple name. -/
def insert (t : Tables) (name : QualifiedName) (origin : TypeOrigin) : Tables where
  origins := put name origin t.origins
  bySimpleName :=
    if (t.origins.lookup name).isSome then t.bySimpleName else append name t.bySimpleName

/-- The tables of types that are filed one after the other. -/
def ofFiled (filed : List (QualifiedName × TypeOrigin)) : Tables :=
  filed.foldl (fun t entry => t.insert entry.1 entry.2) {}

/-- The type that a reference means when it is seen from a namespace. -/
def resolve (t : Tables) (reference : String) (seenFrom : Namespace) : Option QualifiedName :=
  let chars := dropCrate (trim reference.toList)
  let filed (n : QualifiedName) : Bool := (t.origins.lookup n).isSome
  if containsSlice [':', ':'] chars then (QualifiedName.parse (.ofList chars)).filter filed
  else if filed (seenFrom.qualify (.ofList chars)) then some (seenFrom.qualify (.ofList chars))
  else
    match t.kept (.ofList chars) with
    | [only] => some only
    | _ => none

/-- The origins are those of an index, and the list of every simple name has the types that the
index has of it, in the same order. -/
structure InStep (t : Tables) (index : TypeIndex) : Prop where
  origins : t.origins = index.entries
  kept : ∀ simple, t.kept simple = index.named simple

variable {t : Tables}

/-- A name is appended to the list of its simple name, and to no other. -/
theorem lookup_append (lists : List (String × List QualifiedName)) :
    ((append name lists).lookup simple).getD [] =
      if simple = name.name then (lists.lookup simple).getD [] ++ [name]
      else (lists.lookup simple).getD [] := by
  induction lists with
  | nil =>
    by_cases hs : simple = name.name
    · simp [append, hs]
    · simp [append, hs, List.lookup_cons, beq_false_of_ne hs]
  | cons entry rest ih =>
    obtain ⟨s, types⟩ := entry
    rw [append]
    by_cases hfirst : s = name.name
    · rw [if_pos hfirst, List.lookup_cons, List.lookup_cons]
      by_cases hs : simple = name.name
      · simp [hs, hfirst]
      · simp [hs, hfirst, beq_false_of_ne]
    · rw [if_neg hfirst, List.lookup_cons, List.lookup_cons]
      by_cases hs : simple = s
      · subst hs
        simp [hfirst]
      · simp only [beq_false_of_ne hs, ih]

/-- A new type is the last one of its simple name; one that is filed again stays where it is. -/
theorem named_insert :
    (index.insert name origin).named simple =
      if name ∈ index.names ∨ simple ≠ name.name then index.named simple
      else index.named simple ++ [name] := by
  have hnamed (index : TypeIndex) :
      index.named simple = index.names.filter fun n => n.name == simple := rfl
  rw [hnamed, hnamed, names_insert]
  by_cases hmem : name ∈ index.names
  · simp [hmem]
  · rw [if_neg hmem, List.filter_append, List.filter_singleton]
    by_cases hs : simple = name.name
    · simp [hmem, hs]
    · have hother : (name.name == simple) = false := beq_false_of_ne fun h => hs h.symm
      simp [hs, hother]

/-- Filing a type keeps both tables in step. -/
theorem InStep.insert (h : t.InStep index) :
    (t.insert name origin).InStep (index.insert name origin) := by
  obtain ⟨horigins, hkept⟩ := h
  refine ⟨congrArg (put name origin) horigins, fun simple => ?_⟩
  have hfiled : (t.origins.lookup name).isSome = true ↔ name ∈ index.names := by
    rw [horigins]
    exact contains_iff
  rw [named_insert, ← hkept]
  by_cases hmem : name ∈ index.names
  · rw [if_pos (.inl hmem), Tables.kept, Tables.insert, if_pos (hfiled.mpr hmem)]
    rfl
  · simp only [Tables.kept, Tables.insert, if_neg (mt hfiled.mp hmem), lookup_append, hmem,
      false_or, ite_not]

/-- However types are filed, both tables stay in step. -/
theorem inStep_ofFiled (filed : List (QualifiedName × TypeOrigin)) :
    (ofFiled filed).InStep (TypeIndex.ofFiled filed) := by
  have hrun {t : Tables} {index : TypeIndex} (h : t.InStep index) :
      (filed.foldl (fun t entry => t.insert entry.1 entry.2) t).InStep
        (filed.foldl (fun index entry => index.insert entry.1 entry.2) index) := by
    induction filed generalizing t index with
    | nil => exact h
    | cons entry rest ih => exact ih h.insert
  exact hrun ⟨rfl, fun _ => rfl⟩

/-- Tables in step with an index find what the index finds. -/
theorem InStep.resolve_eq (h : t.InStep index) : t.resolve = index.resolve := by
  obtain ⟨horigins, hkept⟩ := h
  have hfiled (n : QualifiedName) : (t.origins.lookup n).isSome = index.contains n := by
    rw [horigins]
    rfl
  funext reference seenFrom
  unfold Tables.resolve
  simp only [hkept, hfiled]
  rfl

end Tables

/-! ## Lookup -/

/-- However types are filed, the list of a simple name has the filed types of this name, each once,
and a reference means what follows from the set of the filed names alone. -/
theorem lookup_follows_from_names (filed : List (QualifiedName × TypeOrigin)) :
    (∀ simple,
      (Tables.ofFiled filed).kept simple = (ofFiled filed).named simple ∧
      ((Tables.ofFiled filed).kept simple).Nodup ∧
      ∀ n, n ∈ (Tables.ofFiled filed).kept simple ↔ n ∈ filed.map Prod.fst ∧ n.name = simple) ∧
    (Tables.ofFiled filed).resolve = (ofFiled filed).resolve ∧
    (∀ reference seenFrom, ∃ k text,
      trim reference.toList = (List.replicate k "crate::".toList).flatten ++ text ∧
      ¬ "crate::".toList <+: text ∧
      ∀ n, (ofFiled filed).resolve reference seenFrom = some n ↔
        Means {k | k ∈ filed.map Prod.fst} seenFrom text n) ∧
    ∀ other, (∀ n, n ∈ other.map Prod.fst ↔ n ∈ filed.map Prod.fst) →
      (ofFiled other).resolve = (ofFiled filed).resolve := by
  have hmeans (filed : List (QualifiedName × TypeOrigin)) (reference : String)
      (seenFrom : Namespace) (n : QualifiedName) :
      (ofFiled filed).resolve reference seenFrom = some n ↔
        Means {k | k ∈ filed.map Prod.fst} seenFrom (dropCrate (trim reference.toList)) n := by
    obtain ⟨hnodup, hmem⟩ := names_ofFiled filed
    rw [resolve_eq_some_iff hnodup]
    simp only [hmem]
  obtain ⟨hnodup, hmem⟩ := names_ofFiled filed
  have hstep := Tables.inStep_ofFiled filed
  refine ⟨fun simple => ?_, hstep.resolve_eq, fun reference seenFrom => ?_, fun other hsame => ?_⟩
  · rw [hstep.kept]
    refine ⟨rfl, hnodup.filter _, fun n => ?_⟩
    rw [mem_named_iff, hmem]
  · obtain ⟨⟨k, hk⟩, hprefix⟩ := exists_dropCrate (trim reference.toList)
    exact ⟨k, _, hk, hprefix, hmeans filed reference seenFrom⟩
  · funext reference seenFrom
    ext n
    rw [hmeans, hmeans]
    simp only [hsame]

/-! ### Customers -/

private def shopCustomer : QualifiedName := ⟨⟨"shop::model"⟩, "Customer"⟩

private def crmCustomer : QualifiedName := ⟨⟨"crm::model"⟩, "Customer"⟩

/-- Filed again with another origin, a customer is still one of two, in whatever order they are
filed. -/
theorem customers_stay_ambiguous :
    let filed := [(shopCustomer, TypeOrigin.model), (crmCustomer, .model), (shopCustomer, .known)]
    let other := [(crmCustomer, TypeOrigin.dto), (shopCustomer, .model)]
    (Tables.ofFiled filed).kept "Customer" = [shopCustomer, crmCustomer] ∧
      (∀ n, n ∈ other.map Prod.fst ↔ n ∈ filed.map Prod.fst) ∧
      (ofFiled other).resolve "Customer" ⟨"billing::model"⟩ = none ∧
      (ofFiled other).resolve " crate::crm::model::Customer" .root = some crmCustomer := by
  intro filed other
  have hsame : ∀ n, n ∈ other.map Prod.fst ↔ n ∈ filed.map Prod.fst := by
    intro n
    simp only [other, filed, List.map_cons, List.map_nil, List.mem_cons, List.not_mem_nil, or_false]
    tauto
  obtain ⟨-, -, -, hhistory⟩ := lookup_follows_from_names filed
  rw [hhistory other hsame]
  exact ⟨by decide, hsame, by decide, by decide⟩

end CrudScaffold.TypeIndex
