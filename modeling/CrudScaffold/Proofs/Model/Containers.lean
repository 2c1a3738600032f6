import CrudScaffold.Model.Resolution
import CrudScaffold.Proofs.Except
import Mathlib.Logic.Relation

/-!
# Containers around a declared type

References, round brackets and paths with type arguments are seen through when a field is resolved. The
innermost element of a type is that of the type in the container, at whatever depth it stands. So it
makes no difference for the target of a field how its element is contained.
-/

namespace CrudScaffold

namespace Code

/-- The argument is no type. -/
def Arg.IsNoType (a : Arg) : Prop := ∀ t, a ≠ .type t

/-- The first type is a container right around the second one. -/
inductive Ty.Wraps : Ty → Ty → Prop where
  | reference (lifetime : Option String) (isMut : Bool) (t : Ty) :
      Wraps (.reference lifetime isMut t) t
  | paren (t : Ty) : Wraps (.paren t) t
  /-- A path whose last segment has the type as its last type argument. -/
  | path {p : Path} {name : String} {turbo trailing : Bool} {front back : List Arg} {t : Ty}
      (hlast : p.segments.getLast? =
        some (.mk name (.angle turbo (front ++ .type t :: back) trailing)))
      (hback : ∀ a ∈ back, a.IsNoType) : Wraps (.path p) t

/-- The second type stands at some depth in containers. -/
def Ty.Nests : Ty → Ty → Prop := Relation.ReflTransGen Ty.Wraps

variable {t u : Ty} {a : Arg} {front back : List Arg}

/-! ## Arguments and segments -/

private theorem Arg.IsNoType.element_eq_none (h : a.IsNoType) : a.element = none := by
  cases a with
  | type t => exact absurd rfl (h t)
  | _ => rfl

private theorem argsElement_eq_none (h : ∀ a ∈ back, a.IsNoType) : argsElement back = none := by
  induction back with
  | nil => rfl
  | cons a back ih =>
    obtain ⟨ha, hback⟩ := List.forall_mem_cons.mp h
    rw [argsElement, ih hback, ha.element_eq_none]

/-- The last type among arguments counts, whatever stands in front of it. -/
theorem argsElement_append (front : List Arg) (h : ∀ a ∈ back, a.IsNoType) :
    argsElement (front ++ .type t :: back) = some t.innermost := by
  induction front with
  | nil => rw [List.nil_append, argsElement, argsElement_eq_none h, Arg.element]
  | cons a front ih => rw [List.cons_append, argsElement, ih]

/-- The last of some segments counts. -/
theorem segmentsElement_eq (segments : List Segment) :
    segmentsElement segments = segments.getLast?.bind Segment.element := by
  induction segments with
  | nil => rfl
  | cons s segments ih =>
    cases segments with
    | nil => rfl
    | cons s' segments => rw [segmentsElement, ih, List.getLast?_cons_cons]

/-- The last segment of a path counts, be it one of a trait in front. -/
theorem Path.element_eq : (p : Path) → p.element = p.segments.getLast?.bind Segment.element
  | .plain _ segments => segmentsElement_eq segments
  | .ofType _ rest => segmentsElement_eq rest
  | .ofTrait _ trait rest => by
    cases rest with
    | nil => simpa [element, segments] using Path.element_eq trait
    | cons s rest =>
      rw [segments, List.getLast?_append_of_ne_nil _ (List.cons_ne_nil s rest)]
      exact segmentsElement_eq (s :: rest)

/-! ## Types -/

/-- A container has the innermost element of the type in it. -/
theorem Ty.Wraps.innermost_eq (h : u.Wraps t) : u.innermost = t.innermost := by
  cases h with
  | reference => rw [innermost]
  | paren => rw [innermost]
  | path hlast hback =>
    rw [innermost, Path.element_eq, hlast]
    simp only [Option.bind_some, Segment.element, Args.element, argsElement_append _ hback]

/-- Containers at any depth have the innermost element of the type in them. -/
theorem Ty.Nests.innermost_eq (h : u.Nests t) : u.innermost = t.innermost := by
  induction h with
  | refl => rfl
  | tail _ hlast ih => rw [ih, hlast.innermost_eq]

end Code

namespace Resolver

open Code

variable {t u : Ty} {f : Manifest.Field}

/-- Without a declared target, the innermost element of the declared type is referred to. -/
theorem reference?_eq (htarget : f.target = none) (htype : Ty.ofText? f.type = some t) :
    reference? f = t.innermost := by
  rw [reference?, htarget, elementTypeName?, htype]
  rfl

/-- Containers around the element of a type change nothing: the innermost element stays the same, and a
field that declares no target is resolved to the same target or refused all the same. All that
changes in what it is resolved to is the declared type itself. -/
theorem containers_do_not_count (h : u.Nests t) :
    u.innermost = t.innermost ∧
      ∀ (r : Resolver) (space : Namespace) (f : Manifest.Field) (wrapped : String),
        f.target = none → Ty.ofText? f.type = some t → Ty.ofText? wrapped = some u →
          (r.field space { f with type := wrapped }).toOption =
            (r.field space f).toOption.map fun g => { g with declaredType := wrapped } := by
  refine ⟨h.innermost_eq, fun r space f wrapped htarget htype hwrapped => ?_⟩
  have hinner : reference? { f with type := wrapped } = u.innermost :=
    reference?_eq htarget hwrapped
  have hfound : r.target? space { f with type := wrapped } = r.target? space f := by
    rw [target?, target?, hinner, h.innermost_eq, reference?_eq htarget htype]
  simp only [field, hfound, reverse?]
  split <;> rfl

/-! ### A cached customer -/

private def shopResolver : Resolver where
  index := ⟨[(⟨⟨"shop::model"⟩, "Customer"⟩, .model)]⟩
  naming := {}
  dtos := []
  runtimeCrate := "scrud_runtime"

private def buyer : Manifest.Field where
  name := "buyer"
  type := "Customer"
  cardinality := some .manyToOne

private def isCustomer : Ty → Bool
  | .path (.plain false [.mk "Customer" .none]) => true
  | _ => false

private def isCachedCustomer : Ty → Bool
  | .path (.plain false [.mk _ (.angle false
      [.lifetime _, .type _, .type (.reference _ false (.paren t))] false)]) => isCustomer t
  | _ => false

private theorem nests_of_isCachedCustomer (hcached : isCachedCustomer u = true)
    (hplain : isCustomer t = true) : u.Nests t := by
  have hcustomer {t : Ty} (h : isCustomer t = true) :
      t = .path (.plain false [.mk "Customer" .none]) := by
    unfold isCustomer at h
    split at h
    · rfl
    · cases h
  unfold isCachedCustomer at hcached
  split at hcached
  · next name lifetime key lifetime' inner =>
    have hcache : Ty.Wraps
        (.path (.plain false [.mk name (.angle false
          ([.lifetime lifetime, .type key] ++ [.type (.reference lifetime' false (.paren inner))])
          false)]))
        (.reference lifetime' false (.paren inner)) := .path rfl nofun
    rw [hcustomer hplain, ← hcustomer hcached]
    exact .head hcache (.head (.reference _ _ _) (.head (.paren _) .refl))
  · cases hcached

/-- A customer behind a reference in a cache is the target of its field, as a plain one is. -/
theorem cached_buyer_leads_to_customer :
    ∃ t u, buyer.target = none ∧ Ty.ofText? buyer.type = some t ∧
      Ty.ofText? "Cache<'a, u64, &'a (Customer)>" = some u ∧ u.Nests t ∧
      u.innermost = t.innermost ∧
      ∃ g, shopResolver.field ⟨"shop::model"⟩
          { buyer with type := "Cache<'a, u64, &'a (Customer)>" } = .ok g ∧
        g.relation = .toOne ∧ g.target = some ⟨⟨"shop::model"⟩, "Customer"⟩ := by
  have hplain : ∃ t ∈ Ty.ofText? "Customer", isCustomer t = true := by decide +kernel
  have hcached : ∃ u ∈ Ty.ofText? "Cache<'a, u64, &'a (Customer)>", isCachedCustomer u = true := by
    decide +kernel
  have hfield : ∃ g ∈ (shopResolver.field ⟨"shop::model"⟩ buyer).toOption,
      g.relation = .toOne ∧ g.target = some ⟨⟨"shop::model"⟩, "Customer"⟩ := by
    decide +kernel
  obtain ⟨t, ht, hcustomer⟩ := hplain
  obtain ⟨u, hu, hcontainer⟩ := hcached
  obtain ⟨g, hg, hrelation, htarget⟩ := hfield
  have hnests : u.Nests t := nests_of_isCachedCustomer hcontainer hcustomer
  obtain ⟨hinner, hsame⟩ := containers_do_not_count hnests
  have hwrapped := hsame shopResolver ⟨"shop::model"⟩ buyer _ rfl ht hu
  rw [hg, Option.map_some] at hwrapped
  exact ⟨t, u, rfl, ht, hu, hnests, hinner, _, toOption_eq_some_iff.mp hwrapped, hrelation, htarget⟩

end Resolver

end CrudScaffold
