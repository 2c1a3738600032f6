import CrudScaffold.Name.Naming
import Mathlib.Data.List.Infix

/-!
# Generated names

The name of what is generated for a model is the simple name of the model with a suffix. Simple names
are any texts, and one may end in the suffix of something else. As long as no suffix is the ending of
another one, a generated name still tells what it was generated for: its last suffix, the simple name
in front of it, and the namespace.
-/

namespace CrudScaffold

/-- What is named after a model: its artifact of a kind, or the alias of its identifier type. -/
inductive NamedItem where
  | artifact (kind : ArtifactKind)
  | idAlias
  deriving DecidableEq, Repr

namespace NamedItem

/-- All items that are named after a model. -/
def all : List NamedItem := ArtifactKind.all.map .artifact ++ [.idAlias]

private theorem mem_all (i : NamedItem) : i ∈ all := by
  cases i with
  | artifact kind => cases kind <;> decide
  | idAlias => decide

/-- The namespace of an item: that of its kind below the parent namespace of the model, or that of the
model. -/
def spaceFor (m : Model) : NamedItem → Namespace
  | .artifact kind => Naming.spaceFor m kind
  | .idAlias => m.space

end NamedItem

namespace Naming

variable {n : Naming} {m m' : Model} {i j : NamedItem}

/-- What follows the simple name of the model in the name of an item. -/
def suffix (n : Naming) : NamedItem → String
  | .artifact .dto => n.dto
  | .artifact .mapper => n.dto ++ n.mapper
  | .artifact .idAdapter => n.idAdapter
  | .artifact .repository => n.repository
  | .artifact .serviceInterface => n.service
  | .artifact .serviceImpl => n.serviceImpl
  | .artifact .controller => n.controller
  | .artifact .predicateFactory => n.predicates
  | .idAlias => n.idAlias

/-- The qualified name of an item. -/
def itemName (n : Naming) (m : Model) : NamedItem → QualifiedName
  | .artifact kind => n.artifact m kind
  | .idAlias => n.idAliasName m

/-- The name of an item is the simple name of the model with the suffix of the item. -/
theorem itemName_eq (n : Naming) (m : Model) (i : NamedItem) :
    n.itemName m i = (i.spaceFor m).qualify (m.simpleName ++ n.suffix i) := by
  cases i with
  | idAlias => rfl
  | artifact kind =>
    cases kind with
    | mapper =>
      rw [suffix, ← String.append_assoc]
      rfl
    | _ => rfl

/-- No suffix is the ending of the suffix of another item. -/
def SuffixFree (n : Naming) : Prop :=
  ∀ i j, (n.suffix i).toList <:+ (n.suffix j).toList → i = j

instance (n : Naming) : Decidable n.SuffixFree :=
  decidable_of_iff
    (∀ i ∈ NamedItem.all, ∀ j ∈ NamedItem.all, (n.suffix i).toList <:+ (n.suffix j).toList → i = j)
    ⟨fun h i j => h i i.mem_all j j.mem_all, fun h i _ j _ => h i j⟩

/-- The usual suffixes tell their items apart. -/
theorem suffixFree_usual : SuffixFree {} := by decide

-- Others may not: here the service of an `OrderService` is named as the implementation of an `Order`.
example : ¬ SuffixFree { service := "Impl" } := by decide

/-- Where suffixes tell their items apart, the end of a name tells the item, and the rest of it the
model. -/
theorem SuffixFree.append_suffix_eq_iff (h : n.SuffixFree) {stem stem' : String} :
    stem ++ n.suffix i = stem' ++ n.suffix j ↔ i = j ∧ stem = stem' := by
  constructor
  · intro heq
    have hi : (n.suffix i).toList <:+ (stem' ++ n.suffix j).toList := by
      rw [← heq, String.toList_append]
      exact List.suffix_append _ _
    have hj : (n.suffix j).toList <:+ (stem' ++ n.suffix j).toList := by
      rw [String.toList_append]
      exact List.suffix_append _ _
    -- Of two endings of one text one is the ending of the other.
    have hitem : i = j := by
      rcases List.suffix_or_suffix_of_suffix hi hj with hends | hends
      · exact h i j hends
      · exact (h j i hends).symm
    subst hitem
    exact ⟨rfl, (String.append_left_inj _).mp heq⟩
  · rintro ⟨rfl, rfl⟩
    rfl

/-- Where suffixes tell their items apart, two names are the same only for the same item of models of
one simple name in one namespace. -/
theorem SuffixFree.itemName_eq_iff (h : n.SuffixFree) :
    n.itemName m i = n.itemName m' j ↔
      i = j ∧ m.simpleName = m'.simpleName ∧ i.spaceFor m = j.spaceFor m' := by
  rw [itemName_eq, itemName_eq, Namespace.qualify, Namespace.qualify, QualifiedName.mk.injEq,
    h.append_suffix_eq_iff, and_comm, and_assoc]

/-- Under the usual naming two generated names are the same only for the same item of models of one
simple name in one namespace. -/
theorem usual_names_eq_iff (m m' : Model) (i j : NamedItem) :
    itemName {} m i = itemName {} m' j ↔
      i = j ∧ m.simpleName = m'.simpleName ∧ i.spaceFor m = j.spaceFor m' :=
  suffixFree_usual.itemName_eq_iff

end Naming

end CrudScaffold
