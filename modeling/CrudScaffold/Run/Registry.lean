import CrudScaffold.Name.Qualified

/-!
# Claimed names

In one run every artifact claims its name, and no name is claimed twice.
-/

namespace CrudScaffold

/-- The names that are claimed, the latest first. -/
structure NameRegistry where
  names : List QualifiedName := []
  nodup : names.Nodup := by exact List.nodup_nil

namespace NameRegistry

variable (r : NameRegistry)

/-- The name is claimed. -/
def contains (n : QualifiedName) : Bool := r.names.contains n

/-- Claim a name; refused when it is claimed already. -/
def claim? (n : QualifiedName) : Option NameRegistry :=
  if h : n ∈ r.names then none else some ⟨n :: r.names, List.nodup_cons.2 ⟨h, r.nodup⟩⟩

/-- How many names are claimed. -/
def size : Nat := r.names.length

/-- A claim is refused exactly for claimed names. -/
theorem claim?_eq_none_iff {n : QualifiedName} : r.claim? n = none ↔ n ∈ r.names := by
  unfold claim?
  split <;> simp_all

/-- An accepted claim adds the name. -/
theorem names_of_claim? {n : QualifiedName} {s : NameRegistry} (h : r.claim? n = some s) :
    s.names = n :: r.names := by
  unfold claim? at h
  split at h
  · simp at h
  · simp only [Option.some.injEq] at h
    rw [← h]

end NameRegistry

end CrudScaffold
