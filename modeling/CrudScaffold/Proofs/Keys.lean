import Mathlib.Data.List.Nodup
import Mathlib.Data.List.Perm.Basic

/-!
# Lists with distinct keys

Where the entries of a list have distinct keys, the first entry of a key is its only one. What is
found under a key then does not depend on the order of the list. Keys that are made by an injective
rule stay distinct as long as none of them was given before, and so do keys of which only new ones are
appended.
-/

namespace CrudScaffold

variable {α β κ : Type}

/-- The first entry of a key is found, which is the only one where keys are distinct. -/
theorem find?_key_eq_some_iff [DecidableEq κ] {key : α → κ} {l : List α} (h : (l.map key).Nodup)
    {k : κ} {a : α} : l.find? (fun x => key x == k) = some a ↔ a ∈ l ∧ key a = k := by
  constructor
  · intro hfound
    exact ⟨List.mem_of_find?_eq_some hfound, by simpa using List.find?_some hfound⟩
  · rintro ⟨ha, rfl⟩
    cases hfound : l.find? fun x => key x == key a with
    | none =>
      have hnone := List.find?_eq_none.mp hfound a ha
      simp at hnone
    | some b =>
      have hkey : key b = key a := by simpa using List.find?_some hfound
      rw [List.inj_on_of_nodup_map h (List.mem_of_find?_eq_some hfound) ha hkey]

/-- Keys that are made from other entries by an injective rule are distinct among given distinct
keys exactly if the entries are and none of them makes a given key. -/
theorem nodup_append_map_iff {rule : α → κ} (hrule : Function.Injective rule) {given : List κ}
    (hgiven : given.Nodup) {l : List α} :
    (given ++ l.map rule).Nodup ↔ l.Nodup ∧ ∀ a ∈ l, rule a ∉ given := by
  rw [List.nodup_append, List.nodup_map_iff hrule]
  constructor
  · rintro ⟨-, hl, hapart⟩
    exact ⟨hl, fun a ha hmem => hapart _ hmem _ (List.mem_map_of_mem ha) rfl⟩
  · rintro ⟨hl, hapart⟩
    refine ⟨hgiven, hl, fun k hk k' hk' heq => ?_⟩
    obtain ⟨a, ha, rfl⟩ := List.mem_map.mp hk'
    exact hapart a ha (heq ▸ hk)

/-- Where something is made from every entry, under a key that follows from the entry, the keys of
what is made are those that follow from the entries. -/
theorem map_filterMap_eq_map {γ : Type} {make : α → Option β} {key : β → γ} {given : α → γ}
    {l : List α} (h : ∀ a ∈ l, (make a).map key = some (given a)) :
    (l.filterMap make).map key = l.map given := by
  rw [List.map_filterMap, List.filterMap_congr h, ← List.filterMap_eq_map]
  rfl

/-- Where something is made from every entry, it is in the order of the entries. -/
theorem forall₂_filterMap {Made : α → β → Prop} {make : α → Option β} {l : List α}
    (h : ∀ a ∈ l, ∃ b, make a = some b ∧ Made a b) : List.Forall₂ Made l (l.filterMap make) := by
  induction l with
  | nil => exact .nil
  | cons a l ih =>
    obtain ⟨⟨b, hmake, hmade⟩, hrest⟩ := List.forall_mem_cons.mp h
    rw [List.filterMap_cons_some hmake]
    exact .cons hmade (ih hrest)

/-- Entries that correspond to each other and are selected alike have the same keys in the same
order. -/
theorem map_filter_eq_of_forall₂ {Corresponds : α → β → Prop} {key : α → κ} {key' : β → κ}
    {p : α → Bool} {p' : β → Bool} {l : List α} {l' : List β} (h : List.Forall₂ Corresponds l l')
    (hkey : ∀ a b, Corresponds a b → key' b = key a) (hp : ∀ a b, Corresponds a b → p' b = p a) :
    (l'.filter p').map key' = (l.filter p).map key := by
  induction h with
  | nil => rfl
  | @cons a b _ _ hab _ ih =>
    rw [List.filter_cons, List.filter_cons, hp a b hab]
    split
    · rw [List.map_cons, List.map_cons, hkey a b hab, ih]
    · exact ih

/-- Two orders of the same entries with distinct keys give the same value under every key. -/
theorem lookup_perm [DecidableEq κ] {l l' : List (κ × β)} (h : l.Perm l')
    (hnodup : (l.map Prod.fst).Nodup) (n : κ) : l.lookup n = l'.lookup n := by
  induction h with
  | nil => rfl
  | @cons x l l' _ ih =>
    rw [List.map_cons, List.nodup_cons] at hnodup
    rw [List.lookup_cons, List.lookup_cons, ih hnodup.2]
  | swap x y l =>
    obtain ⟨k, b⟩ := x
    obtain ⟨k', b'⟩ := y
    simp only [List.map_cons, List.nodup_cons, List.mem_cons, not_or] at hnodup
    -- Only one of two distinct keys can be the one that is looked up.
    by_cases hk : n = k
    · have hk' : (n == k') = false := beq_false_of_ne fun hk' => hnodup.1.1 (hk'.symm.trans hk)
      simp only [List.lookup_cons, hk']
    · have hk : (n == k) = false := beq_false_of_ne hk
      simp only [List.lookup_cons, hk]
  | trans hfirst _ ih ih' =>
    exact (ih hnodup).trans (ih' ((hfirst.map Prod.fst).nodup_iff.mp hnodup))

/-- Where the keys of all entries are distinct, no two places have a key in common. -/
theorem index_eq_of_nodup_flatMap {keys : α → List κ} {l : List α} (h : (l.flatMap keys).Nodup)
    {i j : Nat} {a b : α} (ha : l[i]? = some a) (hb : l[j]? = some b) {k : κ} (hka : k ∈ keys a)
    (hkb : k ∈ keys b) : i = j := by
  obtain ⟨hi, rfl⟩ := List.getElem?_eq_some_iff.mp ha
  obtain ⟨hj, rfl⟩ := List.getElem?_eq_some_iff.mp hb
  have hdisjoint := List.pairwise_iff_getElem.mp (List.nodup_flatMap.mp h).2
  rcases Nat.lt_trichotomy i j with hlt | heq | hlt
  · exact absurd hkb (hdisjoint i j hi hj hlt hka)
  · exact heq
  · exact absurd hka (hdisjoint j i hj hi hlt hkb)

/-! ## Appending entries of new keys -/

/-- Append an entry unless there is one of its key. -/
def appendNew [DecidableEq κ] (key : α → κ) (l : List α) (a : α) : List α :=
  if l.any fun b => key b == key a then l else l ++ [a]

section

variable [DecidableEq κ] {key : α → κ} {given : List α} {a : α} {k : κ}

/-- Every entry was there or is one of the new ones. -/
theorem mem_of_mem_foldl_appendNew (l : List α) (h : a ∈ l.foldl (appendNew key) given) :
    a ∈ given ∨ a ∈ l := by
  induction l generalizing given with
  | nil => exact .inl h
  | cons b rest ih =>
    rcases ih h with ha | ha
    · unfold appendNew at ha
      split at ha
      · exact .inl ha
      · rcases List.mem_append.mp ha with ha | ha
        · exact .inl ha
        · exact .inr (List.mem_singleton.mp ha ▸ List.mem_cons_self)
    · exact .inr (List.mem_cons_of_mem b ha)

/-- The key of an entry is there afterwards, and so are those that were there. -/
theorem mem_keys_appendNew_iff :
    k ∈ (appendNew key given a).map key ↔ k ∈ given.map key ∨ k = key a := by
  unfold appendNew
  split
  · next hthere =>
    obtain ⟨b, hb, hkey⟩ := List.any_eq_true.mp hthere
    refine ⟨.inl, fun h => h.elim id ?_⟩
    rintro rfl
    exact List.mem_map.mpr ⟨b, hb, beq_iff_eq.mp hkey⟩
  · rw [List.map_append, List.mem_append, List.map_singleton, List.mem_singleton]

/-- The keys of all entries are there afterwards. -/
theorem mem_keys_foldl_appendNew_iff (l : List α) :
    k ∈ (l.foldl (appendNew key) given).map key ↔ k ∈ given.map key ∨ k ∈ l.map key := by
  induction l generalizing given with
  | nil => simp only [List.foldl_nil, List.map_nil, List.not_mem_nil, or_false]
  | cons b rest ih =>
    rw [List.foldl_cons, ih, mem_keys_appendNew_iff, List.map_cons, List.mem_cons, or_assoc]

/-- An entry is appended only under a new key. -/
theorem nodup_appendNew (a : α) (h : (given.map key).Nodup) :
    ((appendNew key given a).map key).Nodup := by
  unfold appendNew
  split
  · exact h
  · next hnew =>
    rw [List.map_append, List.map_singleton, ← List.concat_eq_append]
    refine h.concat fun hmem => hnew ?_
    obtain ⟨b, hb, hkey⟩ := List.mem_map.mp hmem
    exact List.any_eq_true.mpr ⟨b, hb, beq_iff_eq.mpr hkey⟩

/-- All entries are appended under new keys. -/
theorem nodup_foldl_appendNew (l : List α) (h : (given.map key).Nodup) :
    ((l.foldl (appendNew key) given).map key).Nodup := by
  induction l generalizing given with
  | nil => exact h
  | cons b rest ih => exact ih (nodup_appendNew b h)

/-- Where new entries have distinct keys, all those are appended whose keys were not there. -/
theorem foldl_appendNew_eq {l : List α} (h : (l.map key).Nodup) :
    l.foldl (appendNew key) given =
      given ++ l.filter fun a => !given.any fun b => key b == key a := by
  induction l generalizing given with
  | nil => simp
  | cons a rest ih =>
    rw [List.map_cons, List.nodup_cons] at h
    rw [List.foldl_cons, ih h.2, List.filter_cons, appendNew]
    by_cases hthere : given.any fun b => key b == key a
    · simp only [hthere, ↓reduceIte, Bool.not_true, Bool.false_eq_true]
    · simp only [hthere, ↓reduceIte, Bool.not_false, Bool.false_eq_true, List.append_assoc,
        List.singleton_append]
      -- The key of the first entry is not among those that follow.
      have hrest : ∀ b ∈ rest, (key a == key b) = false := by
        intro b hb
        rw [beq_eq_false_iff_ne]
        exact fun hkey => h.1 (hkey ▸ List.mem_map_of_mem hb)
      have hfilter : rest.filter (fun b => !(given ++ [a]).any fun c => key c == key b) =
          rest.filter fun b => !given.any fun c => key c == key b := by
        refine List.filter_congr fun b hb => ?_
        rw [List.any_append, List.any_cons, List.any_nil, hrest b hb, Bool.or_false, Bool.or_false]
      rw [hfilter]

/-- The first entry stays first. -/
theorem head?_foldl_appendNew (l : List α) :
    (l.foldl (appendNew key) given).head? = given.head?.or l.head? := by
  induction l generalizing given with
  | nil => simp
  | cons a rest ih =>
    rw [List.foldl_cons, ih, appendNew]
    cases given with
    | nil => simp
    | cons b given =>
      split
      · simp
      · simp

/-- The entry of a key stays what it is; one of a new key is found under it. -/
theorem find?_appendNew :
    (appendNew key given a).find? (fun b => key b == k) =
      (given.find? fun b => key b == k).or (if key a = k then some a else none) := by
  unfold appendNew
  split
  · next hthere =>
    by_cases hk : key a = k
    · obtain ⟨b, hb, hkey⟩ := List.any_eq_true.mp hthere
      have hfound : (given.find? fun b => key b == k).isSome = true := by
        rw [List.find?_isSome]
        exact ⟨b, hb, by rw [← hk]; exact hkey⟩
      rw [Option.or_of_isSome hfound]
    · simp [hk]
  · rw [List.find?_append, List.find?_singleton]
    simp

/-- Of several entries of one key the first is found. -/
theorem find?_foldl_appendNew (l : List α) :
    (l.foldl (appendNew key) given).find? (fun b => key b == k) =
      (given.find? fun b => key b == k).or (l.find? fun b => key b == k) := by
  induction l generalizing given with
  | nil => simp
  | cons b rest ih =>
    rw [List.foldl_cons, ih, find?_appendNew, Option.or_assoc, List.find?_cons]
    by_cases hk : key b = k
    · simp [hk]
    · simp [hk, beq_false_of_ne hk]

end

end CrudScaffold
