import CrudScaffold.Proofs.Model.Reachability
import Mathlib.Data.List.Chain

/-!
# Searching a graph with a stack

A graph that models were put into one after the other has the last one of every name. One name
reaches another exactly if a chain of relation fields leads there. A search that keeps the names
still to be looked at on a stack, and those that it has seen in a list, comes to the same answer: as
long as the goal is missed, whatever was seen leads to nothing but what was seen or is on the stack.
-/

namespace CrudScaffold.ModelGraph

variable {g : ModelGraph} {m : Model} {n source goal : QualifiedName}
  {seen pending : List QualifiedName}

/-! ## Putting models in -/

/-- The graph of models that are put in one after the other. -/
def ofModels (models : List Model) : ModelGraph := models.foldl insert {}

/-- A model that is put in is found under its name, and nothing else changes. -/
theorem find?_put (models : List Model) :
    (put m models).find? (fun k => k.name == n) =
      if m.name = n then some m else models.find? fun k => k.name == n := by
  induction models with
  | nil => simp only [put, List.find?_singleton, beq_iff_eq, List.find?_nil]
  | cons first rest ih =>
    by_cases hn : m.name = n
    · subst hn
      rw [put]
      split
      · simp
      · next hfirst => simp [ih, beq_false_of_ne hfirst]
    · rw [put]
      split
      · next hfirst => simp [hn, hfirst]
      · simp [ih, hn, List.find?_cons]

private theorem get?_insert : (g.insert m).get? n = if m.name = n then some m else g.get? n :=
  find?_put g.models

/-- Of several models of one name the last one is found. -/
theorem get?_ofModels (models : List Model) :
    (ofModels models).get? n = models.reverse.find? fun m => m.name == n := by
  have hrun (g : ModelGraph) : (models.foldl insert g).get? n =
      (models.reverse.find? fun m => m.name == n).or (g.get? n) := by
    induction models generalizing g with
    | nil => rfl
    | cons m rest ih =>
      rw [List.foldl_cons, ih, get?_insert, List.reverse_cons, List.find?_append, Option.or_assoc,
        List.find?_singleton]
      by_cases hn : m.name = n
      · simp [hn]
      · simp [hn]
  exact (hrun {}).trans Option.or_none

/-! ## The search -/

/-- The models of the graph that were not seen yet. -/
def unseen (g : ModelGraph) (seen : List QualifiedName) : List QualifiedName :=
  g.order.filter fun n => !seen.contains n

private theorem unseen_cons (n : QualifiedName) (seen : List QualifiedName) :
    g.unseen (n :: seen) = (g.unseen seen).filter fun k => k != n := by
  rw [unseen, unseen, List.filter_filter]
  refine List.filter_congr fun k _ => ?_
  rw [List.contains_cons, Bool.not_or]
  rfl

/-- A model of the graph that is seen for the first time is one less to see. -/
theorem length_unseen_cons_lt (hn : n ∈ g.order) (hnew : n ∉ seen) :
    (g.unseen (n :: seen)).length < (g.unseen seen).length := by
  rw [unseen_cons]
  refine List.length_filter_lt_length_iff_exists.mpr ⟨n, ?_, by simp⟩
  exact List.mem_filter.mpr ⟨hn, by simpa using hnew⟩

private theorem length_unseen_cons_le (n : QualifiedName) (seen : List QualifiedName) :
    (g.unseen (n :: seen)).length ≤ (g.unseen seen).length := by
  rw [unseen_cons]
  exact List.length_filter_le _ _

/-- A name outside the graph leads nowhere. -/
theorem related_of_not_mem_order (h : n ∉ g.order) : g.related n = [] := by
  rw [List.eq_nil_iff_forall_not_mem]
  exact fun k hk => h (mem_order_of_leadsTo (mem_related_iff.mp hk))

/-- Look at the name on top of the stack. Unless it is the goal or was seen before, put its related
types on the stack instead, the last one on top. Every turn either sees a model of the graph for the
first time or makes the stack shorter. -/
def search (g : ModelGraph) (goal : QualifiedName) (seen : List QualifiedName) :
    List QualifiedName → Bool
  | [] => false
  | n :: pending =>
    if n = goal then true
    else if n ∈ seen then g.search goal seen pending
    else g.search goal (n :: seen) ((g.related n).reverse ++ pending)
termination_by pending => ((g.unseen seen).length, pending.length)
decreasing_by
  · exact Prod.Lex.right _ (Nat.lt_succ_self _)
  · next hnew =>
    by_cases hn : n ∈ g.order
    · exact Prod.Lex.left _ _ (length_unseen_cons_lt hn hnew)
    · refine Prod.Lex.right' _ (length_unseen_cons_le n seen) ?_
      simp [related_of_not_mem_order hn]

/-- So far the goal was not seen, and what was seen leads to what was seen or is on the stack. -/
structure Searched (g : ModelGraph) (goal : QualifiedName) (seen pending : List QualifiedName) :
    Prop where
  missed : goal ∉ seen
  closed : ∀ a ∈ seen, ∀ b, g.LeadsTo a b → b ∈ seen ∨ b ∈ pending

/-- A chain from a name that was seen to the goal comes by the stack. -/
theorem Searched.exists_pending (h : g.Searched goal seen pending)
    (hpath : Relation.ReflTransGen g.LeadsTo n goal) (hn : n ∈ seen ∨ n ∈ pending) :
    ∃ p ∈ pending, Relation.ReflTransGen g.LeadsTo p goal := by
  induction hpath using Relation.ReflTransGen.head_induction_on with
  | refl => exact ⟨goal, hn.resolve_left h.missed, .refl⟩
  | head hstep hpath ih =>
    rcases hn with hseen | hpending
    · exact ih (h.closed _ hseen _ hstep)
    · exact ⟨_, hpending, .head hstep hpath⟩

/-- A name that comes up again can be dropped. -/
theorem Searched.skip (h : g.Searched goal seen (n :: pending)) (hn : n ∈ seen) :
    g.Searched goal seen pending := by
  refine ⟨h.missed, fun a ha b hab => ?_⟩
  rcases h.closed a ha b hab with hb | hb
  · exact .inl hb
  · rcases List.mem_cons.mp hb with rfl | hb
    · exact .inl hn
    · exact .inr hb

/-- A name that is not the goal is seen when its related types are on the stack. -/
theorem Searched.look (h : g.Searched goal seen (n :: pending)) (hn : n ≠ goal) :
    g.Searched goal (n :: seen) ((g.related n).reverse ++ pending) := by
  refine ⟨fun hmem => ?_, fun a ha b hab => ?_⟩
  · rcases List.mem_cons.mp hmem with rfl | hmem
    · exact hn rfl
    · exact h.missed hmem
  · rcases List.mem_cons.mp ha with rfl | ha
    · exact .inr (List.mem_append_left _ (List.mem_reverse.mpr (mem_related_iff.mpr hab)))
    · rcases h.closed a ha b hab with hb | hb
      · exact .inl (List.mem_cons_of_mem n hb)
      · rcases List.mem_cons.mp hb with rfl | hb
        · exact .inl List.mem_cons_self
        · exact .inr (List.mem_append_right _ hb)

/-- The search finds the goal exactly if a chain leads there from the stack. -/
theorem search_iff (h : g.Searched goal seen pending) :
    g.search goal seen pending = true ↔
      ∃ p ∈ pending, Relation.ReflTransGen g.LeadsTo p goal := by
  fun_induction search g goal seen pending with
  | case1 => simp
  | case2 => simpa using .inl .refl
  | case3 seen n pending hgoal hseen ih =>
    rw [ih (h.skip hseen)]
    constructor
    · rintro ⟨p, hp, hpath⟩
      exact ⟨p, List.mem_cons_of_mem n hp, hpath⟩
    · rintro ⟨p, hp, hpath⟩
      rcases List.mem_cons.mp hp with rfl | hp
      · exact (h.skip hseen).exists_pending hpath (.inl hseen)
      · exact ⟨p, hp, hpath⟩
  | case4 seen n pending hgoal hnew ih =>
    rw [ih (h.look hgoal)]
    constructor
    · rintro ⟨p, hp, hpath⟩
      rcases List.mem_append.mp hp with hp | hp
      · have hstep := mem_related_iff.mp (List.mem_reverse.mp hp)
        exact ⟨n, List.mem_cons_self, .head hstep hpath⟩
      · exact ⟨p, List.mem_cons_of_mem n hp, hpath⟩
    · rintro ⟨p, hp, hpath⟩
      rcases List.mem_cons.mp hp with rfl | hp
      · exact (h.look hgoal).exists_pending hpath (.inl List.mem_cons_self)
      · exact ⟨p, List.mem_append_right _ hp, hpath⟩

/-- From one name on the stack the search decides what is reached. -/
theorem search_eq_reaches : g.search goal [] [source] = g.reaches source goal := by
  rw [Bool.eq_iff_iff, search_iff ⟨List.not_mem_nil, nofun⟩, reaches_iff_reflTransGen]
  simp

/-! ## Chains -/

/-- A row of names from the source to the goal, in which every name but the last is that of a model
in the graph with a relation field that leads to the next one. -/
structure Connects (g : ModelGraph) (names : List QualifiedName) (source goal : QualifiedName) :
    Prop where
  head : names.head? = some source
  last : names.getLast? = some goal
  chain : names.IsChain g.LeadsTo

/-- Chains of names from one model to another are the paths between them. -/
theorem exists_connects_iff :
    (∃ names, g.Connects names source goal) ↔ Relation.ReflTransGen g.LeadsTo source goal := by
  constructor
  · rintro ⟨names, hhead, hlast, hchain⟩
    obtain ⟨rest, rfl⟩ := List.head?_eq_some_iff.mp hhead
    rw [List.getLast?_eq_some_getLast (List.cons_ne_nil _ _), Option.some.injEq] at hlast
    exact List.relationReflTransGen_of_exists_isChain_cons rest hchain hlast
  · intro hpath
    obtain ⟨rest, hchain, hlast⟩ := List.exists_isChain_cons_of_relationReflTransGen hpath
    refine ⟨source :: rest, rfl, ?_, hchain⟩
    rw [List.getLast?_eq_some_getLast (List.cons_ne_nil _ _), hlast]

/-- Whatever models are put into a graph, one after the other, it has the last one of every name,
and one name reaches another exactly if a chain of relation fields leads there through models of the
graph. A name outside the graph reaches itself and no other. The search with a stack gives the same
answer. -/
theorem reaches_iff_exists_connects (models : List Model) (source goal : QualifiedName) :
    let g := ofModels models
    (∀ n, g.get? n = models.reverse.find? fun m => m.name == n) ∧
    (g.reaches source goal = true ↔ ∃ names, g.Connects names source goal) ∧
    (g.get? source = none → (g.reaches source goal = true ↔ source = goal)) ∧
    g.search goal [] [source] = g.reaches source goal := by
  intro g
  refine ⟨fun _ => get?_ofModels models, ?_, fun hnone => ?_, search_eq_reaches⟩
  · rw [exists_connects_iff, reaches_iff_reflTransGen]
  · rw [reaches_iff_reflTransGen]
    constructor
    · intro hpath
      rcases hpath.cases_head with heq | ⟨_, ⟨_, hsome, -⟩, -⟩
      · exact heq
      · rw [hnone] at hsome
        cases hsome
    · rintro rfl
      exact .refl

/-! ### Books and their publisher -/

private def shelved (name : String) (relation : RelationKind) (targets : List String) : Model where
  name := ⟨⟨"lib::model"⟩, name⟩
  parentSpace := ⟨"lib"⟩
  identifier := ⟨"id", .scalar "u64"⟩
  fields := targets.map fun t =>
    { name := t, declaredType := t, relation, target := some ⟨⟨"lib::model"⟩, t⟩ }
  variants := []
  generation := {}
  traits := ⟨true, false, false, false⟩
  eagerFetch := []

-- Authors and books lead to each other. Books are put in twice, at first without a publisher, which
-- is not in the graph.
private def shelves : List Model :=
  [shelved "Book" .toOne ["Author"], shelved "Author" .toMany ["Book"],
   shelved "Book" .toOne ["Author", "Publisher"]]

/-- The publisher is reached from the authors by way of the books, and leads nowhere. -/
theorem publisher_is_reached_from_authors :
    let publisher : QualifiedName := ⟨⟨"lib::model"⟩, "Publisher"⟩
    let author : QualifiedName := ⟨⟨"lib::model"⟩, "Author"⟩
    (ofModels shelves).reaches author publisher = true ∧
      (ofModels shelves).get? publisher = none ∧
      (ofModels shelves).reaches publisher author = false := by
  intro publisher author
  have hnone : (ofModels shelves).get? publisher = none := by decide
  obtain ⟨-, hconnects, -, -⟩ := reaches_iff_exists_connects shelves author publisher
  obtain ⟨-, -, houtside, -⟩ := reaches_iff_exists_connects shelves publisher author
  refine ⟨hconnects.mpr ⟨[author, ⟨⟨"lib::model"⟩, "Book"⟩, publisher], rfl, rfl, ?_⟩, hnone, ?_⟩
  · have hauthor : (ofModels shelves).LeadsTo author ⟨⟨"lib::model"⟩, "Book"⟩ :=
      mem_related_iff.mp (by decide)
    have hbook : (ofModels shelves).LeadsTo ⟨⟨"lib::model"⟩, "Book"⟩ publisher :=
      mem_related_iff.mp (by decide)
    exact .cons_cons hauthor (.cons_cons hbook (.singleton _))
  · rw [← Bool.not_eq_true, houtside hnone]
    decide

end CrudScaffold.ModelGraph
