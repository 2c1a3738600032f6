import CrudScaffold.Proofs.Assembly.Views
import CrudScaffold.Proofs.Spec.FetchPaths
import CrudScaffold.Proofs.Text.Blank
import Mathlib.Logic.Basic

/-!
# What a fetch plan names

The attribute paths of a model are read twice: the check cuts them at their dots and trims every
piece, the plan trims the whole path and keeps the pieces as they are. A plan names the fields of
its models exactly as far as the pieces that it keeps pass the check as well. It does so for paths
without blanks next to their dots; for others the check speaks of one name and the plan of another.
-/

namespace CrudScaffold

open Text

/-- The name is that of a field, and of a relation field where one is called for. -/
def Model.Names (m : Model) (relation : Bool) (name : String) : Prop :=
  ∃ f, m.field? name = some f ∧ (relation = true → f.relation.isRelation = true)

namespace EntityGraph

/-- The plan names fields of its owner, and nothing but relation fields at the root and for
subplans. A subplan whose target is in the graph names fields of that target in turn. -/
inductive Follows (graph : ModelGraph) : Bool → Model → EntityGraph → Prop where
  | node {root : Bool} {owner : Model} {attributes : List String}
    {subgraphs : List (String × EntityGraph)}
    (attributes_named : ∀ n ∈ attributes, owner.Names root n)
    (subgraphs_named : ∀ p ∈ subgraphs, owner.Names true p.1)
    (below : ∀ p ∈ subgraphs, ∀ f next, owner.field? p.1 = some f →
      f.target >>= graph.get? = some next → Follows graph false next p.2) :
    Follows graph root owner (node attributes subgraphs)

variable {graph : ModelGraph} {root : Bool} {owner : Model} {plan : EntityGraph}

/-- The subplans of a plan are judged each by itself. -/
theorem follows_node_iff {attributes : List String} {subgraphs : List (String × EntityGraph)} :
    (node attributes subgraphs).Follows graph root owner ↔
      (∀ n ∈ attributes, owner.Names root n) ∧
      ∀ p ∈ subgraphs, ∃ f, owner.field? p.1 = some f ∧ f.relation.isRelation = true ∧
        ∀ next, f.target >>= graph.get? = some next → p.2.Follows graph false next := by
  constructor
  · rintro ⟨hattributes, hsubgraphs, hbelow⟩
    refine ⟨hattributes, fun p hp => ?_⟩
    obtain ⟨f, hf, hrelation⟩ := hsubgraphs p hp
    exact ⟨f, hf, hrelation rfl, fun next => hbelow p hp f next hf⟩
  · rintro ⟨hattributes, hsubgraphs⟩
    refine ⟨hattributes, fun p hp => ?_, fun p hp f next hf hnext => ?_⟩
    · obtain ⟨f, hf, hrelation, -⟩ := hsubgraphs p hp
      exact ⟨f, hf, fun _ => hrelation⟩
    · obtain ⟨f', hf', -, hbelow⟩ := hsubgraphs p hp
      obtain rfl := Option.some.inj (hf.symm.trans hf')
      exact hbelow next hnext

private theorem follows_empty : empty.Follows graph root owner := follows_node_iff.mpr ⟨nofun, nofun⟩

private theorem follows_addAttribute_iff {name : String} :
    (plan.addAttribute name).Follows graph root owner ↔
      plan.Follows graph root owner ∧ owner.Names root name := by
  obtain ⟨attributes, subgraphs⟩ := plan
  rw [addAttribute]
  split
  · next hthere =>
    refine ⟨fun h => ⟨h, ?_⟩, And.left⟩
    exact (follows_node_iff.mp h).1 name (List.contains_iff_mem.mp hthere)
  · rw [follows_node_iff, follows_node_iff, List.forall_mem_append, List.forall_mem_singleton,
      and_right_comm]

end EntityGraph

namespace Assembly

open EntityGraph

variable {a : Assembly} {s : Spec} {root : Bool} {owner : Model} {plan : EntityGraph}
  {path : String}

/-! ## Plans and the check of paths -/

/-- A path is without fault exactly if its first segment names a field, a relation field where the
path starts or goes on there, and the rest is without fault as far as the graph has the target. -/
theorem attributeFault?_cons_eq_none_iff {segment : String} {rest : List String} :
    a.attributeFault? root owner (segment :: rest) = none ↔
      ∃ f, owner.field? segment = some f ∧
        ((root || !rest.isEmpty) = true → f.relation.isRelation = true) ∧
        ∀ next, f.target >>= a.graph.get? = some next →
          a.attributeFault? false next rest = none := by
  rw [attributeFault?]
  cases hf : owner.field? segment with
  | none => simp only [reduceCtorEq, false_and, exists_false]
  | some f =>
    simp only [Option.some.injEq, exists_eq_left', Bool.and_eq_true, Bool.not_eq_true']
    split
    · next hplain =>
      simp only [reduceCtorEq, hplain, Bool.false_eq_true, forall_const, false_and]
    · next hplain =>
      have hrelation : (root || !rest.isEmpty) = true → f.relation.isRelation = true :=
        fun hcalled => eq_true_of_ne_false fun hno => hplain ⟨hcalled, hno⟩
      refine ⟨fun h => ⟨hrelation, fun next hnext => ?_⟩, fun h => ?_⟩
      · rwa [hnext] at h
      · split
        · next next hnext => exact h.2 next hnext
        · rfl

/-- A plan follows the models with one more path exactly if that path is without fault. -/
theorem follows_addPath_iff (segments : List String) :
    (plan.addPath segments).Follows a.graph root owner ↔
      plan.Follows a.graph root owner ∧ a.attributeFault? root owner segments = none := by
  -- plan and check go down the path together, from one owner to the next
  induction segments generalizing root owner plan with
  | nil => simp only [addPath, attributeFault?, and_true]
  | cons name rest ih =>
    obtain ⟨attributes, subgraphs⟩ := plan
    cases rest with
    | nil =>
      rw [addPath, follows_addAttribute_iff, attributeFault?_cons_eq_none_iff]
      simp only [Model.Names, List.isEmpty_nil, Bool.not_true, Bool.or_false, attributeFault?,
        implies_true, and_true]
    | cons second rest =>
      simp only [addPath]
      rw [follows_node_iff, follows_node_iff, and_assoc]
      refine and_congr_right fun _ => forall_mem_alterSubgraph_iff (fun sub => ?_) ?_ _
      · rw [attributeFault?_cons_eq_none_iff]
        simp only [ih]
        constructor
        · rintro ⟨f, hf, hrelation, hbelow⟩
          exact ⟨⟨f, hf, hrelation, fun next hnext => (hbelow next hnext).1⟩,
            f, hf, fun _ => hrelation, fun next hnext => (hbelow next hnext).2⟩
        · rintro ⟨⟨f, hf, hrelation, hbelow⟩, f', hf', -, hrest⟩
          obtain rfl := Option.some.inj (hf.symm.trans hf')
          exact ⟨f, hf, hrelation, fun next hnext => ⟨hbelow next hnext, hrest next hnext⟩⟩
      · intro hpath
        obtain ⟨f, hf, hrelation, -⟩ := attributeFault?_cons_eq_none_iff.mp hpath
        exact ⟨f, hf, hrelation (by simp), fun _ _ => follows_empty⟩

/-- All paths have to be without fault, in whatever order they are added. -/
theorem follows_foldl_addPath_iff (paths : List String) :
    (paths.foldl (fun g path => g.addPath (parts path)) plan).Follows a.graph root owner ↔
      plan.Follows a.graph root owner ∧
        ∀ path ∈ paths, a.attributeFault? root owner (parts path) = none := by
  induction paths generalizing plan with
  | nil => exact ⟨fun h => ⟨h, nofun⟩, And.left⟩
  | cons path rest ih =>
    rw [List.foldl_cons, ih, follows_addPath_iff, List.forall_mem_cons, and_assoc]

/-! ## Paths that pass the check -/

/-- The check trims the pieces of a path, so that it need not trim the path. -/
theorem attributeSegments_eq (path : String) :
    attributeSegments path =
      ((splitAtChar '.' (trim path.toList)).map trim).map String.ofList := by
  rw [map_trim_splitAtChar_trim (by decide), List.map_map]
  rfl

/-- A path that passes the check is not blank. -/
theorem trim_ne_nil_of_pathFault? (h : a.pathFault? path = none) : trim path.toList ≠ [] := by
  intro hblank
  have hsegments : attributeSegments path = [""] := by
    rw [attributeSegments_eq, hblank]
    rfl
  simp [pathFault?, hsegments] at h

/-- The trimmed segments of a path that passes the check are without fault. -/
theorem attributeFault?_of_pathFault? (h : a.pathFault? path = none) :
    a.attributeFault? true a.model (attributeSegments path) = none := by
  rw [pathFault?] at h
  split at h
  · cases h
  · exact h

/-- There is a plan, or nothing to fetch, exactly when all paths pass the check. -/
theorem fetchPlan_eq_ok_iff {plan? : Option EntityGraph} :
    a.fetchPlan = .ok plan? ↔ (∀ path ∈ a.model.eagerFetch, a.pathFault? path = none) ∧
      plan? = if (ofPaths a.model.eagerFetch).isEmpty then none
        else some (ofPaths a.model.eagerFetch) := by
  rw [fetchPlan, bind_eq_ok_iff]
  constructor
  · rintro ⟨⟨⟩, hpaths, hplan⟩
    refine ⟨fun path hpath => ?_, (Except.ok.inj hplan).symm⟩
    have hchecked := forM_eq_ok_iff.mp hpaths path hpath
    split at hchecked
    · cases hchecked
    · assumption
  · rintro ⟨hpaths, rfl⟩
    refine ⟨(), forM_eq_ok_iff.mpr fun path hpath => ?_, rfl⟩
    rw [hpaths path hpath]

/-- Where all paths pass the check, there is a repository with their plan, unless it is empty. -/
theorem exists_planned_repository
    (hpaths : ∀ path ∈ a.model.eagerFetch, a.pathFault? path = none)
    (hplan : ofPaths a.model.eagerFetch = plan) (hsome : plan.isEmpty = false) :
    ∃ s, a.repositorySpec = .ok s ∧ s.entityGraph? = some plan := by
  have hfetch : a.fetchPlan = .ok (some plan) := by
    rw [fetchPlan_eq_ok_iff, hplan, hsome]
    exact ⟨hpaths, rfl⟩
  obtain ⟨s, hs⟩ : ∃ s, a.repositorySpec = .ok s :=
    ⟨_, bind_eq_ok_iff.mpr ⟨_, hfetch, rfl⟩⟩
  exact ⟨s, hs, Except.ok.inj ((views_repositorySpec hs).2.symm.trans hfetch)⟩

/-- The plan of paths that pass the check follows the models exactly if the pieces of these paths do
without being trimmed. -/
theorem ofPaths_follows_iff (h : ∀ path ∈ a.model.eagerFetch, a.pathFault? path = none) :
    (ofPaths a.model.eagerFetch).Follows a.graph true a.model ↔ ∀ path ∈ a.model.eagerFetch,
      a.attributeFault? true a.model (parts (.ofList (trim path.toList))) = none := by
  rw [ofPaths, follows_foldl_addPath_iff]
  constructor
  · rintro ⟨-, hpaths⟩ path hpath
    have hne := trim_ne_nil_of_pathFault? (h path hpath)
    exact hpaths _ (mem_orderedPaths_iff.mpr ⟨by simpa using hne, path, hpath, rfl⟩)
  · refine fun hpaths => ⟨follows_empty, fun path hpath => ?_⟩
    obtain ⟨-, given, hgiven, rfl⟩ := mem_orderedPaths_iff.mp hpath
    exact hpaths given hgiven

/-! ## The plan of a repository -/

/-- No blank stands next to a dot of the path. -/
def TightPath (path : String) : Prop := ∀ p ∈ splitAtChar '.' (trim path.toList), trim p = p

/-- Check and plan read the same segments from a path without blanks next to its dots. -/
theorem parts_eq_attributeSegments (h : TightPath path) :
    parts (.ofList (trim path.toList)) = attributeSegments path := by
  rw [attributeSegments_eq, parts, String.toList_ofList, List.map_congr_left h, List.map_id']

/-- The plan that a repository carries names the fields of its models exactly if every path of its
model leads along fields with its pieces as they are. So it does when no path has a blank next to a
dot. -/
theorem plan_follows_iff (hs : a.repositorySpec = .ok s) (hplan : s.entityGraph? = some plan) :
    (plan.Follows a.graph true a.model ↔ ∀ path ∈ a.model.eagerFetch,
      a.attributeFault? true a.model (parts (.ofList (trim path.toList))) = none) ∧
    ((∀ path ∈ a.model.eagerFetch, TightPath path) → plan.Follows a.graph true a.model) := by
  obtain ⟨hpaths, hsome⟩ := fetchPlan_eq_ok_iff.mp (views_repositorySpec hs).2
  obtain rfl : plan = ofPaths a.model.eagerFetch := by
    rw [hplan] at hsome
    split at hsome
    · cases hsome
    · exact Option.some.inj hsome
  have hfollows := ofPaths_follows_iff hpaths
  refine ⟨hfollows, fun htight => hfollows.mpr fun path hpath => ?_⟩
  rw [parts_eq_attributeSegments (htight path hpath)]
  exact attributeFault?_of_pathFault? (hpaths path hpath)

/-! ### Orders with the profiles of their customers -/

private def fetching (name : String) (fields : List Model.Field) (eagerFetch : List String) :
    Model where
  name := ⟨⟨"shop::model"⟩, name⟩
  parentSpace := ⟨"shop"⟩
  identifier := ⟨"id", .scalar "u64"⟩
  fields
  variants := []
  generation := {}
  eagerFetch
  traits := ⟨true, false, false, false⟩

private def ordersFetching (eagerFetch : List String) : Assembly :=
  let order := fetching "Order" [⟨"customer", "Customer", .toOne,
    some ⟨⟨"shop::model"⟩, "Customer"⟩, none, false, false⟩] eagerFetch
  let customer := fetching "Customer" [{ name := "profile", declaredType := "String" }] []
  ⟨order, ⟨[order, customer]⟩, {}⟩

/-- The plan loads customers together with their profiles. -/
theorem customers_are_fetched_with_profiles :
    ∃ s plan, (ordersFetching ["customer", "customer.profile"]).repositorySpec = .ok s ∧
      s.entityGraph? = some plan ∧
      plan = node ["customer"] [("customer", node ["profile"] [])] ∧
      plan.Follows (ordersFetching ["customer", "customer.profile"]).graph true
        (ordersFetching ["customer", "customer.profile"]).model := by
  have hpaths : orderedPaths ["customer", "customer.profile"] = ["customer.profile", "customer"] :=
    congrArg List.reverse (List.mergeSort_of_pairwise (by decide))
  have hplan : ofPaths ["customer", "customer.profile"] =
      node ["customer"] [("customer", node ["profile"] [])] := by
    rw [ofPaths, hpaths]
    rfl
  obtain ⟨s, hs, hcarried⟩ := exists_planned_repository
    (a := ordersFetching ["customer", "customer.profile"]) (by decide) hplan rfl
  refine ⟨s, _, hs, hcarried, rfl, (plan_follows_iff hs hcarried).2 ?_⟩
  unfold TightPath
  decide

/-- A blank next to a dot passes the check, and the plan names what is not there. -/
theorem plan_names_customer_with_blank :
    ∃ s plan, (ordersFetching ["customer . profile"]).repositorySpec = .ok s ∧
      s.entityGraph? = some plan ∧
      (ordersFetching ["customer . profile"]).graph.get?
        (ordersFetching ["customer . profile"]).model.name =
          some (ordersFetching ["customer . profile"]).model ∧
      plan = node [] [("customer ", node [" profile"] [])] ∧
      ¬ plan.Follows (ordersFetching ["customer . profile"]).graph true
        (ordersFetching ["customer . profile"]).model := by
  have hpaths : orderedPaths ["customer . profile"] = ["customer . profile"] :=
    congrArg List.reverse (List.mergeSort_singleton _)
  have hplan : ofPaths ["customer . profile"] =
      node [] [("customer ", node [" profile"] [])] := by
    rw [ofPaths, hpaths]
    rfl
  obtain ⟨s, hs, hcarried⟩ := exists_planned_repository
    (a := ordersFetching ["customer . profile"]) (by decide) hplan rfl
  have hnone : (ordersFetching ["customer . profile"]).model.field? "customer " = none := by decide
  refine ⟨s, _, hs, hcarried, by decide, rfl, fun hfollows => ?_⟩
  obtain ⟨f, hf, -⟩ := (follows_node_iff.mp hfollows).2 _ (List.mem_singleton_self _)
  cases hnone.symm.trans hf

end Assembly

end CrudScaffold
