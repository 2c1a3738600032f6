import CrudScaffold.Proofs.Model.Filing
import CrudScaffold.Proofs.Rendering.CratePath
import CrudScaffold.Proofs.Rendering.Places
import CrudScaffold.Proofs.Rendering.Source
import CrudScaffold.Run.Basic

/-!
# Known types in rendered code

The index of a run holds the types that the configuration or the manifest declares as known, and so
models refer to both. The renderer is made before there is a manifest, and knows those of the
configuration alone: it writes these as they are declared, and all others below the crate that the code
is generated for. Types that are given as texts are no references: they are copied as they stand.
-/

namespace CrudScaffold

open Code Code.Token

namespace Renderer

variable {r : Renderer} {n : QualifiedName} {tokens : Tokens} {s : Spec} {text : String}

/-- The known types as they are, and all names as they stand. -/
def wording (r : Renderer) : Wording := ⟨r.known, id⟩

/-- A name is written by the path that is read from its text. -/
theorem exists_path_of_named (h : r.named n = .ok tokens) :
    ∃ path, Code.Path.ofText? (r.written n) = some path ∧ path.tokens = tokens := by
  unfold named at h
  split at h
  · next path hpath => exact ⟨path, hpath, Except.ok.inj h⟩
  · cases h

/-- A renderer knows the paths of the types that the configuration declares. -/
theorem known_of_ofConfig {c : Config} (h : ofConfig c = .ok r) :
    r.known = knownPaths c.knownTypes := by
  obtain ⟨runtime, -, h⟩ := bind_eq_ok_iff.mp h
  obtain ⟨codec, -, h⟩ := bind_eq_ok_iff.mp h
  cases h
  rfl

end Renderer

namespace Generator

variable {c : Config} {g : Generator}

/-- A generator has its configuration, and the renderer that is made from it. -/
theorem of_ofConfig (h : ofConfig c = .ok g) :
    g.config = c ∧ Renderer.ofConfig c = .ok g.renderer := by
  obtain ⟨-, -, h⟩ := bind_eq_ok_iff.mp h
  obtain ⟨renderer, hrenderer, h⟩ := bind_eq_ok_iff.mp h
  cases h
  exact ⟨rfl, hrenderer⟩

/-- The index of a run holds the known types of the configuration and those of the manifest. -/
theorem origin?_eq_known_iff {m : Manifest} {n : QualifiedName} :
    (g.catalog m).resolver.index.origin? n = some .known ↔
      ∃ path ∈ g.config.knownTypes ++ m.generator.knownTypes, QualifiedName.parse path = some n := by
  rw [← List.mem_filterMap]
  have horigin := TypeIndex.origin?_ofManifest m (g.config.knownTypes ++ m.generator.knownTypes) n
  change (TypeIndex.ofManifest m _).origin? n = _ ↔ _
  rw [horigin]
  split
  · next hknown => exact iff_of_true rfl hknown
  · next hknown =>
    refine iff_of_false ?_ hknown
    split
    · nofun
    · split <;> nofun

/-- The place of a name has the tokens of its path if the configuration knows the path, and else those of
the path below the crate. -/
theorem placeTokens_cases (hg : ofConfig c = .ok g) {n : QualifiedName} {place : Piece}
    {tokens : Tokens} (hplace : place = .name n ∨ place = .own n)
    (h : g.renderer.pieceTokens g.renderer.wording place = .ok tokens) :
    if n.path ∈ Renderer.knownPaths c.knownTypes then
      ∃ path, Code.Path.ofText? n.path = some path ∧ path.tokens = tokens
    else
      ∃ path, Code.Path.ofText? ("crate::" ++ n.path) = some path ∧ path.tokens = tokens ∧
        ∃ rest, tokens = word "crate" ++ op "::" ++ rest := by
  obtain ⟨path, hpath, rfl⟩ : ∃ path, Code.Path.ofText? (g.renderer.written n) = some path ∧
      path.tokens = tokens := by
    rcases hplace with rfl | rfl <;> exact Renderer.exists_path_of_named h
  rw [← Renderer.known_of_ofConfig (of_ofConfig hg).2]
  split
  · next hknown =>
    rw [Renderer.written, if_pos (List.contains_iff_mem.mpr hknown)] at hpath
    exact ⟨path, hpath, rfl⟩
  · next hknown =>
    rw [Renderer.written, if_neg (List.contains_iff_mem.not.mpr hknown)] at hpath
    exact ⟨path, hpath, rfl, Code.Path.exists_tokens_of_ofText?_crate hpath⟩

/-- An artifact follows a template with a place for each name to which its specification refers,
whatever these names are and whichever types are known. A run knows the types that its configuration or
its manifest declares. The places of a known type have the tokens of its path if the configuration
declares it, and are below the crate if only the manifest does. -/
theorem known_types_are_written_as_configured (hg : ofConfig c = .ok g) (m : Manifest) (s : Spec) :
    (∃ t : Template,
      (∀ tokens, g.renderer.artifact s = .ok tokens →
        g.renderer.fill g.renderer.wording t = .ok tokens) ∧
      (∀ text, g.renderer.source s = .ok text →
        ∃ tokens, g.renderer.fill g.renderer.wording t = .ok tokens ∧
          Renderer.fileText tokens = .ok text) ∧
      ∀ w tokens, (g.renderer.under w).artifact (s.rename w.rename) = .ok tokens →
        g.renderer.fill w t = .ok tokens) ∧
    ∀ n, ((g.catalog m).resolver.index.origin? n = some .known ↔
        ∃ path ∈ c.knownTypes ++ m.generator.knownTypes, QualifiedName.parse path = some n) ∧
      ((g.catalog m).resolver.index.origin? n = some .known →
        ∀ place tokens, place = .name n ∨ place = .own n →
          g.renderer.pieceTokens g.renderer.wording place = .ok tokens →
          if n.path ∈ Renderer.knownPaths c.knownTypes then
            ∃ path, Code.Path.ofText? n.path = some path ∧ path.tokens = tokens
          else
            ∃ path, Code.Path.ofText? ("crate::" ++ n.path) = some path ∧ path.tokens = tokens ∧
              ∃ rest, tokens = word "crate" ++ op "::" ++ rest) := by
  obtain ⟨t, ht⟩ := Renderer.templated_artifact g.renderer s
  have hasIs : ∀ tokens, g.renderer.artifact s = .ok tokens →
      g.renderer.fill g.renderer.wording t = .ok tokens := by
    intro tokens h
    refine ht g.renderer.wording tokens ?_
    change g.renderer.artifact (s.rename id) = .ok tokens
    rw [Spec.rename_id, h]
  refine ⟨⟨t, hasIs, ?_, ht⟩, fun n => ⟨?_, fun _ place tokens hplace => placeTokens_cases hg hplace⟩⟩
  · intro text htext
    obtain ⟨tokens, htokens, htext⟩ := Renderer.exists_tokens_of_source htext
    exact ⟨tokens, hasIs tokens htokens, htext⟩
  · rw [origin?_eq_known_iff, (of_ofConfig hg).1]

/-! ### Products and vouchers

The price of a product, its maker and the slots of its identifier are of types that the configuration
declares as known. The amount of a voucher is of a type that only the manifest declares so. -/

private def products : Manifest where
  generator := { knownTypes := ["ext::Money", "crm::Maker", "crm::Line"] }
  models :=
    [{ name := "Product", space := "shop::model",
       identifier := some { composite := some [⟨"crm::Maker", "u64"⟩, ⟨"crm::Line", "u32"⟩] },
       fields :=
        [{ name := "price", type := "crate::ext::Money", cardinality := some .embedded },
         { name := "maker", type := "crm::Maker", cardinality := some .manyToOne }] }]

private def vouchers : Manifest where
  generator := { knownTypes := ["ext::Money"] }
  models :=
    [{ name := "Voucher", space := "shop::model",
       identifier := some { type := some "u64" },
       fields := [{ name := "amount", type := "ext::Money", cardinality := some .manyToOne }] }]

private def money : QualifiedName := ⟨⟨"ext"⟩, "Money"⟩

private def typePath (space name : String) : Tokens := word space ++ op "::" ++ word name

private def productConfig : Config where
  outputRoot := ⟨"out"⟩
  knownTypes := products.generator.knownTypes

private def bareConfig : Config := { outputRoot := ⟨"out"⟩ }

private def modelFacts {α : Type} (c : Config) (m : Manifest) (facts : Generator → Assembly → α) :
    Option α := do
  let g ← (ofConfig c).toOption
  let model ← (g.catalog m).models.head?
  return facts g ⟨model, (g.catalog m).graph, .ofSettings c.settings⟩

private theorem exists_of_modelFacts {α : Type} {m : Manifest} {facts : Generator → Assembly → α}
    {x : α} (h : modelFacts c m facts = some x) :
    ∃ (g : Generator) (a : Assembly), ofConfig c = .ok g ∧ a.model ∈ (g.catalog m).models ∧
      a.graph = (g.catalog m).graph ∧ facts g a = x := by
  simp only [modelFacts, Option.bind_eq_bind, Option.bind_eq_some_iff, Option.pure_def,
    Option.some.injEq, toOption_eq_some_iff] at h
  obtain ⟨g, hg, model, hmodel, h⟩ := h
  exact ⟨g, ⟨model, (g.catalog m).graph, .ofSettings c.settings⟩, hg, List.mem_of_mem_head? hmodel,
    rfl, h⟩

/-- The price, the maker and the slots of a product are written as they are declared. -/
theorem product_types_are_written_as_declared :
    ∃ (g : Generator) (a : Assembly), ofConfig productConfig = .ok g ∧
      a.model ∈ (g.catalog products).models ∧ a.graph = (g.catalog products).graph ∧
      (g.catalog products).resolver.index.origin? money = some .known ∧
      (∃ path, Code.Path.ofText? "ext::Money" = some path ∧
        g.renderer.pieceTokens g.renderer.wording (.name money) = .ok path.tokens) ∧
      (∃ s ∈ a.dtoSpecs, ∃ tokens, g.renderer.artifact s = .ok tokens ∧
        word "price" ++ op ":" ++ typePath "ext" "Money" <:+: tokens ∧
        ∃ t, g.renderer.fill g.renderer.wording t = .ok tokens) ∧
      (∃ s, a.repositorySpec = .ok s ∧ ∃ tokens, g.renderer.artifact s = .ok tokens ∧
        word "join" ++ op "::" ++ op "<" ++ typePath "crm" "Maker" <:+: tokens) ∧
      ∃ tokens, g.renderer.artifact a.idAdapterSpec = .ok tokens ∧
        typePath "crm" "Maker" ++ op "," ++ typePath "crm" "Line" <:+: tokens := by
  have hfacts : modelFacts productConfig products (fun g a => decide
      ((g.renderer.pieceTokens g.renderer.wording (.name money)).isOk = true ∧
      (∃ s ∈ a.dtoSpecs, ∃ tokens ∈ (g.renderer.artifact s).toOption,
        word "price" ++ op ":" ++ typePath "ext" "Money" <:+: tokens) ∧
      (∃ s ∈ a.repositorySpec.toOption, ∃ tokens ∈ (g.renderer.artifact s).toOption,
        word "join" ++ op "::" ++ op "<" ++ typePath "crm" "Maker" <:+: tokens) ∧
      ∃ tokens ∈ (g.renderer.artifact a.idAdapterSpec).toOption,
        typePath "crm" "Maker" ++ op "," ++ typePath "crm" "Line" <:+: tokens)) = some true := by
    decide +kernel
  obtain ⟨g, a, hg, hmodel, hgraph, hfacts⟩ := exists_of_modelFacts hfacts
  obtain ⟨hplace, ⟨s, hs, tokens, htokens, hprice⟩, hmaker, hslots⟩ := of_decide_eq_true hfacts
  have htokens := toOption_eq_some_iff.mp htokens
  obtain ⟨⟨t, hfilled, -⟩, hknown⟩ := known_types_are_written_as_configured hg products s
  have horigin := (hknown money).1.mpr ⟨"ext::Money", by decide, by decide⟩
  refine ⟨g, a, hg, hmodel, hgraph, horigin, ?_,
    ⟨s, hs, tokens, htokens, hprice, t, hfilled tokens htokens⟩, ?_, ?_⟩
  · cases hpiece : g.renderer.pieceTokens g.renderer.wording (.name money) with
    | error e => simp [hpiece, Except.isOk, Except.toBool] at hplace
    | ok tokens =>
      have hwritten := (hknown money).2 horigin (.name money) tokens (.inl rfl) hpiece
      rw [if_pos (by decide)] at hwritten
      obtain ⟨path, hpath, rfl⟩ := hwritten
      exact ⟨path, hpath, rfl⟩
  · obtain ⟨s, hs, tokens, htokens, hmaker⟩ := hmaker
    exact ⟨s, toOption_eq_some_iff.mp hs, tokens, toOption_eq_some_iff.mp htokens, hmaker⟩
  · obtain ⟨tokens, htokens, hslots⟩ := hslots
    exact ⟨tokens, toOption_eq_some_iff.mp htokens, hslots⟩

/-- The amount of a voucher leads to a type that the index of the run holds as known. The repository joins
it below the crate, since only the manifest declares it. -/
theorem voucher_amount_is_written_below_crate :
    ∃ (g : Generator) (a : Assembly), ofConfig bareConfig = .ok g ∧
      a.model ∈ (g.catalog vouchers).models ∧ a.graph = (g.catalog vouchers).graph ∧
      (∃ f ∈ a.model.fields, f.relation = .toOne ∧ f.target = some money) ∧
      (g.catalog vouchers).resolver.index.origin? money = some .known ∧
      ∃ s, a.repositorySpec = .ok s ∧ ∃ tokens, g.renderer.artifact s = .ok tokens ∧
        word "join" ++ op "::" ++ op "<" ++ word "crate" ++ op "::" ++ typePath "ext" "Money" <:+:
          tokens := by
  have hfacts : modelFacts bareConfig vouchers (fun g a => decide
      ((∃ f ∈ a.model.fields, f.relation = .toOne ∧ f.target = some money) ∧
        (g.catalog vouchers).resolver.index.origin? money = some .known ∧
        ∃ s ∈ a.repositorySpec.toOption, ∃ tokens ∈ (g.renderer.artifact s).toOption,
          word "join" ++ op "::" ++ op "<" ++ word "crate" ++ op "::" ++ typePath "ext" "Money" <:+:
            tokens)) = some true := by
    decide +kernel
  obtain ⟨g, a, hg, hmodel, hgraph, hfacts⟩ := exists_of_modelFacts hfacts
  obtain ⟨hamount, horigin, s, hs, tokens, htokens, hbelow⟩ := of_decide_eq_true hfacts
  exact ⟨g, a, hg, hmodel, hgraph, hamount, horigin, s, toOption_eq_some_iff.mp hs, tokens,
    toOption_eq_some_iff.mp htokens, hbelow⟩

end Generator

end CrudScaffold
