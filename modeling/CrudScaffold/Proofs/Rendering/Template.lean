import CrudScaffold.Proofs.Except
import CrudScaffold.Proofs.Spec.Renaming
import CrudScaffold.Rendering.Basic

/-!
# Templates of rendered code

Rendered code consists of fixed tokens and of places where the names stand to which the specification
refers. The tokens of a place depend on the name and on the known types, all other tokens on neither:
for other names and other known types the same template is filled in.
-/

namespace CrudScaffold

open Code Code.Token

/-- A piece of rendered code. -/
inductive Piece where
  /-- Tokens that do not depend on the names to which the specification refers. -/
  | fixed (tokens : Tokens)
  /-- The place of a name to which the members refer. -/
  | name (n : QualifiedName)
  /-- The place of the name of the model that the artifact was built for. -/
  | own (n : QualifiedName)

/-- Pieces of rendered code, one after the other. -/
abbrev Template := List Piece

namespace Template

/-- Fixed tokens alone. -/
def fixed (tokens : Tokens) : Template := [.fixed tokens]

/-- The place of a name alone. -/
def place (n : QualifiedName) : Template := [.name n]

/-- The place of the model's own name alone. -/
def ownPlace (n : QualifiedName) : Template := [.own n]

/-- Templates with a comma between each two, and after the last one if asked for. -/
def commas (trailing : Bool) : List Template → Template
  | [] => []
  | [t] => if trailing then t ++ fixed (op ",") else t
  | t :: rest => t ++ fixed (op ",") ++ commas trailing rest

/-- A public function with its body. -/
def publicFunction (signature body : Template) : Template :=
  fixed (word "pub") ++ signature ++ fixed [.opening .brace] ++ body ++ fixed [.closing .brace]

/-- The functions of a structure without fields. -/
def unitImpl (name : Tokens) (functions : List Template) : Template :=
  fixed (word "impl" ++ name ++ [.opening .brace]) ++ functions.flatten ++ fixed [.closing .brace]

/-- The further field that holds the delegate. -/
def baseField (isPublic : Bool) : Option Template → Template
  | some t =>
    fixed ((if isPublic then word "pub" else []) ++ word "base" ++ op ":") ++ t ++ fixed (op ",")
  | none => []

/-- The further parameter that takes the delegate. -/
def baseParam : Option Template → Template
  | some t => fixed (op "," ++ word "base" ++ op ":") ++ t
  | none => []

/-- The constructor of a structure that holds a value and perhaps the delegate. -/
def constructor (field : String) (type : Template) (base : Option Template) : Template :=
  let init := Renderer.baseInit (base.map fun _ => [])
  fixed (word "pub" ++ word "fn" ++ word "new" ++ .opening .paren :: (word field ++ op ":")) ++
    type ++ baseParam base ++
    fixed (.closing .paren :: (op "->" ++ word "Self" ++
      Phrase.braced (word "Self" ++ Phrase.braced (word field ++ op "," ++ init))))

/-- A method that gives a reference to a field. -/
def accessor (field : String) (type : Template) : Template :=
  fixed (word "pub" ++ word "fn" ++ word field ++ enclose .paren (op "&" ++ word "self") ++
      op "->" ++ op "&") ++
    type ++ fixed (Phrase.braced (op "&" ++ Phrase.member (word "self") field))

/-- The method that gives a reference to the delegate. -/
def baseAccessor : Option Template → Template
  | some t => accessor "base" t
  | none => []

/-- A structure with one type parameter. -/
def genericStruct (name : Tokens) (parameter : String) (fields : Template) : Template :=
  fixed (word "pub" ++ word "struct" ++ Phrase.applied name [word parameter] ++ [.opening .brace]) ++
    fields ++ fixed [.closing .brace]

/-- The functions of a structure with one type parameter. -/
def genericImpl (name : Tokens) (parameter : String) (bound : Option Template)
    (trait body : Template) : Template :=
  let given := match bound with
    | some b => fixed (word parameter ++ op ":") ++ b
    | none => fixed (word parameter)
  fixed (word "impl" ++ op "<") ++ given ++ fixed (op ">") ++ trait ++
    fixed (Phrase.applied name [word parameter] ++ [.opening .brace]) ++ body ++
    fixed [.closing .brace]

end Template

/-- The known types, and the names that are put in place of those to which the members refer. -/
structure Wording where
  known : List String
  rename : QualifiedName → QualifiedName

namespace Renderer

section Fill

variable (r : Renderer) (w : Wording)

/-- The renderer with other known types. -/
def under : Renderer := { r with known := w.known }

/-- The tokens of a piece. -/
def pieceTokens : Piece → Rendered Tokens
  | .fixed tokens => .ok tokens
  | .name n => (r.under w).named (w.rename n)
  | .own n => (r.under w).named n

/-- The tokens of a template. -/
def fill (t : Template) : Rendered Tokens := List.flatten <$> t.mapM (r.pieceTokens w)

/-- The tokens of each of some templates. -/
def fillEach (ts : List Template) : Rendered (List Tokens) := ts.mapM (r.fill w)

end Fill

section

variable {r : Renderer} {w : Wording}

/-- An empty template gives no tokens. -/
@[simp] theorem fill_nil : r.fill w [] = .ok [] := rfl

/-- Fixed tokens stay as they are. -/
@[simp] theorem fill_fixed (tokens : Tokens) : r.fill w (.fixed tokens) = .ok tokens := by
  simp [fill, Template.fixed, pieceTokens]

private theorem fill_place (n : QualifiedName) :
    r.fill w (.place n) = (r.under w).named (w.rename n) := by
  simp [fill, Template.place, pieceTokens]

private theorem fill_ownPlace (n : QualifiedName) : r.fill w (.ownPlace n) = (r.under w).named n := by
  simp [fill, Template.ownPlace, pieceTokens]

/-- Templates are filled one after the other. -/
theorem fill_append {s t : Template} :
    r.fill w (s ++ t) = (do let a ← r.fill w s; let b ← r.fill w t; return a ++ b) := by
  simp [fill, List.mapM_append]

/-- Two filled templates are put together. -/
theorem fill_append_eq_ok {s t : Template} {front back : Tokens} (hs : r.fill w s = .ok front)
    (ht : r.fill w t = .ok back) : r.fill w (s ++ t) = .ok (front ++ back) := by
  simp [fill_append, ok_bind, hs, ht]

private theorem fillEach_cons {t : Template} {ts : List Template} :
    r.fillEach w (t :: ts) =
      (do let a ← r.fill w t; let rest ← r.fillEach w ts; return a :: rest) :=
  List.mapM_cons

/-- A filled template is put in front of others. -/
theorem fillEach_cons_eq_ok {t : Template} {ts : List Template} {tokens : Tokens}
    {rest : List Tokens} (ht : r.fill w t = .ok tokens) (hts : r.fillEach w ts = .ok rest) :
    r.fillEach w (t :: ts) = .ok (tokens :: rest) := by
  simp [fillEach_cons, ok_bind, ht, hts]

end

/-! ## What follows a template -/

section

variable (r : Renderer)

/-- Whatever the names are replaced by and whichever types are known, the tokens are those of one
template. -/
def Templated (rendered : Wording → Rendered Tokens) : Prop :=
  ∃ t : Template, ∀ w tokens, rendered w = .ok tokens → r.fill w t = .ok tokens

/-- The same of several streams of tokens, each with its template. -/
def EachTemplated (rendered : Wording → Rendered (List Tokens)) : Prop :=
  ∃ ts : List Template, ∀ w parts, rendered w = .ok parts → r.fillEach w ts = .ok parts

/-- The same of a stream of tokens that is there or not. -/
def MaybeTemplated (rendered : Wording → Rendered (Option Tokens)) : Prop :=
  ∃ t : Option Template, ∀ w part, rendered w = .ok part → t.mapM (r.fill w) = .ok part

end

section

variable {r : Renderer} {w : Wording} {tokens : Tokens}

/-- What depends on neither names nor known types is a template without places. -/
theorem Templated.const (rendered : Rendered Tokens) :
    r.Templated fun _ => rendered := by
  refine ⟨.fixed (rendered.toOption.getD []), fun w tokens h => ?_⟩
  dsimp only at h
  rw [h, fill_fixed]
  rfl

/-- What comes first and depends on neither is the same in every wording. -/
theorem Templated.after {α : Type} {first : Rendered α} {rendered : α → Wording → Rendered Tokens}
    (h : ∀ a, r.Templated (rendered a)) :
    r.Templated fun w => first >>= fun a => rendered a w := by
  cases first with
  | error fault => exact .const (.error fault)
  | ok a => exact h a

/-- Fixed tokens around a stream do not change that it follows a template. -/
theorem Templated.map {rendered : Wording → Rendered Tokens} (h : r.Templated rendered)
    (around : Tokens → Tokens) (front back : Tokens)
    (haround : ∀ inner, around inner = front ++ inner ++ back) :
    r.Templated fun w => around <$> rendered w := by
  obtain ⟨t, ht⟩ := h
  refine ⟨.fixed front ++ t ++ .fixed back, fun w tokens h => ?_⟩
  obtain ⟨inner, hinner, rfl⟩ := map_eq_ok_iff.mp h
  simp [fill_append, ok_bind, ht w inner hinner, haround]

/-- A part of each result follows a template if it does so for each computation of a row. -/
theorem eachTemplated_map_mapM {α β : Type} (l : List α) {rendered : α → Wording → Rendered β}
    (part : β → Tokens) (h : ∀ a ∈ l, r.Templated fun w => part <$> rendered a w) :
    r.EachTemplated fun w => List.map part <$> l.mapM fun a => rendered a w := by
  induction l with
  | nil => exact ⟨[], fun _ _ h => h⟩
  | cons a l ih =>
    rw [List.forall_mem_cons] at h
    obtain ⟨t, ht⟩ := h.1
    obtain ⟨ts, hts⟩ := ih h.2
    refine ⟨t :: ts, fun w parts h => ?_⟩
    obtain ⟨bs, hbs, rfl⟩ := map_eq_ok_iff.mp h
    rw [List.mapM_cons] at hbs
    obtain ⟨b, hb, hbs⟩ := bind_eq_ok_iff.mp hbs
    obtain ⟨rest, hrest, hbs⟩ := bind_eq_ok_iff.mp hbs
    cases hbs
    have hfirst := ht w (part b) (map_eq_ok_iff.mpr ⟨b, hb, rfl⟩)
    have hothers := hts w (rest.map part) (map_eq_ok_iff.mpr ⟨rest, hrest, rfl⟩)
    exact fillEach_cons_eq_ok hfirst hothers

/-- Streams follow templates if each of them does. -/
theorem eachTemplated_mapM {α : Type} (l : List α) {rendered : α → Wording → Rendered Tokens}
    (h : ∀ a ∈ l, r.Templated (rendered a)) :
    r.EachTemplated fun w => l.mapM fun a => rendered a w := by
  simpa using eachTemplated_map_mapM l id (by simpa using h)

/-- Filled templates are joined. -/
theorem fill_flatten {ts : List Template} {parts : List Tokens}
    (h : r.fillEach w ts = .ok parts) : r.fill w ts.flatten = .ok (Phrase.all parts) := by
  induction ts generalizing parts with
  | nil =>
    cases h
    rfl
  | cons t ts ih =>
    rw [fillEach_cons] at h
    obtain ⟨tokens, htokens, h⟩ := bind_eq_ok_iff.mp h
    obtain ⟨rest, hrest, h⟩ := bind_eq_ok_iff.mp h
    cases h
    simp [fill_append, ok_bind, htokens, ih hrest, Phrase.all]

/-- Filled templates are joined by commas. -/
theorem fill_commas (trailing : Bool) {ts : List Template} {parts : List Tokens}
    (h : r.fillEach w ts = .ok parts) :
    r.fill w (.commas trailing ts) = .ok (commas trailing parts) := by
  induction ts generalizing parts with
  | nil =>
    cases h
    rfl
  | cons t ts ih =>
    rw [fillEach_cons] at h
    obtain ⟨tokens, htokens, h⟩ := bind_eq_ok_iff.mp h
    obtain ⟨rest, hrest, h⟩ := bind_eq_ok_iff.mp h
    cases h
    have hcommas := ih hrest
    cases ts with
    | nil =>
      cases hrest
      cases trailing <;> simp [Template.commas, commas, fill_append, ok_bind, htokens]
    | cons t' ts =>
      rw [fillEach_cons] at hrest
      obtain ⟨tokens', -, hrest⟩ := bind_eq_ok_iff.mp hrest
      obtain ⟨rest', -, hrest⟩ := bind_eq_ok_iff.mp hrest
      cases hrest
      simp [Template.commas, commas, fill_append, ok_bind, htokens, hcommas]

end

/-! ## Types and signatures -/

section

variable (r : Renderer)

/-- Paths into the runtime do not depend on the wording. -/
theorem under_inRuntime (w : Wording) (names : List String) :
    (r.under w).inRuntime names = r.inRuntime names := rfl

/-- Paths into the codec do not depend on the wording. -/
theorem under_inCodec (w : Wording) (names : List String) :
    (r.under w).inCodec names = r.inCodec names := rfl

/-- A name that is given as a text has no places. -/
theorem templated_name (text : String) : r.Templated fun _ => name text :=
  .const (name text)

/-- A name to which the specification refers is a place. -/
theorem templated_named (n : QualifiedName) :
    r.Templated fun w => (r.under w).named (w.rename n) :=
  ⟨.place n, fun _ _ h => (fill_place n).trans h⟩

/-- So is the name of the model that the artifact was built for. -/
theorem templated_own (n : QualifiedName) : r.Templated fun w => (r.under w).named n :=
  ⟨.ownPlace n, fun _ _ h => (fill_ownPlace n).trans h⟩

/-- Types follow a template. -/
theorem templated_type (t : TypeRef) :
    r.Templated fun w => (r.under w).type (t.rename w.rename) := by
  induction t with
  | declared text => exact .const (r.type (.declared text))
  | named n => exact templated_named r n
  | text => exact .const (r.type .text)
  | runtime item => exact .const (r.type (.runtime item))
  | list inner ih =>
    refine ih.map listType (word "Vec" ++ op "<") (op ">") fun type => ?_
    simp [listType, Phrase.applied, Phrase.angled, commas]
  | optional inner ih =>
    refine ih.map optionType (word "Option" ++ op "<") (op ">") fun type => ?_
    simp [optionType, Phrase.applied, Phrase.angled, commas]

private theorem templated_param (p : Param) :
    r.Templated fun w => (r.under w).param (p.rename w.rename) := by
  obtain ⟨text, type, mode⟩ := p
  simp only [param, Param.rename]
  refine .after fun name => ?_
  have hnamed {passed : Wording → Rendered Tokens} (hpassed : r.Templated passed) :
      r.Templated fun w => do
        let type ← passed w
        return name ++ op ":" ++ type := by
    simpa using hpassed.map (name ++ op ":" ++ ·) (name ++ op ":") [] fun type => by simp
  have hbehind (t : TypeRef) (front : Tokens) := (templated_type r t).map (front ++ ·) front []
    fun _ => (List.append_nil _).symm
  -- Only a text that is passed by reference is not written as its type.
  cases mode with
  | owned => exact hnamed (templated_type r type)
  | refMut => exact hnamed (hbehind type (op "&" ++ word "mut"))
  | ref =>
    cases type with
    | text => exact hnamed (.const (pure (op "&" ++ word "str")))
    | declared text => exact hnamed (hbehind (.declared text) (op "&"))
    | named n => exact hnamed (hbehind (.named n) (op "&"))
    | runtime item => exact hnamed (hbehind (.runtime item) (op "&"))
    | list inner => exact hnamed (hbehind (.list inner) (op "&"))
    | optional inner => exact hnamed (hbehind (.optional inner) (op "&"))

private theorem templated_success (returns : Returns) :
    r.Templated fun w => (r.under w).success (returns.rename w.rename) := by
  cases returns with
  | unit => exact .const (r.success .unit)
  | value t => exact templated_type r t
  | optional t => exact templated_type r (.optional t)
  | many t => exact templated_type r (.list t)
  | count => exact .const (r.success .count)
  | flag => exact .const (r.success .flag)

private theorem templated_returnType (o : Operation) :
    r.Templated fun w => (r.under w).returnType (o.rename w.rename) := by
  have hvalue := templated_success r o.returns
  have hresult (failure : Tokens) := hvalue.map (resultType · failure)
    (word "Result" ++ op "<") (op "," ++ failure ++ op ">") fun value => by
      simp [resultType, Phrase.applied, Phrase.angled, commas]
  obtain ⟨name, params, returns, failure, body, route, doc⟩ := o
  cases failure with
  | none => simpa [returnType, Operation.rename] using hvalue
  | some failure =>
    cases failure with
    | runtime =>
      simpa [returnType, Operation.rename, under_inRuntime] using hresult (r.inRuntime ["Error"])
    | malformed =>
      simpa [returnType, Operation.rename, under_inCodec] using
        hresult (r.inCodec ["MalformedIdentifier"])

/-- Signatures follow a template. -/
theorem templated_signature (isMethod : Bool) (o : Operation) :
    r.Templated fun w => (r.under w).signature isMethod (o.rename w.rename) := by
  simp only [signature, Operation.rename, List.mapM_map]
  refine .after fun name => ?_
  obtain ⟨ps, hps⟩ := eachTemplated_mapM o.params fun p _ => templated_param r p
  obtain ⟨t, ht⟩ := templated_returnType r o
  let receiver := if isMethod then op "&" ++ word "self" ++ op "," else []
  refine ⟨.fixed (word "fn" ++ name ++ .opening .paren :: receiver) ++ .commas false ps ++
    .fixed (.closing .paren :: op "->") ++ t, fun w tokens h => ?_⟩
  obtain ⟨params, hparams, h⟩ := bind_eq_ok_iff.mp h
  obtain ⟨result, hresult, h⟩ := bind_eq_ok_iff.mp h
  cases h
  simp [fill_append, ok_bind, fill_commas false (hps w params hparams), ht w result hresult, receiver,
    enclose]

/-- A public function is filled by its parts. -/
theorem fill_publicFunction {r : Renderer} {w : Wording} {s t : Template}
    {signature body : Tokens} (hs : r.fill w s = .ok signature) (ht : r.fill w t = .ok body) :
    r.fill w (.publicFunction s t) = .ok (publicFunction signature body) := by
  simp [Template.publicFunction, publicFunction, fill_append, ok_bind, hs, ht, Phrase.braced, enclose]

/-- The implementation of a unit type is filled by its functions. -/
theorem fill_unitImpl {r : Renderer} {w : Wording} (name : Tokens)
    {ts : List Template} {functions : List Tokens} (h : r.fillEach w ts = .ok functions) :
    r.fill w (.unitImpl name ts) = .ok (unitImpl name functions) := by
  simp [Template.unitImpl, unitImpl, fill_append, ok_bind, fill_flatten h, Phrase.braced, enclose]

/-! ## Dependencies -/

/-- A dependency that must be there follows a template. -/
theorem templated_required (s : Spec) (role : DependencyRole) :
    r.Templated fun w => (r.under w).required (s.rename w.rename) role := by
  simp only [required, Spec.dependency?_rename]
  cases s.dependency? role with
  | none => exact .const (.error (.missing role))
  | some d => exact templated_type r d.type

/-- A dependency that may be there follows a template. -/
theorem maybeTemplated_dependencyType? (s : Spec) (role : DependencyRole) :
    r.MaybeTemplated fun w => (r.under w).dependencyType? (s.rename w.rename) role := by
  simp only [dependencyType?, Spec.dependency?_rename]
  cases s.dependency? role with
  | none => exact ⟨none, fun _ _ h => h⟩
  | some d =>
    obtain ⟨t, ht⟩ := templated_type r d.type
    refine ⟨some t, fun w part h => ?_⟩
    obtain ⟨type, htype, rfl⟩ := map_eq_ok_iff.mp h
    simp [ht w type htype]

end

/-! ## Structures that hold a value and perhaps the delegate -/

section

variable {r : Renderer} {w : Wording} {base : Option Template}
  {part : Option Tokens}

/-- The field for the base is filled by its type. -/
theorem fill_baseField (isPublic : Bool) (h : base.mapM (r.fill w) = .ok part) :
    r.fill w (.baseField isPublic base) = .ok (baseField isPublic part) := by
  cases base with
  | none =>
    cases h
    rfl
  | some t =>
    obtain ⟨type, htype, rfl⟩ := map_eq_ok_iff.mp h
    simp [Template.baseField, baseField, fill_append, ok_bind, htype]

/-- An accessor is filled by its type. -/
theorem fill_accessor (field : String) {t : Template} {type : Tokens}
    (ht : r.fill w t = .ok type) : r.fill w (.accessor field t) = .ok (accessor field type) := by
  simp [Template.accessor, accessor, fill_append, ok_bind, ht]

/-- The accessor of the base is filled by its type, if there is one. -/
theorem fill_baseAccessor : base.mapM (r.fill w) = .ok part →
    r.fill w (.baseAccessor base) = .ok (match part with
      | some type => accessor "base" type
      | none => []) := by
  intro h
  cases base with
  | none =>
    cases h
    rfl
  | some t =>
    obtain ⟨type, htype, rfl⟩ := map_eq_ok_iff.mp h
    exact fill_accessor "base" htype

/-- A generic structure is filled by its fields. -/
theorem fill_genericStruct (name : Tokens) (parameter : String) {t : Template} {fields : Tokens}
    (ht : r.fill w t = .ok fields) :
    r.fill w (.genericStruct name parameter t) = .ok (genericStruct name parameter fields) := by
  simp [Template.genericStruct, genericStruct, fill_append, ok_bind, ht, Phrase.braced, enclose]

/-- A generic implementation is filled by its bound, its trait and its body. -/
theorem fill_genericImpl (name : Tokens) (parameter : String) {bound : Option Template}
    {bound' : Option Tokens} {s t : Template} {trait body : Tokens}
    (hbound : bound.mapM (r.fill w) = .ok bound') (hs : r.fill w s = .ok trait)
    (ht : r.fill w t = .ok body) :
    r.fill w (.genericImpl name parameter bound s t) =
      .ok (genericImpl name parameter bound' trait body) := by
  cases bound with
  | none =>
    cases hbound
    simp [Template.genericImpl, genericImpl, fill_append, ok_bind, hs, ht, Phrase.angled, commas,
      Phrase.braced, enclose]
  | some b =>
    obtain ⟨tokens, htokens, rfl⟩ := map_eq_ok_iff.mp hbound
    simp [Template.genericImpl, genericImpl, fill_append, ok_bind, htokens, hs, ht, Phrase.angled,
      commas, Phrase.braced, enclose]

/-- A constructor is filled by its type and that of the base. -/
theorem fill_constructor (field : String) {t : Template} {type : Tokens}
    (ht : r.fill w t = .ok type) (h : base.mapM (r.fill w) = .ok part) :
    r.fill w (.constructor field t base) = .ok (constructor field type part) := by
  cases base with
  | none =>
    cases h
    simp [Template.constructor, Template.baseParam, constructor, baseParam, baseInit, fill_append,
      ok_bind, ht, enclose]
  | some t' =>
    obtain ⟨type', htype', rfl⟩ := map_eq_ok_iff.mp h
    simp [Template.constructor, Template.baseParam, constructor, baseParam, baseInit, fill_append,
      ok_bind, ht, htype', enclose]

end

end Renderer
end CrudScaffold
