import CrudScaffold.Code.Reading
import CrudScaffold.Code.Phrase
import CrudScaffold.Config
import CrudScaffold.Spec.Basic

/-!
# Names, types and signatures in generated code

A model or generated type is written below the crate it is generated for, a known type exactly as its
name. A name that is a keyword is written as a raw name.
-/

namespace CrudScaffold

open Code Code.Token

/-- Why a specification cannot be rendered. -/
inductive RenderFault where
  | notAName (text : String)
  | notAPath (name : QualifiedName)
  | notAType (declared : String)
  | notAnItem (item : String)
  | missing (role : DependencyRole)
  | noContract
  | notAMapping (operation : String)
  | notACodec (operation : String)
  | notStorage (operation : String)
  | noResultShape (operation : String)
  | noDelegate (operation : String)
  | delegatesElsewhere (operation : String) (role : DependencyRole)
  | notAHandler (operation : String)
  | noRoute (operation : String)
  | notAPredicate (operation : String)
  /-- The generated tokens are not the source of a file. -/
  | unreadable
  deriving DecidableEq, Repr

/-- The wording of a fault. Where code could not be read, it ends with the colon behind which the reader
of the code tells its own reason. -/
def RenderFault.message : RenderFault → String
  | .notAName text => s!"'{text}' is not a valid identifier"
  | .notAPath name => s!"'{name}' is not a valid path:"
  | .notAType declared => s!"declared type '{declared}' does not parse:"
  | .notAnItem item => s!"runtime item '{item}':"
  | .missing role => s!"missing {role.text} dependency"
  | .noContract => "identifier adapter without identifier contract"
  | .notAMapping operation => s!"'{operation}' is not a mapping"
  | .notACodec operation => s!"'{operation}' is not a codec operation"
  | .notStorage operation => s!"'{operation}' is not a repository operation"
  | .noResultShape operation => s!"'{operation}' has no query result shape"
  | .noDelegate operation => s!"'{operation}' does not delegate"
  | .delegatesElsewhere operation role =>
    s!"'{operation}' delegates to the {role.text} instead of the repository"
  | .notAHandler operation => s!"'{operation}' is not a handler"
  | .noRoute operation => s!"handler '{operation}' has no route"
  | .notAPredicate operation => s!"'{operation}' is not a predicate"
  | .unreadable => "generated tokens do not parse:"

/-- What generated code refers to besides the models. -/
structure Renderer where
  runtime : Code.Path
  codec : Code.Path
  /-- The paths of types that exist elsewhere. -/
  known : List String := []

namespace Renderer

/-- A crate that must be written as a path. The message ends where the reader of the code would tell its
own reason. -/
def crate (label text : String) : Except GenerationError Code.Path :=
  match Code.Path.ofText? text with
  | some path => .ok path
  | none => .error (.configuration s!"{label} '{text}' is not a valid path:")

/-- The paths of the texts that are names. -/
def knownPaths (types : List String) : List String :=
  types.filterMap fun t => (QualifiedName.parse t).map QualifiedName.path

/-- The renderer for two crates and some known types. -/
def ofCrates (runtime codec : String) (known : List String) : Except GenerationError Renderer := do
  let runtime ← crate "runtime crate" runtime
  let codec ← crate "codec crate" codec
  return { runtime, codec, known := knownPaths known }

/-- The renderer of a configuration. -/
def ofConfig (c : Config) : Except GenerationError Renderer :=
  ofCrates c.runtimeCrate c.codecCrate c.knownTypes

/-- Rendering gives a result or a fault. -/
abbrev Rendered (α : Type) := Except RenderFault α

/-! ## Names -/

/-- A name as a token: as it stands, or as a raw name. -/
def nameText (text : String) : Rendered String :=
  match nameOfText? text with
  | some w => .ok w
  | none =>
    match nameOfText? ("r#" ++ text) with
    | some w => .ok w
    | none => .error (.notAName text)

/-- A name as tokens. -/
def name (text : String) : Rendered Tokens := do return word (← nameText text)

variable (r : Renderer)

/-- The text by which generated code refers to a qualified name. -/
def written (n : QualifiedName) : String :=
  if r.known.contains n.path then n.path else "crate::" ++ n.path

/-- A qualified name as tokens. -/
def named (n : QualifiedName) : Rendered Tokens :=
  match Code.Path.ofText? (r.written n) with
  | some path => .ok path.tokens
  | none => .error (.notAPath n)

/-- An item of the runtime crate. -/
def inRuntime (names : List String) : Tokens := Phrase.qualified (r.runtime.tokens :: names.map word)

/-- An item of the codec crate. -/
def inCodec (names : List String) : Tokens := Phrase.qualified (r.codec.tokens :: names.map word)

/-! ## Types -/

/-- The text type. -/
def stringType : Tokens := word "String"

/-- The list of a type. -/
def listType (inner : Tokens) : Tokens := Phrase.applied (word "Vec") [inner]

/-- The option of a type. -/
def optionType (inner : Tokens) : Tokens := Phrase.applied (word "Option") [inner]

/-- The type of a result or an error. -/
def resultType (value failure : Tokens) : Tokens := Phrase.applied (word "Result") [value, failure]

/-- A type as tokens. -/
def type : TypeRef → Rendered Tokens
  | .declared text =>
    match Code.Ty.ofText? text with
    | some t => .ok t.tokens
    | none => .error (.notAType text)
  | .named n => r.named n
  | .text => .ok stringType
  | .runtime item =>
    match Code.Path.ofText? item with
    | some path => .ok (Phrase.qualified [r.runtime.tokens, path.tokens])
    | none => .error (.notAnItem item)
  | .list inner => listType <$> type inner
  | .optional inner => optionType <$> type inner

/-- A parameter as tokens. A text is passed by reference as a slice. -/
def param (p : Param) : Rendered Tokens := do
  let name ← name p.name
  let type ← match p.mode, p.type with
    | .ref, .text => pure (op "&" ++ word "str")
    | .ref, t => (op "&" ++ ·) <$> r.type t
    | .refMut, t => (op "&" ++ word "mut" ++ ·) <$> r.type t
    | .owned, t => r.type t
  return name ++ op ":" ++ type

/-- The result of an operation that succeeds. -/
def success : Returns → Rendered Tokens
  | .unit => .ok (enclose .paren [])
  | .value t => r.type t
  | .optional t => optionType <$> r.type t
  | .many t => listType <$> r.type t
  | .count => .ok (word "u64")
  | .flag => .ok (word "bool")

/-- The result type of an operation. -/
def returnType (o : Operation) : Rendered Tokens := do
  let value ← r.success o.returns
  return match o.failure with
    | some .runtime => resultType value (r.inRuntime ["Error"])
    | some .malformed => resultType value (r.inCodec ["MalformedIdentifier"])
    | none => value

/-- The signature of an operation; a method gets a reference to itself. -/
def signature (isMethod : Bool) (o : Operation) : Rendered Tokens := do
  let name ← name o.name
  let params ← o.params.mapM r.param
  let result ← r.returnType o
  let receiver := if isMethod then op "&" ++ word "self" ++ op "," else []
  return word "fn" ++ name ++ enclose .paren (receiver ++ commas false params) ++ op "->" ++ result

/-- The names of the parameters, to be passed on. -/
def forwarded (o : Operation) : Rendered (List Tokens) := o.params.mapM fun p => name p.name

/-- A public function with its body. -/
def publicFunction (signature body : Tokens) : Tokens :=
  word "pub" ++ signature ++ Phrase.braced body

/-! ## Documentation -/

/-- Attributes for the lines of a documentation text. -/
def doc (text : String) : Tokens :=
  Phrase.all ((Text.lines text.toList).map fun line => Phrase.docLine (" " ++ .ofList line))

/-- Attributes for the documentation of an operation. -/
def operationDoc (o : Operation) : Tokens := doc (o.doc.getD "")

/-! ## Dependencies -/

/-- The type of a dependency that must be there. -/
def required (s : Spec) (role : DependencyRole) : Rendered Tokens :=
  match s.dependency? role with
  | some d => r.type d.type
  | none => .error (.missing role)

/-- The type of a dependency, if it is there. -/
def dependencyType? (s : Spec) (role : DependencyRole) : Rendered (Option Tokens) :=
  match s.dependency? role with
  | some d => some <$> r.type d.type
  | none => .ok none

/-- A further field that holds the declared delegate. -/
def baseField (isPublic : Bool) : Option Tokens → Tokens
  | some type =>
    (if isPublic then word "pub" else []) ++ word "base" ++ op ":" ++ type ++ op ","
  | none => []

/-- A further parameter that takes the declared delegate. -/
def baseParam : Option Tokens → Tokens
  | some type => op "," ++ word "base" ++ op ":" ++ type
  | none => []

/-- The further value of the constructor. -/
def baseInit : Option Tokens → Tokens
  | some _ => word "base" ++ op ","
  | none => []

/-- The constructor of a structure that holds a value and perhaps the delegate. -/
def constructor (field : String) (type : Tokens) (base : Option Tokens) : Tokens :=
  word "pub" ++ word "fn" ++ word "new" ++
    enclose .paren (word field ++ op ":" ++ type ++ baseParam base) ++ op "->" ++ word "Self" ++
    Phrase.braced (word "Self" ++ Phrase.braced (word field ++ op "," ++ baseInit base))

/-- A method that gives a reference to a field. -/
def accessor (field : String) (type : Tokens) : Tokens :=
  word "pub" ++ word "fn" ++ word field ++ enclose .paren (op "&" ++ word "self") ++ op "->" ++
    op "&" ++ type ++ Phrase.braced (op "&" ++ Phrase.member (word "self") field)

/-- Traits of structures without fields. -/
def unitTraits : Tokens :=
  Phrase.derive [word "Debug", word "Clone", word "Copy", word "Default"]

/-- A structure without fields. -/
def unitStruct (name : Tokens) : Tokens :=
  unitTraits ++ word "pub" ++ word "struct" ++ name ++ op ";"

/-- The functions of a structure without fields. -/
def unitImpl (name : Tokens) (functions : List Tokens) : Tokens :=
  word "impl" ++ name ++ Phrase.braced (Phrase.all functions)

/-- A structure with one type parameter. -/
def genericStruct (name : Tokens) (parameter : String) (fields : Tokens) : Tokens :=
  word "pub" ++ word "struct" ++ Phrase.applied name [word parameter] ++ Phrase.braced fields

/-- The functions of a structure with one type parameter, for every type or for those with a bound. -/
def genericImpl (name : Tokens) (parameter : String) (bound : Option Tokens) (trait : Tokens)
    (body : Tokens) : Tokens :=
  let given := match bound with
    | some b => word parameter ++ op ":" ++ b
    | none => word parameter
  word "impl" ++ Phrase.angled [given] ++ trait ++ Phrase.applied name [word parameter] ++
    Phrase.braced body

end Renderer

end CrudScaffold
