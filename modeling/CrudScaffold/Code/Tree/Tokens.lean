import CrudScaffold.Code.Tree

/-!
# Tokens of types and paths

Lifetimes stand in front of all other arguments or parameters of a list.
-/

namespace CrudScaffold.Code

open Token

/-- The streams with a plus between each two, and after the last one if asked for. -/
def pluses (trailing : Bool) : List Tokens → Tokens
  | [] => []
  | [t] => if trailing then t ++ op "+" else t
  | t :: rest => t ++ op "+" ++ pluses trailing rest

/-- The streams with a path separator between each two. -/
def segmentsTokens : List Tokens → Tokens
  | [] => []
  | [t] => t
  | t :: rest => t ++ op "::" ++ segmentsTokens rest

/-- Tokens of an attribute that stands in front of what it describes. -/
def attributeTokens (inner : Tokens) : Tokens := op "#" ++ enclose .bracket inner

/-- Tokens of attributes that stand in front of what they describe. -/
def attributesTokens (attributes : Attributes) : Tokens := attributes.flatMap attributeTokens

/-- Tokens of attributes that stand inside what they describe. -/
def innerAttributesTokens (attributes : Attributes) : Tokens :=
  attributes.flatMap fun inner => op "#" ++ op "!" ++ enclose .bracket inner

/-- Every stream with whether a comma follows it. -/
def withCommas (trailing : Bool) : List (Bool × Tokens) → List (Bool × Tokens × Bool)
  | [] => []
  | [(isLifetime, t)] => [(isLifetime, t, trailing)]
  | (isLifetime, t) :: rest => (isLifetime, t, true) :: withCommas trailing rest

/-- Streams with the commas that follow them; where one is missing in front of a stream it is put
there. -/
def joinCommas (comma : Bool) : List (Tokens × Bool) → Tokens
  | [] => []
  | (t, next) :: rest =>
    (if comma then [] else op ",") ++ t ++ (if next then op "," else []) ++ joinCommas next rest

/-- The streams of a list between angle brackets, those of lifetimes first. Every stream takes its
comma along. -/
def lifetimesFirst (trailing : Bool) (items : List (Bool × Tokens)) : Tokens :=
  let items := withCommas trailing items
  joinCommas true
    ((items.filter Prod.fst).map Prod.snd ++ (items.filter fun i => !i.1).map Prod.snd)

/-- Tokens of an optional name with a colon. -/
def namedTokens (name : Option String) : Tokens :=
  match name with
  | some n => word n ++ op ":"
  | none => []

/-- Tokens of the open end of inputs. -/
def OpenEnd.tokens (e : OpenEnd) : Tokens :=
  attributesTokens e.attributes ++ namedTokens e.name ++ op "..." ++ if e.comma then op "," else []

/-- Tokens of inputs with an open end, which a comma parts from the inputs in front of it. -/
def withOpenEnd (inputs : List Tokens) (trailing : Bool) (openEnd : Option Tokens) : Tokens :=
  match openEnd with
  | some e => commas true inputs ++ e
  | none => commas trailing inputs

/-- Tokens of a calling convention. -/
def abiTokens : Option (Option String) → Tokens
  | some (some name) => word "extern" ++ [.literal name]
  | some none => word "extern"
  | none => []

/-- Tokens of the lifetimes that another one outlives. -/
def outlivesTokens (bounds : List String) (trailing : Bool) : Tokens :=
  if bounds.isEmpty then [] else op ":" ++ pluses trailing (bounds.map fun b => [.lifetime b])

mutual
/-- Tokens of a path. -/
def Path.tokens : Path → Tokens
  | .plain isGlobal segments =>
    (if isGlobal then op "::" else []) ++ segmentsTokens (segmentTokens segments)
  | .ofType self rest =>
    op "<" ++ self.tokens ++ op ">" ++ op "::" ++ segmentsTokens (segmentTokens rest)
  | .ofTrait self trait rest =>
    op "<" ++ self.tokens ++ word "as" ++ trait.tokens ++ op ">" ++ op "::" ++
      segmentsTokens (segmentTokens rest)

/-- Tokens of each segment. -/
def segmentTokens : List Segment → List Tokens
  | [] => []
  | s :: rest => s.tokens :: segmentTokens rest

/-- Tokens of a segment. -/
def Segment.tokens : Segment → Tokens
  | .mk name args => word name ++ args.tokens

/-- Tokens of the arguments of a segment. -/
def Args.tokens : Args → Tokens
  | .none => []
  | .angle turbo args trailing =>
    (if turbo then op "::" else []) ++ op "<" ++ lifetimesFirst trailing (argTokens args) ++ op ">"
  | .call inputs trailing output =>
    enclose .paren (commas trailing (tyTokens inputs)) ++ outputTokens output

/-- Tokens of each argument, and whether it is a lifetime. -/
def argTokens : List Arg → List (Bool × Tokens)
  | [] => []
  | a :: rest => a.tokens :: argTokens rest

/-- Tokens of one argument, and whether it is a lifetime. -/
def Arg.tokens : Arg → Bool × Tokens
  | .lifetime name => (true, [.lifetime name])
  | .type type => (false, type.tokens)
  | .const value => (false, value)
  | .assocType name args type => (false, word name ++ args.tokens ++ op "=" ++ type.tokens)
  | .assocConst name args value => (false, word name ++ args.tokens ++ op "=" ++ value)
  | .constraint name args bounds trailing =>
    (false, word name ++ args.tokens ++ op ":" ++ pluses trailing (boundTokens bounds))

/-- Tokens of each bound. -/
def boundTokens : List Bound → List Tokens
  | [] => []
  | b :: rest => b.tokens :: boundTokens rest

/-- Tokens of one bound. -/
def Bound.tokens : Bound → Tokens
  | .lifetime name => [.lifetime name]
  | .trait inParens relaxed binder path =>
    let inner := (if relaxed then op "?" else []) ++ binder.tokens ++ path.tokens
    if inParens then enclose .paren inner else inner
  | .captured params trailing =>
    let isLifetime : Token → Bool
      | .lifetime _ => true
      | _ => false
    word "use" ++ op "<" ++
      lifetimesFirst trailing (params.map fun p => (isLifetime p, [p])) ++ op ">"
  | .verbatim ts => ts

/-- Tokens of the parameters bound by `for`. -/
def Binder.tokens : Binder → Tokens
  | .none => []
  | .params ps trailing =>
    word "for" ++ op "<" ++ commas trailing ((paramTokens ps).map Prod.snd) ++ op ">"

/-- Tokens of each parameter, and whether it is a lifetime. -/
def paramTokens : List Param → List (Bool × Tokens)
  | [] => []
  | p :: rest => p.tokens :: paramTokens rest

/-- Tokens of one parameter, and whether it is a lifetime. -/
def Param.tokens : Param → Bool × Tokens
  | .lifetime attributes name bounds trailing =>
    (true, attributesTokens attributes ++ [.lifetime name] ++ outlivesTokens bounds trailing)
  | .type attributes name bounds trailing default =>
    (false, attributesTokens attributes ++ word name ++
      (if bounds.isEmpty then [] else op ":" ++ pluses trailing (boundTokens bounds)) ++
      match default with
      | some t => op "=" ++ t.tokens
      | none => [])
  | .const attributes name type default =>
    (false, attributesTokens attributes ++ word "const" ++ word name ++ op ":" ++ type.tokens ++
      match default with
      | some value => op "=" ++ value
      | none => [])

/-- Tokens of an optional result type. -/
def outputTokens : Option Ty → Tokens
  | none => []
  | some t => op "->" ++ t.tokens

/-- Tokens of each type. -/
def tyTokens : List Ty → List Tokens
  | [] => []
  | t :: rest => t.tokens :: tyTokens rest

/-- Tokens of each input. -/
def inputTokens : List Input → List Tokens
  | [] => []
  | i :: rest => i.tokens :: inputTokens rest

/-- Tokens of one input of a function type. -/
def Input.tokens : Input → Tokens
  | .mk attributes name type => attributesTokens attributes ++ namedTokens name ++ type.tokens

/-- Tokens of a type. -/
def Ty.tokens : Ty → Tokens
  | .path path => path.tokens
  | .reference tick isMut elem =>
    op "&" ++ (match tick with | some l => [Token.lifetime l] | none => []) ++
      (if isMut then word "mut" else []) ++ elem.tokens
  | .pointer isMut elem => op "*" ++ word (if isMut then "mut" else "const") ++ elem.tokens
  | .paren elem => enclose .paren elem.tokens
  | .tuple elems trailing => enclose .paren (commas trailing (tyTokens elems))
  | .slice elem => enclose .bracket elem.tokens
  | .array elem length => enclose .bracket (elem.tokens ++ op ";" ++ length)
  | .function binder isUnsafe abi inputs trailing openEnd output =>
    binder.tokens ++ (if isUnsafe then word "unsafe" else []) ++ abiTokens abi ++ word "fn" ++
      enclose .paren
        (withOpenEnd (inputTokens inputs) trailing (openEnd.map OpenEnd.tokens)) ++
      outputTokens output
  | .object dyn bounds trailing =>
    (if dyn then word "dyn" else []) ++ pluses trailing (boundTokens bounds)
  | .existential bounds trailing => word "impl" ++ pluses trailing (boundTokens bounds)
  | .never => op "!"
  | .infer => word "_"
  | .expansion path delimiter body => path.tokens ++ op "!" ++ enclose delimiter body
  | .verbatim ts => ts
end

/-- Tokens of parameters between angle brackets; without any there are no brackets. -/
def paramsTokens (params : List Param) (trailing : Bool) : Tokens :=
  if params.isEmpty then []
  else op "<" ++ lifetimesFirst trailing (paramTokens params) ++ op ">"

end CrudScaffold.Code
