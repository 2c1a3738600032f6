import CrudScaffold.Code.Attribute.Layout
import CrudScaffold.Code.Expansion.Layout
import CrudScaffold.Code.Tree.Tokens

/-!
# Layout of types and paths

How types and paths are set in source text. In a type arguments follow a segment directly, in an
expression after a separator. Lifetimes come before all other arguments. How constants inside a type
are set is left open. What was read without being understood cannot be printed.
-/

namespace CrudScaffold.Code

open Layout

/-- Where a path stands. -/
inductive PathPlace where
  | inType
  | inExpr
  deriving DecidableEq, Repr

/-- Layout of a lifetime. -/
def lifetimeLayout (name : String) : Layout := text ("'" ++ name)

/-- Layout of the name in front of a type, if there is one. -/
def namedLayout (name : Option String) : Layout :=
  match name with
  | some n => text n ++ text ": "
  | none => []

/-- Layout of a calling convention. -/
def abiLayout : Option (Option String) → Layout
  | some (some name) => text "extern " ++ text name ++ text " "
  | some none => text "extern "
  | none => []

/-- The text of a path of names. -/
def Path.modText (p : Path) : String := String.join (p.tokens.map Token.text)

/-- Layout of an expansion. -/
def expansionLayout (path : Path) (d : Delimiter) (body : Tokens) (semicolon : Bool) : Layout :=
  Expansion.layout path.modText none d body semicolon

/-- Layout of a bound on what a hidden type uses. -/
def capturedLayout (params : Tokens) : Layout :=
  text "use<" ++ joined ", " (params.map fun p => text p.text) ++ text ">"

/-- Members with lifetimes in front. -/
def sortedLayouts (members : List (Bool × Layout)) : List Layout :=
  (members.filter Prod.fst).map Prod.snd ++ (members.filter fun m => !m.1).map Prod.snd

/-- Layout of the open end of the inputs of a function type. -/
def OpenEnd.layout (e : Embedding) (o : OpenEnd) : Layout :=
  attributesLayout e o.attributes ++ namedLayout o.name ++ text "..."

/-- A list of members that may end with an open end. -/
def openList (members : List Layout) (openEnd : Option Layout) : Layout :=
  match openEnd with
  | none => commaItems members
  | some o => members.flatMap (fun m => m ++ text "," ++ space) ++ o ++ takeBack cut

mutual
/-- Layout of a path. -/
def Path.layout (e : Embedding) (place : PathPlace) : Path → Layout
  | .plain isGlobal segments =>
    (if isGlobal then text "::" else []) ++ joined "::" (segmentLayouts e place segments)
  | .ofType self rest =>
    text "<" ++ self.layout e ++ text ">::" ++ joined "::" (segmentLayouts e place rest)
  | .ofTrait self trait rest =>
    text "<" ++ self.layout e ++ text " as " ++ trait.layout e .inType ++ text ">::" ++
      joined "::" (segmentLayouts e place rest)

/-- Layouts of segments. -/
def segmentLayouts (e : Embedding) (place : PathPlace) : List Segment → List Layout
  | [] => []
  | s :: rest => s.layout e place :: segmentLayouts e place rest

/-- Layout of a segment. -/
def Segment.layout (e : Embedding) (place : PathPlace) : Segment → Layout
  | .mk name args => text name ++ args.layout e place

/-- Layout of the arguments of a segment. -/
def Args.layout (e : Embedding) (place : PathPlace) : Args → Layout
  | .none => []
  | .angle _ args _ =>
    if args.isEmpty then []
    else
      (if place == .inExpr then text "::" else []) ++
        text "<" ++ commaList (sortedLayouts (argLayouts e args)) ++ text ">"
  | .call inputs _ output =>
    together step
      (text "(" ++
        (if inputs.isEmpty then takeBack cut else cut ++ commaItems (tyLayouts e inputs)) ++
        text ")" ++ outputLayout e output)

/-- Layouts of arguments, and whether each is a lifetime. -/
def argLayouts (e : Embedding) : List Arg → List (Bool × Layout)
  | [] => []
  | a :: rest => a.layout e :: argLayouts e rest

/-- Layout of one argument, and whether it is a lifetime. -/
def Arg.layout (e : Embedding) : Arg → Bool × Layout
  | .lifetime name => (true, lifetimeLayout name)
  | .type type => (false, type.layout e)
  | .const value => (false, e.constant value)
  | .assocType name args type =>
    (false, text name ++ args.layout e .inType ++ text " = " ++ type.layout e)
  | .assocConst name args value =>
    (false, text name ++ args.layout e .inType ++ text " = " ++ e.constant value)
  | .constraint name args bounds _ =>
    (false, text name ++ args.layout e .inType ++ filled step (boundsLayout e ": " true bounds))

/-- Layout of bounds; a text stands in front of the first one. -/
def boundsLayout (e : Embedding) (before : String) (first : Bool) : List Bound → Layout
  | [] => []
  | b :: rest =>
    (if first then text before else space ++ text "+ ") ++ b.layout e ++
      boundsLayout e before false rest

/-- Layouts of bounds. -/
def boundLayouts (e : Embedding) : List Bound → List Layout
  | [] => []
  | b :: rest => b.layout e :: boundLayouts e rest

/-- Layout of a bound. -/
def Bound.layout (e : Embedding) : Bound → Layout
  | .lifetime name => lifetimeLayout name
  | .trait inParens relaxed binder path =>
    let inner := (if relaxed then text "?" else []) ++ binder.layout e ++ path.layout e .inType
    if inParens then text "(" ++ inner ++ text ")" else inner
  | .captured params _ => capturedLayout params
  | .verbatim _ => unprintable

/-- Layout of the parameters bound by `for`. -/
def Binder.layout (e : Embedding) : Binder → Layout
  | .none => []
  | .params ps _ =>
    text "for<" ++ joined ", " ((paramLayouts e ps).map Prod.snd) ++ text "> "

/-- Layouts of parameters, and whether each is a lifetime. -/
def paramLayouts (e : Embedding) : List Param → List (Bool × Layout)
  | [] => []
  | p :: rest => p.layout e :: paramLayouts e rest

/-- Layout of one parameter, and whether it is a lifetime. -/
def Param.layout (e : Embedding) : Param → Bool × Layout
  | .lifetime attributes name bounds _ =>
    (true, attributesLayout e attributes ++ lifetimeLayout name ++
      if bounds.isEmpty then [] else text ": " ++ joined " + " (bounds.map lifetimeLayout))
  | .type attributes name bounds _ default =>
    (false, attributesLayout e attributes ++ text name ++
      filled step (boundsLayout e ": " true bounds ++
        match default with
        | some t => space ++ text "= " ++ t.layout e
        | none => []))
  | .const attributes name type default =>
    (false, attributesLayout e attributes ++ text "const " ++ text name ++ text ": " ++
      type.layout e ++
      match default with
      | some value => text " = " ++ e.constant value
      | none => [])

/-- Layout of a result type. -/
def outputLayout (e : Embedding) : Option Ty → Layout
  | none => []
  | some t => text " -> " ++ t.layout e

/-- Layouts of types. -/
def tyLayouts (e : Embedding) : List Ty → List Layout
  | [] => []
  | t :: rest => t.layout e :: tyLayouts e rest

/-- Layouts of the inputs of a function type. -/
def inputLayouts (e : Embedding) : List Input → List Layout
  | [] => []
  | i :: rest => i.layout e :: inputLayouts e rest

/-- Layout of one input of a function type. -/
def Input.layout (e : Embedding) : Input → Layout
  | .mk attributes name type =>
    attributesLayout e attributes ++ namedLayout name ++ type.layout e

/-- Layout of a type. -/
def Ty.layout (e : Embedding) : Ty → Layout
  | .path path => path.layout e .inType
  | .reference tick isMut elem =>
    text "&" ++
      (match tick with
        | some l => lifetimeLayout l ++ text " "
        | none => []) ++
      (if isMut then text "mut " else []) ++ elem.layout e
  | .pointer isMut elem => text (if isMut then "*mut " else "*const ") ++ elem.layout e
  | .paren elem => text "(" ++ elem.layout e ++ text ")"
  | .tuple elems _ => text "(" ++ tupleList (tyLayouts e elems) ++ text ")"
  | .slice elem => text "[" ++ elem.layout e ++ text "]"
  | .array elem length => text "[" ++ elem.layout e ++ text "; " ++ e.constant length ++ text "]"
  | .function binder isUnsafe abi inputs _ openEnd output =>
    binder.layout e ++ (if isUnsafe then text "unsafe " else []) ++ abiLayout abi ++
      text "fn(" ++
      (if inputs.isEmpty && openEnd.isNone then []
       else together step
        (cut ++ openList (inputLayouts e inputs) (openEnd.map (OpenEnd.layout e)))) ++
      text ")" ++ outputLayout e output
  | .object _ bounds _ => text "dyn " ++ joined " + " (boundLayouts e bounds)
  | .existential bounds _ => text "impl " ++ joined " + " (boundLayouts e bounds)
  | .never => text "!"
  | .infer => text "_"
  | .expansion path d body => expansionLayout path d body false
  | .verbatim _ => unprintable
end

end CrudScaffold.Code
