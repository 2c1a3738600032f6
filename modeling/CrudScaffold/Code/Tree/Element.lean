import CrudScaffold.Code.Tree.Tokens

/-!
# Elements of container types

What a declared type points to: containers, references and round brackets around a type are seen
through. Of several type arguments the last one counts.
-/

namespace CrudScaffold.Code

namespace Path

/-- All segments of a path, those of a trait in front included. -/
def segments : Path → List Segment
  | .plain _ segments => segments
  | .ofType _ rest => rest
  | .ofTrait _ trait rest => trait.segments ++ rest

end Path

/-- The name of a segment. -/
def Segment.name : Segment → String
  | .mk name _ => name

/-- The arguments of a segment. -/
def Segment.args : Segment → Args
  | .mk _ args => args

/-- The names of a path with separators between them. -/
def Path.spelled (p : Path) : String := "::".intercalate (p.segments.map Segment.name)

mutual
/-- The path at the innermost place of a type. -/
def Ty.innermost : Ty → Option String
  | .path p =>
    match p.element with
    | some inner => inner
    | none => if p.segments.isEmpty then none else some p.spelled
  | .reference _ _ elem => elem.innermost
  | .paren elem => elem.innermost
  | _ => none

/-- The innermost place of the last type argument of a path's last segment, if it has one. -/
def Path.element : Path → Option (Option String)
  | .plain _ segments => segmentsElement segments
  | .ofType _ rest => segmentsElement rest
  | .ofTrait _ trait rest => if rest.isEmpty then trait.element else segmentsElement rest

/-- The same for the last of some segments. -/
def segmentsElement : List Segment → Option (Option String)
  | [] => none
  | [s] => s.element
  | _ :: s :: rest => segmentsElement (s :: rest)

/-- The same for a segment. -/
def Segment.element : Segment → Option (Option String)
  | .mk _ args => args.element

/-- The same for the arguments of a segment. -/
def Args.element : Args → Option (Option String)
  | .angle _ args _ => argsElement args
  | _ => none

/-- The same for a list of arguments. -/
def argsElement : List Arg → Option (Option String)
  | [] => none
  | a :: rest =>
    match argsElement rest with
    | some inner => some inner
    | none => a.element

/-- The same for one argument. -/
def Arg.element : Arg → Option (Option String)
  | .type t => some t.innermost
  | _ => none
end

/-- The name of the last segment of a path type, or of the path type that a reference leads to. -/
def Ty.lastName? : Ty → Option String
  | .path p | .reference _ _ (.path p) => p.segments.getLast?.map Segment.name
  | _ => none

/-- The type inside an optional type. -/
def Ty.optional? : Ty → Option Ty
  | .path p =>
    match p.segments.getLast? with
    | some (.mk "Option" (.angle _ (.type inner :: _) _)) => some inner
    | _ => none
  | _ => none

end CrudScaffold.Code
