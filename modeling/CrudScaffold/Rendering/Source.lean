import CrudScaffold.Code.Source
import CrudScaffold.Rendering.Endpoints
import CrudScaffold.Rendering.Identity
import CrudScaffold.Rendering.Predicates
import CrudScaffold.Rendering.Storage
import CrudScaffold.Rendering.Transfer

/-!
# Source text of artifacts

The tokens of an artifact are read back as the items of a file, so that nothing is written that could
not be read, and the items are set as text below a fixed header. Tokens that are read without being
understood, such as the receiver of the declared type `fn(mut self)`, cannot be printed: over them the
whole program aborts.
-/

namespace CrudScaffold

open Code

/-- The lines of the comment at the top of every generated file. -/
def headerLines : List String :=
  ["// @generated by scrudgen. Do not edit this file.",
   "//",
   "// It is overwritten only while it stays in the output directory. To customise",
   "// it, move it into a hand-written source root under the same module path; a",
   "// relocated copy is never regenerated.",
   ""]

/-- The comment at the top of every generated file. -/
def fileHeader : String := String.join (headerLines.map (· ++ "\n"))

/-- How something ends without a result: with a fault, or with an abort of the whole program. -/
inductive Breakdown (ε : Type) where
  | fault (e : ε)
  | abort
  deriving DecidableEq, Repr

/-- The breakdown with its fault told in another way. -/
def Breakdown.map {ε δ : Type} (f : ε → δ) : Breakdown ε → Breakdown δ
  | fault e => fault (f e)
  | abort => abort

namespace Renderer

variable (r : Renderer)

/-- The tokens of a specification by its kind. -/
def artifact (s : Spec) : Rendered Tokens :=
  match s.kind with
  | .dto => r.dto s
  | .mapper => r.mapper s
  | .idAdapter => r.idAdapter s
  | .repository => r.repository s
  | .serviceInterface => r.serviceInterface s
  | .serviceImpl => r.serviceImpl s
  | .controller => r.controller s
  | .predicateFactory => r.predicateFactory s

/-- The text of a file that holds the tokens. Where a part of it cannot be printed, the program
aborts. -/
def fileText (ts : Tokens) : Except (Breakdown RenderFault) String :=
  match Item.listOfTokens? ts with
  | none => .error (.fault .unreadable)
  | some items =>
    match Item.source? items ts.length with
    | some body => .ok (fileHeader ++ body)
    | none => .error .abort

/-- A fault of the artifact that is rendered. -/
def faultOf (s : Spec) (f : RenderFault) : GenerationError := .render s.name f.message

/-- The unformatted tokens of an artifact. -/
def tokens (s : Spec) : Except GenerationError Tokens := (r.artifact s).mapError (faultOf s)

/-- The source text of an artifact. -/
def source (s : Spec) : Except (Breakdown GenerationError) String :=
  ((r.artifact s).mapError .fault >>= fileText).mapError (.map (faultOf s))

end Renderer

end CrudScaffold
