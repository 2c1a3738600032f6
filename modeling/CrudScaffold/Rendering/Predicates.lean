import CrudScaffold.Rendering.Basic

/-!
# Rendered predicate factories
-/

namespace CrudScaffold.Renderer

open Code Code.Token

variable (r : Renderer)

/-- Patterns with a bar between each two. -/
def orPatterns : List Tokens → Tokens
  | [] => []
  | [p] => p
  | p :: rest => p ++ op "|" ++ orPatterns rest

/-- The constructor of the predicates of one attribute: nothing comes of operators that the category
does not accept. -/
def predicateFunction (o : Operation) : Rendered Tokens :=
  match o.body with
  | .predicate path operand => do
    let signature ← r.signature false o
    let accepted := operand.operators.map fun p => r.inRuntime ["predicate", "Operator", p.name]
    let build := Phrase.call (word "Some")
      [Phrase.call (r.inRuntime ["predicate", "Predicate", "new"])
        [Phrase.text path, word "operator", word "values"]]
    let fallback :=
      if operand.operators.length < Operator.all.length then
        word "_" ++ op "=>" ++ word "None" ++ op ","
      else []
    let body := word "match" ++ word "operator" ++
      Phrase.braced (orPatterns accepted ++ op "=>" ++ Phrase.braced build ++ fallback)
    return Phrase.docLine s!" Predicate on `{path}` ({operand.name} operand)." ++
      publicFunction signature body
  | _ => .error (.notAPredicate o.name)

/-- A predicate factory. -/
def predicateFactory (s : Spec) : Rendered Tokens := do
  let name ← name s.name.name
  let functions ← s.operations.mapM r.predicateFunction
  return doc s.doc ++ unitStruct name ++ unitImpl name functions

end CrudScaffold.Renderer
