import CrudScaffold.Code.Reading

/-!
# Paths below the crate

A text that starts with `crate::` is cut into the word for the crate, a separator, and the tokens of what
follows. So a path that such a text spells starts with the crate, and goes on.
-/

namespace CrudScaffold.Code

open Text Token

namespace Lexer

private theorem plainName_crate (cs : List Char) :
    plainName ('c' :: 'r' :: 'a' :: 't' :: 'e' :: ':' :: cs) = some ("crate".toList, ':' :: cs) := by
  have hstart : isIdentifierStart 'c' = true := by decide +kernel
  have hrest : ('r' :: 'a' :: 't' :: 'e' :: ':' :: cs).dropWhile isIdentifierContinue =
      ':' :: cs := rfl
  have hlength : ('r' :: 'a' :: 't' :: 'e' :: ':' :: cs).length - (':' :: cs).length = 4 := by
    simp only [List.length_cons]
    omega
  simp only [plainName, hstart, if_true, hrest, hlength]
  rfl

private theorem name_crate (cs : List Char) :
    name ('c' :: 'r' :: 'a' :: 't' :: 'e' :: ':' :: cs) = some ("crate", ':' :: cs) := by
  have hliteral : (literalStarts.any fun start =>
      startsWith start ('c' :: 'r' :: 'a' :: 't' :: 'e' :: ':' :: cs)) = false := rfl
  have hany : anyName ('c' :: 'r' :: 'a' :: 't' :: 'e' :: ':' :: cs) =
      (plainName ('c' :: 'r' :: 'a' :: 't' :: 'e' :: ':' :: cs)).map
        fun read => (.ofList read.1, read.2) := rfl
  rw [name, hliteral, if_neg Bool.false_ne_true, hany, plainName_crate]
  rfl

private theorem leaf_crate (cs : List Char) :
    leaf ('c' :: 'r' :: 'a' :: 't' :: 'e' :: ':' :: cs) = some (.ident "crate", ':' :: cs) := by
  have hliteral : literal ('c' :: 'r' :: 'a' :: 't' :: 'e' :: ':' :: cs) = none := rfl
  have hoperator : operatorChar ('c' :: 'r' :: 'a' :: 't' :: 'e' :: ':' :: cs) = none := rfl
  simp only [leaf, hliteral, hoperator, name_crate, Option.map_some]

/-- The tokens of a text that starts with the crate. -/
theorem scan_crate (fuel : Nat) (cs : List Char) :
    scan (fuel + 3) [] ('c' :: 'r' :: 'a' :: 't' :: 'e' :: ':' :: ':' :: cs) =
      (scan fuel [] cs).map fun ts =>
        .ident "crate" :: .punct ':' true :: .punct ':' (operatorChar cs).isSome :: ts := by
  have hcrate : scan (fuel + 3) [] ('c' :: 'r' :: 'a' :: 't' :: 'e' :: ':' :: ':' :: cs) =
      (leaf ('c' :: 'r' :: 'a' :: 't' :: 'e' :: ':' :: ':' :: cs)).bind
        fun read => (scan (fuel + 2) [] read.2).map (read.1 :: ·) := rfl
  have hfirst : scan (fuel + 2) [] (':' :: ':' :: cs) =
      (scan (fuel + 1) [] (':' :: cs)).map (.punct ':' true :: ·) := rfl
  have hsecond : scan (fuel + 1) [] (':' :: cs) =
      (scan fuel [] cs).map (.punct ':' (operatorChar cs).isSome :: ·) := rfl
  rw [hcrate, leaf_crate, Option.bind_some]
  dsimp only
  rw [hfirst, hsecond, Option.map_map, Option.map_map]
  rfl

end Lexer

/-- The tokens of a text below the crate start with the crate and a separator. -/
theorem Tokens.exists_of_ofText?_crate {s : String} {tokens : Tokens}
    (h : ofText? ("crate::" ++ s) = some tokens) :
    ∃ joint ts, tokens = .ident "crate" :: .punct ':' true :: .punct ':' joint :: ts := by
  have hchars : ("crate::" ++ s).toList =
      'c' :: 'r' :: 'a' :: 't' :: 'e' :: ':' :: ':' :: s.toList := by
    rw [String.toList_append]
    rfl
  have hlength : ("crate::" ++ s).length + 1 = s.length + 5 + 3 := by
    rw [String.length_append, show "crate::".length = 7 from rfl]
    omega
  have htokens : ofText? ("crate::" ++ s) = Lexer.scan (s.length + 5 + 3) []
      ('c' :: 'r' :: 'a' :: 't' :: 'e' :: ':' :: ':' :: s.toList) := by
    unfold ofText?
    rw [hchars, hlength]
    rfl
  rw [htokens, Lexer.scan_crate] at h
  obtain ⟨ts, -, rfl⟩ := Option.map_eq_some_iff.mp h
  exact ⟨_, ts, rfl⟩

namespace Grammar

open Reads

variable {g : Grammar} {ts : Tokens}

/-- Where a separator is left, more segments are read to the end only if there are some. -/
theorem exists_of_moreSegments {joint : Bool} {fuel : Nat} {segments : List Segment}
    (h : g.moreSegments false fuel (.punct ':' true :: .punct ':' joint :: ts) =
      some (segments, [])) :
    ∃ s rest, segments = s :: rest := by
  cases fuel with
  | zero => cases h
  | succ fuel =>
    have hstep : g.moreSegments false (fuel + 1) (.punct ':' true :: .punct ':' joint :: ts) =
        (if !startsOpening .paren ts then _ else pure [] : Reads (List Segment))
          (.punct ':' true :: .punct ':' joint :: ts) := rfl
    rw [hstep] at h
    -- In front of round brackets the separator is left, which is no end.
    cases hcall : startsOpening .paren ts with
    | true =>
      rw [hcall] at h
      cases h
    | false =>
      rw [hcall] at h
      obtain ⟨⟨-, _⟩, -, h⟩ := Option.bind_eq_some_iff.mp h
      obtain ⟨⟨s, _⟩, -, h⟩ := Option.bind_eq_some_iff.mp h
      obtain ⟨⟨rest, _⟩, -, h⟩ := Option.bind_eq_some_iff.mp h
      cases h
      exact ⟨s, rest, rfl⟩

/-- A path that starts with the crate goes on with the segments behind it. -/
theorem plainPath_crate (g : Grammar) (ts : Tokens) :
    g.plainPath false (.ident "crate" :: ts) = (g.moreSegments false (ts.length + 1) ts).map
      fun (segments, rest) => (.plain false (.mk "crate" .none :: segments), rest) := by
  have hpath : g.plainPath false (.ident "crate" :: ts) =
      (g.moreSegments false (ts.length + 1) ts).bind
        fun (segments, rest) => some (.plain false (.mk "crate" .none :: segments), rest) := rfl
  rw [hpath]
  cases g.moreSegments false (ts.length + 1) ts <;> rfl

end Grammar

/-- A path that a text below the crate spells is below the crate. -/
theorem Path.exists_tokens_of_ofText?_crate {s : String} {path : Path}
    (h : ofText? ("crate::" ++ s) = some path) :
    ∃ rest, path.tokens = word "crate" ++ op "::" ++ rest := by
  obtain ⟨tokens, htokens, hpath⟩ := Option.bind_eq_some_iff.mp h
  obtain ⟨joint, ts, rfl⟩ := Tokens.exists_of_ofText?_crate htokens
  unfold ofTokens? Reads.whole? at hpath
  rw [Grammar.plainPath_crate] at hpath
  split at hpath
  · next path' hread =>
    cases hpath
    obtain ⟨⟨segments, _⟩, hsegments, hread⟩ := Option.map_eq_some_iff.mp hread
    cases hread
    obtain ⟨s, rest, rfl⟩ := Grammar.exists_of_moreSegments hsegments
    exact ⟨segmentsTokens (segmentTokens (s :: rest)), rfl⟩
  · cases hpath

end CrudScaffold.Code
