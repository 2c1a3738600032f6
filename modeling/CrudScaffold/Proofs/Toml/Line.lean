import CrudScaffold.Proofs.Toml.Quoted
import CrudScaffold.Toml.Sheet

/-!
# Lines of a document

A document is a text of lines, each of which states a pair, an empty list or the header of an item, if
it is not empty. Such a line is read up to its end, wherever it stands: nothing of it is taken for a
part of the next one. So a text of lines is read as the statements of its lines, one by one.
-/

namespace CrudScaffold.Toml

variable {c d : Char} {key line : String} {path lines : List String} {rest : List Char}
  {fuel depth : Nat} {s : Statement} {ss : List Statement}

/-! ## Blanks -/

private theorem skipBlanks_of_head? (h : ∀ c ∈ rest.head?, isBlankChar c = false) :
    skipBlanks rest = rest := by
  cases rest with
  | nil => rfl
  | cons c rest => exact List.dropWhile_cons_of_neg (by simpa using h)

/-- A character that a line can start with. -/
def startsLine (c : Char) : Bool := isBareKeyChar c || c == '['

/-- A character of a class is none outside of it. -/
theorem ne_of_class {p : Char → Bool} (h : p c = true) (hd : p d = false) : c ≠ d := by
  rintro rfl
  rw [h] at hd
  cases hd

private theorem isBlankChar_of_startsLine (h : startsLine c = true) : isBlankChar c = false := by
  have hspace : c ≠ ' ' := ne_of_class h (by decide)
  have htab : c ≠ '\t' := ne_of_class h (by decide)
  simp [isBlankChar, hspace, htab]

private theorem startsLine_of_isBareKeyChar (h : isBareKeyChar c = true) : startsLine c = true := by
  rw [startsLine, h, Bool.true_or]

/-! ## Keys -/

/-- A key that needs no quotes. -/
def IsBareKey (key : String) : Prop := key ≠ "" ∧ ∀ c ∈ key.toList, isBareKeyChar c = true

instance (key : String) : Decidable (IsBareKey key) :=
  decidable_of_iff (key ≠ "" ∧ key.toList.all isBareKeyChar = true) (by rw [IsBareKey, List.all_eq_true])

/-- A key starts with one of its characters. -/
theorem IsBareKey.exists_cons (h : IsBareKey key) :
    ∃ c cs, key.toList = c :: cs ∧ isBareKeyChar c = true := by
  obtain ⟨hne, hchars⟩ := h
  obtain ⟨c, cs, hkey⟩ := List.exists_cons_of_ne_nil (by simpa using hne : key.toList ≠ [])
  exact ⟨c, cs, hkey, hchars c (hkey ▸ List.mem_cons_self)⟩

private theorem IsBareKey.skipBlanks_append (h : IsBareKey key) :
    skipBlanks (key.toList ++ rest) = key.toList ++ rest := by
  obtain ⟨c, cs, hkey, hc⟩ := h.exists_cons
  have hblank : isBlankChar c = false := isBlankChar_of_startsLine (startsLine_of_isBareKeyChar hc)
  exact skipBlanks_of_head? (by simpa [hkey] using hblank)

/-- A key is read up to the first character that can be no part of it. -/
theorem keyPart_append (h : IsBareKey key) (hrest : ∀ c ∈ rest.head?, isBareKeyChar c = false) :
    keyPart (key.toList ++ rest) = some (key, rest) := by
  obtain ⟨c, cs, hkey, hc⟩ := h.exists_cons
  have hquote : (c == '"' || c == '\'') = false := by
    have hdouble : c ≠ '"' := ne_of_class hc (by decide)
    have hsingle : c ≠ '\'' := ne_of_class hc (by decide)
    simp [hdouble, hsingle]
  have htake : (key.toList ++ rest).takeWhile isBareKeyChar = key.toList := by
    rw [List.takeWhile_append_of_pos h.2]
    cases rest with
    | nil => exact List.append_nil _
    | cons c rest => rw [List.takeWhile_cons_of_neg (by simpa using hrest), List.append_nil]
  rw [hkey, List.cons_append] at htake ⊢
  rw [keyPart, if_neg (by simp [hquote])]
  simp only [htake, List.isEmpty_cons, Bool.false_eq_true, ↓reduceIte]
  rw [← List.cons_append, List.drop_left, ← hkey, String.ofList_toList]

/-- The text of a key behind a path. -/
def dotted : List String → String → List Char
  | [], key => key.toList
  | part :: path, key => part.toList ++ '.' :: dotted path key

/-- A dotted key holds the characters of keys and dots. -/
theorem not_mem_dotted (hpath : ∀ part ∈ path, IsBareKey part) (hkey : IsBareKey key)
    (hc : isBareKeyChar c = false) (hdot : c ≠ '.') : c ∉ dotted path key := by
  have hnone {key : String} (h : IsBareKey key) : c ∉ key.toList := fun hmem =>
    ne_of_class (h.2 c hmem) hc rfl
  induction path with
  | nil => exact hnone hkey
  | cons part path ih =>
    obtain ⟨hpart, hpath⟩ := List.forall_mem_cons.mp hpath
    simp [dotted, hnone hpart, hdot, ih hpath]

/-- The text of a path. -/
def pathText (path : List String) : String := path.foldl subpath ""

/-- A key goes on where a path ends. -/
theorem subpath_pathText (path : List String) (key : String) :
    subpath (pathText path) key = pathText (path ++ [key]) := by
  rw [pathText, pathText, List.foldl_append]
  rfl

private theorem toList_subpath_foldl {text : String} (htext : text ≠ "") (path : List String)
    (key : String) :
    (subpath (path.foldl subpath text) key).toList = text.toList ++ '.' :: dotted path key := by
  have hstep (key : String) : subpath text key = text ++ "." ++ key := by
    rw [subpath, if_neg (by simpa using htext)]
  induction path generalizing text with
  | nil =>
    rw [List.foldl_nil, hstep, String.toList_append, String.toList_append, List.append_assoc]
    rfl
  | cons part path ih =>
    have hne : subpath text part ≠ "" := by
      rw [hstep]
      simp [htext]
    rw [List.foldl_cons, ih hne]
    · rw [hstep, String.toList_append, String.toList_append]
      simp [dotted]
    · intro key
      rw [subpath, if_neg (by simpa using hne)]

/-- The text of a path with a key behind it. -/
theorem toList_pathText (key : String) (h : ∀ part ∈ path, IsBareKey part) :
    (pathText (path ++ [key])).toList = dotted path key := by
  rw [← subpath_pathText, pathText]
  cases path with
  | nil => rfl
  | cons part path => exact toList_subpath_foldl (h part List.mem_cons_self).1 path key

/-- A dotted key is read, with the blanks behind it. -/
theorem keyParts_dotted (hpath : ∀ part ∈ path, IsBareKey part) (hkey : IsBareKey key)
    (hfuel : path.length < fuel) (hrest : ∀ c ∈ rest.head?, isBareKeyChar c = false)
    (hdot : (skipBlanks rest).head? ≠ some '.') :
    keyParts fuel (dotted path key ++ rest) = some ((path, key), skipBlanks rest) := by
  induction path generalizing fuel with
  | nil =>
    obtain ⟨fuel, rfl⟩ := Nat.exists_eq_add_one.mpr hfuel
    rw [dotted, keyParts, hkey.skipBlanks_append, keyPart_append hkey hrest]
    simp only [Option.bind_eq_bind, Option.bind_some]
    split
    · next r hr => exact absurd (by rw [hr]; rfl) hdot
    · rfl
  | cons part path ih =>
    obtain ⟨fuel, rfl⟩ := Nat.exists_eq_add_one.mpr (Nat.zero_lt_of_lt hfuel)
    obtain ⟨hpart, hpath⟩ := List.forall_mem_cons.mp hpath
    have hdotted : ∀ c ∈ ('.' :: (dotted path key ++ rest)).head?, isBareKeyChar c = false := by
      simp only [List.head?_cons, Option.mem_some_iff, forall_eq']
      decide
    rw [dotted, List.append_assoc, List.cons_append, keyParts, hpart.skipBlanks_append,
      keyPart_append hpart hdotted]
    simp only [Option.bind_eq_bind, Option.bind_some]
    rw [skipBlanks_of_head? (by simp; decide)]
    simp only [ih hpath (Nat.lt_of_succ_lt_succ hfuel), Option.bind_some]

/-! ## Statements -/

/-- A key with a value behind it is read as a pair. -/
theorem statement_pair {written : List Char} {v : Value} (hkey : IsBareKey key)
    (hwritten : ∀ c ∈ written.head?, isBlankChar c = false)
    (hvalue : ∀ fuel, value (fuel + 2) depthLimit written = some (v, rest)) :
    statement (key.toList ++ ' ' :: '=' :: ' ' :: written) = some (.pair [] key v, rest) := by
  obtain ⟨c, cs, hcs, hc⟩ := hkey.exists_cons
  have hnone (r : List Char) : key.toList ++ ' ' :: '=' :: ' ' :: written ≠ '[' :: r := by
    intro hr
    rw [hcs] at hr
    exact ne_of_class hc (by decide) (List.cons.inj hr).1
  have hbehind : skipBlanks (' ' :: '=' :: ' ' :: written) = '=' :: ' ' :: written := rfl
  have hdotted : dottedKey (dotted [] key ++ ' ' :: '=' :: ' ' :: written) =
      some (([], key), '=' :: ' ' :: written) :=
    keyParts_dotted (by simp) hkey (by decide) (by simp; decide) (by simp [hbehind])
  have hskip : skipBlanks (' ' :: written) = written := skipBlanks_of_head? hwritten
  rw [dotted] at hdotted
  rw [statement.eq_3, hdotted]
  · simp only [Option.bind_eq_bind, Option.bind_some, exactly, ↓reduceIte, hskip, hvalue]
  · exact fun r => hnone _
  · exact fun r => hnone _

/-- A path between brackets is read as the header of an item. -/
theorem statement_itemHeader (hpath : ∀ part ∈ path, IsBareKey part) (hkey : IsBareKey key)
    (hlength : path.length < keyPartLimit) :
    statement ('[' :: '[' :: (dotted path key ++ ']' :: ']' :: rest)) =
      some (.itemHeader path key, rest) := by
  have hskip : skipBlanks (']' :: ']' :: rest) = ']' :: ']' :: rest := rfl
  have hdotted : dottedKey (dotted path key ++ ']' :: ']' :: rest) =
      some ((path, key), ']' :: ']' :: rest) :=
    keyParts_dotted hpath hkey hlength (by simp; decide) (by simp [hskip])
  rw [statement, hdotted]
  simp only [Option.bind_eq_bind, Option.bind_some, exactly, ↓reduceIte]

/-- What is written for a text starts with a quote. -/
theorem exists_writeText_cons (text : String) :
    ∃ cs, (writeText text).toList = '"' :: cs ∨ (writeText text).toList = '\'' :: cs := by
  rw [writeText, String.toList_ofList]
  cases TextForm.of text.toList with
  | basic | basicLines => exact ⟨_, .inl rfl⟩
  | literal | literalLines => exact ⟨_, .inr rfl⟩

private theorem value_writeText (fuel depth : Nat) (text : String) (rest : List Char) :
    value (fuel + 1) depth ((writeText text).toList ++ '\n' :: rest) =
      some (.string text, '\n' :: rest) := by
  have hquoted : quoted ((writeText text).toList ++ '\n' :: rest) = some (text, '\n' :: rest) :=
    quoted_writeText text (by simp) (by simp)
  obtain ⟨cs, hcs | hcs⟩ := exists_writeText_cons text
  all_goals
    rw [hcs, List.cons_append] at hquoted ⊢
    rw [value, hquoted]
    rfl

private theorem value_empty (fuel depth : Nat) (rest : List Char) :
    value (fuel + 2) (depth + 1) ('[' :: ']' :: rest) = some (.array [], rest) := by
  have hlines (n : Nat) : skipLines n (']' :: rest) = ']' :: rest := by
    cases n <;> rfl
  simp [value, items, hlines]

/-! ## Lines -/

/-- The line is read as this statement, up to its end and not beyond it. -/
structure States (line : String) (s : Statement) : Prop where
  read : ∀ rest, statement (line.toList ++ '\n' :: rest) = some (s, '\n' :: rest)
  starts : ∃ c cs, line.toList = c :: cs ∧ startsLine c = true
  noReturn : '\r' ∉ line.toList

/-- A line that starts with a key states the value behind it. -/
theorem states_pair {written : String} {v : Value} (hkey : IsBareKey key)
    (hwritten : ∃ c cs, written.toList = c :: cs ∧ isBlankChar c = false)
    (hreturn : '\r' ∉ written.toList)
    (hvalue : ∀ fuel rest, value (fuel + 2) depthLimit (written.toList ++ '\n' :: rest) =
      some (v, '\n' :: rest)) :
    States (key ++ " = " ++ written) (.pair [] key v) := by
  obtain ⟨c, cs, hcs, hc⟩ := hkey.exists_cons
  obtain ⟨d, ds, hds, hd⟩ := hwritten
  have hline : (key ++ " = " ++ written).toList = key.toList ++ ' ' :: '=' :: ' ' :: written.toList := by
    rw [String.toList_append, String.toList_append, List.append_assoc]
    rfl
  refine ⟨fun rest => ?_, ?_, ?_⟩
  · rw [hline, List.append_assoc, List.cons_append, List.cons_append, List.cons_append]
    exact statement_pair hkey (by simpa [hds] using hd) fun fuel => hvalue fuel rest
  · exact ⟨c, _, by rw [hline, hcs, List.cons_append], startsLine_of_isBareKeyChar hc⟩
  · have hnone : '\r' ∉ key.toList := fun h => absurd (hkey.2 _ h) (by decide)
    simp [hline, hnone, hreturn]

/-- A text is stated by its line. -/
theorem states_text (hkey : IsBareKey key) (text : String) :
    States (key ++ " = " ++ writeText text) (.pair [] key (.string text)) := by
  refine states_pair hkey ?_ (not_mem_writeText text) fun fuel => value_writeText (fuel + 1) _ text
  obtain ⟨cs, hcs | hcs⟩ := exists_writeText_cons text
  · exact ⟨_, cs, hcs, rfl⟩
  · exact ⟨_, cs, hcs, rfl⟩

/-- A list that holds nothing is stated by its line. -/
theorem states_empty (hkey : IsBareKey key) : States (key ++ " = []") (.pair [] key (.array [])) := by
  have hline : key ++ " = []" = key ++ " = " ++ "[]" := by
    rw [String.append_assoc]
    rfl
  rw [hline]
  exact states_pair hkey ⟨'[', [']'], rfl, rfl⟩ (by decide) fun fuel rest => value_empty fuel _ _

/-- A line that spells a path between brackets states that an item starts there. -/
theorem states_itemHeader (hpath : ∀ part ∈ path, IsBareKey part) (hkey : IsBareKey key)
    (hlength : path.length < keyPartLimit) :
    States ("[[" ++ pathText (path ++ [key]) ++ "]]") (.itemHeader path key) := by
  have hline : ("[[" ++ pathText (path ++ [key]) ++ "]]").toList =
      '[' :: '[' :: (dotted path key ++ [']', ']']) := by
    rw [String.toList_append, String.toList_append, toList_pathText key hpath]
    rfl
  refine ⟨fun rest => ?_, ⟨'[', _, hline, rfl⟩, ?_⟩
  · rw [hline]
    simpa using statement_itemHeader hpath hkey hlength
  · have hnone : '\r' ∉ dotted path key := not_mem_dotted hpath hkey (by decide) (by decide)
    simp [hline, hnone]

/-! ## Documents -/

/-- The text of some lines. -/
def linesText (lines : List String) : String := String.join (lines.map (· ++ "\n"))

private theorem toList_linesText_cons (line : String) (lines : List String) :
    (linesText (line :: lines)).toList = line.toList ++ '\n' :: (linesText lines).toList := by
  rw [linesText, List.map_cons, String.join_cons, String.toList_append, String.toList_append,
    List.append_assoc]
  rfl

/-- The lines are read as these statements, one by one; empty lines state nothing. -/
inductive StateAll : List String → List Statement → Prop where
  | nil : StateAll [] []
  | blank {lines : List String} {ss : List Statement} (h : StateAll lines ss) :
      StateAll ("" :: lines) ss
  | line {line : String} {s : Statement} {lines : List String} {ss : List Statement}
      (hline : States line s) (h : StateAll lines ss) : StateAll (line :: lines) (s :: ss)

/-- Lines state one after the other. -/
theorem StateAll.append {lines' : List String} {ss' : List Statement} (h : StateAll lines ss)
    (h' : StateAll lines' ss') : StateAll (lines ++ lines') (ss ++ ss') := by
  induction h with
  | nil => exact h'
  | blank _ ih => exact .blank ih
  | line hline _ ih => exact .line hline ih

private theorem statements_blank (fuel : Nat) (rest : List Char) :
    statements (fuel + 1) ('\n' :: rest) = statements fuel rest := by
  have hskip : skipBlanks ('\n' :: rest) = '\n' :: rest := rfl
  rw [statements, hskip]
  rfl

private theorem statements_line (h : States line s) (fuel : Nat) (rest : List Char) :
    statements (fuel + 1) (line.toList ++ '\n' :: rest) = (statements fuel rest).map (s :: ·) := by
  have hread := h.read rest
  obtain ⟨c, cs, hcs, hc⟩ := h.starts
  have hline : c ≠ '\n' := ne_of_class hc (by decide)
  have hcomment : c ≠ '#' := ne_of_class hc (by decide)
  rw [hcs, List.cons_append] at hread ⊢
  have hblank : skipBlanks (c :: (cs ++ '\n' :: rest)) = c :: (cs ++ '\n' :: rest) :=
    skipBlanks_of_head? (by simpa using isBlankChar_of_startsLine hc)
  have hskip : skipComment (c :: (cs ++ '\n' :: rest)) = c :: (cs ++ '\n' :: rest) :=
    skipComment.eq_2 _ fun r hr => hcomment (List.cons.inj hr).1
  rw [statements, hblank, hskip]
  split
  · next hnil => cases hnil
  · next r hr => exact absurd (List.cons.inj hr).1 hline
  · rw [List.head?_cons, if_neg (by simpa using hcomment), hread]
    exact (Option.map_eq_bind ..).symm

/-- A text of lines is read as their statements. -/
theorem statements_linesText (h : StateAll lines ss) (hfuel : lines.length < fuel) :
    statements fuel (linesText lines).toList = some ss := by
  induction h generalizing fuel with
  | nil =>
    obtain ⟨fuel, rfl⟩ := Nat.exists_eq_add_one.mpr hfuel
    rfl
  | blank _ ih =>
    obtain ⟨fuel, rfl⟩ := Nat.exists_eq_add_one.mpr (Nat.zero_lt_of_lt hfuel)
    rw [toList_linesText_cons]
    exact (statements_blank fuel _).trans (ih (Nat.lt_of_succ_lt_succ hfuel))
  | line hline _ ih =>
    obtain ⟨fuel, rfl⟩ := Nat.exists_eq_add_one.mpr (Nat.zero_lt_of_lt hfuel)
    rw [toList_linesText_cons, statements_line hline, ih (Nat.lt_of_succ_lt_succ hfuel)]
    rfl

private theorem length_le_length_linesText (lines : List String) :
    lines.length ≤ (linesText lines).toList.length := by
  induction lines with
  | nil => exact Nat.zero_le _
  | cons line lines ih =>
    rw [toList_linesText_cons, List.length_append, List.length_cons, List.length_cons]
    omega

/-- Without carriage returns the line ends are those of the text. -/
theorem unifyLineEnds_of_not_mem {cs : List Char} (h : '\r' ∉ cs) : unifyLineEnds cs = cs := by
  induction cs with
  | nil => rfl
  | cons c cs ih =>
    rw [List.mem_cons, not_or] at h
    rw [unifyLineEnds.eq_2, ih h.2]
    exact fun r hc => absurd hc.symm h.1

private theorem StateAll.not_mem (h : StateAll lines ss) : '\r' ∉ (linesText lines).toList := by
  induction h with
  | nil => exact List.not_mem_nil
  | blank _ ih => simpa [toList_linesText_cons] using ih
  | line hline _ ih => simp [toList_linesText_cons, ih, hline.noReturn]

/-- A text of lines starts with none of the marks that do not count. -/
theorem StateAll.head?_ne (h : StateAll lines ss) : (linesText lines).toList.head? ≠ some '\uFEFF' := by
  cases h with
  | nil => nofun
  | blank => simp [toList_linesText_cons]
  | line hline =>
    obtain ⟨c, cs, hcs, hc⟩ := hline.starts
    rw [toList_linesText_cons, hcs]
    simpa using ne_of_class hc (by decide)

/-- A text of lines is the document of their statements. -/
theorem parse_linesText (h : StateAll lines ss) : parse (linesText lines) = documentOf ss := by
  have hfuel : lines.length < (linesText lines).toList.length + 1 :=
    Nat.lt_succ_of_le (length_le_length_linesText lines)
  simp only [parse]
  split
  · next r hr => exact absurd (by rw [hr]; rfl) h.head?_ne
  · rw [unifyLineEnds_of_not_mem h.not_mem, statements_linesText h hfuel]
    rfl

end CrudScaffold.Toml
