import CrudScaffold.Toml.Quoted
import CrudScaffold.Toml.Reader

/-!
# Written texts are read again

Whatever form a text is written in, it is read as the same text from there. Between double quotes every
text can be held, since what cannot stand as it is has an escape; single quotes hold the texts for which
they are chosen. A text of several lines may end with quotes of its own, which the reader tells from the
closing ones by their number.
-/

namespace CrudScaffold.Toml

variable {c quote : Char} {cs acc word rest : List Char} {lines : Bool} {fuel run : Nat}

/-! ## Characters -/

private theorem hexValue_hexDigit : ∀ n < 16, hexValue (hexDigit n) = some n := by decide +kernel

private theorem isCommentChar_hexDigit : ∀ n < 16, isCommentChar (hexDigit n) = true := by decide +kernel

/-- A code of two hexadecimal digits is read as the character that has it. -/
theorem escape_codeEscape (h : c.toNat < 0x80) (rest : List Char) :
    escape ((codeEscape c.toNat).tail ++ rest) = some (c, rest) := by
  have hdigits : ∀ n < 0x80, n / 4096 % 16 = 0 ∧ n / 256 % 16 = 0 ∧
      (n / 16 % 16) * 16 + n % 16 = n := by
    omega
  obtain ⟨hfirst, hsecond, hrest⟩ := hdigits c.toNat h
  have hchar : charOf? c.toNat = some c := by
    rw [charOf?, if_pos (.inl (by omega)), Char.ofNat_toNat]
  simp only [codeEscape, List.tail_cons, List.cons_append, List.nil_append, escape, hexDigits, hfirst,
    hsecond, hexValue_hexDigit _ (Nat.mod_lt _ (by decide : 0 < 16)),
    hexValue_hexDigit 0 (by decide)]
  simp [hrest, hchar]

/-- A character that is no control character may stand in a comment, or ends a line. -/
theorem isCommentChar_of_isControl_eq_false (h : isControl c = false) (hline : c ≠ '\n') :
    isCommentChar c = true := by
  simp only [isControl, isCommentChar] at h ⊢
  grind

/-! ## Between double quotes -/

/-- How a character is spelled between double quotes: it stands as it is, or has an escape. -/
inductive Spells (lines : Bool) (c : Char) : List Char → Prop where
  | plain (hquote : c ≠ '"') (hslash : c ≠ '\\')
      (hplain : isCommentChar c = true ∨ lines = true ∧ c = '\n') : Spells lines c [c]
  | escape {d : Char} {e : List Char} (hblank : isBlankChar d = false)
      (hplain : (d :: e).all isCommentChar = true)
      (hescape : ∀ rest, escape (d :: e ++ rest) = some (c, rest)) : Spells lines c ('\\' :: d :: e)

private theorem spells_escaped (lines : Bool) (hquote : c ≠ '"') : Spells lines c (escaped lines c) := by
  unfold escaped
  split
  · next h =>
    subst h
    exact .escape rfl (by decide) fun _ => rfl
  split
  · next h =>
    subst h
    exact .escape rfl (by decide) fun _ => rfl
  split
  · next h =>
    subst h
    cases lines with
    | true => exact .plain (by decide) (by decide) (.inr ⟨rfl, rfl⟩)
    | false => exact .escape rfl (by decide) fun _ => rfl
  split
  · next h =>
    subst h
    exact .escape rfl (by decide) fun _ => rfl
  split
  · next h =>
    subst h
    exact .escape rfl (by decide) fun _ => rfl
  split
  · next h =>
    subst h
    exact .escape rfl (by decide) fun _ => rfl
  · next hline _ _ hslash =>
    split
    · next hcontrol =>
      have hcode : c.toNat < 0x80 := by
        simp only [isControl] at hcontrol
        grind
      refine .escape (d := 'u') rfl ?_ (escape_codeEscape hcode)
      simp [isCommentChar_hexDigit _ (Nat.mod_lt _ (by decide : 0 < 16))]
      decide
    · next hcontrol =>
      refine .plain hquote hslash (.inl (isCommentChar_of_isControl_eq_false ?_ hline))
      simpa using hcontrol

/-- Behind as many quotes as may stand together, every character is spelled somehow. -/
theorem exists_spells_escapeFrom (lines : Bool) (run : Nat) (c : Char) (cs : List Char)
    (h : c = '"' → (if lines then 2 else 0) ≤ run) :
    ∃ word, Spells lines c word ∧ escapeFrom lines run (c :: cs) = word ++ escapeFrom lines 0 cs := by
  by_cases hquote : c = '"'
  · have hrun : ¬ run < if lines then 2 else 0 := Nat.not_lt.mpr (h hquote)
    subst hquote
    refine ⟨['\\', '"'], .escape rfl (by decide) fun _ => rfl, ?_⟩
    rw [escapeFrom, if_pos rfl, if_neg hrun]
    rfl
  · exact ⟨_, spells_escaped lines hquote, by rw [escapeFrom, if_neg hquote]⟩

/-- What spells a character does not start with a quote. -/
theorem Spells.head?_ne (h : Spells lines c word) : (word ++ rest).head? ≠ some '"' := by
  cases h with
  | plain hquote => simpa using hquote
  | escape => nofun

/-- What spells a character takes at least the room of it. -/
theorem Spells.length_pos (h : Spells lines c word) : 0 < word.length := by
  cases h <;> exact Nat.succ_pos _

/-- What spells a character can stand in a comment, unless it is the end of a line. -/
theorem Spells.of_mem (h : Spells lines c word) {d : Char} (hd : d ∈ word) :
    isCommentChar d = true ∨ d = '\n' ∧ d = c := by
  cases h with
  | plain _ _ hplain =>
    obtain rfl := List.mem_singleton.mp hd
    exact hplain.imp id fun hline => ⟨hline.2, rfl⟩
  | escape _ hplain =>
    rcases List.mem_cons.mp hd with rfl | hd
    · exact .inl rfl
    · exact .inl (List.all_eq_true.mp hplain d hd)

/-- A text between double quotes starts with a quote of its own, or with what spells its first
character. -/
theorem escapeFrom_cons_cases (lines : Bool) (run : Nat) (c : Char) (cs : List Char) :
    c = '"' ∧ escapeFrom lines run (c :: cs) = '"' :: escapeFrom lines (run + 1) cs ∨
      ∃ word, Spells lines c word ∧
        escapeFrom lines run (c :: cs) = word ++ escapeFrom lines 0 cs := by
  by_cases h : c = '"' ∧ run < if lines then 2 else 0
  · exact .inl ⟨h.1, by rw [escapeFrom, if_pos h.1, if_pos h.2]⟩
  · exact .inr (exists_spells_escapeFrom lines run c cs
      fun hc => Nat.not_lt.mp fun hrun => h ⟨hc, hrun⟩)

/-- No character takes less room between double quotes. -/
theorem length_le_length_escapeFrom (lines : Bool) (run : Nat) (cs : List Char) :
    cs.length ≤ (escapeFrom lines run cs).length := by
  induction cs generalizing run with
  | nil => exact Nat.zero_le _
  | cons c cs ih =>
    rcases escapeFrom_cons_cases lines run c cs with ⟨-, hquote⟩ | ⟨word, hspells, hword⟩
    · rw [hquote]
      exact Nat.succ_le_succ (ih (run + 1))
    · rw [hword, List.length_append, List.length_cons]
      have hlength := hspells.length_pos
      have hrest := ih 0
      omega

/-- Between double quotes there are characters of comments, and the line ends of the text. -/
theorem of_mem_escapeFrom {d : Char} (h : d ∈ escapeFrom lines run cs) :
    isCommentChar d = true ∨ d = '\n' ∧ d ∈ cs := by
  induction cs generalizing run with
  | nil => cases h
  | cons c cs ih =>
    rcases escapeFrom_cons_cases lines run c cs with ⟨-, hquote⟩ | ⟨word, hspells, hword⟩
    · rw [hquote] at h
      rcases List.mem_cons.mp h with rfl | h
      · exact .inl rfl
      · exact (ih h).imp id fun hline => ⟨hline.1, List.mem_cons_of_mem c hline.2⟩
    · rw [hword] at h
      rcases List.mem_append.mp h with h | h
      · rcases hspells.of_mem h with h | ⟨hline, rfl⟩
        · exact .inl h
        · exact .inr ⟨hline, List.mem_cons_self⟩
      · exact (ih h).imp id fun hline => ⟨hline.1, List.mem_cons_of_mem c hline.2⟩

/-! ### On one line -/

private theorem basicBody_of_spells (h : Spells false c word) :
    basicBody (fuel + 1) acc (word ++ rest) = basicBody fuel (c :: acc) rest := by
  cases h with
  | plain hquote hslash hplain =>
    have hcomment : isCommentChar c = true := by simpa using hplain
    rw [List.singleton_append, basicBody, if_pos hcomment]
    · exact hquote
    · exact hslash
  | escape _ _ hescape =>
    rw [List.cons_append, basicBody, hescape]
    rfl

/-- What is written on one line is read up to the closing quote. -/
theorem basicBody_escapeFrom (h : cs.length < fuel) :
    basicBody fuel acc (escapeFrom false 0 cs ++ '"' :: rest) = some (acc.reverse ++ cs, rest) := by
  induction cs generalizing fuel acc with
  | nil =>
    obtain ⟨fuel, rfl⟩ := Nat.exists_eq_add_one.mpr h
    rw [escapeFrom, List.nil_append, basicBody, List.append_nil]
  | cons c cs ih =>
    obtain ⟨fuel, rfl⟩ := Nat.exists_eq_add_one.mpr (Nat.zero_lt_of_lt h)
    obtain ⟨word, hspells, hword⟩ := exists_spells_escapeFrom false 0 c cs fun _ => Nat.le_refl 0
    rw [hword, List.append_assoc, basicBody_of_spells hspells, ih (by simpa using h)]
    simp

/-! ### On several lines -/

private theorem replicate_append_cons (n : Nat) (c : Char) (cs : List Char) :
    List.replicate n c ++ c :: cs = List.replicate (n + 1) c ++ cs := by
  rw [List.replicate_succ', List.append_assoc, List.singleton_append]

/-- A reader of the inside of a text over several lines, for which quotes belong to the text unless three
of them follow each other. -/
structure ReadsQuotes (read : Nat → List Char → Reader (List Char)) (quote : Char) : Prop where
  closing : ∀ fuel acc cs, read (fuel + 1) acc (quote :: quote :: quote :: cs) =
    closingQuotes quote acc (quote :: quote :: quote :: cs)
  passing : ∀ fuel acc cs, (∀ r, cs ≠ quote :: quote :: r) →
    read (fuel + 1) acc (quote :: cs) = read fuel (quote :: acc) cs

private theorem readsQuotes_basicBlock : ReadsQuotes basicBlock '"' where
  closing fuel acc cs := by rw [basicBlock]
  passing fuel acc cs h := by
    rw [basicBlock, if_pos (by decide)]
    · exact fun r _ => h r
    · nofun

private theorem readsQuotes_literalBlock : ReadsQuotes literalBlock '\'' where
  closing fuel acc cs := by rw [literalBlock]
  passing fuel acc cs h := by
    rw [literalBlock, if_pos (by decide)]
    exact fun r _ => h r

namespace ReadsQuotes

variable {read : Nat → List Char → Reader (List Char)}

/-- Up to two quotes in front of the closing ones belong to the text. -/
theorem read_closing (h : ReadsQuotes read quote) (hrun : run ≤ 2) (hrest : rest.head? ≠ some quote) :
    read (fuel + 1) acc (List.replicate run quote ++ quote :: quote :: quote :: rest) =
      some (acc.reverse ++ List.replicate run quote, rest) := by
  have hquotes : List.replicate run quote ++ quote :: quote :: quote :: rest =
      quote :: quote :: quote :: (List.replicate run quote ++ rest) := by
    obtain rfl | rfl | rfl : run = 0 ∨ run = 1 ∨ run = 2 := by omega
    all_goals rfl
  have hnone : rest.takeWhile (· == quote) = [] := by
    cases rest with
    | nil => rfl
    | cons c rest => exact List.takeWhile_cons_of_neg (by simpa using hrest)
  have hrow : (quote :: quote :: quote :: (List.replicate run quote ++ rest)).takeWhile (· == quote) =
      List.replicate (run + 3) quote := by
    simp [List.takeWhile_append_of_pos, hnone, List.replicate_succ]
  rw [hquotes, h.closing, closingQuotes, hrow, List.length_replicate, if_pos (by omega)]
  simp

/-- Up to two quotes in front of anything else belong to the text. -/
theorem read_passing (h : ReadsQuotes read quote) (hrun : run ≤ 2) (hcs : cs.head? ≠ some quote) :
    read (fuel + run) acc (List.replicate run quote ++ cs) =
      read fuel (List.replicate run quote ++ acc) cs := by
  have hlast : ∀ fuel acc, read (fuel + 1) acc (quote :: cs) = read fuel (quote :: acc) cs :=
    fun fuel acc => h.passing fuel acc cs fun r hr => hcs (hr ▸ rfl)
  obtain rfl | rfl | rfl : run = 0 ∨ run = 1 ∨ run = 2 := by omega
  · rfl
  · exact hlast fuel acc
  · have hfirst : read (fuel + 2) acc (quote :: quote :: cs) =
        read (fuel + 1) (quote :: acc) (quote :: cs) :=
      h.passing (fuel + 1) acc (quote :: cs) fun r hr => hcs ((List.cons.inj hr).2 ▸ rfl)
    exact hfirst.trans (hlast fuel (quote :: acc))

end ReadsQuotes

private theorem basicBlock_of_spells (h : Spells true c word) :
    basicBlock (fuel + 1) acc (word ++ rest) = basicBlock fuel (c :: acc) rest := by
  cases h with
  | plain hquote hslash hplain =>
    have hchar : (isCommentChar c || c == '\n') = true := by simpa using hplain
    rw [List.singleton_append, basicBlock, if_pos hchar]
    · exact fun r h => absurd h hquote
    · exact hslash
  | @escape d e hblank hplain hescape =>
    have hline : d ≠ '\n' := by
      rintro rfl
      exact absurd (List.all_eq_true.mp hplain _ List.mem_cons_self) (by decide)
    have hskip : skipBlanks (d :: e ++ rest) = d :: e ++ rest :=
      List.dropWhile_cons_of_neg (by simpa using hblank)
    rw [List.cons_append, basicBlock, hskip]
    simp only [List.cons_append]
    split
    · next hr => exact absurd (List.cons.inj hr).1 hline
    · have := hescape rest
      rw [List.cons_append] at this
      rw [this]
      rfl

/-- What is written on several lines between double quotes is read up to the closing quotes. The first
quotes of the text are given in advance, because up to two of them are told from closing ones only by
what follows. -/
theorem basicBlock_escapeFrom (hrun : run ≤ 2) (h : run + cs.length < fuel)
    (hrest : rest.head? ≠ some '"') :
    basicBlock fuel acc
        (List.replicate run '"' ++ (escapeFrom true run cs ++ '"' :: '"' :: '"' :: rest)) =
      some (acc.reverse ++ List.replicate run '"' ++ cs, rest) := by
  induction cs generalizing run acc fuel with
  | nil =>
    obtain ⟨fuel, rfl⟩ := Nat.exists_eq_add_one.mpr (Nat.zero_lt_of_lt h)
    rw [escapeFrom, List.nil_append, readsQuotes_basicBlock.read_closing hrun hrest, List.append_nil]
  | cons c cs ih =>
    rw [List.length_cons] at h
    by_cases hquote : c = '"' ∧ run < 2
    · obtain ⟨rfl, htwo⟩ := hquote
      rw [show escapeFrom true run ('"' :: cs) = '"' :: escapeFrom true (run + 1) cs by
        simp [escapeFrom, htwo], List.cons_append, replicate_append_cons, ih (by omega) (by omega),
        List.append_assoc, ← replicate_append_cons, ← List.append_assoc]
    · obtain ⟨word, hspells, hword⟩ := exists_spells_escapeFrom true run c cs
        fun hc => Nat.not_lt.mp fun htwo => hquote ⟨hc, htwo⟩
      obtain ⟨fuel, rfl⟩ : ∃ n, fuel = n + 1 + run := ⟨fuel - 1 - run, by omega⟩
      have hread : basicBlock fuel (c :: (List.replicate run '"' ++ acc))
          (List.replicate 0 '"' ++ (escapeFrom true 0 cs ++ '"' :: '"' :: '"' :: rest)) = _ :=
        ih (by omega) (by omega)
      rw [hword, List.append_assoc, readsQuotes_basicBlock.read_passing hrun hspells.head?_ne,
        basicBlock_of_spells hspells]
      simpa using hread

/-- A text on several lines between double quotes is read up to the closing quotes. -/
theorem basicBlock_text (h : cs.length < fuel) (hrest : rest.head? ≠ some '"') :
    basicBlock fuel [] (escapeFrom true 0 cs ++ '"' :: '"' :: '"' :: rest) = some (cs, rest) := by
  have hfuel : 0 + cs.length < fuel := by omega
  exact basicBlock_escapeFrom (Nat.zero_le 2) hfuel hrest

/-! ## Between single quotes -/

private theorem literalBody_append (h : ∀ c ∈ cs, isCommentChar c = true ∧ c ≠ '\'') :
    literalBody (cs ++ '\'' :: rest) = some (cs, rest) := by
  have htake : (cs ++ '\'' :: rest).takeWhile (fun c => isCommentChar c && c != '\'') = cs := by
    rw [List.takeWhile_append_of_pos (by simpa using h), List.takeWhile_cons_of_neg (by decide),
      List.append_nil]
  rw [literalBody]
  simp only [htake, List.drop_left]

/-- A text with at most two quotes behind one another is read up to the closing quotes, behind so many
quotes of the text that it starts with. -/
theorem literalBlock_append (h : ∀ c ∈ cs, isCommentChar c = true ∨ c = '\n')
    (hlongest : longestRunFrom '\'' run cs ≤ 2) (hfuel : run + cs.length < fuel)
    (hrest : rest.head? ≠ some '\'') :
    literalBlock fuel acc
        (List.replicate run '\'' ++ (cs ++ '\'' :: '\'' :: '\'' :: rest)) =
      some (acc.reverse ++ List.replicate run '\'' ++ cs, rest) := by
  induction cs generalizing run acc fuel with
  | nil =>
    obtain ⟨fuel, rfl⟩ := Nat.exists_eq_add_one.mpr (Nat.zero_lt_of_lt hfuel)
    rw [longestRunFrom] at hlongest
    rw [List.nil_append, readsQuotes_literalBlock.read_closing hlongest hrest, List.append_nil]
  | cons c cs ih =>
    obtain ⟨hc, hcs⟩ := List.forall_mem_cons.mp h
    rw [List.length_cons] at hfuel
    by_cases hquote : c = '\''
    · subst hquote
      rw [longestRunFrom, if_pos rfl] at hlongest
      rw [List.cons_append, replicate_append_cons, ih hcs hlongest (by omega), List.append_assoc,
        ← replicate_append_cons, ← List.append_assoc]
    · rw [longestRunFrom, if_neg hquote, Nat.max_le] at hlongest
      obtain ⟨fuel, rfl⟩ : ∃ n, fuel = n + 1 + run := ⟨fuel - 1 - run, by omega⟩
      have hchar : (isCommentChar c || c == '\n') = true := by simpa using hc
      have hstep (acc l : List Char) :
          literalBlock (fuel + 1) acc (c :: l) = literalBlock fuel (c :: acc) l := by
        rw [literalBlock, if_pos hchar]
        exact fun r h => absurd h hquote
      have hread : literalBlock fuel (c :: (List.replicate run '\'' ++ acc))
          (List.replicate 0 '\'' ++ (cs ++ '\'' :: '\'' :: '\'' :: rest)) = _ :=
        ih hcs hlongest.2 (by omega)
      rw [List.cons_append, readsQuotes_literalBlock.read_passing hlongest.1 (by simpa using hquote),
        hstep]
      simpa using hread

/-- A text on several lines between single quotes is read up to the closing quotes. -/
theorem literalBlock_text (h : ∀ c ∈ cs, isCommentChar c = true ∨ c = '\n')
    (hlongest : longestRun '\'' cs ≤ 2) (hlength : cs.length < fuel) (hrest : rest.head? ≠ some '\'') :
    literalBlock fuel [] (cs ++ '\'' :: '\'' :: '\'' :: rest) = some (cs, rest) := by
  have hfuel : 0 + cs.length < fuel := by omega
  exact literalBlock_append h hlongest hfuel hrest

/-! ## Forms -/

private theorem le_longestRunFrom (quote : Char) (run : Nat) (cs : List Char) :
    run ≤ longestRunFrom quote run cs := by
  induction cs generalizing run with
  | nil => exact Nat.le_refl run
  | cons c cs ih =>
    rw [longestRunFrom]
    split
    · exact Nat.le_of_succ_le (ih (run + 1))
    · exact Nat.le_max_left _ _

/-- A text without a run of quotes has no quotes. -/
theorem not_mem_of_longestRunFrom_eq_zero (h : longestRunFrom quote run cs = 0) : quote ∉ cs := by
  induction cs generalizing run with
  | nil => exact List.not_mem_nil
  | cons c cs ih =>
    rw [longestRunFrom] at h
    split at h
    · exact absurd (le_longestRunFrom quote (run + 1) cs) (by omega)
    · next hc =>
      have hrest : longestRunFrom quote 0 cs = 0 := by omega
      rw [List.mem_cons, not_or]
      exact ⟨fun h => hc h.symm, ih hrest⟩

namespace TextForm

/-- A text that can be read again in the form. -/
def Holds : TextForm → List Char → Prop
  | .basic, _ | .basicLines, _ => True
  | .literal, cs => ∀ c ∈ cs, isCommentChar c = true ∧ c ≠ '\''
  | .literalLines, cs => (∀ c ∈ cs, isCommentChar c = true ∨ c = '\n') ∧ longestRun '\'' cs ≤ 2

/-- Every text can be read again in the form that is chosen for it. -/
theorem holds_of (cs : List Char) : (of cs).Holds cs := by
  have hplain (h : (!cs.any isControl) = true) : ∀ c ∈ cs, isCommentChar c = true ∨ c = '\n' := by
    intro c hc
    have hcontrol : isControl c = false := by
      rw [Bool.not_eq_true', List.any_eq_false] at h
      simpa using h c hc
    by_cases hline : c = '\n'
    · exact .inr hline
    · exact .inl (isCommentChar_of_isControl_eq_false hcontrol hline)
  simp only [of]
  split
  · trivial
  split
  · next h =>
    simp only [Bool.and_eq_true, beq_iff_eq] at h
    obtain ⟨⟨hcontrol, hquote⟩, hline⟩ := h
    have hline : '\n' ∉ cs := by simpa using hline
    intro c hc
    exact ⟨(hplain hcontrol c hc).resolve_right fun h => hline (h ▸ hc),
      fun h => not_mem_of_longestRunFrom_eq_zero hquote (h ▸ hc)⟩
  split
  · trivial
  split
  · next h =>
    simp only [Bool.and_eq_true, decide_eq_true_eq] at h
    exact ⟨hplain h.1, h.2⟩
  · split <;> trivial

end TextForm

/-- A quote opens no text of several lines if the text and what follows it start with something else. -/
theorem append_quote_ne (hcs : cs.head? ≠ some quote) (hrest : rest.head? ≠ some quote)
    (r : List Char) : cs ++ quote :: rest ≠ quote :: quote :: r := by
  intro h
  cases cs with
  | nil => exact hrest ((List.cons.inj h).2 ▸ rfl)
  | cons c cs => exact hcs (congrArg some (List.cons.inj h).1)

private theorem head?_escapeFrom_ne (cs : List Char) : (escapeFrom false 0 cs).head? ≠ some '"' := by
  cases cs with
  | nil => nofun
  | cons c cs =>
    obtain ⟨word, hspells, hword⟩ := exists_spells_escapeFrom false 0 c cs fun _ => Nat.le_refl 0
    rw [hword]
    exact hspells.head?_ne

/-- The line end in front of a text of several lines is dropped, and no line end of the text is. -/
theorem dropFirstLineEnd_opening (hword : '\n' ∈ word → '\n' ∈ cs) (hquote : quote ≠ '\n') :
    dropFirstLineEnd (inForm.opening cs ++ (word ++ quote :: rest)) = word ++ quote :: rest := by
  unfold inForm.opening
  split
  · rfl
  · next hcs =>
    have hnone : '\n' ∉ word := fun h => hcs (by simpa using hword h)
    rw [List.nil_append, dropFirstLineEnd]
    intro r hr
    cases word with
    | nil => exact hquote (List.cons.inj hr).1
    | cons c word => exact hnone ((List.cons.inj hr).1 ▸ List.mem_cons_self)

/-- A text is read again in every form that can hold it. -/
theorem quoted_inForm {form : TextForm} (h : form.Holds cs) (hdouble : rest.head? ≠ some '"')
    (hsingle : rest.head? ≠ some '\'') :
    quoted (inForm cs form ++ rest) = some (.ofList cs, rest) := by
  cases form with
  | basic =>
    have hcs : (escapeFrom false 0 cs).head? ≠ some '"' := head?_escapeFrom_ne cs
    have hfuel : cs.length < (escapeFrom false 0 cs ++ '"' :: rest).length + 1 := by
      have hlength := length_le_length_escapeFrom false 0 cs
      rw [List.length_append]
      omega
    rw [inForm, List.append_assoc, List.append_assoc, List.singleton_append, List.singleton_append,
      quoted.eq_3, quotedOnLine, basicBody_escapeFrom hfuel]
    · rfl
    · exact fun r hr => append_quote_ne hcs hdouble r (List.cons.inj hr).2
    · nofun
  | literal =>
    have hcs : cs.head? ≠ some '\'' := fun hhead => (h _ (List.mem_of_head? hhead)).2 rfl
    rw [inForm, List.append_assoc, List.append_assoc, List.singleton_append, List.singleton_append,
      quoted.eq_3, quotedOnLine, literalBody_append h]
    · rfl
    · nofun
    · exact fun r hr => append_quote_ne hcs hsingle r (List.cons.inj hr).2
  | basicLines =>
    have hword : '\n' ∈ escapeFrom true 0 cs → '\n' ∈ cs := fun h =>
      ((of_mem_escapeFrom h).resolve_left (by decide)).2
    have hlength := length_le_length_escapeFrom true 0 cs
    rw [inForm]
    simp only [List.append_assoc, List.cons_append, List.nil_append]
    rw [quoted, dropFirstLineEnd_opening hword (by decide), basicBlock_text ?_ hdouble]
    · rfl
    · simp only [List.length_append]
      omega
  | literalLines =>
    rw [inForm]
    simp only [List.append_assoc, List.cons_append, List.nil_append]
    rw [quoted, dropFirstLineEnd_opening id (by decide), literalBlock_text h.1 h.2 ?_ hsingle]
    · rfl
    · simp only [List.length_append]
      omega

/-- What is written for a text is read as the text. -/
theorem quoted_writeText (s : String) (hdouble : rest.head? ≠ some '"')
    (hsingle : rest.head? ≠ some '\'') :
    quoted ((writeText s).toList ++ rest) = some (s, rest) := by
  rw [writeText, String.toList_ofList, quoted_inForm (TextForm.holds_of _) hdouble hsingle,
    String.ofList_toList]

/-- What is written for a text has no carriage return in it. -/
theorem not_mem_writeText (s : String) : '\r' ∉ (writeText s).toList := by
  have hescaped (lines : Bool) : '\r' ∉ escapeFrom lines 0 s.toList := by
    intro h
    rcases of_mem_escapeFrom h with hcomment | ⟨hline, -⟩
    · exact absurd hcomment (by decide)
    · exact absurd hline (by decide)
  have hopening : '\r' ∉ inForm.opening s.toList := by
    unfold inForm.opening
    split <;> decide
  have hholds : (TextForm.of s.toList).Holds s.toList := TextForm.holds_of _
  rw [writeText, String.toList_ofList]
  cases hform : TextForm.of s.toList with
  | basic => simpa [inForm] using hescaped false
  | literal =>
    rw [hform] at hholds
    have hcs : '\r' ∉ s.toList := fun h => absurd (hholds _ h).1 (by decide)
    simpa [inForm] using hcs
  | basicLines => simpa [inForm, hopening] using hescaped true
  | literalLines =>
    rw [hform] at hholds
    have hcs : '\r' ∉ s.toList := fun h => absurd (hholds.1 _ h) (by decide)
    simpa [inForm, hopening] using hcs

end CrudScaffold.Toml
