import CrudScaffold.Name.Qualified
import CrudScaffold.Proofs.Name.Namespace

/-!
# Reading paths

A path that is read names its last segment. Blanks around the path and colons in front of it are lost,
so a declared path need not read back as the name that it was made from. It does so exactly if the
simple name is a segment and there are no blanks around the path.
-/

namespace CrudScaffold

open Text

-- Everything but colons.
private def isLetter (c : Char) : Bool := !(c == ':')

private theorem isLetter_of_isSpace {c : Char} (h : isSpace c = true) : isLetter c = true := by
  unfold isLetter
  by_cases hc : c = ':'
  · subst hc
    revert h
    decide
  · simp [hc]

private theorem countP_ofText (space : String) :
    (Namespace.ofText space).text.toList.countP isLetter = space.toList.countP isLetter := by
  rw [Namespace.ofText, String.toList_ofList]
  exact countP_stripWhile (· == ':') space.toList

namespace QualifiedName

variable {path : String} {n : QualifiedName}

/-- A path without a separator is that of a name in the root. -/
theorem eq_root_of_path (h : ¬ [':', ':'] <:+: n.path.toList) : n = ⟨.root, n.path⟩ := by
  obtain ⟨⟨text⟩, name⟩ := n
  by_cases hroot : text = ""
  · subst hroot
    rfl
  · refine absurd ⟨text.toList, name.toList, ?_⟩ h
    simp [QualifiedName.path, Namespace.isRoot, hroot]

/-- The part of a path that is read: no blanks around it and no colons in front of it. -/
def inner (path : String) : List Char := (trim path.toList).dropWhile (· == ':')

private theorem not_endsWith_of_suffix {cs name : List Char} (hname : name ≠ [])
    (hsegment : IsSegment name) (hsuffix : name <:+ cs) : endsWith [':', ':'] cs = false := by
  rw [← Bool.not_eq_true, endsWith, List.isSuffixOf_iff_suffix]
  intro hends
  rcases List.suffix_or_suffix_of_suffix hends hsuffix with h | h
  · exact hsegment.whole h.isInfix
  · -- the suffixes of a separator are itself, a colon and nothing
    rcases List.suffix_cons_iff.mp h with rfl | h
    · exact hsegment.head rfl
    · rcases List.suffix_cons_iff.mp h with rfl | h
      · exact hsegment.head rfl
      · exact hname (List.suffix_nil.mp h)

/-- A path names a type if the simple name is its last segment, and the namespace is what stands before
it. -/
def Names (path : String) (n : QualifiedName) : Prop :=
  n.name ≠ "" ∧ IsSegment n.name.toList ∧
    ((∃ outer, inner path = outer ++ ':' :: ':' :: n.name.toList ∧
        n.space = .ofText (.ofList outer)) ∨
      inner path = n.name.toList ∧ n.space = .root)

private theorem names_of_parse (h : parse path = some n) : Names path n := by
  obtain ⟨space, name⟩ := n
  unfold parse at h
  dsimp only at h
  split at h
  · cases h
  · split at h
    · next outer after hcut =>
      obtain ⟨hinner, hsegment⟩ := of_splitLastPath hcut
      split at h
      · cases h
      · next hne =>
        simp only [Option.some.injEq, QualifiedName.mk.injEq] at h
        obtain ⟨rfl, rfl⟩ := h
        unfold Names
        simp only [String.toList_ofList]
        refine ⟨fun hempty => hne ?_, hsegment, .inl ⟨outer, hinner, rfl⟩⟩
        simpa using hempty
    · next hcut =>
      have hwhole := splitLastPath_eq_none_iff.mp hcut
      split at h
      · cases h
      · next hne =>
        simp only [Option.some.injEq, QualifiedName.mk.injEq] at h
        obtain ⟨rfl, rfl⟩ := h
        unfold Names
        simp only [String.toList_ofList]
        refine ⟨fun hempty => hne ?_, ⟨hwhole, fun hhead => ?_⟩, .inr ⟨rfl, trivial⟩⟩
        · simpa using hempty
        · have hfirst := List.head?_dropWhile_not (· == ':') (trim path.toList)
          rw [hhead] at hfirst
          cases hfirst

private theorem parse_of_names (h : Names path n) : parse path = some n := by
  obtain ⟨space, name⟩ := n
  obtain ⟨hname, hsegment, hinner⟩ := h
  have hne : name.toList ≠ [] := by simpa using hname
  have hsuffix : name.toList <:+ trim path.toList := by
    have hdropped : inner path <:+ trim path.toList := List.dropWhile_suffix _
    rcases hinner with ⟨outer, hinner, -⟩ | ⟨hinner, -⟩
    · refine List.IsSuffix.trans ⟨outer ++ [':', ':'], ?_⟩ hdropped
      rw [hinner, List.append_assoc]
      rfl
    · rwa [← hinner]
  have hends := not_endsWith_of_suffix hne hsegment hsuffix
  rcases hinner with ⟨outer, hinner, rfl⟩ | ⟨hinner, rfl⟩
  · rw [inner] at hinner
    simp [parse, hends, hinner, splitLastPath_append hsegment, hne]
  · rw [inner] at hinner
    simp [parse, hends, hinner, splitLastPath_eq_none_iff.mpr hsegment.whole, hne]

/-- A path is read as what it names. -/
theorem parse_eq_some_iff : parse path = some n ↔ Names path n :=
  ⟨names_of_parse, parse_of_names⟩

-- A path that is read keeps all of its text but colons and the blanks around it.
private theorem countP_of_parse (h : parse path = some n) :
    (trim path.toList).countP isLetter =
      n.space.text.toList.countP isLetter + n.name.toList.countP isLetter := by
  have hinner : (inner path).countP isLetter = (trim path.toList).countP isLetter := by
    have hcolons : ((trim path.toList).takeWhile (· == ':')).countP isLetter = 0 := by
      rw [List.countP_eq_zero]
      intro c hc
      have hcolon : (c == ':') = true := List.mem_takeWhile_imp (p := (· == ':')) hc
      simp [isLetter, hcolon]
    have hparts := congrArg (List.countP isLetter)
      (List.takeWhile_append_dropWhile (p := (· == ':')) (l := trim path.toList))
    rw [List.countP_append, hcolons, Nat.zero_add] at hparts
    exact hparts
  obtain ⟨-, -, ⟨outer, houter, hspace⟩ | ⟨hwhole, hspace⟩⟩ := parse_eq_some_iff.mp h
  · rw [← hinner, houter, hspace, countP_ofText, String.toList_ofList, List.countP_append]
    rfl
  · rw [← hinner, hwhole, hspace]
    exact (Nat.zero_add _).symm

/-- A declared path reads back as the name that it was made from exactly if the simple name is a
segment and there are no blanks around the path. -/
theorem parse_declared_iff {space name : String}
    (hpath : path = if space.isEmpty then name else space ++ "::" ++ name) :
    parse path = some ((Namespace.ofText space).qualify name) ↔
      name ≠ "" ∧ IsSegment name.toList ∧ trim path.toList = path.toList := by
  have hchars : path.toList =
      if space = "" then name.toList else space.toList ++ ':' :: ':' :: name.toList := by
    rw [hpath]
    by_cases hroot : space = ""
    · simp [hroot]
    · simp [hroot]
  constructor
  · intro h
    obtain ⟨hname, hsegment, -⟩ := parse_eq_some_iff.mp h
    refine ⟨hname, hsegment, ?_⟩
    -- Blanks around the path would be missing in the name.
    have hkept : (trim path.toList).countP isLetter = path.toList.countP isLetter := by
      rw [countP_of_parse h]
      simp only [Namespace.qualify, countP_ofText, hchars]
      split
      · next hroot => simp [hroot]
      · rw [List.countP_append]
        rfl
    obtain ⟨front, back, hcs, hfront, hback⟩ := exists_stripWhile isSpace path.toList
    have hall {l : List Char} (hl : ∀ c ∈ l, isSpace c = true) : l.countP isLetter = l.length :=
      List.countP_eq_length.mpr fun c hc => isLetter_of_isSpace (hl c hc)
    have hparts := congrArg (List.countP isLetter) hcs
    rw [List.countP_append, List.countP_append, hall hfront, hall hback, ← trim, hkept] at hparts
    have hfront : front = [] := List.length_eq_zero_iff.mp (by omega)
    have hback : back = [] := List.length_eq_zero_iff.mp (by omega)
    rw [hfront, hback, List.nil_append, List.append_nil] at hcs
    exact hcs.symm
  · rintro ⟨hname, hsegment, htrim⟩
    refine parse_eq_some_iff.mpr ⟨hname, hsegment, ?_⟩
    have hkept : name.toList.dropWhile (· == ':') = name.toList := by
      cases hcs : name.toList with
      | nil => rfl
      | cons c r =>
        have hc : c ≠ ':' := fun h => hsegment.head (by rw [hcs, h]; rfl)
        simp [hc]
    rw [inner, htrim, hchars]
    simp only [Namespace.qualify]
    split
    · next hroot =>
      subst hroot
      exact .inr ⟨hkept, rfl⟩
    · rw [List.dropWhile_append]
      split
      · next hcolons =>
        -- A namespace that is nothing but colons is the root.
        refine .inr ⟨by simp [hkept], ?_⟩
        rw [Namespace.ofText, stripWhile, List.isEmpty_iff.mp hcolons]
        rfl
      · refine .inl ⟨space.toList.dropWhile (· == ':'), rfl, ?_⟩
        rw [Namespace.ofText, Namespace.ofText, String.toList_ofList, stripWhile, stripWhile,
          List.dropWhile_idempotent]

/-! ## The path of a name -/

/-- A name that is read has no colons at the ends of its namespace. -/
theorem isBare_space_of_parse (h : parse path = some n) : n.space.IsBare := by
  obtain ⟨-, -, ⟨outer, -, hspace⟩ | ⟨-, hspace⟩⟩ := parse_eq_some_iff.mp h
  · rw [hspace]
    exact Namespace.isBare_ofText _
  · rw [hspace]
    exact Namespace.isBare_root

/-- The path of a name is read as the name again exactly if the simple name is a segment and there are
no blanks around the path. -/
theorem parse_path_iff (h : n.space.IsBare) :
    parse n.path = some n ↔
      n.name ≠ "" ∧ IsSegment n.name.toList ∧ trim n.path.toList = n.path.toList := by
  have hread := @parse_declared_iff n.path n.space.text n.name rfl
  rwa [h] at hread

/-- A part of the path of a name that is read as the name is all of the path, but for colons around
it. -/
theorem eq_nil_of_parse_part {front part back : List Char}
    (hpath : n.path.toList = front ++ part ++ back) (h : parse (.ofList part) = some n)
    (hfront : front.head? ≠ some ':') (hback : back.head? ≠ some ':') : front = [] ∧ back = [] := by
  have hletters : n.path.toList.countP isLetter =
      n.space.text.toList.countP isLetter + n.name.toList.countP isLetter := by
    unfold QualifiedName.path
    split
    · next hroot =>
      have htext : n.space.text.toList = [] := by simpa [Namespace.isRoot] using hroot
      simp [htext]
    · simp [isLetter]
  have hread := countP_of_parse h
  rw [String.toList_ofList] at hread
  obtain ⟨before, after, hpart, -, -⟩ := exists_stripWhile isSpace part
  rw [← trim] at hpart
  -- The part alone has all letters that the path has.
  have hcount := congrArg (List.countP isLetter) hpath
  have hpartCount := congrArg (List.countP isLetter) hpart
  simp only [List.countP_append] at hcount hpartCount
  have hnil {cs : List Char} (hcs : cs.countP isLetter = 0) (hhead : cs.head? ≠ some ':') :
      cs = [] := by
    cases cs with
    | nil => rfl
    | cons c r =>
      have hc : c = ':' := by simpa [isLetter] using List.countP_eq_zero.mp hcs c List.mem_cons_self
      exact absurd (congrArg some hc) hhead
  exact ⟨hnil (by omega) hfront, hnil (by omega) hback⟩

/-! ## Reading again -/

/-- A serialised name is read exactly if its text is. -/
theorem deserialize_eq_ok_iff : deserialize path = .ok n ↔ parse path = some n := by
  unfold deserialize
  cases parse path <;> simp

/-- The path of a name that was read has the same ends as the part that was read. -/
theorem ends_path_of_parse (h : parse path = some n) :
    n.path.toList.head? = (inner path).head? ∧ n.path.toList.getLast? = (inner path).getLast? := by
  obtain ⟨hname, -, hinner⟩ := parse_eq_some_iff.mp h
  rcases hinner with ⟨outer, hinner, hspace⟩ | ⟨hinner, hspace⟩
  · have hne : n.name.toList ≠ [] := by simpa using hname
    have hlast (front : List Char) :
        (front ++ ':' :: ':' :: n.name.toList).getLast? = n.name.toList.getLast? := by
      rw [List.append_cons, List.append_cons, List.getLast?_append_of_ne_nil _ hne]
    -- Colons in front are not read, so something else stands in front of the separator.
    have hcolon : (inner path).head? ≠ some ':' := by
      intro hhead
      have hfirst := List.head?_dropWhile_not (· == ':') (trim path.toList)
      rw [← inner, hhead] at hfirst
      cases hfirst
    rw [hinner] at hcolon ⊢
    cases outer with
    | nil => exact absurd rfl hcolon
    | cons c outer =>
      have hhead : n.space.text.toList.head? = some c := by
        rw [hspace, Namespace.head?_ofText] <;> rw [String.toList_ofList]
        · rfl
        · exact hcolon
      have hroot : n.space.isRoot ≠ true := by
        intro hroot
        have htext : n.space.text.toList = [] := by simpa [Namespace.isRoot] using hroot
        rw [htext] at hhead
        cases hhead
      have hpath : n.path.toList = n.space.text.toList ++ ':' :: ':' :: n.name.toList := by
        simp [QualifiedName.path, hroot]
      rw [hpath, hlast, hlast, List.head?_append, hhead]
      exact ⟨rfl, rfl⟩
  · rw [hinner, QualifiedName.path, hspace]
    exact ⟨rfl, rfl⟩

/-- A name is read again from its path exactly if there was no blank behind the colons in front of the
text that it was read from. Blanks around a text are dropped first and colons in front of it next; a
blank that comes to the front in this way stays in the name, and is dropped from its path. -/
theorem read_again_iff (h : parse path = some n) :
    (parse n.path = some n ↔ ∀ c ∈ (inner path).head?, isSpace c = false) ∧
      (deserialize n.path = .ok n ↔ ∀ c ∈ (inner path).head?, isSpace c = false) := by
  obtain ⟨hhead, hlast⟩ := ends_path_of_parse h
  obtain ⟨hname, hsegment, -⟩ := parse_eq_some_iff.mp h
  -- The end of the text is never exposed again.
  have hend : ∀ c ∈ (inner path).getLast?, isSpace c = false := by
    have htrimmed : trim (trim path.toList) = trim path.toList := stripWhile_stripWhile _ _
    obtain ⟨-, hend⟩ := stripWhile_eq_self_iff.mp htrimmed
    have hsuffix : inner path <:+ trim path.toList := List.dropWhile_suffix _
    obtain ⟨colons, hcolons⟩ := hsuffix
    intro c hc
    refine hend c ?_
    rw [← hcolons, List.getLast?_append, hc, Option.some_or]
    rfl
  have hread : parse n.path = some n ↔ ∀ c ∈ (inner path).head?, isSpace c = false := by
    rw [parse_path_iff (isBare_space_of_parse h), and_iff_right hname, and_iff_right hsegment, trim,
      stripWhile_eq_self_iff, hhead, hlast]
    exact and_iff_left hend
  exact ⟨hread, deserialize_eq_ok_iff.trans hread⟩

/-- Blanks and runs of colons inside a path and around it do no harm. -/
theorem order_is_read_again :
    ∃ n, parse " :::shop ::: model:::Order\t" = some n ∧ n.path = "shop ::: model::Order" ∧
      parse n.path = some n ∧ deserialize n.path = .ok n := by
  have h : parse " :::shop ::: model:::Order\t" = some ⟨⟨"shop ::: model"⟩, "Order"⟩ := by
    decide +kernel
  have hhead : (inner " :::shop ::: model:::Order\t").head? = some 's' := by decide +kernel
  have hfirst : ∀ c ∈ (inner " :::shop ::: model:::Order\t").head?, isSpace c = false := by
    intro c hc
    obtain rfl : 's' = c := Option.some.inj (hhead.symm.trans hc)
    rfl
  exact ⟨_, h, by decide +kernel, (read_again_iff h).1.mpr hfirst, (read_again_iff h).2.mpr hfirst⟩

/-- A blank behind the colons in front of a path goes into the namespace, and is lost when the path of
the name is read. -/
theorem money_moves_when_read_again :
    ∃ n, parse ":: ext::Money" = some n ∧ n = ⟨⟨" ext"⟩, "Money"⟩ ∧ n.path = " ext::Money" ∧
      parse n.path = some ⟨⟨"ext"⟩, "Money"⟩ ∧ parse n.path ≠ some n ∧
        deserialize n.path ≠ .ok n :=
  ⟨⟨⟨" ext"⟩, "Money"⟩, by decide +kernel, rfl, by decide +kernel, by decide +kernel,
    by decide +kernel, by
      rw [Ne, deserialize_eq_ok_iff]
      decide +kernel⟩

end QualifiedName

end CrudScaffold
