import CrudScaffold.FilePath
import CrudScaffold.Proofs.Text.Pieces
import Mathlib.Data.List.Basic

/-!
# Components of file paths

Appending a relative path appends its components. A path that never goes back consists of what opens
it and of names, and is found again when it is written from these.
-/

namespace CrudScaffold.FilePath

open Text

variable {p q : FilePath} {c : Component} {cs : List Component} {names : List String}

/-- The parts of a path between slashes. -/
def parts (p : FilePath) : List (List Char) := splitAtChar '/' p.text.toList

/-- What a part stands for on the way along a path: a single dot asks for a directory. -/
def Component.stepOf? (part : List Char) : Option Component :=
  if part = ['.'] then some .here else ofPart? part

/-- A name that a part of a path stands for. -/
structure IsName (name : String) : Prop where
  ne_empty : name ≠ ""
  ne_dot : name ≠ "."
  ne_dots : name ≠ ".."
  noSlash : '/' ∉ name.toList

instance (name : String) : Decidable (IsName name) :=
  decidable_of_iff (name ≠ "" ∧ name ≠ "." ∧ name ≠ ".." ∧ '/' ∉ name.toList)
    ⟨fun h => ⟨h.1, h.2.1, h.2.2.1, h.2.2.2⟩, fun h => ⟨h.1, h.2, h.3, h.4⟩⟩

/-- What can open a path. -/
inductive IsOpening : List Component → Prop where
  | none : IsOpening []
  | root : IsOpening [.root]
  | here : IsOpening [.here]

/-- Components of a path that never goes back. -/
structure Forward (cs opening : List Component) (names : List String) : Prop where
  eq : cs = opening ++ names.map .named
  opening : IsOpening opening
  isName : ∀ name ∈ names, IsName name

/-- What opens a path. -/
def opening (p : FilePath) : List Component :=
  if p.isAbsolute then [.root] else if p.parts.head? = some ['.'] then [.here] else []

/-- The components of a path are its opening and its parts. -/
theorem components_eq (p : FilePath) :
    p.components = p.opening ++ p.parts.filterMap Component.ofPart? := rfl

/-- Following a path goes over its root, if it has one, and then over its parts. -/
theorem steps_eq (p : FilePath) :
    p.steps = (if p.isAbsolute then [.root] else []) ++ p.parts.filterMap Component.stepOf? := rfl

/-- The opening of a path is one. -/
theorem isOpening_opening (p : FilePath) : IsOpening p.opening := by
  unfold opening
  split
  · exact .root
  · split
    · exact .here
    · exact .none

/-! ## Appending -/

/-- The empty path has one empty part. -/
theorem parts_of_empty (hp : p.text = "") : p.parts = [[]] := by
  rw [parts, hp]
  rfl

/-- Nothing is put in front of a path that is appended to nothing. -/
theorem push_of_empty (hp : p.text = "") : p.push q = q := by
  have hempty : p.text.isEmpty = true := by simp [hp]
  unfold push
  split
  · rfl
  · rw [hempty, Bool.true_or, if_pos rfl, hp, String.empty_append]

/-- A relative path is appended behind a slash, which may be there already. -/
theorem exists_text_push (hq : q.isAbsolute = false) (hp : p.text ≠ "") :
    ∃ front, (p.push q).text.toList = front ++ '/' :: q.text.toList ∧
      (p.text.toList = front ∨ p.text.toList = front ++ ['/']) := by
  have hempty : p.text.isEmpty = false := by simpa using hp
  unfold push
  rw [hq, hempty, Bool.false_or, if_neg Bool.false_ne_true]
  by_cases hopen : endsWith ['/'] p.text.toList = true
  · obtain ⟨front, hfront⟩ := List.isSuffixOf_iff_suffix.mp hopen
    refine ⟨front, ?_, .inr hfront.symm⟩
    rw [if_pos hopen, String.toList_append, ← hfront, List.append_assoc, List.singleton_append]
  · refine ⟨p.text.toList, ?_, .inl rfl⟩
    rw [if_neg hopen, String.toList_append, String.toList_append, List.append_assoc]
    rfl

/-- Appending a relative path keeps whether a path starts at the root. -/
theorem isAbsolute_push (hq : q.isAbsolute = false) : (p.push q).isAbsolute = p.isAbsolute := by
  by_cases hp : p.text = ""
  · rw [push_of_empty hp, hq, isAbsolute, hp]
    rfl
  · obtain ⟨front, hpushed, hfront⟩ := exists_text_push hq hp
    rw [isAbsolute, isAbsolute, hpushed]
    cases front with
    | nil =>
      rcases hfront with hfront | hfront
      · exact absurd (String.toList_eq_nil_iff.mp hfront) hp
      · rw [hfront]
        rfl
    | cons d front =>
      rcases hfront with hfront | hfront
      · rw [hfront]
        rfl
      · rw [hfront]
        rfl

/-- The parts of a path, to which those of a relative path are appended. Behind a slash there is an
empty part more. -/
theorem exists_parts_push (hq : q.isAbsolute = false) (hp : p.text ≠ "") :
    ∃ front, front ≠ [] ∧ (p.push q).parts = front ++ q.parts ∧
      (p.parts = front ∨ p.parts = front ++ [[]]) := by
  obtain ⟨front, hpushed, hfront⟩ := exists_text_push hq hp
  refine ⟨splitAtChar '/' front, splitAtChar_ne_nil _ _, ?_, ?_⟩
  · rw [parts, hpushed, splitAtChar_eq_splitOn, List.splitOn_append_cons_self,
      ← splitAtChar_eq_splitOn, ← splitAtChar_eq_splitOn, parts]
  · rcases hfront with hfront | hfront
    · rw [parts, hfront]
      exact .inl rfl
    · rw [parts, hfront, splitAtChar_eq_splitOn, List.splitOn_append_cons_self,
        ← splitAtChar_eq_splitOn]
      exact .inr rfl

/-- Appending a relative path to something keeps the first part. -/
theorem head?_parts_push (hq : q.isAbsolute = false) (hp : p.text ≠ "") :
    (p.push q).parts.head? = p.parts.head? := by
  obtain ⟨front, hne, hpushed, hfront⟩ := exists_parts_push hq hp
  obtain ⟨first, rest, rfl⟩ := List.exists_cons_of_ne_nil hne
  rw [hpushed]
  rcases hfront with hfront | hfront
  · rw [hfront]
    rfl
  · rw [hfront]
    rfl

/-- What the parts stand for is appended, as long as an empty part stands for nothing. -/
theorem filterMap_parts_push (hq : q.isAbsolute = false) {f : List Char → Option Component}
    (hf : f [] = none) :
    (p.push q).parts.filterMap f = p.parts.filterMap f ++ q.parts.filterMap f := by
  by_cases hp : p.text = ""
  · rw [push_of_empty hp, parts_of_empty hp, List.filterMap_cons_none hf, List.filterMap_nil, List.nil_append]
  · obtain ⟨front, -, hpushed, hfront⟩ := exists_parts_push hq hp
    rw [hpushed, List.filterMap_append]
    rcases hfront with hfront | hfront
    · rw [hfront]
    · rw [hfront, List.filterMap_append, List.filterMap_cons_none hf, List.filterMap_nil,
        List.append_nil]

/-- Appending a relative path keeps what opens a path, unless it is appended to nothing and opens with
a dot. -/
theorem opening_push (hq : q.isAbsolute = false)
    (hhere : p.text = "" → q.parts.head? ≠ some ['.']) : (p.push q).opening = p.opening := by
  have hhead : (p.push q).parts.head? = some ['.'] ↔ p.parts.head? = some ['.'] := by
    by_cases hp : p.text = ""
    · rw [push_of_empty hp, parts_of_empty hp]
      exact ⟨fun h => absurd h (hhere hp), nofun⟩
    · rw [head?_parts_push hq hp]
  unfold opening
  rw [isAbsolute_push hq]
  simp only [hhead]

/-- What the parts of a relative path stand for is appended to the components. -/
theorem components_push_relative (hq : q.isAbsolute = false)
    (hhere : p.text = "" → q.parts.head? ≠ some ['.']) :
    (p.push q).components = p.components ++ q.parts.filterMap Component.ofPart? := by
  rw [components_eq, components_eq, opening_push hq hhere, filterMap_parts_push hq rfl,
    List.append_assoc]

/-- Appending a relative path appends its components, unless it opens with a dot. -/
theorem components_push (hq : q.isAbsolute = false) (hhere : q.parts.head? ≠ some ['.']) :
    (p.push q).components = p.components ++ q.components := by
  have hopening : q.opening = [] := by
    rw [opening, hq, if_neg Bool.false_ne_true, if_neg hhere]
  rw [components_push_relative hq fun _ => hhere, components_eq q, hopening, List.nil_append]

/-! ## Appending names -/

/-- A path that is a name has this name for its only part. -/
theorem parts_of_isName {name : String} (h : IsName name) : (FilePath.mk name).parts = [name.toList] := by
  rw [parts, splitAtChar_eq_splitOn]
  exact List.splitOn_eq_singleton h.noSlash

private theorem ofPart?_of_isName {name : String} (h : IsName name) :
    Component.ofPart? name.toList = some (.named name) := by
  unfold Component.ofPart?
  split
  · next hempty => exact absurd (String.toList_eq_nil_iff.mp hempty) h.ne_empty
  · next hdot => exact absurd (String.toList_inj.mp hdot) h.ne_dot
  · next hdots => exact absurd (String.toList_inj.mp hdots) h.ne_dots
  · rw [String.ofList_toList]

/-- A name is a relative path. -/
theorem isAbsolute_of_isName {name : String} (h : IsName name) :
    (FilePath.mk name).isAbsolute = false := by
  unfold isAbsolute startsWith
  cases hname : name.toList with
  | nil => rfl
  | cons d rest =>
    have hslash : '/' ≠ d := by
      intro hd
      apply h.noSlash
      rw [hname, hd]
      exact List.mem_cons_self
    simp [List.isPrefixOf, hslash]

private theorem head?_parts_of_isName {name : String} (h : IsName name) :
    (FilePath.mk name).parts.head? ≠ some ['.'] := by
  rw [parts_of_isName h]
  exact fun heq => h.ne_dot (String.toList_inj.mp (Option.some.inj heq))

/-- A name is its own only component. -/
theorem components_of_isName {name : String} (h : IsName name) :
    (FilePath.mk name).components = [.named name] := by
  rw [components_eq, opening, isAbsolute_of_isName h, if_neg Bool.false_ne_true,
    if_neg (head?_parts_of_isName h), parts_of_isName h,
    List.filterMap_cons_some (ofPart?_of_isName h)]
  rfl

/-- Appending a name appends it to the components. -/
theorem components_push_name {name : String} (h : IsName name) :
    (p.push ⟨name⟩).components = p.components ++ [.named name] := by
  rw [components_push (isAbsolute_of_isName h) (head?_parts_of_isName h), components_of_isName h]

/-- Appending names one after the other appends them to the components. -/
theorem components_foldl_push (h : ∀ name ∈ names, IsName name) :
    (names.foldl (fun p name => p.push ⟨name⟩) p).components =
      p.components ++ names.map .named := by
  induction names generalizing p with
  | nil => rw [List.foldl_nil, List.map_nil, List.append_nil]
  | cons name names ih =>
    rw [List.forall_mem_cons] at h
    rw [List.foldl_cons, ih h.2, components_push_name h.1, List.append_assoc, List.map_cons,
      List.singleton_append]

/-- A path of names is relative and does not open with a dot. -/
theorem relative_foldl_push (h : ∀ name ∈ names, IsName name) {p : FilePath}
    (hp : p.isAbsolute = false) (hhere : p.parts.head? ≠ some ['.']) :
    (names.foldl (fun p name => p.push ⟨name⟩) p).isAbsolute = false ∧
      (names.foldl (fun p name => p.push ⟨name⟩) p).parts.head? ≠ some ['.'] := by
  induction names generalizing p with
  | nil => exact ⟨hp, hhere⟩
  | cons name names ih =>
    rw [List.forall_mem_cons] at h
    have habsolute : (p.push ⟨name⟩).isAbsolute = false := by
      rw [isAbsolute_push (isAbsolute_of_isName h.1), hp]
    refine ih h.2 habsolute fun hdot => ?_
    have hopening := opening_push (p := p) (isAbsolute_of_isName h.1)
      fun _ => head?_parts_of_isName h.1
    rw [opening, opening, habsolute, hp, if_neg Bool.false_ne_true, if_neg Bool.false_ne_true,
      if_pos hdot, if_neg hhere] at hopening
    cases hopening

/-- A relative path that is appended is the end of the text. -/
theorem suffix_push (hq : q.isAbsolute = false) : q.text.toList <:+ (p.push q).text.toList := by
  by_cases hp : p.text = ""
  · simp only [push_of_empty hp, List.suffix_rfl]
  · obtain ⟨front, hpushed, -⟩ := exists_text_push hq hp
    rw [hpushed]
    exact ⟨front ++ ['/'], by rw [List.append_assoc, List.singleton_append]⟩

/-- A path that ends with a name does not end with a slash. -/
theorem endsOpen_of_suffix {name : String} (h : IsName name) (hsuffix : name.toList <:+ p.text.toList) :
    p.endsOpen = false := by
  obtain ⟨front, hfront⟩ := hsuffix
  have hne : name.toList ≠ [] := fun hname => h.ne_empty (String.toList_eq_nil_iff.mp hname)
  rw [Bool.eq_false_iff, ne_eq, endsOpen, endsWith, List.isSuffixOf_iff_suffix, ← hfront]
  rintro ⟨before, hbefore⟩
  have hslash := congrArg List.getLast? hbefore
  rw [List.getLast?_concat, List.getLast?_append_of_ne_nil _ hne] at hslash
  exact h.noSlash (List.mem_of_getLast? hslash.symm)

/-! ## Paths from components -/

/-- What a part stands for, if it is neither empty nor a single dot. -/
theorem ofPart?_cases {part : List Char} (h : Component.ofPart? part = some c) (hslash : '/' ∉ part) :
    c = .parent ∨ ∃ name, c = .named name ∧ IsName name := by
  unfold Component.ofPart? at h
  split at h
  · cases h
  · cases h
  · exact .inl (Option.some.inj h).symm
  · next hempty hdot hdots =>
    refine .inr ⟨.ofList part, (Option.some.inj h).symm, ?_, ?_, ?_, ?_⟩
    · exact fun heq => hempty (by rw [← String.toList_ofList (l := part), heq]; rfl)
    · exact fun heq => hdot (by rw [← String.toList_ofList (l := part), heq]; rfl)
    · exact fun heq => hdots (by rw [← String.toList_ofList (l := part), heq]; rfl)
    · rwa [String.toList_ofList]

/-- Parts without a slash that do not lead back stand for names. -/
theorem exists_names {l : List (List Char)} (hslash : ∀ part ∈ l, '/' ∉ part)
    (hparent : .parent ∉ l.filterMap Component.ofPart?) :
    ∃ names : List String, l.filterMap Component.ofPart? = names.map .named ∧
      ∀ name ∈ names, IsName name := by
  induction l with
  | nil => exact ⟨[], rfl, nofun⟩
  | cons part l ih =>
    rw [List.forall_mem_cons] at hslash
    cases hpart : Component.ofPart? part with
    | none =>
      rw [List.filterMap_cons_none hpart] at hparent ⊢
      exact ih hslash.2 hparent
    | some c =>
      rw [List.filterMap_cons_some hpart, List.mem_cons, not_or] at hparent
      obtain ⟨names, hl, hnames⟩ := ih hslash.2 hparent.2
      rcases ofPart?_cases hpart hslash.1 with rfl | ⟨name, rfl, hname⟩
      · exact absurd rfl hparent.1
      · refine ⟨name :: names, ?_, List.forall_mem_cons.mpr ⟨hname, hnames⟩⟩
        rw [List.filterMap_cons_some hpart, hl, List.map_cons]

/-- A path that does not go back is what opens it and names. -/
theorem exists_forward (h : .parent ∉ p.components) :
    ∃ names, Forward p.components p.opening names := by
  rw [components_eq, List.mem_append, not_or] at h
  have hslash : ∀ part ∈ p.parts, '/' ∉ part := fun _ hpart => not_mem_of_mem_splitAtChar hpart
  obtain ⟨names, hparts, hnames⟩ := exists_names hslash h.2
  exact ⟨names, by rw [components_eq, hparts], p.isOpening_opening, hnames⟩

/-- The front of a path that does not go back is opened in the same way and has the first names. -/
theorem Forward.of_prefix {cs' opening : List Component} (h : Forward cs opening names)
    (hfront : cs' <+: cs) (hne : cs' ≠ []) :
    ∃ names', names' <+: names ∧ Forward cs' opening names' := by
  obtain ⟨rfl, hopening, hnames⟩ := h
  have htail : ∃ names', names' <+: names ∧ cs' = opening ++ names'.map .named := by
    cases hopening with
    | none =>
      rw [List.nil_append, List.prefix_map_iff] at hfront
      exact hfront
    | root =>
      obtain ⟨rest, rfl, hrest⟩ := (List.prefix_cons_iff.mp hfront).resolve_left hne
      obtain ⟨names', hnames', rfl⟩ := List.prefix_map_iff.mp hrest
      exact ⟨names', hnames', rfl⟩
    | here =>
      obtain ⟨rest, rfl, hrest⟩ := (List.prefix_cons_iff.mp hfront).resolve_left hne
      obtain ⟨names', hnames', rfl⟩ := List.prefix_map_iff.mp hrest
      exact ⟨names', hnames', rfl⟩
  obtain ⟨names', hnames', heq⟩ := htail
  exact ⟨names', hnames', heq, hopening, fun name hname => hnames name (hnames'.subset hname)⟩

/-- A path starts at the root if there is nothing before its first slash. -/
theorem isAbsolute_iff : p.isAbsolute = true ↔ p.parts.head? = some [] ∧ p.parts ≠ [[]] := by
  unfold isAbsolute startsWith parts
  cases p.text.toList with
  | nil => simp [splitAtChar]
  | cons d rest =>
    by_cases hslash : d = '/'
    · simp [hslash, splitAtChar, splitAtChar_ne_nil]
    · have hfirst : ∀ l, (consFirst d l).head? ≠ some [] := by
        intro l
        cases l <;> simp [consFirst]
      simp [splitAtChar, hslash, hfirst, Ne.symm hslash]

/-- The parts of a path that is written from components are their texts. -/
theorem parts_ofComponents {opening : List Component} (h : Forward cs opening names) (hne : cs ≠ [])
    (hroot : cs ≠ [.root]) : (ofComponents cs).parts = cs.map fun c => c.text.toList := by
  have hfree : ∀ part ∈ cs.map fun c => c.text.toList, '/' ∉ part := by
    rw [List.forall_mem_map, h.eq]
    intro c hc
    rcases List.mem_append.mp hc with hc | hc
    · have hopening : ∀ {l}, IsOpening l → c ∈ l → '/' ∉ c.text.toList := by
        intro l hl hc
        cases hl with
        | none => cases hc
        | root =>
          rw [List.mem_singleton.mp hc]
          decide
        | here =>
          rw [List.mem_singleton.mp hc]
          decide
      exact hopening h.opening hc
    · obtain ⟨name, hname, rfl⟩ := List.mem_map.mp hc
      exact (h.isName name hname).noSlash
  rw [ofComponents, if_neg hroot, parts, String.toList_intercalate, List.map_map,
    splitAtChar_eq_splitOn]
  refine List.splitOn_intercalate '/' hfree ?_
  simpa using hne

private theorem filterMap_names {f : List Char → Option Component}
    (hf : ∀ name ∈ names, f name.toList = some (.named name)) :
    (names.map String.toList).filterMap f = names.map .named := by
  rw [List.filterMap_map, ← List.filterMap_eq_map]
  exact List.filterMap_congr hf

/-- The first name of a path is not an empty part. -/
theorem head?_names (h : ∀ name ∈ names, IsName name) :
    (names.map String.toList).head? ≠ some [] ∧ (names.map String.toList).head? ≠ some ['.'] := by
  cases names with
  | nil => exact ⟨nofun, nofun⟩
  | cons name names =>
    have hname := h name List.mem_cons_self
    constructor
    · exact fun heq => hname.ne_empty (String.toList_eq_nil_iff.mp (Option.some.inj heq))
    · exact fun heq => hname.ne_dot (String.toList_inj.mp (Option.some.inj heq))

/-- A path that starts at the root is opened by it. -/
theorem isAbsolute_iff_of_parts {opening : List Component} (hopening : IsOpening opening)
    (hnames : ∀ name ∈ names, IsName name) (hroot : opening ++ names.map .named ≠ [.root])
    (hparts : p.parts = (opening.map fun c => c.text.toList) ++ names.map String.toList) :
    p.isAbsolute = true ↔ opening = [.root] := by
  rw [isAbsolute_iff, hparts]
  cases hopening with
  | none => exact iff_of_false (fun h => (head?_names hnames).1 h.1) nofun
  | root =>
    refine iff_of_true ⟨rfl, fun hempty => hroot ?_⟩ rfl
    rw [List.map_eq_nil_iff.mp (List.cons.inj hempty).2]
    rfl
  | here => exact iff_of_false (fun h => nomatch h.1) nofun

/-- A path that consists of what opens it and of names has these for its components and its steps. -/
theorem of_parts {opening : List Component} (hopening : IsOpening opening)
    (hnames : ∀ name ∈ names, IsName name) (hroot : opening ++ names.map .named ≠ [.root])
    (hparts : p.parts = (opening.map fun c => c.text.toList) ++ names.map String.toList) :
    p.components = opening ++ names.map .named ∧ p.steps = opening ++ names.map .named := by
  have hpart : ∀ name ∈ names, Component.ofPart? name.toList = some (.named name) :=
    fun name hname => ofPart?_of_isName (hnames name hname)
  have hstep : ∀ name ∈ names, Component.stepOf? name.toList = some (.named name) := by
    intro name hname
    have hdot : name.toList ≠ ['.'] := fun hdot =>
      (hnames name hname).ne_dot (String.toList_inj.mp hdot)
    rw [Component.stepOf?, if_neg hdot, hpart name hname]
  simp only [components_eq, steps_eq, FilePath.opening,
    isAbsolute_iff_of_parts hopening hnames hroot hparts]
  rw [hparts, List.filterMap_append, List.filterMap_append, filterMap_names hpart,
    filterMap_names hstep]
  cases hopening with
  | none =>
    have hdot := (head?_names hnames).2
    simp only [List.map_nil, List.nil_append, if_neg hdot]
    exact ⟨rfl, rfl⟩
  | root => exact ⟨rfl, rfl⟩
  | here => exact ⟨rfl, rfl⟩

/-- A path that is written from components has them for its components and its steps. -/
theorem of_ofComponents {opening : List Component} (h : Forward cs opening names) (hne : cs ≠ []) :
    (ofComponents cs).components = cs ∧ (ofComponents cs).steps = cs := by
  by_cases hroot : cs = [.root]
  · rw [hroot]
    exact ⟨rfl, rfl⟩
  · have hparts := parts_ofComponents h hne hroot
    obtain ⟨rfl, hopening, hnames⟩ := h
    rw [List.map_append, List.map_map] at hparts
    exact of_parts hopening hnames hroot hparts

end CrudScaffold.FilePath
