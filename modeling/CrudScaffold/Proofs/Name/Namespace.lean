import CrudScaffold.Name.Namespace
import CrudScaffold.Proofs.Text.Path

/-!
# Namespaces without colons at their ends

A namespace that is read from a text has no colons at its ends. It keeps that on the way to its
siblings, one level up and one down. One level down and one level up lead back to it.
-/

namespace CrudScaffold.Namespace

open Text

variable {ns : Namespace} {segment : String}

/-- The text of a namespace is read as this namespace again. -/
theorem ofText_text (space : String) : ofText (ofText space).text = ofText space := by
  rw [ofText, ofText, String.toList_ofList, stripWhile_stripWhile]

/-- There are no colons at the ends: the text is read as this namespace. -/
def IsBare (ns : Namespace) : Prop := ofText ns.text = ns

/-- A namespace read from a text is bare. -/
theorem isBare_ofText (space : String) : (ofText space).IsBare := ofText_text space

/-- The root is bare. -/
theorem isBare_root : root.IsBare := rfl

/-- Whether a namespace is bare shows in its first and last character. -/
theorem isBare_iff :
    ns.IsBare ↔ ns.text.toList.head? ≠ some ':' ∧ ns.text.toList.getLast? ≠ some ':' := by
  have hcolon {first : Option Char} : (∀ c ∈ first, (c == ':') = false) ↔ first ≠ some ':' := by
    cases first <;> simp
  obtain ⟨text⟩ := ns
  rw [IsBare, ofText, Namespace.mk.injEq, ← String.toList_inj, String.toList_ofList,
    stripWhile_eq_self_iff, hcolon, hcolon]

/-- A namespace begins as the text that it is read from, if that does not begin with a colon. -/
theorem head?_ofText {space : String} (h : space.toList.head? ≠ some ':') :
    (ofText space).text.toList.head? = space.toList.head? := by
  rw [ofText, String.toList_ofList]
  obtain ⟨front, back, hcs, hfront, hback⟩ := exists_stripWhile (· == ':') space.toList
  generalize stripWhile (· == ':') space.toList = kept at hcs
  rw [hcs] at h ⊢
  -- What is dropped is nothing but colons, and there is none in front.
  cases front with
  | cons c front => exact absurd (by simpa using hfront c List.mem_cons_self) h
  | nil =>
    cases kept with
    | cons c kept => rfl
    | nil =>
      cases back with
      | cons c back => exact absurd (by simpa using hback c List.mem_cons_self) h
      | nil => rfl

/-- One level up a namespace starts as it did, or it is the root. -/
theorem head?_parent (ns : Namespace) :
    ns.parent = root ∨ ns.parent.text.toList.head? = ns.text.toList.head? := by
  unfold parent
  split
  · next outer name hcut =>
    obtain ⟨htext, -⟩ := of_splitLastPath hcut
    cases outer with
    | nil => exact .inl rfl
    | cons c outer =>
      refine .inr ?_
      rw [htext, String.toList_ofList]
      rfl
  · exact .inl rfl

private theorem eq_root_of_isRoot (h : ns.isRoot = true) : ns = root := by
  obtain ⟨text⟩ := ns
  exact congrArg mk (by simpa [isRoot] using h)

/-- The text of a child below a namespace that is not the root. -/
theorem toList_text_child (h : ¬ ns.isRoot = true) :
    (ns.child segment).text.toList = ns.text.toList ++ ':' :: ':' :: segment.toList := by
  rw [child, if_neg h, String.toList_append, String.toList_append, List.append_assoc]
  rfl

/-- The siblings of a namespace without colons at its ends have none either. -/
theorem IsBare.sibling (h : ns.IsBare) (hhead : segment.toList.head? ≠ some ':')
    (hlast : segment.toList.getLast? ≠ some ':') (hsegment : segment ≠ "") :
    (ns.parent.child segment).IsBare := by
  rw [isBare_iff] at h ⊢
  unfold child
  by_cases hroot : ns.parent.isRoot = true
  · rw [if_pos hroot]
    exact ⟨hhead, hlast⟩
  · rw [if_neg hroot]
    have hne : segment.toList ≠ [] := by simpa using hsegment
    have houter : ns.parent.text.toList ≠ [] := by simpa [isRoot] using hroot
    have hparent : ns.parent.text.toList.head? = ns.text.toList.head? := by
      refine (head?_parent ns).resolve_left fun hparent => ?_
      rw [hparent] at hroot
      exact hroot rfl
    simp only [String.toList_append, List.append_assoc]
    rw [List.head?_append_of_ne_nil _ houter, hparent, List.getLast?_append_of_ne_nil,
      List.getLast?_append_of_ne_nil _ hne]
    · exact ⟨h.1, hlast⟩
    · simp

/-! ## Segments -/

/-- Empty segments do not count. -/
theorem ne_empty_of_mem_segments (h : segment ∈ ns.segments) : segment ≠ "" := by
  obtain ⟨cs, hcs, rfl⟩ := List.mem_map.mp h
  simpa using (List.mem_filter.mp hcs).2

private theorem filter_piece {piece : List Char} (h : piece ≠ []) :
    ([piece].filter fun s => !s.isEmpty) = [piece] := by
  simp [h]

/-- A namespace that is a segment has no other one. -/
theorem segments_mk (h : IsSegment segment.toList) (hne : segment ≠ "") :
    (mk segment).segments = [segment] := by
  have hpiece : segment.toList ≠ [] := by simpa using hne
  rw [segments, splitPath_of_whole h.whole, filter_piece hpiece, List.map_singleton,
    String.ofList_toList]

/-- A sibling of a namespace has the first segments of it. Its own segment comes last, and takes a colon
with it that is in excess of the separator in front. -/
theorem exists_segments_sibling (ns : Namespace) (h : IsSegment segment.toList) (hne : segment ≠ "") :
    ∃ front lead, front <+: ns.segments ∧ (lead = "" ∨ lead = ":") ∧
      (ns.parent.child segment).segments = front ++ [lead ++ segment] := by
  have halone (hroot : ns.parent.isRoot = true) :
      ∃ front lead, front <+: ns.segments ∧ (lead = "" ∨ lead = ":") ∧
        (ns.parent.child segment).segments = front ++ [lead ++ segment] := by
    refine ⟨[], "", List.nil_prefix, .inl rfl, ?_⟩
    rw [child, if_pos hroot, segments_mk h hne, String.empty_append, List.nil_append]
  cases hcut : splitLastPath ns.text.toList with
  | none =>
    refine halone ?_
    rw [parent, hcut]
    rfl
  | some cut =>
    obtain ⟨outer, name⟩ := cut
    by_cases hroot : ns.parent.isRoot = true
    · exact halone hroot
    · obtain ⟨htext, hname⟩ := of_splitLastPath hcut
      obtain ⟨front, lead, -, hlead, hpieces⟩ := exists_splitPath_append outer
      have hparent : ns.parent.text.toList = outer := by
        rw [parent, hcut, String.toList_ofList]
      refine ⟨(front.filter fun s => !s.isEmpty).map .ofList, .ofList lead, ?_, ?_, ?_⟩
      · rw [segments, htext, hpieces name hname, List.filter_append, List.map_append]
        exact List.prefix_append _ _
      · exact hlead.imp (congrArg String.ofList) (congrArg String.ofList)
      · have hpiece : lead ++ segment.toList ≠ [] := by simp [hne]
        rw [segments, toList_text_child hroot, hparent, hpieces _ h, List.filter_append,
          filter_piece hpiece, List.map_append, List.map_singleton, String.ofList_append,
          String.ofList_toList]

/-! ## One level down and up -/

/-- Every text without a colon can stand behind a separator. -/
theorem isSegment_of_not_mem {cs : List Char} (h : ':' ∉ cs) : IsSegment cs where
  whole hinner := h (hinner.subset List.mem_cons_self)
  head hhead := h (List.mem_of_head? hhead)

/-- One level down and one level up lead back. -/
theorem parent_child (ns : Namespace) (h : IsSegment segment.toList) :
    (ns.child segment).parent = ns := by
  by_cases hroot : ns.isRoot = true
  · rw [child, if_pos hroot, parent, splitLastPath_eq_none_iff.mpr h.whole, eq_root_of_isRoot hroot]
  · rw [parent, toList_text_child hroot, splitLastPath_append h]
    exact congrArg mk String.ofList_toList

/-- A child has one segment more: no colon at the end of the namespace is mistaken for a part of the
separator behind it. -/
theorem IsBare.segments_child (hbare : ns.IsBare) (h : IsSegment segment.toList)
    (hne : segment ≠ "") : (ns.child segment).segments = ns.segments ++ [segment] := by
  by_cases hroot : ns.isRoot = true
  · rw [child, if_pos hroot, segments_mk h hne, eq_root_of_isRoot hroot]
    rfl
  · have hpiece : segment.toList ≠ [] := by simpa using hne
    rw [segments, toList_text_child hroot, splitPath_append h (isBare_iff.mp hbare).2,
      List.filter_append, filter_piece hpiece, List.map_append, List.map_singleton,
      String.ofList_toList, segments]

/-- The child of a namespace has the namespace as its parent and one segment more. Runs of colons inside
the namespace do no harm, although its parent is cut off from the right and its segments from the
left. -/
theorem child_is_one_level_down (path : String) (hne : segment ≠ "") (hfree : ':' ∉ segment.toList) :
    ((ofText path).child segment).parent = ofText path ∧
      ((ofText path).child segment).segments = (ofText path).segments ++ [segment] :=
  have h := isSegment_of_not_mem hfree
  ⟨parent_child _ h, (isBare_ofText path).segments_child h hne⟩

/-- A namespace with a run of colons in it, and colons at its ends. -/
theorem dto_space_is_one_level_down :
    "dto" ≠ "" ∧ ':' ∉ "dto".toList ∧ ofText ":shop:::model::" = ⟨"shop:::model"⟩ ∧
      ((ofText ":shop:::model::").child "dto").parent = ⟨"shop:::model"⟩ ∧
      ((ofText ":shop:::model::").child "dto").segments = ["shop", ":model", "dto"] := by
  have hne : "dto" ≠ "" := by decide
  have hfree : ':' ∉ "dto".toList := by decide
  have hspace : ofText ":shop:::model::" = ⟨"shop:::model"⟩ := by decide +kernel
  have hsegments : (ofText ":shop:::model::").segments = ["shop", ":model"] := by decide +kernel
  obtain ⟨hparent, hchild⟩ := child_is_one_level_down ":shop:::model::" hne hfree
  refine ⟨hne, hfree, hspace, hparent.trans hspace, ?_⟩
  rw [hchild, hsegments]
  rfl

end CrudScaffold.Namespace
