import CrudScaffold.Proofs.Name.Namespace
import CrudScaffold.Proofs.Store.FileTree
import CrudScaffold.Proofs.Text.WordCase
import CrudScaffold.Run.Emission
import CrudScaffold.Store.Directory

/-!
# Artifacts in a tree of files

The file of an artifact stands at the place of its root, behind the segments of its namespace and its
simple name in snake case. So two artifacts have one file exactly if they agree in these. Writing an
artifact adds directories on the way and then its file, or else leaves it at the directories.
-/

namespace CrudScaffold

open Text

/-- No segment of a namespace leads anywhere but into a directory of its name, and none can be the
name of a file of an artifact. -/
def Namespace.Plain (ns : Namespace) : Prop :=
  ∀ segment ∈ ns.segments, '/' ∉ segment.toList ∧ '.' ∉ segment.toList

instance (ns : Namespace) : Decidable ns.Plain := inferInstanceAs (Decidable (∀ _ ∈ _, _))

/-- Every segment of a plain namespace is the name of a directory. -/
theorem Namespace.Plain.isName {ns : Namespace} (h : ns.Plain) {segment : String}
    (hsegment : segment ∈ ns.segments) : FilePath.IsName segment := by
  obtain ⟨hslash, hdot⟩ := h segment hsegment
  refine ⟨ne_empty_of_mem_segments hsegment, ?_, ?_, hslash⟩
  · rintro rfl
    exact hdot (by decide)
  · rintro rfl
    exact hdot (by decide)

namespace QualifiedName

variable {n m : QualifiedName}

/-- The name of the file of an artifact. -/
def fileName (n : QualifiedName) : String := snakeCase n.name ++ "." ++ ArtifactRoots.extension

/-- The names of the directories that lead to the file of an artifact, and of the file. -/
def fileNames (n : QualifiedName) : List String := n.space.segments ++ [n.fileName]

/-- Two artifacts have one file. -/
def SameFile (n m : QualifiedName) : Prop :=
  n.space.segments = m.space.segments ∧ snakeCase n.name = snakeCase m.name

instance (n m : QualifiedName) : Decidable (SameFile n m) := inferInstanceAs (Decidable (_ ∧ _))

/-- There is a dot in the name of a file. -/
theorem dot_mem_fileName (n : QualifiedName) : '.' ∈ n.fileName.toList := by
  simp [fileName]

/-- The name of an artifact's file can be one in a directory. -/
theorem isName_fileName (n : QualifiedName) : FilePath.IsName n.fileName := by
  have hletter : 'r' ∈ n.fileName.toList := by simp [fileName, ArtifactRoots.extension]
  have hne : ∀ {name : String}, 'r' ∉ name.toList → n.fileName ≠ name :=
    fun hname heq => hname (heq ▸ hletter)
  refine ⟨hne (by decide), hne (by decide), hne (by decide), ?_⟩
  simp [fileName, ArtifactRoots.extension, slash_not_mem_snakeCase]

/-- The way to a file ends with its name. -/
theorem fileNames_ne_nil (n : QualifiedName) : n.fileNames ≠ [] := by
  simp [fileNames]

private theorem isName_of_mem_fileNames (h : n.space.Plain) {name : String}
    (hname : name ∈ n.fileNames) :
    FilePath.IsName name := by
  rcases List.mem_append.mp hname with hname | hname
  · exact h.isName hname
  · rw [List.mem_singleton.mp hname]
    exact n.isName_fileName

/-- Two artifacts have one way to their files exactly if they share a file. -/
theorem fileNames_eq_iff : n.fileNames = m.fileNames ↔ SameFile n m := by
  constructor
  · intro h
    have hlength : [n.fileName].length = [m.fileName].length := by
      rw [List.length_singleton, List.length_singleton]
    rw [fileNames, fileNames] at h
    obtain ⟨hsegments, hfile⟩ := List.append_inj' h hlength
    rw [List.singleton_inj, fileName, fileName, String.append_left_inj,
      String.append_left_inj] at hfile
    exact ⟨hsegments, hfile⟩
  · rintro ⟨hsegments, hname⟩
    rw [fileNames, fileNames, fileName, fileName, hsegments, hname]

example : SameFile ⟨⟨"shop::model"⟩, "HttpCall"⟩ ⟨⟨"shop::::model"⟩, "HTTPCall"⟩ := by decide +kernel

/-- The file of an artifact is found by following these names. -/
theorem relativeFile_eq (n : QualifiedName) :
    n.relativeFile ArtifactRoots.extension =
      n.fileNames.foldl (fun p name => p.push ⟨name⟩) ⟨""⟩ := by
  rw [relativeFile, FilePath.ofParts, fileNames, List.foldl_append, List.foldl_cons, List.foldl_nil,
    fileName]

end QualifiedName

namespace ArtifactRoots

open FilePath FileTree QualifiedName

variable {r : ArtifactRoots} {n m : QualifiedName} {t t' : FileTree} {root : FilePath} {text : String}

/-! ## Files of artifacts -/

/-- The components of a file of an artifact. -/
theorem components_fileBelow (hn : n.space.Plain) (root : FilePath) :
    (fileBelow root n).components = root.components ++ n.fileNames.map .named := by
  have hnames : ∀ name ∈ n.fileNames, IsName name := fun _ => isName_of_mem_fileNames hn
  obtain ⟨habsolute, hhere⟩ := relative_foldl_push hnames (p := ⟨""⟩) rfl nofun
  rw [fileBelow, relativeFile_eq, components_push habsolute hhere, components_foldl_push hnames]
  rfl

/-- The place of a file of an artifact. -/
theorem placeAt_fileBelow (hn : n.space.Plain) (t : FileTree) (root : FilePath) :
    t.placeAt (fileBelow root n) = t.placeAt root ++ n.fileNames := by
  rw [placeAt, components_fileBelow hn, follow_append, follow_names, placeAt]

/-- The file of an artifact is at the end of its way below the output root. -/
theorem placeAt_pathOf (hn : n.space.Plain) (t : FileTree) :
    t.placeAt (r.pathOf n) = t.placeAt r.output ++ n.fileNames :=
  placeAt_fileBelow hn t r.output

/-- A file of an artifact is not a directory. -/
theorem endsOpen_fileBelow (hn : n.space.Plain) (root : FilePath) :
    (fileBelow root n).endsOpen = false := by
  have hnames : ∀ name ∈ n.fileNames, IsName name := fun _ => isName_of_mem_fileNames hn
  obtain ⟨habsolute, -⟩ := relative_foldl_push hnames (p := ⟨""⟩) rfl nofun
  refine endsOpen_of_suffix n.isName_fileName (List.IsSuffix.trans ?_ (suffix_push ?_))
  · rw [relativeFile]
    exact suffix_push (isAbsolute_of_isName n.isName_fileName)
  · rw [relativeFile_eq, habsolute]

/-- Two artifacts have one path exactly if they have one file. -/
theorem pathOf_eq_iff (hn : n.space.Plain) (hm : m.space.Plain) :
    r.pathOf n = r.pathOf m ↔ SameFile n m := by
  constructor
  · intro h
    have hcomponents := congrArg components h
    rw [pathOf, pathOf, components_fileBelow hn, components_fileBelow hm,
      List.append_right_inj] at hcomponents
    have hnamed : Function.Injective Component.named := fun _ _ => Component.named.inj
    exact fileNames_eq_iff.mp (List.map_injective_iff.mpr hnamed hcomponents)
  · intro h
    rw [pathOf, pathOf, fileBelow, fileBelow, relativeFile_eq, relativeFile_eq,
      fileNames_eq_iff.mpr h]

/-! ## Questions and writes -/

/-- An artifact is found below one of the roots. -/
def isThere (r : ArtifactRoots) (t : FileTree) (n : QualifiedName) : Bool :=
  (r.output :: r.sources).any fun root => t.isFile (fileBelow root n)

private theorem run_anyFile (paths : List FilePath) (t : FileTree) :
    (anyFile FileTree.access paths).run t = (paths.any t.isFile, t) := by
  induction paths with
  | nil => rfl
  | cons path paths ih =>
    rw [anyFile, StateT.run_bind, List.any_cons]
    change StateT.run (if t.isFile path then _ else _) t = _
    split
    · next hfile =>
      rw [hfile]
      rfl
    · next hfile =>
      rw [Bool.eq_false_iff.mpr hfile, Bool.false_or, ih]

/-- The store looks for the file of an artifact, and leaves the tree as it is. -/
theorem run_holds (r : ArtifactRoots) (n : QualifiedName) (t : FileTree) :
    ((r.store FileTree.access).holds n).run t = (r.isThere t n, t) := by
  have hany : r.isThere t n =
      ((r.output :: r.sources).map fun root => fileBelow root n).any t.isFile := by
    rw [isThere, List.any_map, Function.comp_def]
  rw [hany]
  exact run_anyFile _ t

/-- First the directories on the way are made, then the file. -/
theorem run_write (r : ArtifactRoots) (n : QualifiedName) (text : String) (t : FileTree) :
    ((r.store FileTree.access).write n text).run t =
      match (makeDirectories (r.pathOf n).outer).on t with
      | (.ok (), t') => (create (r.pathOf n) text).on t'
      | (.error fault, t') => (.error fault, t') := by
  change StateT.run (r.write FileTree.access n text) t = _
  rw [ArtifactRoots.write]
  generalize r.pathOf n = path
  rw [StateT.run_bind, run_makeDirectories]
  generalize (makeDirectories path.outer).on t = out
  obtain ⟨result, t'⟩ := out
  cases result with
  | error fault => rfl
  | ok _ => exact run_create path text t'

/-! ## What a write adds -/

/-- The places of the directories that lead to the file of an artifact. -/
def OnWay (r : ArtifactRoots) (t : FileTree) (n : QualifiedName) (p : Place) : Prop :=
  p <+: t.placeAt r.output ++ n.space.segments

/-- The front of a path that does not go back leads to a place on the way. -/
theorem follow_front {cs front opening : List Component} {names : List String}
    (h : Forward cs opening names) (hfront : front <+: cs) (hne : front ≠ []) (p : Place) :
    follow p front <+: follow p cs := by
  obtain ⟨names', ⟨rest, rfl⟩, h'⟩ := h.of_prefix hfront hne
  rw [h.eq, h'.eq, follow_append, follow_append, follow_names, follow_names, ← List.append_assoc]
  exact List.prefix_append _ _

/-- Making the directories that lead to the file of an artifact adds directories on its way. -/
theorem makes_outer (hforward : .parent ∉ r.output.components) (hn : n.space.Plain)
    (t : FileTree) : Makes (r.OnWay t n) t ((makeDirectories (r.pathOf n).outer).on t) := by
  have hcomponents : (r.pathOf n).components.dropLast =
      r.output.components ++ n.space.segments.map .named := by
    rw [pathOf, components_fileBelow hn, fileNames, List.map_append, List.map_singleton,
      ← List.append_assoc, List.dropLast_concat]
  obtain ⟨names, hnames⟩ := exists_forward hforward
  have hway : Forward (r.output.components ++ n.space.segments.map .named) r.output.opening
      (names ++ n.space.segments) := by
    refine ⟨?_, hnames.opening, ?_⟩
    · rw [hnames.eq, List.map_append, List.append_assoc]
    · intro name hname
      exact (List.mem_append.mp hname).elim (hnames.isName name) hn.isName
  rw [outer, hcomponents]
  by_cases hnone : r.output.components ++ n.space.segments.map .named = []
  · rw [hnone, on_makeDirectories]
    exact makes_of_same nofun
  · obtain ⟨hcs, hsteps⟩ := of_ofComponents hway hnone
    refine makes_makeDirectories hsteps hcs hnone fun front hfront hne => ?_
    have hplace := follow_front hway hfront hne t.home
    rw [follow_append, follow_names] at hplace
    exact hplace

/-- A write adds directories on the way. Then it adds the file at a free place, or it fails; that
something is there already it finds where something stands at the place or a file on the way. -/
theorem write_cases (hforward : .parent ∉ r.output.components) (hn : n.space.Plain)
    (t : FileTree) (text : String) :
    ∃ t', Adds (r.OnWay t n) t t' ∧
      ((((r.store FileTree.access).write n text).run t =
            (.ok (), t'.put (t.placeAt (r.pathOf n)) (.file text)) ∧
          t'.locate (r.pathOf n) = .ok (t.placeAt (r.pathOf n)) ∧
          t'.standing? (t.placeAt (r.pathOf n)) = none) ∨
        ∃ fault, ((r.store FileTree.access).write n text).run t = (.error fault, t') ∧
          (fault.isAlreadyExists = true →
            (∃ e, t'.standing? (t.placeAt (r.pathOf n)) = some e) ∨
              ∃ p text, r.OnWay t n p ∧ t'.standing? p = some (.file text))) := by
  obtain ⟨hadds, hblocked⟩ := makes_outer hforward hn t
  rw [run_write]
  generalize (makeDirectories (r.pathOf n).outer).on t = out at hadds hblocked
  obtain ⟨result, t'⟩ := out
  refine ⟨t', hadds, ?_⟩
  cases result with
  | error fault =>
    refine .inr ⟨fault, rfl, fun hexists => .inr ?_⟩
    cases fault with
    | alreadyExists message => exact hblocked message rfl
    | _ => cases hexists
  | ok _ =>
    dsimp only
    rw [on_create]
    cases hlocate : t'.locate (r.pathOf n) with
    | error fault =>
      refine .inr ⟨fault, rfl, fun hexists => ?_⟩
      cases fault with
      | alreadyExists message => exact absurd hlocate (locate_ne_alreadyExists message)
      | _ => cases hexists
    | ok p =>
      have hp : p = t.placeAt (r.pathOf n) :=
        (placeAt_of_locate hlocate).trans (hadds.placeAt (r.pathOf n))
      have hclosed : (r.pathOf n).endsOpen = false := endsOpen_fileBelow hn r.output
      dsimp only
      rw [hp, hclosed, if_neg Bool.false_ne_true]
      cases hstanding : t'.standing? (t.placeAt (r.pathOf n)) with
      | none =>
        rw [Option.isSome_none, if_neg Bool.false_ne_true]
        exact .inl ⟨rfl, rfl, rfl⟩
      | some e =>
        rw [Option.isSome_some, if_pos rfl]
        exact .inr ⟨.fileExists, rfl, fun _ => .inl ⟨e, rfl⟩⟩

end ArtifactRoots

end CrudScaffold
