import CrudScaffold.Proofs.Run.Account
import CrudScaffold.Proofs.Store.Directory

/-!
# The files of a run

A run over empty roots fills them with files of its own. An artifact finds its file taken exactly if
an artifact before it was written to this file, and artifacts of distinct names can share one: a simple
name goes into its file name in snake case. Where no two artifacts of a run share a file, none is
skipped.
-/

namespace CrudScaffold

open FileTree QualifiedName

variable {r : ArtifactRoots} {t₀ t t' : FileTree} {kept : List QualifiedName}
  {n : QualifiedName} {p : Place} {e : Entry} {text : String}

/-- Nothing stands below a place. -/
def FileTree.EmptyBelow (t : FileTree) (p : Place) : Prop :=
  ∀ names, names ≠ [] → t.standing? (p ++ names) = none

/-- Nothing stands below a place if no entry does. -/
theorem FileTree.emptyBelow_of_entries (h : ∀ x ∈ t.entries, p <+: x.1 → x.1 = p) :
    t.EmptyBelow p := by
  intro names hne
  rw [standing?, List.lookup_eq_none_iff]
  intro x hx
  rw [bne_iff_ne]
  intro heq
  have hp := h x hx (heq ▸ List.prefix_append p names)
  rw [← heq] at hp
  exact hne (List.append_right_eq_self.mp hp)

/-- The directories of a namespace never lead to a file of an artifact. -/
theorem QualifiedName.fileNames_not_prefix_segments {ns : Namespace} (hns : ns.Plain) :
    ¬ n.fileNames <+: ns.segments := by
  intro h
  have hfile : n.fileName ∈ n.fileNames := List.mem_append_right _ (List.mem_singleton_self _)
  exact (hns _ (h.subset hfile)).2 n.dot_mem_fileName

namespace ArtifactRoots

/-- The roots are empty and apart, and the output root can be reached. -/
structure Fresh (r : ArtifactRoots) (t : FileTree) : Prop where
  forward : .parent ∉ r.output.components
  /-- No file stands on the way to the output root. -/
  way : ∀ p text, p <+: t.placeAt r.output → t.standing? p ≠ some (.file text)
  output : t.EmptyBelow (t.placeAt r.output)
  sources : ∀ root ∈ r.sources, t.EmptyBelow (t.placeAt root)
  /-- No source root lies below the output root or above it. -/
  apart : ∀ root ∈ r.sources,
    ¬ t.placeAt root <+: t.placeAt r.output ∧ ¬ t.placeAt r.output <+: t.placeAt root

/-- What a run made of a tree in which it wrote artifacts of these names. -/
structure Filed (r : ArtifactRoots) (t₀ : FileTree) (kept : List QualifiedName) (t : FileTree) :
    Prop where
  home : t.home = t₀.home
  plain : ∀ n ∈ kept, n.space.Plain
  /-- What is new is a directory on the way to an artifact, or the file of one that was written. -/
  standing : ∀ p e, t.standing? p = some e →
    t₀.standing? p = some e ∨
      (e = .directory ∧ ∃ n : QualifiedName, n.space.Plain ∧ r.OnWay t₀ n p) ∨
      ∃ n ∈ kept, p = t₀.placeAt (r.pathOf n)
  /-- What was written is there. -/
  isFile : ∀ n ∈ kept, t.isFile (r.pathOf n) = true

namespace Filed

/-- Paths stand for the same places as before. -/
theorem placeAt (h : r.Filed t₀ kept t) (path : FilePath) : t.placeAt path = t₀.placeAt path := by
  rw [FileTree.placeAt, FileTree.placeAt, h.home]

/-- Nothing was written to begin with. -/
theorem refl (r : ArtifactRoots) (t : FileTree) : r.Filed t [] t :=
  ⟨rfl, nofun, fun _ _ h => .inl h, nofun⟩

/-- Directories on the way to an artifact are added. -/
theorem adds (h : r.Filed t₀ kept t) (hn : n.space.Plain) (hadds : Adds (r.OnWay t n) t t') :
    r.Filed t₀ kept t' where
  home := hadds.home.trans h.home
  plain := h.plain
  standing p e hp := by
    rcases hadds.added p e hp with hp | ⟨he, hway⟩
    · exact h.standing p e hp
    · rw [OnWay, h.placeAt] at hway
      exact .inr (.inl ⟨he, n, hn, hway⟩)
  isFile m hm := hadds.isFile (h.isFile m hm)

/-- The file of an artifact is added at its place. -/
theorem put (h : r.Filed t₀ kept t) (hn : n.space.Plain)
    (hlocate : t.locate (r.pathOf n) = .ok (t₀.placeAt (r.pathOf n)))
    (hfree : t.standing? (t₀.placeAt (r.pathOf n)) = none) :
    r.Filed t₀ (kept ++ [n]) (t.put (t₀.placeAt (r.pathOf n)) (.file text)) where
  home := h.home
  plain := by
    rw [List.forall_mem_append, List.forall_mem_singleton]
    exact ⟨h.plain, hn⟩
  standing p e hp := by
    rw [standing?_put] at hp
    split at hp
    · next heq => exact .inr (.inr ⟨n, List.mem_append_right _ (List.mem_singleton_self n), heq⟩)
    · rcases h.standing p e hp with hp | hp | ⟨m, hm, hp⟩
      · exact .inl hp
      · exact .inr (.inl hp)
      · exact .inr (.inr ⟨m, List.mem_append_left _ hm, hp⟩)
  isFile := by
    have hkeeps := keeps_put (e := .file text) hfree
    rw [List.forall_mem_append, List.forall_mem_singleton]
    refine ⟨fun m hm => hkeeps.isFile (h.isFile m hm), isFile_iff.mpr ?_⟩
    refine ⟨?_, t₀.placeAt (r.pathOf n), text, ?_, ?_⟩
    · exact endsOpen_fileBelow hn r.output
    · exact hkeeps.locate hlocate
    · rw [standing?_put, if_pos rfl]

/-- What stands where an artifact belongs was written to the file that it has. -/
theorem sameFile_of_standing (h : r.Filed t₀ kept t) (hfresh : r.Fresh t₀) (hn : n.space.Plain)
    (hp : t.standing? (t₀.placeAt (r.pathOf n)) = some e) : ∃ m ∈ kept, SameFile m n := by
  rw [placeAt_pathOf hn] at hp
  rcases h.standing _ e hp with hp | ⟨-, m, hm, hway⟩ | ⟨m, hm, heq⟩
  · rw [hfresh.output n.fileNames n.fileNames_ne_nil] at hp
    cases hp
  · rw [OnWay, List.prefix_append_right_inj] at hway
    exact absurd hway (fileNames_not_prefix_segments hm)
  · rw [placeAt_pathOf (h.plain m hm), List.append_right_inj] at heq
    exact ⟨m, hm, fileNames_eq_iff.mp heq.symm⟩

/-- No file stands on the way to an artifact. -/
theorem not_file_of_onWay (h : r.Filed t₀ kept t) (hfresh : r.Fresh t₀) (hn : n.space.Plain)
    (hway : r.OnWay t₀ n p) : t.standing? p ≠ some (.file text) := by
  intro hp
  rcases h.standing p _ hp with hp | ⟨he, -⟩ | ⟨m, hm, heq⟩
  · rcases List.prefix_or_prefix_of_prefix hway (List.prefix_append _ _) with habove | ⟨names, rfl⟩
    · exact hfresh.way p text habove hp
    · by_cases hne : names = []
      · rw [hne, List.append_nil] at hp
        exact hfresh.way _ text List.prefix_rfl hp
      · rw [hfresh.output names hne] at hp
        cases hp
  · cases he
  · rw [OnWay, heq, placeAt_pathOf (h.plain m hm), List.prefix_append_right_inj] at hway
    exact fileNames_not_prefix_segments hn hway

/-- An artifact is there exactly if one was written to the file that it has. -/
theorem isThere_iff (h : r.Filed t₀ kept t) (hfresh : r.Fresh t₀) (hn : n.space.Plain) :
    r.isThere t n = true ↔ ∃ m ∈ kept, SameFile m n := by
  rw [isThere, List.any_cons, Bool.or_eq_true, List.any_eq_true]
  constructor
  · rintro (hfile | ⟨root, hroot, hfile⟩)
    · obtain ⟨-, p, text, hlocate, hp⟩ := isFile_iff.mp hfile
      rw [placeAt_of_locate hlocate, h.placeAt] at hp
      exact h.sameFile_of_standing hfresh hn hp
    · -- Below a source root nothing is ever written.
      obtain ⟨-, p, text, hlocate, hp⟩ := isFile_iff.mp hfile
      rw [placeAt_of_locate hlocate, h.placeAt, placeAt_fileBelow hn] at hp
      have hapart := hfresh.apart root hroot
      rcases h.standing _ _ hp with hp | ⟨he, -⟩ | ⟨m, hm, heq⟩
      · rw [hfresh.sources root hroot n.fileNames n.fileNames_ne_nil] at hp
        cases hp
      · cases he
      · have hsource : t₀.placeAt root <+: t₀.placeAt (r.pathOf m) := ⟨_, heq⟩
        have houtput : t₀.placeAt r.output <+: t₀.placeAt (r.pathOf m) :=
          ⟨_, (placeAt_pathOf (h.plain m hm) t₀).symm⟩
        rcases List.prefix_or_prefix_of_prefix hsource houtput with habove | hbelow
        · exact absurd habove hapart.1
        · exact absurd hbelow hapart.2
  · rintro ⟨m, hm, hsame⟩
    have hpath : r.pathOf m = r.pathOf n := (pathOf_eq_iff (h.plain m hm) hn).mpr hsame
    have hfile := h.isFile m hm
    rw [hpath] at hfile
    exact .inl hfile

end Filed

/-! ## Emissions on a tree -/

/-- The names of the artifacts that were written. -/
def written (results : List (Spec × Emission)) : List QualifiedName :=
  results.filterMap fun (x, e) =>
    match e with
    | .written => some x.name
    | .skippedExisting | .failed _ => none

private theorem written_cons (x : Spec × Emission) (results : List (Spec × Emission)) :
    written (x :: results) = written [x] ++ written results :=
  List.filterMap_append (l := [x])

/-- An artifact is skipped if its file is taken; else it is written there, or it fails, or it aborts. -/
theorem Filed.emit_cases (h : r.Filed t₀ kept t) (hfresh : r.Fresh t₀) {spec : Spec}
    (hn : spec.name.space.Plain) (rd : Renderer) :
    ((∃ m ∈ kept, SameFile m spec.name) ∧
        ((r.store FileTree.access).emit rd spec).run.run t = (some .skippedExisting, t)) ∨
      (¬ ∃ m ∈ kept, SameFile m spec.name) ∧
        ((∃ t', ((r.store FileTree.access).emit rd spec).run.run t = (some .written, t') ∧
            r.Filed t₀ (kept ++ [spec.name]) t') ∨
          (∃ error t', ((r.store FileTree.access).emit rd spec).run.run t =
            (some (.failed error), t') ∧ r.Filed t₀ kept t') ∨
          ((r.store FileTree.access).emit rd spec).run.run t = (none, t)) := by
  have hthere := h.isThere_iff hfresh hn
  rw [Store.run_emit (r.run_holds spec.name t) rd]
  by_cases htaken : ∃ m ∈ kept, SameFile m spec.name
  · rw [hthere.mpr htaken, if_pos rfl]
    exact .inl ⟨htaken, rfl⟩
  · rw [Bool.eq_false_iff.mpr (hthere.not.mpr htaken), if_neg Bool.false_ne_true]
    refine .inr ⟨htaken, ?_⟩
    rcases rd.source spec with (e | _) | text
    · exact .inr (.inl ⟨e, t, rfl, h⟩)
    · exact .inr (.inr rfl)
    · obtain ⟨t', hadds, hwrite⟩ := write_cases hfresh.forward hn t text
      have h' := h.adds hn hadds
      rw [h.placeAt] at hwrite
      dsimp only
      rcases hwrite with ⟨hwrite, hlocate, hfree⟩ | ⟨fault, hwrite, hexists⟩
      · rw [hwrite]
        exact .inl ⟨_, rfl, h'.put hn hlocate hfree⟩
      · have hfault : fault.isAlreadyExists = false := by
          rw [Bool.eq_false_iff]
          intro hfault
          rcases hexists hfault with ⟨e, hp⟩ | ⟨p, text, hway, hp⟩
          · exact htaken (h'.sameFile_of_standing hfresh hn hp)
          · rw [OnWay, h.placeAt] at hway
            exact h'.not_file_of_onWay hfresh hn hway hp
        rw [hwrite]
        refine .inr (.inl ⟨.emissionIo spec.name fault, t', ?_, h'⟩)
        simp only [Emission.ofWrite, hfault, Bool.false_eq_true, if_false]

/-- An emission keeps the files of a run, and it is skipped exactly if its file is taken. -/
theorem Filed.emit (h : r.Filed t₀ kept t) (hfresh : r.Fresh t₀) {spec : Spec}
    (hn : spec.name.space.Plain) {rd : Renderer} {emission : Emission}
    (hrun : ((r.store FileTree.access).emit rd spec).run.run t = (some emission, t')) :
    r.Filed t₀ (kept ++ written [(spec, emission)]) t' ∧
      (emission = .skippedExisting ↔ ∃ m ∈ kept, SameFile m spec.name) := by
  have hnone : kept ++ [] = kept := List.append_nil kept
  rcases h.emit_cases hfresh hn rd with
    ⟨htaken, hout⟩ | ⟨hfree, ⟨u, hout, h'⟩ | ⟨error, u, hout, h'⟩ | hout⟩
  · cases hrun.symm.trans hout
    exact ⟨hnone.symm ▸ h, iff_of_true rfl htaken⟩
  · cases hrun.symm.trans hout
    exact ⟨h', iff_of_false nofun hfree⟩
  · cases hrun.symm.trans hout
    exact ⟨hnone.symm ▸ h', iff_of_false nofun hfree⟩
  · cases hrun.symm.trans hout

/-- Artifacts that are emitted one after the other are written to their files, and each of them is
skipped exactly if its file is taken by then. -/
theorem Filed.emitAll (hfresh : r.Fresh t₀) {specs : List Spec}
    (hplain : ∀ x ∈ specs, x.name.space.Plain) {rd : Renderer} (h : r.Filed t₀ kept t)
    {results : List (Spec × Emission)}
    (hrun : ((r.store FileTree.access).emitAll rd specs).run.run t = (some results, t')) :
    r.Filed t₀ (kept ++ written results) t' ∧
      ∀ before x e after, results = before ++ (x, e) :: after →
        (e = .skippedExisting ↔ ∃ m ∈ kept ++ written before, SameFile m x.name) := by
  induction specs generalizing kept t results with
  | nil =>
    obtain ⟨rfl, rfl⟩ := run_pure_eq_some_iff.mp hrun
    refine ⟨(List.append_nil kept).symm ▸ h, fun before x e after hout => ?_⟩
    cases before <;> cases hout
  | cons spec specs ih =>
    rw [List.forall_mem_cons] at hplain
    obtain ⟨first, rest, u, hfirst, hrest, rfl⟩ := Store.of_run_emitAll_cons hrun
    obtain ⟨hfiled, hskipped⟩ := h.emit hfresh hplain.1 hfirst
    obtain ⟨hall, hlater⟩ := ih hplain.2 hfiled hrest
    refine ⟨?_, fun before x e after hout => ?_⟩
    · rw [written_cons, ← List.append_assoc]
      exact hall
    · cases before with
      | nil =>
        obtain ⟨hx, -⟩ := List.cons.inj hout
        obtain ⟨rfl, rfl⟩ := Prod.mk.inj hx
        rw [written, List.filterMap_nil, List.append_nil]
        exact hskipped
      | cons y before =>
        obtain ⟨rfl, hlast⟩ := List.cons.inj hout
        rw [written_cons, ← List.append_assoc]
        exact hlater before x e after hlast

/-- A name was written exactly if an artifact of this name was. -/
theorem mem_written_iff {results : List (Spec × Emission)} :
    n ∈ written results ↔ ∃ x, (x, .written) ∈ results ∧ x.name = n := by
  rw [written, List.mem_filterMap]
  constructor
  · rintro ⟨⟨x, e⟩, hx, hn⟩
    cases e with
    | written => exact ⟨x, hx, Option.some.inj hn⟩
    | skippedExisting => cases hn
    | failed _ => cases hn
  · rintro ⟨x, hx, rfl⟩
    exact ⟨(x, .written), hx, rfl⟩

end ArtifactRoots

/-! ## What is reported of files -/

/-- What a report says of the files of artifacts whose emission over empty roots led to a tree. -/
structure RunReport.TellsFiles (report : RunReport) (r : ArtifactRoots) (specs : List Spec)
    (results : List (Spec × Emission)) (t : FileTree) : Prop where
  emitted : results.map Prod.fst = specs
  entries : report.artifacts.Perm (results.map fun (x, e) => e.report x)
  /-- Two artifacts have one path exactly if their namespaces have the same segments and their simple
  names agree in snake case. -/
  path_iff : ∀ x ∈ specs, ∀ y ∈ specs, r.pathOf x.name = r.pathOf y.name ↔ SameFile x.name y.name
  /-- An artifact is skipped exactly if one before it was written to its file. -/
  skipped_iff : ∀ before x e after, results = before ++ (x, e) :: after →
    (e = .skippedExisting ↔ ∃ y, (y, .written) ∈ before ∧ SameFile y.name x.name)
  /-- What was written is there in the end. -/
  isFile : ∀ x, (x, .written) ∈ results → t.isFile (r.pathOf x.name) = true
  /-- Where no two artifacts have one file, none is skipped. -/
  none_skipped : (specs.map fun x => x.name.fileNames).Nodup →
    ∀ a ∈ report.artifacts, a.outcome ≠ .skippedExisting
  /-- Where all artifacts are written, no two of them have one file. -/
  all_written : (∀ a ∈ report.artifacts, a.outcome = .written) →
    (specs.map fun x => x.name.fileNames).Nodup

/-- A relation holds along a list if it holds between each entry and those before it. -/
theorem pairwise_of_splits {α : Type} {R : α → α → Prop} {l : List α}
    (h : ∀ before x after, l = before ++ x :: after → ∀ y ∈ before, R y x) : l.Pairwise R := by
  induction l using List.reverseRecOn with
  | nil => exact .nil
  | append_singleton l x ih =>
    rw [List.pairwise_append]
    refine ⟨ih fun before y after hl => h before y (after ++ [x]) ?_, List.pairwise_singleton R x, ?_⟩
    · rw [hl, List.append_assoc, List.cons_append]
    · intro y hy x' hx'
      rw [List.mem_singleton.mp hx']
      exact h l x [] rfl y hy

private theorem Emission.outcome_eq_skippedExisting_iff {e : Emission} :
    e.outcome = .skippedExisting ↔ e = .skippedExisting := by
  cases e <;> simp [outcome]

/-- What is skipped where files are taken is told of the files. -/
theorem RunReport.tellsFiles_of_skipped_iff {report : RunReport} {specs : List Spec}
    {results : List (Spec × Emission)} (hemitted : results.map Prod.fst = specs)
    (hentries : report.artifacts.Perm (results.map fun (x, e) => e.report x))
    (hplain : ∀ x ∈ specs, x.name.space.Plain)
    (hskipped : ∀ before x e after, results = before ++ (x, e) :: after →
      (e = .skippedExisting ↔ ∃ y, (y, .written) ∈ before ∧ SameFile y.name x.name))
    (hthere : ∀ x, (x, .written) ∈ results → t.isFile (r.pathOf x.name) = true) :
    report.TellsFiles r specs results t where
  emitted := hemitted
  entries := hentries
  path_iff x hx y hy := ArtifactRoots.pathOf_eq_iff (hplain x hx) (hplain y hy)
  skipped_iff := hskipped
  isFile := hthere
  none_skipped hnodup a ha houtcome := by
    obtain ⟨⟨x, e⟩, hx, rfl⟩ := List.mem_map.mp (hentries.mem_iff.mp ha)
    obtain ⟨before, after, rfl⟩ := List.append_of_mem hx
    obtain ⟨y, hy, hsame⟩ := (hskipped before x e after rfl).mp
      (Emission.outcome_eq_skippedExisting_iff.mp houtcome)
    rw [← hemitted, List.map_map, List.map_append, List.nodup_append] at hnodup
    refine hnodup.2.2 _ (List.mem_map_of_mem hy) _ (List.mem_map_of_mem List.mem_cons_self) ?_
    exact fileNames_eq_iff.mpr hsame
  all_written hwritten := by
    have hall : ∀ q ∈ results, q.2 = .written := by
      intro q hq
      have hreported := hentries.mem_iff.mpr (List.mem_map_of_mem hq)
      exact Emission.outcome_eq_written_iff.mp (hwritten _ hreported)
    rw [← hemitted, List.map_map, List.nodup_iff_pairwise_ne, List.pairwise_map]
    refine pairwise_of_splits fun before q after hl y hy hsame => ?_
    have hq : q ∈ results := hl ▸ List.mem_append_right before List.mem_cons_self
    have hy' : y ∈ results := hl ▸ List.mem_append_left _ hy
    have hskip : q.2 = .skippedExisting := by
      refine (hskipped before q.1 q.2 after hl).mpr ⟨y.1, ?_, fileNames_eq_iff.mp hsame⟩
      rw [← hall y hy']
      exact hy
    rw [hall q hq] at hskip
    cases hskip

namespace Generator

variable {g : Generator}

/-- A first run over empty roots writes each artifact to its file, and skips one exactly if an artifact
before it was written to the same file, unless it aborts. -/
theorem skipped_iff_file_is_taken (hidle : g.phase = .idle) {manifest : Manifest}
    (hm : manifest.models ≠ []) {r : ArtifactRoots} {t : FileTree} (hfresh : r.Fresh t)
    (hplain : ∀ x ∈ emissionOrder (g.catalog manifest).plan, x.name.space.Plain) :
    g.Aborts (r.store FileTree.access) manifest t ∨ ∃ report log after results t',
      (g.run (r.store FileTree.access) manifest).run.run t =
        (some (.completed report, log, after), t') ∧
      report.TellsFiles r (emissionOrder (g.catalog manifest).plan) results t' := by
  refine (run_cases hidle hm (r.store FileTree.access) t).imp_right ?_
  rintro ⟨emissions, t', hemitted, hrun⟩
  have hall := g.run_emissionOrder (r.store FileTree.access) (g.catalog manifest).plan t
  simp only [hemitted, Option.map_some] at hall
  obtain ⟨hfiled, hskipped⟩ := (ArtifactRoots.Filed.refl r t).emitAll hfresh hplain hall
  refine ⟨_, _, _, results emissions, t', hrun, ?_⟩
  refine RunReport.tellsFiles_of_skipped_iff (Store.map_fst_of_run_emitAll hall)
    (artifacts_reportOf_perm emissions) hplain ?_ ?_
  · intro before x e after hresults
    rw [hskipped before x e after hresults, List.nil_append]
    simp only [ArtifactRoots.mem_written_iff]
    constructor
    · rintro ⟨_, ⟨y, hy, rfl⟩, hsame⟩
      exact ⟨y, hy, hsame⟩
    · rintro ⟨y, hy, hsame⟩
      exact ⟨y.name, ⟨y, hy, rfl⟩, hsame⟩
  · intro x hx
    exact hfiled.isFile x.name (ArtifactRoots.mem_written_iff.mpr ⟨x, hx, rfl⟩)

private def freshRoots : ArtifactRoots := { output := ⟨"out"⟩, sources := [⟨"src"⟩] }

private theorem fresh_empty : freshRoots.Fresh FileTree.empty where
  forward := by decide +kernel
  way p text _ hp := by
    obtain ⟨before, after, hentries, -⟩ := List.lookup_eq_some_iff.mp hp
    have hfile : (p, Entry.file text) ∈ FileTree.empty.entries :=
      hentries ▸ List.mem_append_right before List.mem_cons_self
    simp [FileTree.empty] at hfile
  output := emptyBelow_of_entries (by decide +kernel)
  sources root hroot := by
    rw [List.mem_singleton.mp hroot]
    exact emptyBelow_of_entries (by decide +kernel)
  apart root hroot := by
    rw [List.mem_singleton.mp hroot]
    decide +kernel

private def filedConfig : Config :=
  { outputRoot := freshRoots.output, sourceRoots := freshRoots.sources }

private def filedEntity (name : String) : Manifest.Model where
  name
  space := "shop::model"
  scrudBean := false
  identifier := some { type := some "u64" }

private def calls (second : String) : Manifest :=
  { models := [filedEntity "HttpCall", filedEntity second] }

private def outcomes (report : RunReport) : List (String × Outcome) :=
  report.artifacts.map fun a => (a.name, a.outcome)

/-- Calls and replies have files of their own, so that none is skipped. -/
theorem replies_are_written :
    ∃ g, ofConfig filedConfig = .ok g ∧ ∃ report log after results t',
      (g.run (freshRoots.store FileTree.access) (calls "HttpReply")).run.run FileTree.empty =
        (some (.completed report, log, after), t') ∧
      report.TellsFiles freshRoots (emissionOrder (g.catalog (calls "HttpReply")).plan) results t' ∧
      ∀ a ∈ report.artifacts, a.outcome ≠ .skippedExisting := by
  have houtcomes : (ofConfig filedConfig).toOption.bind (fun g =>
      (g.report? (freshRoots.store FileTree.access) (calls "HttpReply") FileTree.empty).map
        outcomes) = some [("shop::model::HttpCallPredicates", .written),
          ("shop::model::HttpReplyPredicates", .written)] := by
    decide +kernel
  have hnames : (ofConfig filedConfig).toOption.map (fun g =>
      let specs := emissionOrder (g.catalog (calls "HttpReply")).plan
      decide ((∀ x ∈ specs, x.name.space.Plain) ∧ (specs.map fun x => x.name.fileNames).Nodup)) =
        some true := by
    decide +kernel
  obtain ⟨g, report, log, after, t', hg, hrun, -⟩ := exists_completed houtcomes
  rw [hg, Except.toOption, Option.map_some, Option.some.injEq, decide_eq_true_iff] at hnames
  have hmodels : (calls "HttpReply").models ≠ [] := List.cons_ne_nil _ _
  rcases skipped_iff_file_is_taken (phase_of_ofConfig g hg) hmodels fresh_empty hnames.1 with
    ⟨_, -, habort⟩ | ⟨_, _, _, results, _, hrun', htells⟩
  · cases hrun.symm.trans habort
  · cases hrun.symm.trans hrun'
    exact ⟨g, hg, report, log, after, results, t', hrun, htells, htells.none_skipped hnames.2⟩

/-- Names that differ in their capitals only are different names with one file: over empty roots, the
second artifact is skipped. -/
theorem http_calls_share_file :
    freshRoots.Fresh FileTree.empty ∧ ∃ g, ofConfig filedConfig = .ok g ∧
      ∃ report log after t',
        (g.run (freshRoots.store FileTree.access) (calls "HTTPCall")).run.run FileTree.empty =
          (some (.completed report, log, after), t') ∧
        outcomes report = [("shop::model::HttpCallPredicates", .written),
          ("shop::model::HTTPCallPredicates", .skippedExisting)] := by
  have houtcomes : (ofConfig filedConfig).toOption.bind (fun g =>
      (g.report? (freshRoots.store FileTree.access) (calls "HTTPCall") FileTree.empty).map
        outcomes) = some [("shop::model::HttpCallPredicates", .written),
          ("shop::model::HTTPCallPredicates", .skippedExisting)] := by
    decide +kernel
  obtain ⟨g, report, log, after, t', hg, hrun, hreport⟩ := exists_completed houtcomes
  exact ⟨fresh_empty, g, hg, report, log, after, t', hrun, hreport⟩

end Generator

end CrudScaffold
