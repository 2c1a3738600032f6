import CrudScaffold.FileTree
import CrudScaffold.Proofs.Except
import CrudScaffold.Proofs.Text.FilePath
import Mathlib.Data.List.Infix

/-!
# What operations do to a tree of files

A path leads to the same place in every tree in which it can be followed. Making directories adds
directories on the way and leaves everything else alone, whether it ends well or not; where it says
that something is there already, it met a file. Making a file adds this file alone.
-/

namespace CrudScaffold.FileTree

open FilePath

variable {t t' t'' : FileTree} {p q : Place} {e : Entry} {cs : List Component} {path : FilePath}

/-! ## Places -/

/-- What stands at a place after something is put somewhere. -/
theorem standing?_put (t : FileTree) (p : Place) (e : Entry) (q : Place) :
    (t.put p e).standing? q = if q = p then some e else t.standing? q := by
  have hfiltered : ∀ l : List (Place × Entry), (l.filter fun entry => entry.1 != p).lookup q =
      if q = p then none else l.lookup q := by
    intro l
    induction l with
    | nil => split <;> rfl
    | cons entry l ih =>
      obtain ⟨r, e'⟩ := entry
      by_cases hr : r = p
      · subst hr
        rw [List.filter_cons_of_neg (by simp), ih]
        by_cases hq : q = r
        · rw [if_pos hq, if_pos hq]
        · rw [if_neg hq, if_neg hq, List.lookup_cons, beq_false_of_ne hq]
      · rw [List.filter_cons_of_pos (by simpa using hr), List.lookup_cons, List.lookup_cons, ih]
        by_cases hq : q = r
        · subst hq
          simp only [beq_self_eq_true, if_neg hr]
        · rw [beq_false_of_ne hq]
  change (t.entries.filter (fun entry => entry.1 != p) ++ [(p, e)]).lookup q = _
  rw [List.lookup_append, hfiltered, standing?]
  by_cases hq : q = p
  · subst hq
    simp
  · simp [hq, List.lookup_cons, beq_false_of_ne hq]

/-- The place to which components lead from a place, whatever stands on the way. -/
def follow : Place → List Component → Place
  | p, [] => p
  | _, .root :: rest => follow [] rest
  | p, .here :: rest => follow p rest
  | p, .parent :: rest => follow p.dropLast rest
  | p, .named name :: rest => follow (p ++ [name]) rest

/-- Components are followed one after the other. -/
theorem follow_append (p : Place) (cs cs' : List Component) :
    follow p (cs ++ cs') = follow (follow p cs) cs' := by
  induction cs generalizing p with
  | nil => rfl
  | cons c cs ih => cases c <;> exact ih _

/-- Names lead down. -/
theorem follow_names (p : Place) (names : List String) :
    follow p (names.map .named) = p ++ names := by
  induction names generalizing p with
  | nil => rw [List.map_nil, follow, List.append_nil]
  | cons name names ih =>
    rw [List.map_cons, follow, ih, List.append_assoc, List.singleton_append]

/-- The steps of a path lead where its components lead. -/
theorem follow_steps (p : Place) (path : FilePath) :
    follow p path.steps = follow p path.components := by
  have hparts : ∀ (l : List (List Char)) (p : Place),
      follow p (l.filterMap Component.stepOf?) = follow p (l.filterMap Component.ofPart?) := by
    intro l
    induction l with
    | nil => exact fun _ => rfl
    | cons part l ih =>
      intro p
      by_cases hdot : part = ['.']
      · have hstep : Component.stepOf? part = some .here := by
          rw [Component.stepOf?, if_pos hdot]
        have hpart : Component.ofPart? part = none := by
          rw [hdot]
          rfl
        rw [List.filterMap_cons_some hstep, List.filterMap_cons_none hpart, follow, ih]
      · have hstep : Component.stepOf? part = Component.ofPart? part := by
          rw [Component.stepOf?, if_neg hdot]
        cases hpart : Component.ofPart? part with
        | none =>
          rw [List.filterMap_cons_none (hstep.trans hpart), List.filterMap_cons_none hpart, ih]
        | some c =>
          rw [List.filterMap_cons_some (hstep.trans hpart), List.filterMap_cons_some hpart]
          cases c <;> exact ih _
  rw [steps_eq, components_eq, follow_append, follow_append, hparts, opening]
  split
  · rfl
  · split <;> rfl

/-- Where components can be followed in a tree, they lead to their place. -/
theorem follow_of_walk (h : t.walk p cs = .ok q) : q = follow p cs := by
  induction cs generalizing p with
  | nil => exact (Except.ok.inj h).symm
  | cons c cs ih =>
    unfold walk at h
    split at h
    · cases h
    · cases h
    · cases c with
      | root => exact ih h
      | here => exact ih h
      | parent => exact ih h
      | named name =>
        dsimp only at h
        split at h
        · cases h
        · exact ih h

/-- Following components never finds that something is there already. -/
theorem walk_ne_alreadyExists (m : String) : t.walk p cs ≠ .error (.alreadyExists m) := by
  induction cs generalizing p with
  | nil => nofun
  | cons c cs ih =>
    unfold walk
    split
    · nofun
    · nofun
    · cases c with
      | root => exact ih
      | here => exact ih
      | parent => exact ih
      | named name =>
        dsimp only
        split
        · nofun
        · exact ih

/-- Components can still be followed where everything is left standing. -/
theorem walk_of_kept (hkept : ∀ p e, t.standing? p = some e → t'.standing? p = some e)
    (h : t.walk p cs = .ok q) : t'.walk p cs = .ok q := by
  induction cs generalizing p with
  | nil => exact h
  | cons c cs ih =>
    unfold walk at h ⊢
    split at h
    · cases h
    · cases h
    · next hdirectory =>
      rw [hkept p .directory hdirectory]
      cases c with
      | root => exact ih h
      | here => exact ih h
      | parent => exact ih h
      | named name =>
        dsimp only at h ⊢
        split at h
        · cases h
        · next hshort =>
          rw [if_neg hshort]
          exact ih h

/-- The place to which a path leads in a tree. -/
def placeAt (t : FileTree) (path : FilePath) : Place := follow t.home path.components

private theorem checked_ne_alreadyExists (m : String) : checked path ≠ .error (.alreadyExists m) := by
  unfold checked
  split
  · nofun
  · split
    · nofun
    · split <;> nofun

private theorem steps_of_checked (h : checked path = .ok cs) : cs = path.steps := by
  unfold checked at h
  split at h
  · cases h
  · split at h
    · cases h
    · split at h
      · cases h
      · exact (Except.ok.inj h).symm

/-- Where a path can be followed in a tree, it leads to its place. -/
theorem placeAt_of_locate (h : t.locate path = .ok p) : p = t.placeAt path := by
  obtain ⟨cs, hcs, h⟩ := bind_eq_ok_iff.mp h
  rw [placeAt, ← follow_steps, ← steps_of_checked hcs]
  exact follow_of_walk h

/-- Following a path never finds that something is there already. -/
theorem locate_ne_alreadyExists (m : String) : t.locate path ≠ .error (.alreadyExists m) := by
  intro h
  rcases bind_eq_error_iff.mp h with h | ⟨cs, -, h⟩
  · exact checked_ne_alreadyExists m h
  · exact walk_ne_alreadyExists m h

/-- A path leads to a file if it can be followed to one and does not end with a slash. -/
theorem isFile_iff : t.isFile path = true ↔
    path.endsOpen = false ∧ ∃ p text, t.locate path = .ok p ∧ t.standing? p = some (.file text) := by
  unfold isFile find
  cases hlocate : t.locate path with
  | error fault => simp [bind, Except.bind]
  | ok p =>
    cases hstanding : t.standing? p with
    | none => simp [bind, Except.bind, hstanding, throw, throwThe, MonadExceptOf.throw]
    | some e =>
      cases e with
      | directory => simp [bind, Except.bind, hstanding, pure, Except.pure]
      | file text =>
        cases path.endsOpen <;>
          simp [bind, Except.bind, hstanding, pure, Except.pure, throw, throwThe,
            MonadExceptOf.throw]

/-! ## What is added to a tree -/

/-- A tree has everything that another one has, where it was. -/
structure Keeps (t t' : FileTree) : Prop where
  home : t'.home = t.home
  kept : ∀ p e, t.standing? p = some e → t'.standing? p = some e

/-- What is kept twice is kept. -/
theorem Keeps.trans (h : Keeps t t') (h' : Keeps t' t'') : Keeps t t'' where
  home := h'.home.trans h.home
  kept p e hp := h'.kept p e (h.kept p e hp)

/-- Nothing is lost where something is put at a free place. -/
theorem keeps_put (hfree : t.standing? p = none) : Keeps t (t.put p e) where
  home := rfl
  kept q e' hq := by
    have hne : q ≠ p := by
      rintro rfl
      rw [hfree] at hq
      cases hq
    rw [standing?_put, if_neg hne, hq]

/-- A path leads where it led before. -/
theorem Keeps.placeAt (h : Keeps t t') (path : FilePath) : t'.placeAt path = t.placeAt path := by
  rw [FileTree.placeAt, FileTree.placeAt, h.home]

/-- A path that leads somewhere still leads there. -/
theorem Keeps.locate (h : Keeps t t') (hlocate : t.locate path = .ok p) :
    t'.locate path = .ok p := by
  obtain ⟨cs, hcs, hplace⟩ := bind_eq_ok_iff.mp hlocate
  refine bind_eq_ok_iff.mpr ⟨cs, hcs, ?_⟩
  rw [placeOf] at hplace ⊢
  rw [h.home]
  exact walk_of_kept h.kept hplace

/-- A path that leads to a file still does. -/
theorem Keeps.isFile (h : Keeps t t') (hfile : t.isFile path = true) : t'.isFile path = true := by
  obtain ⟨hclosed, p, text, hlocate, hstanding⟩ := isFile_iff.mp hfile
  exact isFile_iff.mpr ⟨hclosed, p, text, h.locate hlocate, h.kept p _ hstanding⟩

/-- A tree has everything that another one has, and directories at some places. -/
structure Adds (added : Place → Prop) (t t' : FileTree) : Prop extends Keeps t t' where
  added : ∀ p e, t'.standing? p = some e → t.standing? p = some e ∨ e = .directory ∧ added p

variable {added : Place → Prop}

/-- A tree adds nothing to itself. -/
theorem Adds.refl (t : FileTree) : Adds added t t := ⟨⟨rfl, fun _ _ h => h⟩, fun _ _ h => .inl h⟩

/-- What is added twice is added. -/
theorem Adds.trans (h : Adds added t t') (h' : Adds added t' t'') : Adds added t t'' where
  toKeeps := h.toKeeps.trans h'.toKeeps
  added p e hp := by
    rcases h'.added p e hp with hp | hp
    · exact h.added p e hp
    · exact .inr hp

/-- A directory is added where nothing stands. -/
theorem adds_put (hfree : t.standing? p = none) (hadded : added p) :
    Adds added t (t.put p .directory) where
  toKeeps := keeps_put hfree
  added q e hq := by
    rw [standing?_put] at hq
    split at hq
    · next heq => exact .inr ⟨(Option.some.inj hq).symm, heq ▸ hadded⟩
    · exact .inl hq

/-! ## Making directories -/

/-- What comes of an action on a tree. -/
def Action.on (a : Action Unit) (t : FileTree) : Except IoFault Unit × FileTree := a.run.run t

/-- Directories are made on the tree. -/
theorem run_makeDirectories (path : FilePath) (t : FileTree) :
    (access.makeDirectories path).run t = (makeDirectories path).on t := rfl

/-- Files are created on the tree. -/
theorem run_create (path : FilePath) (text : String) (t : FileTree) :
    (access.create path text).run t = (create path text).on t := rfl

/-- An action that goes on where a check ends well. -/
theorem on_lift_bind {α : Type} (x : Except IoFault α) (f : α → Action Unit) :
    Action.on (do f (← x)) t =
      match x with
      | .error fault => (.error fault, t)
      | .ok a => (f a).on t := by
  cases x <;> rfl

/-- An action that is followed by another one. -/
theorem on_bind (a b : Action Unit) :
    Action.on (a >>= fun _ => b) t =
      match a.on t with
      | (.ok (), t') => b.on t'
      | (.error fault, t') => (.error fault, t') := by
  change (ExceptT.run (a >>= fun _ => b)).run t = _
  rw [ExceptT.run_bind, StateT.run_bind]
  generalize hon : a.run.run t = out
  have hon' : a.on t = out := hon
  rw [hon']
  obtain ⟨result, t'⟩ := out
  cases result <;> rfl

/-- An action that stops if the tree meets a condition. -/
theorem on_throw_if (c : FileTree → Bool) (fault : IoFault) (rest : Action Unit) :
    Action.on (do
      if c (← get) then throw fault
      rest) t = if c t then (.error fault, t) else rest.on t := by
  change Action.on (if c t = true then throw fault >>= fun _ => rest else rest) t = _
  split <;> rfl

/-- An action that goes on differently where another one goes wrong. -/
theorem on_tryCatch (a : Action Unit) (handle : IoFault → Action Unit) :
    Action.on (tryCatch a handle) t =
      match a.on t with
      | (.ok (), t') => (.ok (), t')
      | (.error fault, t') => (handle fault).on t' := by
  change (ExceptT.run (tryCatch a handle)).run t = _
  rw [ExceptT.run_tryCatch, StateT.run_bind]
  generalize hon : a.run.run t = out
  have hon' : a.on t = out := hon
  rw [hon']
  obtain ⟨result, t'⟩ := out
  cases result <;> rfl

private theorem on_makeDirectory (cs : List Component) (t : FileTree) :
    (makeDirectory cs).on t =
      match t.placeOf cs with
      | .error fault => (.error fault, t)
      | .ok p =>
        if (t.standing? p).isSome then (.error .fileExists, t) else (.ok (), t.put p .directory) := by
  refine (on_lift_bind (t.placeOf cs) _).trans ?_
  cases t.placeOf cs with
  | error fault => rfl
  | ok p => exact on_throw_if (fun t => (t.standing? p).isSome) _ _

/-- A fault is passed on, unless components lead to a directory. -/
theorem on_unless_isDirectory (cs : List Component) (fault : IoFault) :
    Action.on (do unless (← get).isDirectory cs do throw fault) t =
      if t.isDirectory cs then (.ok (), t) else (.error fault, t) := by
  change Action.on (if t.isDirectory cs = true then pure () else throw fault) t = _
  split <;> rfl

private theorem on_ensureDirectory (cs : List Component) (t : FileTree) :
    (ensureDirectory cs).on t =
      match (makeDirectory cs).on t with
      | (.ok (), t') => (.ok (), t')
      | (.error fault, t') => if t'.isDirectory cs then (.ok (), t') else (.error fault, t') := by
  refine (on_tryCatch _ _).trans ?_
  split
  · rfl
  · exact on_unless_isDirectory cs _

private theorem on_makeOutward_cons (c : Component) (before : List Component) (t : FileTree) :
    (makeOutward (c :: before)).on t =
      match (makeDirectory (c :: before).reverse).on t with
      | (.ok (), t') => (.ok (), t')
      | (.error fault, t') =>
        if fault = .notFound then
          (makeOutward before >>= fun _ => ensureDirectory (c :: before).reverse).on t'
        else if t'.isDirectory (c :: before).reverse then (.ok (), t') else (.error fault, t') := by
  refine (on_tryCatch _ _).trans ?_
  split
  · rfl
  · split
    · rfl
    · exact on_unless_isDirectory _ _

/-- Directories are made outwards, unless they are there. -/
theorem on_makeDirectories (path : FilePath) (t : FileTree) :
    (makeDirectories path).on t =
      if path.text.isEmpty then (.ok (), t)
      else
        match checked path with
        | .error fault => (.error fault, t)
        | .ok cs =>
          match (makeDirectory cs).on t with
          | (.ok (), t') => (.ok (), t')
          | (.error fault, t') =>
            if fault = .notFound then
              (makeOutward path.components.dropLast.reverse >>= fun _ => ensureDirectory cs).on t'
            else if t'.isDirectory cs then (.ok (), t') else (.error fault, t') := by
  unfold makeDirectories
  split
  · rfl
  · refine (on_lift_bind (checked path) _).trans ?_
    cases checked path with
    | error fault => rfl
    | ok cs =>
      refine (on_tryCatch _ _).trans ?_
      dsimp only
      generalize (makeDirectory cs).on t = out
      obtain ⟨result, t'⟩ := out
      cases result with
      | ok _ => rfl
      | error fault =>
        dsimp only
        split
        · rfl
        · exact on_unless_isDirectory cs fault

/-! ## What is made on the way -/

/-- An action adds directories only, and finds that something is there already only where a file
stands. -/
structure Makes (added : Place → Prop) (t : FileTree) (out : Except IoFault Unit × FileTree) :
    Prop where
  adds : Adds added t out.2
  blocked : ∀ m, out.1 = .error (.alreadyExists m) →
    ∃ p text, added p ∧ out.2.standing? p = some (.file text)

/-- An action that changes nothing and does not find anything. -/
theorem makes_of_same {result : Except IoFault Unit}
    (h : ∀ m, result ≠ .error (.alreadyExists m)) : Makes added t (result, t) :=
  ⟨.refl t, fun m hm => absurd hm (h m)⟩

/-- One action makes what it may, and then the other. -/
theorem Makes.bind {a b : Action Unit} (ha : Makes added t (a.on t))
    (hb : ∀ t', Adds added t t' → Makes added t' (b.on t')) :
    Makes added t (Action.on (a >>= fun _ => b) t) := by
  rw [on_bind]
  generalize a.on t = out at ha
  obtain ⟨result, t'⟩ := out
  cases result with
  | error fault => exact ha
  | ok _ =>
    obtain ⟨hadds, hblocked⟩ := hb t' ha.adds
    exact ⟨ha.adds.trans hadds, hblocked⟩

/-- Making a directory adds it, or changes nothing. It finds that something is there already only if
something stands where it leads. -/
theorem on_makeDirectory_cases (h : added (follow t.home cs)) :
    (∃ t', (makeDirectory cs).on t = (.ok (), t') ∧ Adds added t t') ∨
      ∃ fault, (makeDirectory cs).on t = (.error fault, t) ∧
        ∀ m, fault = .alreadyExists m →
          ∃ p e, t.placeOf cs = .ok p ∧ added p ∧ t.standing? p = some e := by
  rw [on_makeDirectory]
  cases hplace : t.placeOf cs with
  | error fault =>
    refine .inr ⟨fault, rfl, fun m hm => ?_⟩
    rw [hm] at hplace
    exact absurd hplace (walk_ne_alreadyExists m)
  | ok p =>
    have hp : added p := follow_of_walk hplace ▸ h
    cases hstanding : t.standing? p with
    | none => exact .inl ⟨t.put p .directory, by simp [hstanding], adds_put hstanding hp⟩
    | some e => exact .inr ⟨.fileExists, by simp [hstanding], fun _ _ => ⟨p, e, rfl, hp, hstanding⟩⟩

/-- What stands where components lead is a file, if it is no directory. -/
theorem exists_file_of_not_isDirectory (hplace : t.placeOf cs = .ok p)
    (hstanding : t.standing? p = some e) (h : t.isDirectory cs = false) :
    ∃ text, t.standing? p = some (.file text) := by
  cases e with
  | file text => exact ⟨text, hstanding⟩
  | directory =>
    have hthere : t.isDirectory cs = true := by
      rw [isDirectory, hplace, Except.toOption, Option.bind_eq_bind, Option.bind_some, hstanding]
      rfl
    rw [hthere] at h
    cases h

/-- A fault that is not made up for by a directory is one of a file, if anything stands there. -/
theorem makes_of_fault {fault : IoFault}
    (h : ∀ m, fault = .alreadyExists m →
      ∃ p e, t.placeOf cs = .ok p ∧ added p ∧ t.standing? p = some e) :
    Makes added t (if t.isDirectory cs then (.ok (), t) else (.error fault, t)) := by
  by_cases hdirectory : t.isDirectory cs = true
  · rw [if_pos hdirectory]
    exact makes_of_same nofun
  · rw [if_neg hdirectory]
    refine ⟨.refl t, fun m hm => ?_⟩
    obtain ⟨p, e, hplace, hadded, hstanding⟩ := h m (Except.error.inj hm)
    obtain ⟨text, hfile⟩ :=
      exists_file_of_not_isDirectory hplace hstanding (Bool.eq_false_iff.mpr hdirectory)
    exact ⟨p, text, hadded, hfile⟩

private theorem makes_ensureDirectory (h : added (follow t.home cs)) :
    Makes added t ((ensureDirectory cs).on t) := by
  rw [on_ensureDirectory]
  rcases on_makeDirectory_cases h with ⟨t', hon, hadds⟩ | ⟨fault, hon, hfault⟩
  · rw [hon]
    exact ⟨hadds, nofun⟩
  · rw [hon]
    exact makes_of_fault hfault

/-- The directories on the way are added from the outside in. -/
theorem makes_makeOutward (h : ∀ rest, rest <:+ cs → rest ≠ [] → added (follow t.home rest.reverse)) :
    Makes added t ((makeOutward cs).on t) := by
  induction cs with
  | nil => exact makes_of_same nofun
  | cons c before ih =>
    have hlast := h (c :: before) List.suffix_rfl (List.cons_ne_nil c before)
    rw [on_makeOutward_cons]
    rcases on_makeDirectory_cases hlast with ⟨t', hon, hadds⟩ | ⟨fault, hon, hfault⟩
    · rw [hon]
      exact ⟨hadds, nofun⟩
    · rw [hon]
      dsimp only
      split
      · refine Makes.bind (ih fun rest hrest => h rest (hrest.trans (List.suffix_cons c before))) ?_
        intro t' hadds
        apply makes_ensureDirectory
        rw [hadds.home]
        exact hlast
      · exact makes_of_fault hfault

/-- Making the directories along a path adds directories where its front parts lead. -/
theorem makes_makeDirectories (hsteps : path.steps = cs) (hcomponents : path.components = cs)
    (hne : cs ≠ []) (h : ∀ front, front <+: cs → front ≠ [] → added (follow t.home front)) :
    Makes added t ((makeDirectories path).on t) := by
  have hwhole := h cs List.prefix_rfl hne
  rw [on_makeDirectories]
  split
  · exact makes_of_same nofun
  · cases hchecked : checked path with
    | error fault =>
      refine makes_of_same fun m hm => ?_
      rw [Except.error.inj hm] at hchecked
      exact checked_ne_alreadyExists m hchecked
    | ok steps =>
      obtain rfl : steps = cs := (steps_of_checked hchecked).trans hsteps
      rcases on_makeDirectory_cases hwhole with ⟨t', hon, hadds⟩ | ⟨fault, hon, hfault⟩
      · simp only [hon]
        exact ⟨hadds, nofun⟩
      · simp only [hon]
        split
        · refine Makes.bind (makes_makeOutward fun rest hrest hrestne => ?_) fun t' hadds => ?_
          · have hfront : rest.reverse <+: path.components.dropLast := by
              rw [← List.reverse_prefix, List.reverse_reverse] at hrest
              exact hrest
            refine h rest.reverse (hfront.trans ?_) (by simpa using hrestne)
            rw [hcomponents]
            exact List.dropLast_prefix _
          · apply makes_ensureDirectory
            rw [hadds.home]
            exact hwhole
        · exact makes_of_fault hfault

/-! ## Making files -/

/-- A file is created where nothing is, in a directory that is there. -/
theorem on_create (path : FilePath) (text : String) (t : FileTree) :
    (create path text).on t =
      match t.locate path with
      | .error fault => (.error fault, t)
      | .ok p =>
        if path.endsOpen then (.error .isADirectory, t)
        else if (t.standing? p).isSome then (.error .fileExists, t)
        else (.ok (), t.put p (.file text)) := by
  refine (on_lift_bind (t.locate path) _).trans ?_
  cases t.locate path with
  | error fault => rfl
  | ok p =>
    refine (on_throw_if (fun _ => path.endsOpen) _ _).trans ?_
    dsimp only
    split
    · rfl
    · exact on_throw_if (fun t => (t.standing? p).isSome) _ _

end CrudScaffold.FileTree
