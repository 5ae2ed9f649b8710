import GrammarWorkbench.Proofs.Files.Spellings
import GrammarWorkbench.Proofs.Lookup
import GrammarWorkbench.Proofs.Remap.Sums
import Mathlib.Data.List.DropRight

/-!
# Which map is used

A remapper keeps the maps that it has read while files come and go around it. What it keeps is
determined by what has happened to it: a map path was **consulted**, a map was forgotten, or all of
them were (`GrammarWorkbench.CacheEvent`). Under a key stands the first map that could be read since
this key was last forgotten (`GrammarWorkbench.CacheEvent.firstLoad`).

* One event changes what stands under a key as `GrammarWorkbench.CacheEvent.lookup_apply` says, and
  an event that does not concern the key does not change it at all.
* All steps of a remapper are made of events (`GrammarWorkbench.RemapState.remapper_step`), so that
  the same holds of whole runs (`GrammarWorkbench.RemapState.lookup_after`).

While the files stay as they are, a map that was kept is the map that would be read now, since all
spellings of its path are read alike (`GrammarWorkbench.FileTree.read_congr`). The exception are
**spellings that are too long**: they cannot be read, but they can be looked up.

All this is said of sums that are cut to 64 bits. Where a sum that does not fit stops the program
instead, what comes before the stop is the same, and nothing stops where the sums of a map fit.
-/

namespace GrammarWorkbench

/-! ### What happens to a cache -/

/-- What is asked of a cache, or done to it. -/
inductive CacheEvent where
  /-- The map at a path is wanted, while the files are these. -/
  | consult (files : FileTree) (path : Text)
  /-- The map at a path is forgotten. -/
  | invalidate (path : Text)
  /-- All maps are forgotten. -/
  | clear
deriving DecidableEq, Repr

namespace CacheEvent

variable {r : Remapper} {e : CacheEvent} {events : List CacheEvent} {k : Text × List Text}

/-- Whether an event has to do with a key. -/
def concerns (k : Text × List Text) : CacheEvent → Bool
  | consult _ path | invalidate path => Remapper.key path = k
  | clear => true

/-- Whether an event makes the cache forget a key. -/
def forgets (k : Text × List Text) : CacheEvent → Bool
  | consult _ _ => false
  | invalidate path => Remapper.key path = k
  | clear => true

/-- The map that can be read for a key at an event. -/
def loads? (k : Text × List Text) : CacheEvent → Option PositionMap
  | consult files path =>
    if Remapper.key path = k then (PositionMap.load files.read path).toOption else none
  | _ => none

theorem loads?_eq_some_iff {files : FileTree} {path : Text} {m : PositionMap} :
    (consult files path).loads? k = some m ↔
      Remapper.key path = k ∧ PositionMap.load files.read path = .ok m := by
  rw [loads?]
  cases PositionMap.load files.read path <;> simp [Except.toOption]

/-- **The first map that could be read for a key** since it was last forgotten. -/
def firstLoad (k : Text × List Text) (events : List CacheEvent) : Option PositionMap :=
  (events.rtakeWhile (!·.forgets k)).findSome? (loads? k)

/-- What an event does to a remapper. -/
def apply (r : Remapper) : CacheEvent → Remapper
  | consult files path => (r.load files.read path).2
  | invalidate path => r.invalidate path
  | clear => r.clear

theorem lookup_load (r : Remapper) (files : Reader) (path : Text) (k : Text × List Text) :
    (r.load files path).2.cache.lookup k = (r.cache.lookup k).or
      (if Remapper.key path = k then (PositionMap.load files path).toOption else none) := by
  rw [Remapper.load]
  cases hhit : r.cache.lookup (Remapper.key path) with
  | some m =>
    -- The key of the path has a map already, and any other key is not read for.
    by_cases hk : Remapper.key path = k
    · subst hk
      simp [hhit]
    · simp [hk]
  | none =>
    cases hload : PositionMap.load files path with
    | error e => simp [Except.toOption]
    | ok m =>
      refine (lookup_cons_eq (Remapper.key path) m r.cache k).trans ?_
      by_cases hk : k = Remapper.key path
      · subst hk
        simp [hhit, Except.toOption]
      · simp [hk, Ne.symm hk]

/-- **What one event does to a key.** -/
theorem lookup_apply (r : Remapper) (e : CacheEvent) (k : Text × List Text) :
    (e.apply r).cache.lookup k =
      if e.forgets k then none else (r.cache.lookup k).or (e.loads? k) := by
  cases e with
  | consult files path => exact lookup_load r files.read path k
  | invalidate path =>
    refine (lookup_filter_bne r.cache (Remapper.key path) k).trans ?_
    by_cases hk : Remapper.key path = k
    · subst hk
      simp [forgets]
    · simp [forgets, loads?, hk, Ne.symm hk]
  | clear => rfl

/-- An event that does not concern a key leaves it alone. -/
theorem lookup_apply_of_concerns (h : e.concerns k = false) :
    (e.apply r).cache.lookup k = r.cache.lookup k := by
  have hforgets : e.forgets k = false := by
    cases e <;> first | rfl | exact h
  have hloads : e.loads? k = none := by
    cases e with
    | consult files path => exact if_neg (of_decide_eq_false h)
    | _ => rfl
  rw [lookup_apply, hforgets, if_neg Bool.false_ne_true, hloads, Option.or_none]

theorem lookup_foldl_of_concerns (r : Remapper) (h : ∀ e ∈ events, e.concerns k = false) :
    (events.foldl apply r).cache.lookup k = r.cache.lookup k := by
  induction events generalizing r with
  | nil => rfl
  | cons e events ih =>
    obtain ⟨he, hevents⟩ := List.forall_mem_cons.mp h
    rw [List.foldl_cons, ih (e.apply r) hevents, lookup_apply_of_concerns he]

theorem settings_apply (r : Remapper) (e : CacheEvent) : (e.apply r).settings = r.settings := by
  cases e with
  | consult files path =>
    change (r.load files.read path).2.settings = r.settings
    rw [Remapper.load]
    split
    · rfl
    · split <;> rfl
  | _ => rfl

theorem firstLoad_concat (k : Text × List Text) (events : List CacheEvent) (e : CacheEvent) :
    firstLoad k (events ++ [e]) =
      if e.forgets k then none else (firstLoad k events).or (e.loads? k) := by
  rw [firstLoad, List.rtakeWhile_concat]
  cases hforgets : e.forgets k with
  | true => simp
  | false => simp [firstLoad, List.findSome?_append]

/-- **What events do to a key**, from an empty cache on. -/
theorem lookup_foldl_apply (settings : RemapSettings) (events : List CacheEvent)
    (k : Text × List Text) :
    (events.foldl apply { settings := settings }).cache.lookup k = firstLoad k events := by
  induction events using List.reverseRecOn with
  | nil => rfl
  | append_singleton events e ih =>
    rw [List.foldl_concat, lookup_apply, ih, firstLoad_concat]

theorem settings_foldl_apply (r : Remapper) (events : List CacheEvent) :
    (events.foldl apply r).settings = r.settings := by
  induction events using List.reverseRecOn with
  | nil => rfl
  | append_singleton events e ih => rw [List.foldl_concat, settings_apply, ih]

end CacheEvent

/-! ### The steps of a remapper -/

namespace Remapper

variable {r : Remapper} {files : Reader} {generated : Text} {p : Position}

/-- The map that is found at a path. -/
theorem fst_load (r : Remapper) (files : Reader) (path : Text) :
    (r.load files path).1 =
      match r.cache.lookup (key path) with
      | some m => .ok m
      | none => PositionMap.load files path := by
  rw [load]
  cases r.cache.lookup (key path) with
  | some m => rfl
  | none => cases PositionMap.load files path <;> rfl

/-- A map that cannot be read leaves the cache as it was. -/
theorem snd_load_of_error {path : Text} {e : MapError}
    (hmiss : r.cache.lookup (key path) = none) (hload : PositionMap.load files path = .error e) :
    (r.load files path).2 = r := by
  simp [load, hmiss, hload]

/-- The map that a position is traced with: the one in the cache, or the one that can be read. -/
def used? (r : Remapper) (files : Reader) (path : Text) : Option PositionMap :=
  (r.cache.lookup (key path)).or (PositionMap.load files path).toOption

theorem toOption_fst_load (r : Remapper) (files : Reader) (path : Text) :
    (r.load files path).1.toOption = r.used? files path := by
  rw [fst_load, used?]
  cases r.cache.lookup (key path) <;> rfl

theorem remap_of_used? {path : Text} {m : PositionMap}
    (hpath : consults? r.settings generated p = some path) (hm : r.used? files path = some m) :
    (r.remap files generated p).1 = .ok (origin path p m) := by
  rw [remap_of_some hpath, fst_load]
  rw [used?] at hm
  cases hhit : r.cache.lookup (key path) with
  | some m' =>
    obtain rfl : m' = m := by simpa [hhit] using hm
    rfl
  | none =>
    cases hload : PositionMap.load files path with
    | error e => simp [hhit, hload, Except.toOption] at hm
    | ok m' =>
      obtain rfl : m' = m := by simpa [hhit, hload, Except.toOption] using hm
      rfl

/-- **Without a map** there is the error of reading. Nothing is kept, and the file is read again the
next time. -/
theorem remap_of_used?_eq_none {path : Text}
    (hpath : consults? r.settings generated p = some path) (hnone : r.used? files path = none) :
    (∃ e, PositionMap.load files path = .error e ∧ (r.remap files generated p).1 = .error e) ∧
      (r.remap files generated p).2 = r ∧ ∀ later : Reader,
        (r.remap later generated p).1 = (PositionMap.load later path).map (origin path p) := by
  obtain ⟨hmiss, hread⟩ := Option.or_eq_none_iff.mp hnone
  obtain ⟨e, hload⟩ : ∃ e, PositionMap.load files path = .error e := by
    cases hload : PositionMap.load files path with
    | error e => exact ⟨e, rfl⟩
    | ok m => simp [hload, Except.toOption] at hread
  refine ⟨⟨e, hload, ?_⟩, ?_, ?_⟩
  · rw [remap_of_some hpath, fst_load, hmiss, hload]
    rfl
  · rw [remap_of_some hpath, snd_load_of_error hmiss hload]
  · intro later
    rw [remap_of_some hpath, fst_load, hmiss]

theorem remapAll_cons (r : Remapper) (files : Reader) (base : Text) (e : CompilerError)
    (errors : List CompilerError) :
    r.remapAll files base (e :: errors) =
      ((e, (r.remap files (base.joinPath e.file) e.position).1.toOption.join) ::
          ((r.remap files (base.joinPath e.file) e.position).2.remapAll files base errors).1,
        ((r.remap files (base.joinPath e.file) e.position).2.remapAll files base errors).2) := rfl

/-- Each error is traced by itself, one after the other. -/
theorem remapAll_append (r : Remapper) (files : Reader) (base : Text)
    (before errors : List CompilerError) :
    r.remapAll files base (before ++ errors) =
      ((r.remapAll files base before).1 ++
          ((r.remapAll files base before).2.remapAll files base errors).1,
        ((r.remapAll files base before).2.remapAll files base errors).2) := by
  induction before generalizing r with
  | nil => rfl
  | cons e before ih =>
    rw [List.cons_append, remapAll_cons, remapAll_cons, ih]
    rfl

theorem map_fst_remapAll (r : Remapper) (files : Reader) (base : Text)
    (errors : List CompilerError) :
    (r.remapAll files base errors).1.map Prod.fst = errors := by
  induction errors generalizing r with
  | nil => rfl
  | cons e errors ih => exact congrArg (e :: ·) (ih _)

/-- **An error is traced when its turn comes.** -/
theorem getElem?_remapAll (r : Remapper) (files : Reader) (base : Text)
    (before : List CompilerError) (e : CompilerError) (after : List CompilerError) :
    (r.remapAll files base (before ++ e :: after)).1[before.length]? =
      some (e, ((r.remapAll files base before).2.remap files (base.joinPath e.file)
        e.position).1.toOption.join) := by
  have hlength : (r.remapAll files base before).1.length = before.length := by
    rw [← List.length_map Prod.fst, map_fst_remapAll]
  rw [remapAll_append, ← hlength, List.getElem?_append_right (Nat.le_refl _), Nat.sub_self,
    remapAll_cons]
  rfl

end Remapper

/-- A step: the files are changed in any way, maps are forgotten, or positions are traced. -/
inductive RemapStep where
  /-- Files are written and removed, and these are the files after that. -/
  | edit (files : FileTree)
  | invalidate (path : Text)
  | clear
  | remap (generated : Text) (p : Position)
  | remapAll (base : Text) (errors : List CompilerError)
deriving DecidableEq, Repr

/-- A remapper among files. -/
structure RemapState where
  files : FileTree
  remapper : Remapper
deriving DecidableEq, Repr

namespace RemapStep

/-- Whether a step changes files. -/
def isEdit : RemapStep → Bool
  | edit _ => true
  | _ => false

/-- The event of tracing one position. -/
def consult (settings : RemapSettings) (files : FileTree) (generated : Text) (p : Position) :
    List CacheEvent :=
  ((Remapper.consults? settings generated p).map (CacheEvent.consult files)).toList

/-- **The events of a step.** -/
def events (settings : RemapSettings) (files : FileTree) : RemapStep → List CacheEvent
  | edit _ => []
  | invalidate path => [.invalidate path]
  | clear => [.clear]
  | remap generated p => consult settings files generated p
  | remapAll base errors =>
    errors.flatMap fun e => consult settings files (base.joinPath e.file) e.position

/-- The files after a step. -/
def filesAfter (files : FileTree) : RemapStep → FileTree
  | edit files => files
  | _ => files

/-- **The events of a run.** -/
def eventsOf (settings : RemapSettings) (files : FileTree) : List RemapStep → List CacheEvent
  | [] => []
  | step :: steps => step.events settings files ++ eventsOf settings (step.filesAfter files) steps

end RemapStep

namespace RemapState

variable {s : RemapState}

/-- One step, for any way of adding. -/
def stepBy {μ : Type → Type} [Monad μ] (add : Nat → Nat → μ Nat) (s : RemapState) :
    RemapStep → μ RemapState
  | .edit files => pure { s with files := files }
  | .invalidate path => pure { s with remapper := s.remapper.invalidate path }
  | .clear => pure { s with remapper := s.remapper.clear }
  | .remap generated p => do
    let (_, remapper) ← s.remapper.remapBy add s.files.read generated p
    pure { s with remapper := remapper }
  | .remapAll base errors => do
    let (_, remapper) ← s.remapper.remapAllBy add s.files.read base errors
    pure { s with remapper := remapper }

/-- One step, with sums that are cut. -/
def step (s : RemapState) (step : RemapStep) : RemapState :=
  Id.run (s.stepBy Sum64.wrapping step)

/-- A run. -/
def after (s : RemapState) (steps : List RemapStep) : RemapState :=
  steps.foldl step s

/-- A run that stops at a sum that does not fit. -/
def afterChecked (s : RemapState) (steps : List RemapStep) : Option RemapState :=
  steps.foldlM (stepBy Sum64.checked) s

/-- **A run that has not stopped** is where the run with sums that are cut is. -/
theorem eq_of_afterChecked {steps : List RemapStep} {s' : RemapState}
    (h : s.afterChecked steps = some s') : s' = s.after steps := by
  induction steps generalizing s with
  | nil => exact (Option.some.inj h).symm
  | cons step steps ih =>
    rw [afterChecked, List.foldlM_cons] at h
    obtain ⟨m, hm, hrest⟩ := Option.bind_eq_some_iff.mp h
    have hstep : Sum64.Agrees (s.stepBy Sum64.checked step) (s.stepBy Sum64.wrapping step) := by
      cases step with
      | remap generated p =>
        exact (Remapper.agrees_remapBy _ _ _ _).bind fun _ => Sum64.agrees_pure _
      | remapAll base errors =>
        exact (Remapper.agrees_remapAllBy _ _ _ _).bind fun _ => Sum64.agrees_pure _
      | _ => exact Sum64.agrees_pure _
    have hmore := ih hrest
    rwa [← hstep m hm] at hmore

/-- A remapper that has read nothing yet. -/
def start (settings : RemapSettings) (files : FileTree) : RemapState :=
  ⟨files, { settings := settings }⟩

theorem snd_remap (r : Remapper) (files : FileTree) (generated : Text) (p : Position) :
    (r.remap files.read generated p).2 =
      (RemapStep.consult r.settings files generated p).foldl CacheEvent.apply r := by
  rw [RemapStep.consult]
  cases h : Remapper.consults? r.settings generated p with
  | none => rw [Remapper.remap_of_none h]; rfl
  | some path => rw [Remapper.remap_of_some h]; rfl

theorem snd_remapAll (r : Remapper) (files : FileTree) (base : Text)
    (errors : List CompilerError) :
    (r.remapAll files.read base errors).2 =
      (errors.flatMap fun e => RemapStep.consult r.settings files (base.joinPath e.file)
        e.position).foldl CacheEvent.apply r := by
  induction errors generalizing r with
  | nil => rfl
  | cons e errors ih =>
    rw [List.flatMap_cons, List.foldl_append, ← snd_remap, Remapper.remapAll_cons]
    refine (ih _).trans ?_
    rw [snd_remap, CacheEvent.settings_foldl_apply]

/-- **A step is made of its events.** -/
theorem remapper_step (s : RemapState) (step : RemapStep) :
    (s.step step).remapper =
      (step.events s.remapper.settings s.files).foldl CacheEvent.apply s.remapper := by
  cases step with
  | remap generated p => exact snd_remap s.remapper s.files generated p
  | remapAll base errors => exact snd_remapAll s.remapper s.files base errors
  | _ => rfl

theorem files_step (s : RemapState) (step : RemapStep) :
    (s.step step).files = step.filesAfter s.files := by
  cases step <;> rfl

/-- **A run is made of its events.** -/
theorem remapper_after (s : RemapState) (steps : List RemapStep) :
    (s.after steps).remapper =
      (RemapStep.eventsOf s.remapper.settings s.files steps).foldl CacheEvent.apply s.remapper := by
  induction steps generalizing s with
  | nil => rfl
  | cons step steps ih =>
    have hsettings : (s.step step).remapper.settings = s.remapper.settings := by
      rw [remapper_step, CacheEvent.settings_foldl_apply]
    refine (ih (s.step step)).trans ?_
    rw [RemapStep.eventsOf, List.foldl_append, ← remapper_step, hsettings, files_step]

/-- **Under a key stands the first map that could be read** since the key was last forgotten. -/
theorem lookup_after (settings : RemapSettings) (files : FileTree) (steps : List RemapStep)
    (k : Text × List Text) :
    ((start settings files).after steps).remapper.cache.lookup k =
      CacheEvent.firstLoad k (RemapStep.eventsOf settings files steps) := by
  rw [remapper_after]
  exact CacheEvent.lookup_foldl_apply settings _ k

theorem settings_after (s : RemapState) (steps : List RemapStep) :
    (s.after steps).remapper.settings = s.remapper.settings := by
  rw [remapper_after, CacheEvent.settings_foldl_apply]

end RemapState

/-! ### While the files stay as they are -/

namespace Remapper

variable {r : Remapper} {files : FileTree} {settings : RemapSettings} {generated path : Text}
  {p : Position} {m : PositionMap}

/-- All map paths of a remapper end in the same name. -/
theorem exists_joinPath (h : consults? settings generated p = some path) :
    ∃ dir : Text, path = dir.joinPath settings.mapFile := by
  rw [consults?] at h
  split at h
  next => cases h
  next =>
    cases h
    rw [Text.withFileName]
    split
    · exact ⟨_, rfl⟩
    · exact ⟨_, rfl⟩

theorem load_eq_ok_iff : PositionMap.load files.read path = .ok m ↔
    ∃ text, files.read path = .ok text ∧ PositionMap.parse text = .ok m := by
  rw [PositionMap.load]
  cases files.read path with
  | error e => simp
  | ok text =>
    cases hparse : PositionMap.parse text <;> simp [hparse]

/-- What can be read has a path that is not too long. -/
theorem size_lt_of_load (h : PositionMap.load files.read path = .ok m) :
    path.size < FileTree.pathLimit := by
  obtain ⟨text, htext, -⟩ := load_eq_ok_iff.mp h
  by_contra hsize
  rw [FileTree.read_eq, FileTree.target, if_pos (Nat.le_of_not_lt hsize)] at htext
  split at htext <;> cases htext

/-- **All maps of the cache are what would be read now.** -/
def Current (r : Remapper) (files : FileTree) : Prop :=
  ∀ k m, r.cache.lookup k = some m → ∃ dir : Text,
    key (dir.joinPath r.settings.mapFile) = k ∧
      PositionMap.load files.read (dir.joinPath r.settings.mapFile) = .ok m

theorem current_fresh (settings : RemapSettings) (files : FileTree) :
    Current { settings := settings } files := by
  rintro k m ⟨⟩

/-- **A map is found as if there were no cache.** -/
theorem Current.fst_load (h : r.Current files) (hpath : ∃ dir : Text,
    path = dir.joinPath r.settings.mapFile) (hsize : path.size < FileTree.pathLimit) :
    (r.load files.read path).1 = PositionMap.load files.read path := by
  rw [Remapper.fst_load]
  cases hhit : r.cache.lookup (key path) with
  | none => rfl
  | some m =>
    obtain ⟨dir, hkey, hload⟩ := h _ m hhit
    obtain ⟨dir', rfl⟩ := hpath
    obtain ⟨text, htext, hparse⟩ := load_eq_ok_iff.mp hload
    have hlast := (Text.getLast?_splitAt_joinPath dir r.settings.mapFile).trans
      (Text.getLast?_splitAt_joinPath dir' r.settings.mapFile).symm
    rw [FileTree.read_congr files hkey hlast (size_lt_of_load hload) hsize] at htext
    exact (load_eq_ok_iff.mpr ⟨text, htext, hparse⟩).symm

/-- **Tracing a position keeps the cache so.** -/
theorem Current.snd_remap (h : r.Current files) (generated : Text) (p : Position) :
    (r.remap files.read generated p).2.Current files := by
  cases hpath : consults? r.settings generated p with
  | none =>
    rw [remap_of_none hpath]
    exact h
  | some path =>
    rw [remap_of_some hpath]
    intro k m hm
    have hsettings : (r.load files.read path).2.settings = r.settings :=
      CacheEvent.settings_apply r (.consult files path)
    rw [hsettings]
    rw [CacheEvent.lookup_load] at hm
    rcases Option.or_eq_some_iff.mp hm with hold | ⟨-, hnew⟩
    · exact h k m hold
    · obtain ⟨dir, rfl⟩ := exists_joinPath hpath
      exact ⟨dir, CacheEvent.loads?_eq_some_iff.mp hnew⟩

/-- **A position is traced as by a fresh remapper.** -/
theorem Current.fst_remap (h : r.Current files)
    (hsize : ∀ path, consults? r.settings generated p = some path →
      path.size < FileTree.pathLimit) :
    (r.remap files.read generated p).1 =
      (({ settings := r.settings } : Remapper).remap files.read generated p).1 := by
  cases hpath : consults? r.settings generated p with
  | none => rw [remap_of_none hpath, remap_of_none (r := { settings := r.settings }) hpath]
  | some path =>
    have hdir := exists_joinPath hpath
    rw [remap_of_some hpath, remap_of_some (r := { settings := r.settings }) hpath,
      h.fst_load hdir (hsize path hpath),
      (current_fresh r.settings files).fst_load hdir (hsize path hpath)]

/-- **So are the errors of a compiler.** -/
theorem Current.fst_remapAll (h : r.Current files) {base : Text} {errors : List CompilerError}
    (hsize : ∀ e ∈ errors, ∀ path,
      consults? r.settings (base.joinPath e.file) e.position = some path →
        path.size < FileTree.pathLimit) :
    (r.remapAll files.read base errors).1 = errors.map fun e =>
      (e, (({ settings := r.settings } : Remapper).remap files.read (base.joinPath e.file)
        e.position).1.toOption.join) := by
  induction errors generalizing r with
  | nil => rfl
  | cons e errors ih =>
    obtain ⟨hfirst, hrest⟩ := List.forall_mem_cons.mp hsize
    have hsettings : (r.remap files.read (base.joinPath e.file) e.position).2.settings =
        r.settings := by
      rw [RemapState.snd_remap, CacheEvent.settings_foldl_apply]
    have hmore := ih (h.snd_remap (base.joinPath e.file) e.position) (by rwa [hsettings])
    rw [remapAll_cons, List.map_cons, ← h.fst_remap hfirst, hmore, hsettings]

end Remapper

namespace RemapStep

variable {settings : RemapSettings} {files : FileTree} {steps : List RemapStep}

/-- Without an edit, what is consulted is consulted among the same files. -/
theorem eq_of_mem_eventsOf (hsteps : ∀ step ∈ steps, step.isEdit = false) {files' : FileTree}
    {path : Text} (h : CacheEvent.consult files' path ∈ eventsOf settings files steps) :
    files' = files ∧ ∃ dir : Text, path = dir.joinPath settings.mapFile := by
  have hconsult : ∀ {generated p}, CacheEvent.consult files' path ∈
      consult settings files generated p →
      files' = files ∧ ∃ dir : Text, path = dir.joinPath settings.mapFile := by
    intro generated p hmem
    rw [consult, Option.mem_toList, Option.map_eq_some_iff] at hmem
    obtain ⟨path, hpath, heq⟩ := hmem
    cases heq
    exact ⟨rfl, Remapper.exists_joinPath hpath⟩
  induction steps with
  | nil => cases h
  | cons step steps ih =>
    obtain ⟨hstep, hsteps⟩ := List.forall_mem_cons.mp hsteps
    have hfiles : step.filesAfter files = files := by
      cases step <;> first | rfl | cases hstep
    rw [eventsOf, hfiles] at h
    rcases List.mem_append.mp h with h | h
    · cases step with
      | remap generated p => exact hconsult h
      | remapAll base errors =>
        obtain ⟨e, -, he⟩ := List.mem_flatMap.mp h
        exact hconsult he
      | _ => simp [events] at h
    · exact ih hsteps h

end RemapStep

namespace RemapState

/-- **While the files stay as they are**, all maps are what would be read now. -/
theorem current_after {settings : RemapSettings} {files : FileTree} {steps : List RemapStep}
    (hsteps : ∀ step ∈ steps, step.isEdit = false) :
    ((start settings files).after steps).remapper.Current files := by
  intro k m hm
  rw [lookup_after] at hm
  obtain ⟨e, he, hload⟩ := List.exists_of_findSome?_eq_some hm
  have hmem := (List.rtakeWhile_suffix _ _).subset he
  rw [settings_after]
  cases e with
  | consult files' path =>
    obtain ⟨rfl, dir, rfl⟩ := RemapStep.eq_of_mem_eventsOf hsteps hmem
    exact ⟨dir, CacheEvent.loads?_eq_some_iff.mp hload⟩
  | _ => cases hload

/-! ### Coherence -/

/-- The map that is used after some steps, by what has happened to its key. -/
theorem used?_after (settings : RemapSettings) (files : FileTree) (steps : List RemapStep)
    (path : Text) :
    let s := (start settings files).after steps
    s.remapper.used? s.files.read path = CacheEvent.firstLoad (Remapper.key path)
      (RemapStep.eventsOf settings files steps ++ [.consult s.files path]) := by
  intro s
  rw [Remapper.used?, lookup_after, CacheEvent.firstLoad_concat, CacheEvent.forgets,
    if_neg Bool.false_ne_true, CacheEvent.loads?, if_pos rfl]

/-- **What coherence means for a remapper that is in the state `s` after some steps.** -/
structure Coherent (settings : RemapSettings) (files : FileTree) (steps : List RemapStep)
    (s : RemapState) : Prop where
  /-- A position is traced with the first map that could be read for the key of its map path since
  this key was last forgotten, now included. -/
  used : ∀ {generated p path m}, Remapper.consults? settings generated p = some path →
    CacheEvent.firstLoad (Remapper.key path)
      (RemapStep.eventsOf settings files steps ++ [.consult s.files path]) = some m →
    (s.remapper.remap s.files.read generated p).1 = .ok (Remapper.origin path p m)
  /-- If no map could be read, there is the error of reading now. The remapper is as before, and the
  next time the file is read again, whatever it is by then. -/
  failed : ∀ {generated p path}, Remapper.consults? settings generated p = some path →
    CacheEvent.firstLoad (Remapper.key path)
      (RemapStep.eventsOf settings files steps ++ [.consult s.files path]) = none →
    (∃ e, PositionMap.load s.files.read path = .error e ∧
      (s.remapper.remap s.files.read generated p).1 = .error e) ∧
    (s.remapper.remap s.files.read generated p).2 = s.remapper ∧
    ∀ later : FileTree, (s.remapper.remap later.read generated p).1 =
      (PositionMap.load later.read path).map (Remapper.origin path p)
  /-- A position that is not traced needs no map. -/
  untraced : ∀ {generated p}, Remapper.consults? settings generated p = none →
    s.remapper.remap s.files.read generated p = (.ok none, s.remapper)
  /-- What does not concern a key leaves its map alone. -/
  apart : ∀ step k, (∀ e ∈ RemapStep.events settings s.files step, e.concerns k = false) →
    (s.step step).remapper.cache.lookup k = s.remapper.cache.lookup k
  /-- The errors of a compiler are answered one by one and in order, each like a position that is
  traced when its turn comes. An error of reading is no answer. -/
  batch : ∀ base before e after,
    (s.remapper.remapAll s.files.read base (before ++ e :: after)).1.map Prod.fst =
      before ++ e :: after ∧
    (s.remapper.remapAll s.files.read base (before ++ e :: after)).1[before.length]? =
      some (e, ((s.remapper.remapAll s.files.read base before).2.remap s.files.read
        (base.joinPath e.file) e.position).1.toOption.join)
  /-- If no file was changed on the way, positions are traced as by a fresh remapper, unless the map
  path is too long to be read. -/
  fresh : (∀ step ∈ steps, step.isEdit = false) → ∀ {generated p},
    (∀ path, Remapper.consults? settings generated p = some path →
      path.size < FileTree.pathLimit) →
    (s.remapper.remap files.read generated p).1 =
      (({ settings := settings } : Remapper).remap files.read generated p).1
  /-- So are the errors of a compiler. -/
  freshBatch : (∀ step ∈ steps, step.isEdit = false) → ∀ {base errors},
    (∀ e ∈ errors, ∀ path,
      Remapper.consults? settings (base.joinPath e.file) e.position = some path →
        path.size < FileTree.pathLimit) →
    (s.remapper.remapAll files.read base errors).1 =
      (({ settings := settings } : Remapper).remapAll files.read base errors).1
  /-- Where the sums of the map fit, the answer is its place in numbers without a limit. -/
  exact : ∀ {path p m}, PositionMap.Fits m →
    Remapper.origin path p m = Remapper.exactOrigin path p m
  /-- If sums that do not fit stop the program, it is in this state, or it has stopped. -/
  checked : ∀ s', (start settings files).afterChecked steps = some s' → s' = s
  /-- Then a position is traced in the same way, or the program stops. It does not stop where no map
  is used, or one whose sums fit. -/
  checkedRemap : ∀ generated p,
    (∀ answer, s.remapper.remapBy Sum64.checked s.files.read generated p = some answer →
      answer = s.remapper.remap s.files.read generated p) ∧
    ((∀ path m, Remapper.consults? settings generated p = some path →
      CacheEvent.firstLoad (Remapper.key path)
        (RemapStep.eventsOf settings files steps ++ [.consult s.files path]) = some m → m.Fits) →
      s.remapper.remapBy Sum64.checked s.files.read generated p =
        some (s.remapper.remap s.files.read generated p))
  /-- So are the errors of a compiler. The program does not stop unless it does so at one of them,
  when its turn comes. -/
  checkedBatch : ∀ base errors,
    (∀ answers, s.remapper.remapAllBy Sum64.checked s.files.read base errors = some answers →
      answers = s.remapper.remapAll s.files.read base errors) ∧
    ((∀ before e after, errors = before ++ e :: after →
      ((s.remapper.remapAll s.files.read base before).2.remapBy Sum64.checked s.files.read
        (base.joinPath e.file) e.position).isSome = true) →
      s.remapper.remapAllBy Sum64.checked s.files.read base errors =
        some (s.remapper.remapAll s.files.read base errors))

/-- **The cache is coherent**, whatever has happened to a remapper and the files around it. -/
theorem coherent (settings : RemapSettings) (files : FileTree) (steps : List RemapStep) :
    Coherent settings files steps ((start settings files).after steps) := by
  have hsettings := settings_after (start settings files) steps
  have hused := used?_after settings files steps
  generalize hs : (start settings files).after steps = s at hsettings hused
  have hcurrent : (∀ step ∈ steps, step.isEdit = false) → s.remapper.Current files :=
    fun hsteps => hs ▸ current_after hsteps
  replace hsettings : s.remapper.settings = settings := hsettings
  exact {
    used := fun hpath hm => Remapper.remap_of_used? (hsettings ▸ hpath) ((hused _).trans hm)
    failed := by
      intro generated p path hpath hnone
      obtain ⟨herror, hkept, hlater⟩ :=
        Remapper.remap_of_used?_eq_none (hsettings ▸ hpath) ((hused _).trans hnone)
      exact ⟨herror, hkept, fun later => hlater later.read⟩
    untraced := fun hnone => Remapper.remap_of_none (hsettings ▸ hnone)
    apart := by
      intro step k hconcerns
      rw [remapper_step, hsettings]
      exact CacheEvent.lookup_foldl_of_concerns s.remapper hconcerns
    batch := fun base before e after =>
      ⟨Remapper.map_fst_remapAll _ _ _ _, Remapper.getElem?_remapAll _ _ _ _ _ _⟩
    fresh := by
      intro hsteps generated p hsize
      rw [(hcurrent hsteps).fst_remap (hsettings.symm ▸ hsize), hsettings]
    freshBatch := by
      intro hsteps base errors hsize
      rw [(hcurrent hsteps).fst_remapAll (hsettings.symm ▸ hsize),
        (Remapper.current_fresh settings files).fst_remapAll hsize, hsettings]
    exact := Remapper.origin_of_fits
    checked := fun s' hs' => hs ▸ eq_of_afterChecked hs'
    checkedRemap := by
      intro generated p
      refine ⟨fun answer h => (Remapper.agrees_remapBy _ _ _ _ answer h).symm, fun hfits => ?_⟩
      refine Remapper.remapBy_checked_of_fits fun path m hpath hload => ?_
      refine hfits path m (hsettings ▸ hpath) ((hused path).symm.trans ?_)
      rw [← Remapper.toOption_fst_load, hload]
      rfl
    checkedBatch := fun base errors =>
      ⟨fun answers h => (Remapper.agrees_remapAllBy _ _ _ _ answers h).symm,
        Remapper.remapAllBy_checked⟩ }

/-- A map in a directory inside the working directory, for examples. -/
def sampleFiles : FileTree :=
  ({} : FileTree).install "o/b/parser.atgmap".toList (.text "G\n0,0,4,2,3\n".toList)

/-- The map of a file that is gone answers for another spelling of its path, which starts at the
root. Before that, the cache makes no difference. -/
theorem coherent_other_spelling :
    let p : Position := ⟨1, 2⟩
    let tidy := "/work/o/b/parser.cs".toList
    let other := "/work/o//./b/parser.cs".toList
    let path := "/work/o//./b/parser.atgmap".toList
    let m : PositionMap := { grammar := ['G'], runs := [⟨0, 0, 4, 2, 3⟩] }
    let s := (start {} sampleFiles).after [.remap tidy p]
    let gone := (start {} sampleFiles).after [.remap tidy p, .edit {}]
    Remapper.consults? {} other p = some path ∧ m.Fits ∧
      (s.remapper.remap sampleFiles.read other p).1 =
        (({} : Remapper).remap sampleFiles.read other p).1 ∧
      CacheEvent.firstLoad (Remapper.key path)
        (RemapStep.eventsOf {} sampleFiles [.remap tidy p, .edit {}] ++
          [.consult gone.files path]) = some m ∧
      (gone.remapper.remap gone.files.read other p).1 =
        .ok (some ⟨"/work/o//./b/G".toList, ⟨5, 4⟩⟩) := by
  intro p tidy other path m s gone
  have hpath : Remapper.consults? {} other p = some path := by decide +kernel
  have hused : CacheEvent.firstLoad (Remapper.key path)
      (RemapStep.eventsOf {} sampleFiles [.remap tidy p, .edit {}] ++
        [.consult gone.files path]) = some m := by decide +kernel
  have hfits : m.Fits := by
    intro r hr
    obtain rfl := List.mem_singleton.mp hr
    exact ⟨by decide, by decide, by decide⟩
  refine ⟨hpath, hfits, ?_, hused, ?_⟩
  · refine (coherent {} sampleFiles [.remap tidy p]).fresh (by decide) fun path' hpath' => ?_
    obtain rfl : path = path' := Option.some.inj (hpath.symm.trans hpath')
    decide +kernel
  · have hgone := coherent {} sampleFiles [.remap tidy p, .edit {}]
    rw [hgone.used hpath hused, hgone.exact hfits]
    decide +kernel

/-- The directory of the map, spelled with many separators. -/
def longDirectory (n : Nat) : Text :=
  'o' :: List.replicate n '/' ++ ['/', 'b']

theorem splitAt_longDirectory (n : Nat) : Text.splitAt '/' (longDirectory n) =
    Text.splitAt '/' ('o' :: List.replicate n '/') ++ [['b']] :=
  Text.splitAt_append _ _

/-- A file in this directory. -/
theorem ofText_longDirectory (n : Nat) {name : Text} (hname : '/' ∉ name) :
    Path.ofText (longDirectory n ++ '/' :: name) =
      ⟨[], Text.splitAt '/' ('o' :: List.replicate n '/') ++ [['b']] ++ [name]⟩ := by
  have hparts : Text.splitAt '/' (longDirectory n ++ '/' :: name) =
      Text.splitAt '/' ('o' :: List.replicate n '/') ++ [['b']] ++ [name] := by
    rw [Text.splitAt_append, splitAt_longDirectory, Text.splitAt_of_notMem hname]
  exact congrArg (Path.mk []) hparts

theorem parentPath?_longDirectory (n : Nat) {name : Text} (hname : '/' ∉ name)
    (hvoid : Path.isVoid name = false) :
    (longDirectory n ++ '/' :: name).parentPath? = some (longDirectory n) := by
  rw [Text.parentPath?, ofText_longDirectory n hname, Path.parent?_concat hvoid (by decide),
    ← splitAt_longDirectory]
  exact congrArg some (Text.intercalate_splitAt '/' (longDirectory n))

theorem joinPath_longDirectory (n : Nat) {name : Text} (hname : name.head? ≠ some '/') :
    (longDirectory n).joinPath name = longDirectory n ++ '/' :: name := by
  have hlast : (longDirectory n).getLast? = some 'b' :=
    List.getLast?_append_of_ne_nil ('o' :: List.replicate n '/') (by decide : ['/', 'b'] ≠ [])
  rw [Text.joinPath, if_neg hname, hlast, if_neg]
  simp [longDirectory]

theorem consults?_longDirectory (n : Nat) :
    Remapper.consults? {} (longDirectory n ++ "/parser.cs".toList) ⟨1, 2⟩ =
      some (longDirectory n ++ "/parser.atgmap".toList) := by
  have hname : (Path.ofText (longDirectory n ++ "/parser.cs".toList)).fileName =
      some "parser.cs".toList := by
    refine (congrArg Path.fileName (ofText_longDirectory n (by decide))).trans ?_
    exact Path.fileName_concat (by decide) (by decide)
  have hparent : (longDirectory n ++ "/parser.cs".toList).parentPath? = some (longDirectory n) :=
    parentPath?_longDirectory n (by decide) (by decide)
  rw [Remapper.consults?, hname, if_neg (by decide), Text.withFileName, hname]
  simp only [hparent, Option.getD_some]
  exact congrArg some (joinPath_longDirectory n (by decide))

/-- The key is that of the tidy spelling. -/
theorem key_longDirectory (n : Nat) :
    Remapper.key (longDirectory n ++ "/parser.atgmap".toList) =
      Remapper.key "o/b/parser.atgmap".toList := by
  have hparts : Path.countedParts (longDirectory n ++ '/' :: "parser.atgmap".toList) =
      [['o'], ['b'], "parser.atgmap".toList] := by
    have hdir : Path.countedParts (['o'] ++ List.replicate n '/') = [['o']] :=
      Path.countedParts_replicate ['o'] n
    have hlong : longDirectory n = ['o'] ++ List.replicate n '/' ++ '/' :: ['b'] := rfl
    rw [Path.countedParts_append, hlong, Path.countedParts_append, hdir]
    decide +kernel
  refine (Path.components_ofText _).trans ?_
  refine (congrArg (Prod.mk _) hparts).trans ?_
  have hhead : (Path.ofText (longDirectory n ++ "/parser.atgmap".toList)).head = [] := rfl
  rw [hhead]
  decide +kernel

/-- Once the map is in the cache, it is used. -/
theorem remap_longDirectory (n : Nat) :
    let s := (start {} sampleFiles).after [.remap "o/b/parser.cs".toList ⟨1, 2⟩]
    (s.remapper.remap sampleFiles.read (longDirectory n ++ "/parser.cs".toList) ⟨1, 2⟩).1 =
      .ok (some ⟨longDirectory n ++ "/G".toList, ⟨5, 4⟩⟩) := by
  intro s
  have hpath : Remapper.consults? s.remapper.settings (longDirectory n ++ "/parser.cs".toList)
      ⟨1, 2⟩ = some (longDirectory n ++ "/parser.atgmap".toList) := by
    rw [settings_after]
    exact consults?_longDirectory n
  have hhit : s.remapper.cache.lookup (Remapper.key "o/b/parser.atgmap".toList) =
      some { grammar := ['G'], runs := [⟨0, 0, 4, 2, 3⟩] } := by decide +kernel
  have hused : s.remapper.used? sampleFiles.read (longDirectory n ++ "/parser.atgmap".toList) =
      some { grammar := ['G'], runs := [⟨0, 0, 4, 2, 3⟩] } := by
    rw [Remapper.used?, key_longDirectory, hhit]
    rfl
  have hparent : (longDirectory n ++ "/parser.atgmap".toList).parentPath? =
      some (longDirectory n) := parentPath?_longDirectory n (by decide) (by decide)
  have hgrammar : Remapper.grammarPath (longDirectory n ++ "/parser.atgmap".toList) ['G'] =
      longDirectory n ++ "/G".toList := by
    rw [Remapper.grammarPath, hparent]
    exact joinPath_longDirectory n (by decide)
  rw [Remapper.remap_of_used? hpath hused, ← hgrammar]
  rfl

/-- A fresh remapper cannot read it. -/
theorem remap_fresh_longDirectory {n : Nat} (h : FileTree.pathLimit ≤ n) :
    (({} : Remapper).remap sampleFiles.read (longDirectory n ++ "/parser.cs".toList) ⟨1, 2⟩).1 =
      .error (.inaccessible (longDirectory n ++ "/parser.atgmap".toList) .nameTooLong) := by
  have hnull : (longDirectory n ++ "/parser.atgmap".toList).contains '\x00' = false := by
    simp [longDirectory]
  have hsize : FileTree.pathLimit ≤ Text.size (longDirectory n ++ "/parser.atgmap".toList) := by
    have hslashes : Text.size (List.replicate n '/') = n := by
      clear h hnull
      induction n with
      | zero => rfl
      | succ n ih =>
        rw [List.replicate_succ, Text.size_cons, ih, Nat.add_comm]
        rfl
    simp only [longDirectory, List.cons_append, Text.size_cons, Text.size_append, hslashes]
    omega
  have hread : sampleFiles.read (longDirectory n ++ "/parser.atgmap".toList) =
      .error .nameTooLong := by
    rw [FileTree.read_eq, FileTree.target, hnull, if_neg Bool.false_ne_true, if_pos hsize]
    rfl
  rw [Remapper.remap_of_some (consults?_longDirectory n), Remapper.fst_load]
  change (PositionMap.load sampleFiles.read _).map _ = _
  rw [PositionMap.load, hread]
  rfl

/-- **A spelling that is too long** cannot be read, but its map may be in the cache, although no
file has changed. -/
theorem remap_ne_fresh_of_long_spelling :
    let generated := longDirectory FileTree.pathLimit ++ "/parser.cs".toList
    let steps : List RemapStep := [.remap "o/b/parser.cs".toList ⟨1, 2⟩]
    (∀ step ∈ steps, step.isEdit = false) ∧
      (((start {} sampleFiles).after steps).remapper.remap sampleFiles.read generated ⟨1, 2⟩).1 ≠
        (({} : Remapper).remap sampleFiles.read generated ⟨1, 2⟩).1 := by
  intro generated steps
  refine ⟨by decide, ?_⟩
  rw [remap_longDirectory, remap_fresh_longDirectory (Nat.le_refl _)]
  exact fun h => by cases h

end RemapState

end GrammarWorkbench
