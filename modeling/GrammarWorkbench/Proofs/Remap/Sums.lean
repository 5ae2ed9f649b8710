import GrammarWorkbench.Proofs.PositionMap.Sums
import GrammarWorkbench.Remap

/-!
# Tracing with sums that may not fit

A position is traced by one computation for every way of adding. What does not stop, gives what is
given with sums that are cut (`GrammarWorkbench.Remapper.agrees_remapBy`); and a map whose sums fit
64 bits is looked up in numbers without a limit (`GrammarWorkbench.Remapper.originBy_of_fits`), so
that nothing stops there.
-/

namespace GrammarWorkbench

namespace Remapper

open Sum64

variable {r : Remapper} {files : Reader} {generated path : Text} {p : Position} {m : PositionMap}

/-- The map path that a position of a generated file is traced with, if it is traced at all. -/
def consults? (settings : RemapSettings) (generated : Text) (p : Position) : Option Text :=
  if p.line = 0 ∨ p.column = 0 ∨
      !((Path.ofText generated).fileName.any settings.isGenerated) then none
  else some (generated.withFileName settings.mapFile)

/-- The place in the grammar that a map at a path has for a position, with sums that are cut. -/
def origin (path : Text) (p : Position) (m : PositionMap) : Option GrammarLocation :=
  Id.run (originBy wrapping path p m)

/-- The place in the grammar that a map at a path has for a position, in numbers without a limit. -/
def exactOrigin (path : Text) (p : Position) (m : PositionMap) : Option GrammarLocation :=
  (m.lookup (p.line - 1) (p.column - 1)).map fun (line, column) =>
    ⟨grammarPath path m.grammar, ⟨line + 1, column + 1⟩⟩

section AnySums

variable {μ : Type → Type} [Monad μ] {add : Nat → Nat → μ Nat}

theorem remapBy_of_none (h : consults? r.settings generated p = none) :
    r.remapBy add files generated p = pure (.ok none, r) := by
  rw [consults?] at h
  split at h
  next hp => rw [remapBy, if_pos hp]
  next => cases h

/-- **A position is traced with the map at one path.** -/
theorem remapBy_of_some (h : consults? r.settings generated p = some path) :
    r.remapBy add files generated p =
      match r.load files path with
      | (.error e, r) => pure (.error e, r)
      | (.ok m, r) => originBy add path p m >>= fun origin => pure (.ok origin, r) := by
  rw [consults?] at h
  split at h
  next => cases h
  next hp =>
    cases h
    rw [remapBy, if_neg hp]
    rfl

theorem remapAllBy_cons (base : Text) (e : CompilerError) (errors : List CompilerError) :
    r.remapAllBy add files base (e :: errors) =
      r.remapBy add files (base.joinPath e.file) e.position >>= fun first =>
        first.2.remapAllBy add files base errors >>= fun more =>
          pure ((e, first.1.toOption.join) :: more.1, more.2) := rfl

/-- **A map whose sums fit** gives the place in numbers without a limit. -/
theorem originBy_of_fits [LawfulMonad μ] (hadd : IsExact add) (h : m.Fits) :
    originBy add path p m = pure (exactOrigin path p m) := by
  rw [originBy, PositionMap.lookupBy_of_fits hadd h, pure_bind, exactOrigin]
  cases hplace : m.lookup (p.line - 1) (p.column - 1) with
  | none => rfl
  | some place =>
    obtain ⟨hline, hcolumn⟩ := PositionMap.lookup_lt_of_fits h hplace
    simp [hadd _ _ hline, hadd _ _ hcolumn]

end AnySums

theorem origin_of_fits (h : m.Fits) : origin path p m = exactOrigin path p m :=
  originBy_of_fits isExact_wrapping h

theorem remap_of_none (h : consults? r.settings generated p = none) :
    r.remap files generated p = (.ok none, r) := by
  rw [remap, remapBy_of_none h]
  rfl

theorem remap_of_some (h : consults? r.settings generated p = some path) :
    r.remap files generated p =
      ((r.load files path).1.map (origin path p), (r.load files path).2) := by
  rw [remap, remapBy_of_some h]
  rcases r.load files path with ⟨e | m, next⟩ <;> rfl

/-! ### With and without stopping -/

theorem agrees_originBy (path : Text) (p : Position) (m : PositionMap) :
    Agrees (originBy checked path p m) (originBy wrapping path p m) := by
  refine (PositionMap.agrees_lookupBy m _ _).bind fun place => ?_
  cases place with
  | none => exact agrees_pure none
  | some place =>
    exact (agrees_sum _ _).bind fun line => (agrees_sum _ _).bind fun column => agrees_pure _

/-- **A position that is traced without stopping** is traced as with sums that are cut. -/
theorem agrees_remapBy (r : Remapper) (files : Reader) (generated : Text) (p : Position) :
    Agrees (r.remapBy checked files generated p) (r.remapBy wrapping files generated p) := by
  cases h : consults? r.settings generated p with
  | none =>
    rw [remapBy_of_none h, remapBy_of_none h]
    exact agrees_pure _
  | some path =>
    rw [remapBy_of_some h, remapBy_of_some h]
    rcases r.load files path with ⟨e | m, next⟩
    · exact agrees_pure _
    · exact (agrees_originBy path p m).bind fun origin => agrees_pure _

/-- **So are the errors of a compiler.** -/
theorem agrees_remapAllBy (r : Remapper) (files : Reader) (base : Text)
    (errors : List CompilerError) :
    Agrees (r.remapAllBy checked files base errors) (r.remapAllBy wrapping files base errors) := by
  induction errors generalizing r with
  | nil => exact agrees_pure _
  | cons e errors ih =>
    exact (agrees_remapBy r files _ _).bind fun first =>
      (ih first.2).bind fun more => agrees_pure _

/-- **Nothing stops** where no map is used, or one whose sums fit. -/
theorem remapBy_checked_of_fits
    (h : ∀ path m, consults? r.settings generated p = some path →
      (r.load files path).1 = .ok m → m.Fits) :
    r.remapBy checked files generated p = some (r.remap files generated p) := by
  cases hpath : consults? r.settings generated p with
  | none =>
    rw [remapBy_of_none hpath, remap_of_none hpath]
    rfl
  | some path =>
    rw [remapBy_of_some hpath, remap_of_some hpath]
    rcases hload : r.load files path with ⟨e | m, next⟩
    · rfl
    · have hfits : m.Fits := h path m hpath (by rw [hload])
      simp [originBy_of_fits isExact_checked hfits, origin_of_fits hfits, Except.map]

/-- **A batch stops only where one of its positions does**, when its turn comes. -/
theorem remapAllBy_checked {base : Text} {errors : List CompilerError}
    (h : ∀ before e after, errors = before ++ e :: after →
      (((r.remapAll files base before).2.remapBy checked files (base.joinPath e.file)
        e.position).isSome = true)) :
    r.remapAllBy checked files base errors = some (r.remapAll files base errors) := by
  induction errors generalizing r with
  | nil => rfl
  | cons e errors ih =>
    obtain ⟨first, hfirst⟩ := Option.isSome_iff_exists.mp (h [] e errors rfl)
    obtain rfl : r.remap files (base.joinPath e.file) e.position = first :=
      agrees_remapBy r files _ _ first hfirst
    have hmore := ih (r := (r.remap files (base.joinPath e.file) e.position).2)
      fun before e' after herrors => h (e :: before) e' after (by rw [herrors]; rfl)
    have hone : r.remapBy checked files (base.joinPath e.file) e.position =
        some (r.remap files (base.joinPath e.file) e.position) := hfirst
    rw [remapAllBy_cons, hone, Option.bind_eq_bind, Option.bind_some, hmore]
    rfl

end Remapper

end GrammarWorkbench
