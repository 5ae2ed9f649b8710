import GrammarWorkbench.Files.Tree
import GrammarWorkbench.Proofs.Text.Split
import Mathlib.Data.List.Basic

/-!
# Spellings of one path

Parts of a path that do not count may be put in or left out, and the path has the same components
as before. It leads to the same place too, but not from every point of view: a part at the very end
asks for a directory, and a spelling may be too long to be followed at all.

So the statement is this: of two spellings that **end in the same part** and are **short enough**,
both can be read with the same result, or neither can, for the same reason
(`GrammarWorkbench.FileTree.read_congr`). Paths that were made by putting one name after different
directories end in the same part (`GrammarWorkbench.Text.getLast?_splitAt_joinPath`).
-/

namespace GrammarWorkbench

namespace Text

/-- **One name after different directories**: the last part is the same. -/
theorem getLast?_splitAt_joinPath (dir name : Text) :
    (splitAt '/' (dir.joinPath name)).getLast? = (splitAt '/' name).getLast? := by
  have hname := splitAt_ne_nil '/' name
  have hslash : ∀ dir : Text, (splitAt '/' (dir ++ '/' :: name)).getLast? =
      (splitAt '/' name).getLast? := by
    intro dir
    rw [splitAt_append, List.getLast?_append_of_ne_nil _ hname]
  rw [joinPath]
  split
  · rfl
  split
  next h =>
    rcases List.eq_nil_or_concat dir with rfl | ⟨dir, d, rfl⟩
    · rfl
    · have hd : d = '/' := by simpa using h
      simpa [hd] using hslash dir
  next => exact hslash dir

end Text

/-! ### Paths with the same components -/

namespace Path

variable {p q : Text}

/-- The parts of a text that count. -/
def countedParts (p : Text) : List Text :=
  (Text.splitAt '/' p).filter (!isVoid ·)

/-- **The components of a path**: where it starts, and the parts of its text that count. -/
theorem components_ofText (p : Text) :
    (ofText p).components = ((ofText p).head, countedParts p) := by
  unfold ofText countedParts
  split
  next t => simp [components, Text.splitAt_cons_self, isVoid]
  next => rfl
  next t =>
    obtain ⟨part, parts, ht, hdot⟩ :=
      Text.splitAt_cons_of_ne (by decide : '.' ≠ '/') ('/' :: t)
    rw [Text.splitAt_cons_self, List.cons.injEq] at ht
    rw [hdot, ← ht.1, ← ht.2]
    simp [components, isVoid]
  next => rfl

/-- A path starts at the root if its text begins with a slash. -/
theorem head_eq_root_iff : (ofText p).head = ['/'] ↔ p.head? = some '/' := by
  unfold ofText
  split
  · simp
  · simp
  · simp
  next h _ _ =>
    rcases p with _ | ⟨c, p⟩
    · simp
    · simp only [List.head?_cons, Option.some.injEq, reduceCtorEq, false_iff]
      rintro rfl
      exact h p rfl

/-- Only the empty path has no components at all. -/
theorem eq_nil_of_components (h : (ofText p).components = ([], [])) : p = [] := by
  rw [components_ofText, Prod.mk.injEq] at h
  obtain ⟨hhead, hparts⟩ := h
  unfold ofText at hhead
  split at hhead
  · cases hhead
  · cases hhead
  · cases hhead
  next hroot hdot hhere =>
    rcases p with _ | ⟨c, p⟩
    · rfl
    · -- The first part begins with a character that is no slash, and is more than a dot.
      have hc : c ≠ '/' := by
        rintro rfl
        exact hroot p rfl
      obtain ⟨part, parts, hp, hcp⟩ := Text.splitAt_cons_of_ne hc p
      have hvoid : isVoid (c :: part) = false := by
        by_contra hvoid
        simp only [isVoid, Bool.not_eq_false, Bool.or_eq_true, beq_iff_eq, reduceCtorEq,
          false_or, List.cons.injEq] at hvoid
        obtain ⟨rfl, rfl⟩ := hvoid
        rcases p with _ | ⟨d, p⟩
        · exact hdot rfl
        · by_cases hd : d = '/'
          · subst hd
            exact hhere p rfl
          · obtain ⟨_, _, -, hdp⟩ := Text.splitAt_cons_of_ne hd p
            rw [hdp] at hp
            cases hp
      rw [countedParts, hcp, List.filter_cons, if_pos (by simp [hvoid])] at hparts
      cases hparts

/-- A character other than a slash stands in the parts that count, unless it is a dot. -/
theorem mem_countedParts_iff {c : Char} (hslash : c ≠ '/') (hdot : c ≠ '.') :
    (∃ part ∈ countedParts p, c ∈ part) ↔ c ∈ p := by
  rw [← Text.mem_splitAt_iff hslash]
  constructor
  · rintro ⟨part, hpart, hc⟩
    exact ⟨part, (List.mem_filter.mp hpart).1, hc⟩
  · rintro ⟨part, hpart, hc⟩
    refine ⟨part, List.mem_filter.mpr ⟨hpart, ?_⟩, hc⟩
    have hnil : part ≠ [] := List.ne_nil_of_mem hc
    have hhere : part ≠ ['.'] := by
      rintro rfl
      exact hdot (List.mem_singleton.mp hc)
    simp [isVoid, hnil, hhere]

theorem countedParts_append (p q : Text) :
    countedParts (p ++ '/' :: q) = countedParts p ++ countedParts q := by
  rw [countedParts, Text.splitAt_append, List.filter_append]
  rfl

/-- Separators at the end of a path add nothing that counts. -/
theorem countedParts_replicate (p : Text) (n : Nat) :
    countedParts (p ++ List.replicate n '/') = countedParts p := by
  induction n with
  | zero => rw [List.replicate_zero, List.append_nil]
  | succ n ih =>
    rw [List.replicate_succ', ← List.append_assoc, countedParts_append, ih]
    exact List.append_nil _

variable {head : Text} {parts : List Text} {name : Text}

theorem trimEnd_concat (hname : isVoid name = false) :
    trimEnd ⟨head, parts ++ [name]⟩ = ⟨head, parts ++ [name]⟩ := by
  simp [trimEnd, hname]

/-- The last part is the name of the file. -/
theorem fileName_concat (hname : isVoid name = false) (hup : name ≠ ['.', '.']) :
    fileName ⟨head, parts ++ [name]⟩ = some name := by
  simp [fileName, trimEnd_concat hname, hup]

/-- The other parts are the parent. -/
theorem parent?_concat {part : Text} (hname : isVoid name = false) (hpart : isVoid part = false) :
    parent? ⟨head, parts ++ [part] ++ [name]⟩ = some ⟨head, parts ++ [part]⟩ := by
  rw [parent?, trimEnd_concat hname, if_neg (by simp), List.dropLast_concat, trimEnd_concat hpart]

end Path

/-! ### Following a path -/

namespace FileTree

variable {t : FileTree} {here : Target} {part last : Text} {parts parts' : List Text}

/-- What can be read where a path leads. -/
def content : Except FileError Target → Except FileError Text
  | .error e => .error e
  | .ok (.free _) | .ok .freeDirectory => .error .notFound
  | .ok (.found (.text s) _) => .ok s
  | .ok (.found .binary _) => .error .notText
  | .ok (.found .directory _) => .error .isDirectory

theorem read_eq (t : FileTree) (path : Text) : t.read path = content (t.target path) := by
  simp only [read]
  split <;> simp_all [content]

/-- **Where the text of a path leads**, if it is not ruled out from the start. -/
theorem target_eq_follow {path : Text} (hnull : path.contains '\x00' = false)
    (hsize : path.size < pathLimit) (hne : path ≠ []) :
    t.target path = t.follow (.found .directory (t.origin path)) (Text.splitAt '/' path) := by
  rw [target, hnull, if_neg Bool.false_ne_true, if_neg (Nat.not_le_of_lt hsize), if_neg hne]

/-- Whether a path can go on: from a directory. -/
def Target.isOpen : Target → Bool
  | .found .directory _ => true
  | _ => false

/-- In a directory, a part that does not count leads nowhere else. -/
theorem follow_of_isVoid (hhere : here.isOpen = true) (hpart : Path.isVoid part = true) :
    t.follow here (part :: parts) = t.follow here parts := by
  rcases here with ⟨_ | _ | _, place⟩ | _ | _ <;> cases hhere
  simp [follow, hpart]

/-- Where there is no directory, no part leads on. -/
theorem content_follow_of_isOpen (hhere : here.isOpen = false) (hparts : parts ≠ [])
    (hparts' : parts' ≠ []) :
    content (t.follow here parts) = content (t.follow here parts') := by
  obtain ⟨part, rest, rfl⟩ := List.exists_cons_of_ne_nil hparts
  obtain ⟨part', rest', rfl⟩ := List.exists_cons_of_ne_nil hparts'
  have hfree : ∀ place part rest,
      content (t.follow (.free place) (part :: rest)) = .error .notFound := by
    intro place part rest
    rw [follow]
    split <;> rfl
  rcases here with ⟨_ | _ | _, place⟩ | place | _ <;> cases hhere
  · rfl
  · rfl
  · rw [hfree, hfree]
  · rfl

/-- A part that counts leads to one place, whatever parts come after it. -/
theorem exists_follow_cons (t : FileTree) (here : Target) (hpart : Path.isVoid part = false) :
    ∃ next : Except FileError Target, ∀ parts,
      t.follow here (part :: parts) = next.bind fun here => t.follow here parts := by
  have hnil : part ≠ [] := by
    rintro rfl
    cases hpart
  rcases here with ⟨_ | _ | _, place⟩ | place | _
  · by_cases hup : part = ['.', '.']
    · exact ⟨.ok (.found .directory place.dropLast), fun _ => by
        simp [follow, hup, Path.isVoid, Except.bind]⟩
    · by_cases hsize : nameLimit < part.size
      · exact ⟨.error .nameTooLong, fun _ => by simp [follow, hpart, hup, hsize, Except.bind]⟩
      · cases hnode : t.node? (place ++ [part]) with
        | some n => exact ⟨.ok (.found n (place ++ [part])), fun _ => by
            simp [follow, hpart, hup, hsize, hnode, Except.bind]⟩
        | none => exact ⟨.ok (.free (place ++ [part])), fun _ => by
            simp [follow, hpart, hup, hsize, hnode, Except.bind]⟩
  · exact ⟨.error .notDirectory, fun _ => rfl⟩
  · exact ⟨.error .notDirectory, fun _ => rfl⟩
  · exact ⟨.error .notFound, fun _ => by simp [follow, hnil, Except.bind]⟩
  · exact ⟨.error .notFound, fun _ => rfl⟩

/-- **The parts that do not count can be left out**, except the last one. -/
theorem content_follow_filter (t : FileTree) (here : Target) (parts : List Text) (last : Text) :
    content (t.follow here (parts ++ [last])) =
      content (t.follow here (parts.filter (!Path.isVoid ·) ++ [last])) := by
  induction parts generalizing here with
  | nil => rfl
  | cons part parts ih =>
    cases hpart : Path.isVoid part with
    | true =>
      rw [List.filter_cons, if_neg (by simp [hpart]), List.cons_append]
      cases hhere : here.isOpen with
      | true => rw [follow_of_isVoid hhere hpart, ih]
      | false => exact content_follow_of_isOpen hhere (by simp) (by simp)
    | false =>
      obtain ⟨next, hnext⟩ := exists_follow_cons t here hpart
      rw [List.filter_cons, if_pos (by simp [hpart]), List.cons_append, List.cons_append, hnext,
        hnext]
      rcases next with e | here
      · rfl
      · exact ih here

/-- **Two spellings of a path are read with the same result**, if they end in the same part and are
not too long. -/
theorem read_congr (t : FileTree) {p q : Text}
    (hkey : (Path.ofText p).components = (Path.ofText q).components)
    (hlast : (Text.splitAt '/' p).getLast? = (Text.splitAt '/' q).getLast?)
    (hp : p.size < pathLimit) (hq : q.size < pathLimit) : t.read p = t.read q := by
  have hcomponents := hkey
  rw [Path.components_ofText, Path.components_ofText, Prod.mk.injEq] at hcomponents
  obtain ⟨hhead, hparts⟩ := hcomponents
  have hnull : p.contains '\x00' = q.contains '\x00' := by
    rw [Bool.eq_iff_iff, List.contains_iff_mem, List.contains_iff_mem,
      ← Path.mem_countedParts_iff (by decide) (by decide), hparts,
      Path.mem_countedParts_iff (by decide) (by decide)]
  have hroot : p.head? = some '/' ↔ q.head? = some '/' := by
    rw [← Path.head_eq_root_iff, hhead, Path.head_eq_root_iff]
  -- Both lists of parts end in the same part, and before it the same parts count.
  have hfollow : ∀ here, content (t.follow here (Text.splitAt '/' p)) =
      content (t.follow here (Text.splitAt '/' q)) := by
    intro here
    obtain ⟨ps, last, hps⟩ := (List.eq_nil_or_concat' (Text.splitAt '/' p)).resolve_left
      (Text.splitAt_ne_nil '/' p)
    obtain ⟨qs, last', hqs⟩ := (List.eq_nil_or_concat' (Text.splitAt '/' q)).resolve_left
      (Text.splitAt_ne_nil '/' q)
    obtain rfl : last = last' := by simpa [hps, hqs] using hlast
    rw [Path.countedParts, Path.countedParts, hps, hqs, List.filter_append, List.filter_append]
      at hparts
    rw [hps, hqs, content_follow_filter, content_follow_filter t here qs,
      List.append_cancel_right hparts]
  have horigin : t.origin p = t.origin q := by
    rw [origin, origin]
    simp only [hroot]
  rw [read_eq, read_eq]
  cases hq0 : q.contains '\x00' with
  | true => rw [target, target, if_pos (hnull.trans hq0), if_pos hq0]
  | false =>
    by_cases hempty : q = []
    · subst hempty
      rw [Path.eq_nil_of_components hkey]
    · have hne : p ≠ [] := by
        rintro rfl
        exact hempty (Path.eq_nil_of_components hkey.symm)
      rw [target_eq_follow (hnull.trans hq0) hp hne, target_eq_follow hq0 hq hempty, horigin]
      exact hfollow (.found .directory (t.origin q))

end FileTree

end GrammarWorkbench
