import GrammarWorkbench.Log.Compiler
import GrammarWorkbench.Proofs.Log.Parts
import GrammarWorkbench.Proofs.Log.Pattern
import Mathlib.Data.List.Infix

/-!
# The names of files in a log

A line of a compiler is cut behind the name of a file, where a position in parentheses comes. Names
may have parentheses, digits, commas and colons too, and so may messages. This file says which names
come back from a line that was written (`GrammarWorkbench.Log.compilerLine?_of_isFileName`).

* **The pattern of a line** (`GrammarWorkbench.Log.compilerPattern`) is the specification of what is
  read. Here it does matter in which order ways are tried: the name is lazy, and the blanks and the
  number before it are greedy (`GrammarWorkbench.Log.first?_compilerPattern`).
* **The name ends before the first position** (`GrammarWorkbench.Log.shortestFile?_append`). A
  position that begins in the name ends in it, for only its first character is an opening
  parenthesis, and such a character comes right behind the name.
* **The name begins behind the blanks and the number**, if it does not begin with a number itself
  (`GrammarWorkbench.Log.IsFileName.exists_compilerStarts`).
-/

namespace GrammarWorkbench

open Pattern

namespace Log

variable {t f m mark rest : Text} {c : Char}

/-! ### The pattern of a line -/

/-- A position in parentheses and the message after it, as a pattern. -/
def positionPattern : Pattern :=
  inOrder [word ['('], digits .line, word [','], digits .column, word [')'], blanks, word [':'],
    message]

/-- **What a compiler prints**, as a pattern. -/
def compilerPattern : Pattern :=
  inOrder [blanks, either ((oneOrMore true Text.isDecimalDigit).seq (word ['>'])) empty,
    pick .file (oneOrMore false isInLine), word ['('], digits .line, word [','], digits .column,
    word [')'], blanks, word [':'], message]

theorem first?_positionPattern (t : Text) :
    positionPattern.first? t = (positionAndMessage? t).map positionParts := by
  rw [positionPattern, positionAndMessage?]
  simp only [inOrder, Option.bind_eq_bind, Option.map_bind, Function.comp_def]
  rw [first?_word_seq]
  refine congrArg _ (funext fun t => ?_)
  rw [first?_digits_seq (avoids_word_seq rfl _)]
  refine congrArg _ (funext ?_)
  rintro ⟨line, t⟩
  rw [first?_word_seq, Option.map_bind]
  refine congrArg _ (funext fun t => ?_)
  rw [Function.comp_apply, first?_digits_seq (avoids_word_seq rfl _),
    Option.map_bind]
  refine congrArg _ (funext ?_)
  rintro ⟨column, t⟩
  rw [Function.comp_apply, first?_word_seq, Option.map_bind, Option.map_bind]
  refine congrArg _ (funext fun t => ?_)
  rw [Function.comp_apply, Function.comp_apply, first?_colonMessage]
  cases Log.colonMessage? t <;> rfl

/-- **The shortest name** is the first cut after which a position follows. -/
theorem shortestFile?_cons (c : Char) (t : Text) :
    shortestFile? (c :: t) = if isInLine c then
      (cuts isInLine t).findSome? fun x => (positionAndMessage? x.2).map (c :: x.1, ·)
    else none := by
  induction t generalizing c with
  | nil =>
    have hnone : positionAndMessage? [] = none := rfl
    simp [shortestFile?, cuts, hnone]
  | cons d t ih =>
    rw [shortestFile?]
    by_cases hc : c = '\n'
    · simp [hc, isInLine]
    · have hline : isInLine c = true := by simpa [isInLine] using hc
      rw [if_neg hc, if_pos hline, cuts_cons, List.findSome?_cons]
      cases positionAndMessage? (d :: t) with
      | some rest => rfl
      | none =>
        simp only [Option.map_none]
        rw [ih d]
        split
        · rw [List.map_findSome?, List.findSome?_map]
          simp [Function.comp_def]
        · rfl

theorem first?_file (t : Text) :
    ((pick .file (oneOrMore false isInLine)).seq positionPattern).first? t =
      (shortestFile? t).map fun x => (.file, x.1) :: positionParts x.2 := by
  cases t with
  | nil => rfl
  | cons c t =>
    rw [first?_pick_oneOrMore_seq, shortestFile?_cons]
    split
    · rw [List.map_findSome?]
      simp [tries, first?_positionPattern, Function.comp_def]
    · rfl

/-- The places where a name may start, by cuts. -/
theorem compilerStarts_eq (t : Text) :
    compilerStarts t = (tries true Text.isBlank t).flatMap fun x => fileStarts x.2 := by
  rw [tries, if_pos rfl]
  induction t with
  | nil => rfl
  | cons c t ih =>
    rw [compilerStarts, cuts_cons]
    cases Text.isBlank c with
    | false => simp
    | true => simp [ih, ← List.map_reverse, List.flatMap_map]

/-- The first hit in some lists in a row. -/
theorem findSome?_flatMap {α β γ : Type} (g : α → List β) (f : β → Option γ) (l : List α) :
    (l.flatMap g).findSome? f = l.findSome? fun x => (g x).findSome? f := by
  rw [← List.head?_filterMap, List.filterMap_flatMap, List.head?_flatMap]
  simp only [List.head?_filterMap]

/-- A number in front is left out rather than not. -/
theorem first?_buildNumber_seq (b : Pattern) (t : Text) :
    ((either ((oneOrMore true Text.isDecimalDigit).seq (word ['>'])) empty).seq b).first? t =
      (fileStarts t).findSome? b.first? := by
  rw [first?_either_seq, first?_empty_seq, first?_seq_assoc,
    first?_oneOrMore_digits_seq (avoids_word_seq rfl _), fileStarts,
    List.findSome?_append]
  simp only [first?_word_seq]
  rw [← Option.bind_assoc]
  change ((skipBuildNumber? t).bind b.first?).or (b.first? t) = _
  cases skipBuildNumber? t <;> simp

/-- **A line is read as its pattern lays down.** -/
theorem first?_compilerPattern (t : Text) :
    compilerPattern.first? t = ((compilerStarts t).findSome? shortestFile?).map
      fun x => (.file, x.1) :: positionParts x.2 := by
  refine (first?_many_seq true Text.isBlank _ t).trans ?_
  rw [compilerStarts_eq, findSome?_flatMap, List.map_findSome?]
  congr 1
  funext x
  refine (first?_buildNumber_seq _ x.2).trans ?_
  rw [Function.comp_apply, List.map_findSome?]
  congr 1
  exact funext first?_file

/-- The error that the parts of a line tell of. Blanks around the name are left out. A number has to
be written in ASCII digits and has to be small enough. -/
def errorOfParts? (parts : List (LinePart × Text)) : Option CompilerError := do
  let line ← Text.digits? (← parts.lookup .line)
  let column ← Text.digits? (← parts.lookup .column)
  return ⟨Text.trim (← parts.lookup .file), ⟨line, column⟩, ← parts.lookup .message⟩

theorem compilerLine?_eq_first? (t : Text) :
    compilerLine? t = (compilerPattern.first? t).bind errorOfParts? := by
  rw [first?_compilerPattern, compilerLine?]
  cases (compilerStarts t).findSome? shortestFile? <;> rfl

/-! ### The end of a name -/

/-- **A position with a colon behind it**: the end of a name. -/
def IsPositionMark (mark : Text) : Prop :=
  ∃ line column blanks : Text, mark = '(' :: (line ++ ',' :: (column ++ ')' :: (blanks ++ [':']))) ∧
    IsDigits line ∧ IsDigits column ∧ ∀ c ∈ blanks, Text.isBlank c = true

/-- **Only the first character** of such a position is an opening parenthesis. -/
theorem IsPositionMark.exists_tail (h : IsPositionMark mark) :
    ∃ rest, mark = '(' :: rest ∧ '(' ∉ rest := by
  obtain ⟨line, column, blanks, rfl, hline, hcolumn, hblanks⟩ := h
  have hdigits {t : Text} (ht : IsDigits t) : '(' ∉ t := fun hmem =>
    absurd (ht.isDecimalDigit _ hmem) (by decide)
  have hblanks : '(' ∉ blanks := fun hmem => absurd (hblanks _ hmem) (by decide)
  refine ⟨_, rfl, ?_⟩
  simp [hdigits hline, hdigits hcolumn, hblanks]

/-- What is left after a position with a colon behind it. -/
def afterMark? (t : Text) : Option Text := do
  let (_, t) ← digits? (← Text.after? ['('] t)
  let (_, t) ← digits? (← Text.after? [','] t)
  Text.after? [':'] (skipBlanks (← Text.after? [')'] t))

theorem afterMark?_eq_some_iff :
    afterMark? t = some rest ↔ ∃ mark, IsPositionMark mark ∧ t = mark ++ rest := by
  constructor
  · intro h
    simp only [afterMark?, Option.bind_eq_bind, Option.bind_eq_some_iff,
      Text.after?_eq_some_iff] at h
    obtain ⟨_, rfl, ⟨line, _⟩, hl, _, rfl, ⟨column, _⟩, hc, u, rfl, hcolon⟩ := h
    obtain ⟨hline, rfl⟩ := isDigits_of_digits? hl
    obtain ⟨hcolumn, rfl⟩ := isDigits_of_digits? hc
    have hu : u.takeWhile Text.isBlank ++ skipBlanks u = u := List.takeWhile_append_dropWhile
    refine ⟨_, ⟨line, column, u.takeWhile Text.isBlank, rfl, hline, hcolumn,
      fun c => List.mem_takeWhile_imp⟩, ?_⟩
    rw [hcolon] at hu
    conv_lhs => rw [← hu]
    simp
  · rintro ⟨mark, ⟨line, column, blanks, rfl, hline, hcolumn, hblanks⟩, rfl⟩
    have hopen (t : Text) : Text.after? ['('] ('(' :: t) = some t := rfl
    have hcomma (t : Text) : Text.after? [','] (',' :: t) = some t := rfl
    have hclose (t : Text) : Text.after? [')'] (')' :: t) = some t := rfl
    have hlineDigits (t : Text) := digits?_append (t := ',' :: t) hline (by rintro c ⟨⟩; decide)
    have hcolumnDigits (t : Text) :=
      digits?_append (t := ')' :: t) hcolumn (by rintro c ⟨⟩; decide)
    have hskip : skipBlanks (blanks ++ ':' :: rest) = ':' :: rest :=
      List.dropWhile_append_of_pos hblanks
    simp only [afterMark?, List.cons_append, List.append_assoc, List.nil_append, hopen,
      hlineDigits, hcomma, hcolumnDigits, hclose, hskip, Option.bind_eq_bind, Option.bind_some]
    rfl

/-- What a position is read from begins with one. -/
theorem exists_mark {parts : Text × Text × Text} (h : positionAndMessage? t = some parts) :
    ∃ mark rest, IsPositionMark mark ∧ t = mark ++ rest := by
  simp only [positionAndMessage?, colonMessage?, Option.bind_eq_bind, Option.bind_eq_some_iff] at h
  obtain ⟨_, hopen, _, hline, _, hcomma, _, hcolumn, _, hclose, _, ⟨rest, hcolon, -⟩, -⟩ := h
  have hrest : afterMark? t = some rest := by
    simp only [afterMark?, hopen, hline, hcomma, hcolumn, hclose, hcolon, Option.bind_eq_bind,
      Option.bind_some]
  obtain ⟨mark, hmark⟩ := afterMark?_eq_some_iff.mp hrest
  exact ⟨mark, rest, hmark⟩

/-- **A position does not begin in a name and end behind it.** -/
theorem positionAndMessage?_eq_none {v : Text} (hne : v ≠ [])
    (hv : ∀ mark, IsPositionMark mark → ¬mark <:+: v) (rest : Text) :
    positionAndMessage? (v ++ '(' :: rest) = none := by
  by_contra hsome
  obtain ⟨parts, hparts⟩ := Option.ne_none_iff_exists'.mp hsome
  obtain ⟨mark, more, hmark, heq⟩ := exists_mark hparts
  obtain ⟨tail, htail, hnot⟩ := hmark.exists_tail
  rcases List.append_eq_append_iff.mp heq with ⟨x, hx, hrest⟩ | ⟨x, rfl, -⟩
  · -- The position goes on behind the name, so that its parentheses do.
    cases x with
    | nil =>
      rw [List.append_nil] at hx
      exact hv mark hmark (hx ▸ List.infix_rfl)
    | cons d x =>
      obtain ⟨rfl, -⟩ := List.cons.inj hrest
      obtain ⟨e, v, rfl⟩ := List.exists_cons_of_ne_nil hne
      obtain ⟨-, rfl⟩ := List.cons.inj (htail.symm.trans hx)
      exact hnot (by simp)
  · exact hv mark hmark (List.prefix_append mark x).isInfix

/-- **The shortest name** is the whole name if no position stands in it. -/
theorem shortestFile?_append {rest : Text} {parts : Text × Text × Text} (hne : f ≠ [])
    (hline : '\n' ∉ f) (hf : ∀ mark, IsPositionMark mark → ¬mark <:+: f)
    (hrest : positionAndMessage? ('(' :: rest) = some parts) :
    shortestFile? (f ++ '(' :: rest) = some (f, parts) := by
  induction f with
  | nil => exact absurd rfl hne
  | cons c f ih =>
    obtain ⟨hc, hline⟩ := not_or.mp (mt List.mem_cons.mpr hline)
    have hsuffix : f <:+ c :: f := List.suffix_cons c f
    rw [List.cons_append, shortestFile?, if_neg (Ne.symm hc)]
    cases f with
    | nil => simp [hrest]
    | cons d f =>
      have htail : ∀ mark, IsPositionMark mark → ¬mark <:+: d :: f := fun mark hmark hin =>
        hf mark hmark (hin.trans hsuffix.isInfix)
      rw [positionAndMessage?_eq_none (List.cons_ne_nil d f) htail,
        ih (List.cons_ne_nil d f) hline htail]
      rfl

/-! ### The names of files -/

/-- **The names that are read as they are written.** -/
structure IsFileName (f : Text) : Prop where
  ne_nil : f ≠ []
  inLine : '\n' ∉ f
  isTrimmed : f.IsTrimmed
  /-- No position stands inside the name. -/
  unmarked : ∀ mark, IsPositionMark mark → ¬mark <:+: f
  /-- The name does not begin like a line of a build tool. -/
  unnumbered : ∀ number rest, IsDigits number → f ≠ number ++ '>' :: rest

theorem skipBuildNumber?_eq_some_iff :
    skipBuildNumber? t = some rest ↔ ∃ number, IsDigits number ∧ t = number ++ '>' :: rest := by
  rw [skipBuildNumber?, Option.bind_eq_some_iff]
  constructor
  · rintro ⟨⟨number, u⟩, hdigits, hbracket⟩
    obtain ⟨hnumber, rfl⟩ := isDigits_of_digits? hdigits
    exact ⟨number, hnumber, by rw [Text.after?_eq_some_iff.mp hbracket]; rfl⟩
  · rintro ⟨number, hnumber, rfl⟩
    exact ⟨_, digits?_append hnumber (by rintro c ⟨⟩; decide), rfl⟩

/-- **Which names these are** can be decided. -/
theorem isFileName_iff : IsFileName f ↔ f ≠ [] ∧ '\n' ∉ f ∧ Text.trim f = f ∧
    (∀ t ∈ f.tails, afterMark? t = none) ∧ skipBuildNumber? f = none := by
  have hmarks : (∀ mark, IsPositionMark mark → ¬mark <:+: f) ↔
      ∀ t ∈ f.tails, afterMark? t = none := by
    constructor
    · intro h t ht
      refine Option.eq_none_iff_forall_ne_some.mpr fun rest hrest => ?_
      obtain ⟨mark, hmark, rfl⟩ := afterMark?_eq_some_iff.mp hrest
      exact h mark hmark ((List.prefix_append mark rest).isInfix.trans
        ((List.mem_tails _ _).mp ht).isInfix)
    · rintro h mark hmark ⟨before, rest, rfl⟩
      have hnone := h (mark ++ rest) ((List.mem_tails _ _).mpr ⟨before, by simp⟩)
      rw [afterMark?_eq_some_iff.mpr ⟨mark, hmark, rfl⟩] at hnone
      cases hnone
  have hnumber : (∀ number rest, IsDigits number → f ≠ number ++ '>' :: rest) ↔
      skipBuildNumber? f = none := by
    simp only [Option.eq_none_iff_forall_ne_some, ne_eq, skipBuildNumber?_eq_some_iff]
    grind
  rw [← hmarks, ← hnumber, Text.trim_eq_self_iff]
  exact ⟨fun h => ⟨h.ne_nil, h.inLine, h.isTrimmed, h.unmarked, h.unnumbered⟩,
    fun ⟨hne, hline, htrimmed, hmark, hnumber⟩ => ⟨hne, hline, htrimmed, hmark, hnumber⟩⟩

instance : Decidable (IsFileName f) :=
  decidable_of_iff _ isFileName_iff.symm

/-- **What may stand before the name**: blanks, and a number and an angle bracket after them. -/
def IsBuildPrefix (p : Text) : Prop :=
  ∃ blanks : Text, (∀ c ∈ blanks, Text.isBlank c = true) ∧ (p = blanks ∨
    ∃ number : Text, number ≠ [] ∧ (∀ d ∈ number, Text.isDigit d = true) ∧
      p = blanks ++ number ++ ['>'])

/-- **As many blanks as possible** are left out first. -/
theorem exists_compilerStarts {blanks : Text} (h : ∀ c ∈ blanks, Text.isBlank c = true)
    (ht : ∀ c ∈ t.head?, Text.isBlank c = false) :
    ∃ more, compilerStarts (blanks ++ t) = fileStarts t ++ more := by
  induction blanks with
  | nil =>
    refine ⟨[], ?_⟩
    cases t with
    | nil => rfl
    | cons c t => simp [compilerStarts, ht c rfl]
  | cons b blanks ih =>
    obtain ⟨hb, hblanks⟩ := List.forall_mem_cons.mp h
    obtain ⟨more, hmore⟩ := ih hblanks
    refine ⟨more ++ fileStarts (b :: blanks ++ t), ?_⟩
    rw [List.cons_append, compilerStarts, if_pos hb, hmore, List.append_assoc]

/-- A name is no number before an angle bracket, whatever follows it. -/
theorem IsFileName.skipBuildNumber? (hf : IsFileName f) (rest : Text) :
    skipBuildNumber? (f ++ '(' :: rest) = none := by
  by_contra hsome
  obtain ⟨more, hmore⟩ := Option.ne_none_iff_exists'.mp hsome
  obtain ⟨number, hnumber, heq⟩ := skipBuildNumber?_eq_some_iff.mp hmore
  rcases List.append_eq_append_iff.mp heq with ⟨x, hx, hrest⟩ | ⟨x, hx, hrest⟩
  · -- The number does not go on behind the name.
    cases x with
    | nil => exact absurd (List.cons.inj hrest).1 (by decide)
    | cons d x =>
      obtain ⟨rfl, -⟩ := List.cons.inj hrest
      exact absurd (hnumber.isDecimalDigit '(' (hx ▸ by simp)) (by decide)
  · cases x with
    | nil => exact absurd (List.cons.inj hrest).1 (by decide)
    | cons d x =>
      obtain ⟨rfl, -⟩ := List.cons.inj hrest
      exact hf.unnumbered number x hnumber hx

/-- **The name starts behind the prefix**, in the preferred way. -/
theorem IsFileName.exists_compilerStarts {p : Text} (hf : IsFileName f) (hp : IsBuildPrefix p)
    (rest : Text) :
    ∃ more, compilerStarts (p ++ (f ++ '(' :: rest)) = (f ++ '(' :: rest) :: more := by
  obtain ⟨blanks, hblanks, rfl | ⟨number, hne, hnumber, rfl⟩⟩ := hp
  · have hhead : ∀ c ∈ (f ++ '(' :: rest).head?, Text.isBlank c = false := by
      rw [List.head?_append_of_ne_nil _ hf.ne_nil]
      exact hf.isTrimmed.first
    obtain ⟨more, hmore⟩ := Log.exists_compilerStarts hblanks hhead
    refine ⟨more, hmore.trans ?_⟩
    rw [fileStarts, hf.skipBuildNumber?]
    rfl
  · have hdigits := IsDigits.of_isDigit hne hnumber
    have hhead : ∀ c ∈ (number ++ '>' :: (f ++ '(' :: rest)).head?, Text.isBlank c = false := by
      rw [List.head?_append_of_ne_nil _ hne]
      exact fun c hc => Text.isBlank_of_isDecimalDigit
        (hdigits.isDecimalDigit c (List.mem_of_head? hc))
    obtain ⟨more, hmore⟩ := Log.exists_compilerStarts hblanks hhead
    rw [fileStarts, skipBuildNumber?_eq_some_iff.mpr ⟨number, hdigits, rfl⟩] at hmore
    rw [List.append_assoc, List.append_assoc]
    exact ⟨_, hmore⟩

/-! ### Lines of a compiler -/

/-- **A position and a message that were written** are read. -/
theorem positionAndMessage?_ofNat (line column : Nat) (hline : '\n' ∉ m) (hm : m.IsTrimmed) :
    positionAndMessage? ('(' :: (Text.ofNat line ++ ',' ::
      (Text.ofNat column ++ ("): ".toList ++ m)))) =
        some (Text.ofNat line, Text.ofNat column, m) := by
  have hopen (t : Text) : Text.after? ['('] ('(' :: t) = some t := rfl
  have hcomma (t : Text) : Text.after? [','] (',' :: t) = some t := rfl
  have hclose : Text.after? [')'] ("): ".toList ++ m) = some (": ".toList ++ m) := rfl
  have hlineDigits (t : Text) := digits?_ofNat (t := ',' :: t) line (by rintro c ⟨⟩; decide)
  have hcolumnDigits := digits?_ofNat (t := "): ".toList ++ m) column (by rintro c ⟨⟩; decide)
  have hmessage := message?_eq_some_self_iff.mpr ⟨hline, hm⟩
  simp only [positionAndMessage?, hopen, hlineDigits, hcomma, hcolumnDigits, hclose,
    colonMessage?_append, hmessage, Option.bind_eq_bind, Option.bind_some]
  rfl

/-- **The line of a compiler is cut behind the name of the file.** A line is read as its pattern
lays down, with the parts of the preferred way. So whatever stands before the name, and whatever
positions the message tells of, the name, the line, the column and the message of a line that was
written are read again. -/
theorem compilerLine?_of_isFileName :
    (∀ t, compilerLine? t = (compilerPattern.first? t).bind errorOfParts?) ∧
      ∀ (p f m : Text) (line column : Nat), IsBuildPrefix p → IsFileName f →
        line < Text.numeralLimit → column < Text.numeralLimit → '\n' ∉ m → m.IsTrimmed →
        compilerLine? (p ++ f ++ "(".toList ++ Text.ofNat line ++ ",".toList ++ Text.ofNat column ++
          "): ".toList ++ m) = some ⟨f, ⟨line, column⟩, m⟩ := by
  refine ⟨compilerLine?_eq_first?, ?_⟩
  intro p f m line column hp hf hline hcolumn hm htrimmed
  have hcut : p ++ f ++ "(".toList ++ Text.ofNat line ++ ",".toList ++ Text.ofNat column ++
      "): ".toList ++ m = p ++ (f ++ '(' ::
        (Text.ofNat line ++ ',' :: (Text.ofNat column ++ ("): ".toList ++ m)))) := by
    have hopen : "(".toList = ['('] := rfl
    have hcomma : ",".toList = [','] := rfl
    simp only [hopen, hcomma, List.append_assoc, List.cons_append, List.nil_append]
  have hparts := positionAndMessage?_ofNat line column hm htrimmed
  obtain ⟨more, hstarts⟩ := hf.exists_compilerStarts hp
    (Text.ofNat line ++ ',' :: (Text.ofNat column ++ ("): ".toList ++ m)))
  rw [hcut, compilerLine?, hstarts, List.findSome?_cons,
    shortestFile?_append hf.ne_nil hf.inLine hf.unmarked hparts]
  simp [Text.digits?_ofNat hline, Text.digits?_ofNat hcolumn,
    Text.trim_eq_self_iff.mpr hf.isTrimmed]

/-- A name that almost has a position in it, behind blanks and a number, with a message that has a
position and an error in it. -/
theorem compilerLine?_of_isFileName_parentheses :
    let p : Text := " \t3>".toList
    let f : Text := "C:\\Program Files (x86)\\a(1,2)b(3,4) 5:(6,).cs".toList
    let m : Text := "error (7,8): see B.cs(9,1): unused".toList
    IsBuildPrefix p ∧ IsFileName f ∧ 12 < Text.numeralLimit ∧ 3 < Text.numeralLimit ∧ '\n' ∉ m ∧
      m.IsTrimmed ∧ compilerLine? (p ++ f ++ "(".toList ++ Text.ofNat 12 ++ ",".toList ++
        Text.ofNat 3 ++ "): ".toList ++ m) = some ⟨f, ⟨12, 3⟩, m⟩ := by
  intro p f m
  have hp : IsBuildPrefix p :=
    ⟨" \t".toList, List.all_eq_true.mp rfl,
      Or.inr ⟨"3".toList, by decide, List.all_eq_true.mp rfl, rfl⟩⟩
  have hf : IsFileName f := by decide +kernel
  have hm : m.IsTrimmed := Text.trim_eq_self_iff.mp (by decide +kernel)
  exact ⟨hp, hf, by decide, by decide, by decide, hm,
    compilerLine?_of_isFileName.2 p f m 12 3 hp hf (by decide) (by decide) (by decide) hm⟩

end Log

end GrammarWorkbench
