import GrammarWorkbench.Log.Basic
import GrammarWorkbench.Proofs.Text.Blanks

/-!
# Patterns for the lines of a log

What a line of a log may look like is laid down by a **pattern**, and a pattern may fit a line in
many ways: a name may end here or there, a blank may belong to the name or not. The ways are tried
in an order, and the first one that fits counts. `GrammarWorkbench.Pattern.ways` lists them in this
order: of two patterns in a row, the ways of the first one come first; a **greedy** repetition tries
many characters before few, a **lazy** one few before many.

Logs are not read by trying. What makes reading from left to right possible is that a repetition is
mostly followed by something that cannot begin with one of its characters. Then it does not matter
whether it is greedy or lazy, because **one way only can be gone on with**
(`GrammarWorkbench.Pattern.first?_many`). The message at the end of a line is the exception
(`GrammarWorkbench.Pattern.first?_message`): it is lazy, but the blanks around it are greedy.
-/

namespace GrammarWorkbench

/-- The parts of a line that are picked out. -/
inductive LinePart where
  | file
  | line
  | column
  | message
deriving DecidableEq, Repr

/-- A pattern for the beginning of a text. -/
inductive Pattern where
  /-- Nothing. -/
  | empty
  /-- One character of a class. -/
  | one (p : Char → Bool)
  /-- Any number of characters of a class, preferably many if it is greedy and few if not. -/
  | many (greedy : Bool) (p : Char → Bool)
  /-- One pattern after the other. -/
  | seq (a b : Pattern)
  /-- The one pattern or the other, preferably the first. -/
  | either (a b : Pattern)
  /-- A pattern whose text is picked out. -/
  | pick (part : LinePart) (a : Pattern)
  /-- The end of the text. -/
  | stop

namespace Pattern

/-! ### The ways in which a pattern fits -/

/-- One way in which a pattern fits. -/
structure Way where
  /-- The texts that are picked out. -/
  parts : List (LinePart × Text)
  /-- The text that fits. -/
  text : Text
  /-- What is left. -/
  rest : Text

/-- A text cut after some characters of a class, with few of them first. -/
def cuts (p : Char → Bool) : Text → List (Text × Text)
  | [] => [([], [])]
  | c :: t => ([], c :: t) :: if p c then (cuts p t).map fun (u, v) => (c :: u, v) else []

/-- The cuts of a text in the order in which they are tried. -/
def tries (greedy : Bool) (p : Char → Bool) (t : Text) : List (Text × Text) :=
  if greedy then (cuts p t).reverse else cuts p t

/-- **The ways in which a pattern fits** the beginning of a text, the preferred one first. -/
def ways : Pattern → Text → List Way
  | empty, t => [⟨[], [], t⟩]
  | one _, [] => []
  | one p, c :: t => if p c then [⟨[], [c], t⟩] else []
  | many greedy p, t => (tries greedy p t).map fun (u, v) => ⟨[], u, v⟩
  | seq a b, t =>
    (a.ways t).flatMap fun w =>
      (b.ways w.rest).map fun w' => ⟨w.parts ++ w'.parts, w.text ++ w'.text, w'.rest⟩
  | either a b, t => a.ways t ++ b.ways t
  | pick part a, t => (a.ways t).map fun w => { w with parts := (part, w.text) :: w.parts }
  | stop, t => if t.isEmpty then [⟨[], [], []⟩] else []

/-- **The parts that a pattern picks out** of a text, in the preferred way. -/
def first? (a : Pattern) (t : Text) : Option (List (LinePart × Text)) :=
  (a.ways t).head?.map Way.parts

/-- The parts of a line from its position on. -/
def positionParts (x : Text × Text × Text) : List (LinePart × Text) :=
  [(.line, x.1), (.column, x.2.1), (.message, x.2.2)]

/-- Patterns in a row. -/
def inOrder : List Pattern → Pattern
  | [] => empty
  | a :: as => a.seq (inOrder as)

/-! ### Some patterns -/

/-- A text as it is written. -/
def word (w : Text) : Pattern :=
  inOrder (w.map fun c => one (· == c))

/-- Any number of blanks. -/
def blanks : Pattern :=
  many true Text.isBlank

/-- One character of a class or more. -/
def oneOrMore (greedy : Bool) (p : Char → Bool) : Pattern :=
  (one p).seq (many greedy p)

/-- One or more decimal digits, which are picked out. -/
def digits (part : LinePart) : Pattern :=
  pick part (oneOrMore true Text.isDecimalDigit)

/-- The characters inside a line. -/
def isInLine (c : Char) : Bool :=
  c != '\n'

/-- The message at the end of a line, without the blanks around it. -/
def message : Pattern :=
  inOrder [blanks, pick .message (many false isInLine), blanks, stop]

/-! ### One pattern after the other -/

variable {a b : Pattern} {as bs : List Pattern} {p : Char → Bool} {c : Char} {t u : Text}
  {part : LinePart}

theorem first?_seq (a b : Pattern) (t : Text) :
    (a.seq b).first? t = (a.ways t).findSome? fun w => (b.first? w.rest).map (w.parts ++ ·) := by
  rw [first?, ways, List.head?_flatMap, List.map_findSome?]
  congr 1
  funext w
  simp [first?, Function.comp_def]

theorem ways_seq_assoc (a b c : Pattern) (t : Text) :
    ((a.seq b).seq c).ways t = (a.seq (b.seq c)).ways t := by
  simp [ways, List.flatMap_assoc, List.map_flatMap, List.flatMap_map, Function.comp_def]

theorem first?_seq_assoc (a b c : Pattern) (t : Text) :
    ((a.seq b).seq c).first? t = (a.seq (b.seq c)).first? t := by
  rw [first?, ways_seq_assoc, first?]

theorem first?_seq_empty (a : Pattern) (t : Text) : (a.seq empty).first? t = a.first? t := by
  rw [first?_seq, first?]
  cases a.ways t <;> simp [first?, ways]

theorem first?_empty_seq (b : Pattern) (t : Text) : (empty.seq b).first? t = b.first? t := by
  rw [first?_seq]
  simp [ways]

theorem first?_one_seq_cons (p : Char → Bool) (b : Pattern) (c : Char) (t : Text) :
    ((one p).seq b).first? (c :: t) = if p c then b.first? t else none := by
  rw [first?_seq, ways]
  split <;> simp

theorem first?_either_seq (a a' b : Pattern) (t : Text) :
    ((either a a').seq b).first? t = ((a.seq b).first? t).or ((a'.seq b).first? t) := by
  rw [first?_seq, first?_seq, first?_seq, ways, List.findSome?_append]

/-- **A word** is removed. -/
theorem first?_word_seq (w : Text) (b : Pattern) (t : Text) :
    ((word w).seq b).first? t = (Text.after? w t).bind b.first? := by
  induction w generalizing t with
  | nil => exact first?_empty_seq b t
  | cons c w ih =>
    rw [word, List.map_cons, inOrder, first?_seq_assoc]
    cases t with
    | nil => rfl
    | cons d t =>
      rw [first?_one_seq_cons, Text.after?]
      by_cases hcd : c = d
      · rw [if_pos (by simp [hcd]), if_pos hcd]
        exact ih t
      · rw [if_neg (by simpa using Ne.symm hcd), if_neg hcd]
        rfl

/-! ### Repetitions -/

theorem cuts_cons (p : Char → Bool) (c : Char) (t : Text) :
    cuts p (c :: t) =
      ([], c :: t) :: if p c then (cuts p t).map fun (u, v) => (c :: u, v) else [] := rfl

/-- **The last cut takes all characters of the class**; all others leave one of them. -/
theorem cuts_eq_concat (p : Char → Bool) (t : Text) :
    ∃ early, cuts p t = early ++ [(t.takeWhile p, t.dropWhile p)] ∧
      ∀ x ∈ early, ∃ c v, x.2 = c :: v ∧ p c = true := by
  induction t with
  | nil => exact ⟨[], rfl, by simp⟩
  | cons c t ih =>
    rw [cuts_cons]
    cases hc : p c with
    | false => exact ⟨[], by simp [hc], by simp⟩
    | true =>
      obtain ⟨early, heq, hearly⟩ := ih
      refine ⟨([], c :: t) :: early.map fun (u, v) => (c :: u, v), by simp [heq, hc], ?_⟩
      intro x hx
      rcases List.mem_cons.mp hx with rfl | hx
      · exact ⟨c, t, rfl, hc⟩
      · obtain ⟨y, hy, rfl⟩ := List.mem_map.mp hx
        exact hearly y hy

/-- **If nothing can go on with a character of the class**, only the cut that takes all of them can
be gone on with. -/
theorem findSome?_tries {α : Type} {f : Text × Text → Option α}
    (hf : ∀ u c v, p c = true → f (u, c :: v) = none) (greedy : Bool) (t : Text) :
    (tries greedy p t).findSome? f = f (t.takeWhile p, t.dropWhile p) := by
  obtain ⟨early, heq, hearly⟩ := cuts_eq_concat p t
  have hnone : early.findSome? f = none := by
    refine List.findSome?_eq_none_iff.mpr ?_
    rintro ⟨u, v⟩ hx
    obtain ⟨c, v, rfl, hc⟩ := hearly _ hx
    exact hf u c v hc
  have hnone' : early.reverse.findSome? f = none := by
    refine List.findSome?_eq_none_iff.mpr fun x hx => ?_
    exact List.findSome?_eq_none_iff.mp hnone x (List.mem_reverse.mp hx)
  cases greedy with
  | false => simp [tries, heq, List.findSome?_append, hnone]
  | true =>
    rw [tries, if_pos rfl, heq, List.reverse_append, List.reverse_singleton, List.singleton_append,
      List.findSome?_cons, hnone']
    cases f (t.takeWhile p, t.dropWhile p) <;> rfl

/-- **A pattern that cannot begin with a character of the class.** -/
def Avoids (b : Pattern) (p : Char → Bool) : Prop :=
  ∀ c t, p c = true → b.first? (c :: t) = none

theorem first?_many_seq (greedy : Bool) (p : Char → Bool) (b : Pattern) (t : Text) :
    ((many greedy p).seq b).first? t = (tries greedy p t).findSome? fun x => b.first? x.2 := by
  rw [first?_seq, ways, List.findSome?_map]
  simp [Function.comp_def]

/-- **A repetition before something else** takes all characters of its class. -/
theorem first?_many (hb : b.Avoids p) (greedy : Bool) (t : Text) :
    ((many greedy p).seq b).first? t = b.first? (t.dropWhile p) := by
  rw [first?_many_seq]
  exact findSome?_tries (fun _ c v hc => hb c v hc) greedy t

theorem first?_oneOrMore_seq (hb : b.Avoids p) (greedy : Bool) (c : Char) (t : Text) :
    ((oneOrMore greedy p).seq b).first? (c :: t) =
      if p c then b.first? (t.dropWhile p) else none := by
  rw [oneOrMore, first?_seq_assoc, first?_one_seq_cons, first?_many hb]

theorem first?_pick_many_seq (part : LinePart) (greedy : Bool) (p : Char → Bool) (b : Pattern)
    (t : Text) :
    ((pick part (many greedy p)).seq b).first? t =
      (tries greedy p t).findSome? fun x => (b.first? x.2).map ((part, x.1) :: ·) := by
  rw [first?_seq, ways, ways, List.map_map, List.findSome?_map]
  rfl

theorem first?_pick_oneOrMore_seq (part : LinePart) (greedy : Bool) (p : Char → Bool) (b : Pattern)
    (c : Char) (t : Text) :
    ((pick part (oneOrMore greedy p)).seq b).first? (c :: t) =
      if p c then
        (tries greedy p t).findSome? fun x => (b.first? x.2).map ((part, c :: x.1) :: ·)
      else none := by
  rw [first?_seq]
  cases hc : p c with
  | false => simp [ways, oneOrMore, hc]
  | true => simp [ways, oneOrMore, hc, List.findSome?_map, Function.comp_def]

/-! ### The parts of a line -/

theorem first?_blanks_seq (hb : b.Avoids Text.isBlank) (t : Text) :
    (blanks.seq b).first? t = b.first? (Log.skipBlanks t) :=
  first?_many hb true t

theorem first?_oneOrMore_blanks_seq (hb : b.Avoids Text.isBlank) (t : Text) :
    ((oneOrMore true Text.isBlank).seq b).first? t = (Log.skipSomeBlanks? t).bind b.first? := by
  cases t with
  | nil => rfl
  | cons c t =>
    rw [first?_oneOrMore_seq hb, Log.skipSomeBlanks?]
    cases hc : Text.isBlank c with
    | false => rfl
    | true =>
      rw [if_pos rfl, if_pos rfl, Option.bind_some, Log.skipBlanks, List.dropWhile_cons_of_pos hc]

/-- Digits that are not picked out. -/
theorem first?_oneOrMore_digits_seq (hb : b.Avoids Text.isDecimalDigit) (t : Text) :
    ((oneOrMore true Text.isDecimalDigit).seq b).first? t =
      (Log.digits? t).bind fun x => b.first? x.2 := by
  cases t with
  | nil => rfl
  | cons c t =>
    rw [first?_oneOrMore_seq hb, Log.digits?]
    cases hc : Text.isDecimalDigit c <;> simp [hc]

theorem first?_digits_seq (hb : b.Avoids Text.isDecimalDigit) (part : LinePart) (t : Text) :
    ((digits part).seq b).first? t =
      (Log.digits? t).bind fun x => (b.first? x.2).map ((part, x.1) :: ·) := by
  cases t with
  | nil => rfl
  | cons c t =>
    rw [digits, first?_pick_oneOrMore_seq, findSome?_tries (fun u d v hd => by rw [hb d v hd]; rfl),
      Log.digits?]
    cases hc : Text.isDecimalDigit c <;> simp [hc]

/-- A word begins with its first character only. -/
theorem avoids_word_seq {w : Text} (hw : (w.head?.any fun c => !p c) = true) (b : Pattern) :
    ((word w).seq b).Avoids p := by
  intro c t hc
  rw [first?_word_seq]
  cases w with
  | nil => cases hw
  | cons d w =>
    have hd : d ≠ c := by
      rintro rfl
      simp [hc] at hw
    simp [Text.after?, hd]

theorem avoids_digits_seq (part : LinePart) (b : Pattern) :
    ((digits part).seq b).Avoids Text.isBlank := by
  intro c t hc
  rw [digits, first?_pick_oneOrMore_seq, Text.isDecimalDigit_of_isBlank hc,
    if_neg Bool.false_ne_true]

theorem avoids_oneOrMore_blanks_seq (b : Pattern) :
    ((oneOrMore true Text.isBlank).seq b).Avoids Text.isDecimalDigit := by
  intro c t hc
  rw [oneOrMore, first?_seq_assoc, first?_one_seq_cons, Text.isBlank_of_isDecimalDigit hc,
    if_neg Bool.false_ne_true]

theorem avoids_blanks_seq (hb : b.Avoids Text.isBlank) (hb' : b.Avoids Text.isDecimalDigit) :
    (blanks.seq b).Avoids Text.isDecimalDigit := by
  intro c t hc
  have hskip : Log.skipBlanks (c :: t) = c :: t :=
    List.dropWhile_cons_of_neg (by simpa using Text.isBlank_of_isDecimalDigit hc)
  rw [first?_blanks_seq hb, hskip, hb' c t hc]

/-! ### The message at the end of a line -/

theorem dropWhile_of_mem_cuts {x : Text × Text} (h : x ∈ cuts p t) :
    x.2.dropWhile p = t.dropWhile p := by
  induction t generalizing x with
  | nil =>
    obtain rfl := List.mem_singleton.mp h
    rfl
  | cons c t ih =>
    rw [cuts_cons] at h
    rcases List.mem_cons.mp h with rfl | h
    · rfl
    · cases hc : p c with
      | false => simp [hc] at h
      | true =>
        rw [hc, if_pos rfl] at h
        obtain ⟨⟨u, v⟩, hy, rfl⟩ := List.mem_map.mp h
        rw [List.dropWhile_cons_of_pos hc]
        exact ih (x := (u, v)) hy

theorem avoids_stop_seq (b : Pattern) : (stop.seq b).Avoids p := by
  intro c t _
  rw [first?_seq, ways]
  rfl

/-- Blanks up to the end. -/
theorem first?_blanks_stop (t : Text) :
    (inOrder [blanks, stop]).first? t = if t.all Text.isBlank then some [] else none := by
  rw [inOrder, inOrder, inOrder, first?_blanks_seq (avoids_stop_seq _), first?_seq, ways,
    Log.skipBlanks]
  cases ht : t.all Text.isBlank with
  | true =>
    have hnil : t.dropWhile Text.isBlank = [] := by simpa using ht
    simp [hnil, first?, ways]
  | false =>
    have hne : t.dropWhile Text.isBlank ≠ [] := by simpa using ht
    simp [hne]

/-- **The shortest message that only blanks follow** is what is left without the blanks at the end,
if that is in one line. -/
theorem findSome?_cuts_isInLine (pre t : Text) :
    ((cuts isInLine t).findSome? fun x =>
        if x.2.all Text.isBlank then some (pre ++ x.1) else none) =
      if '\n' ∈ Text.trimRight t then none else some (pre ++ Text.trimRight t) := by
  induction t generalizing pre with
  | nil => simp [cuts, Text.trimRight]
  | cons c t ih =>
    rw [cuts_cons, Text.trimRight_cons, List.findSome?_cons]
    cases hall : (c :: t).all Text.isBlank with
    | true => simp
    | false =>
      by_cases hc : c = '\n'
      · simp [hc, isInLine]
      · have hline : isInLine c = true := by simpa [isInLine] using hc
        have htail := ih (pre ++ [c])
        simp only [List.append_assoc, List.singleton_append] at htail
        rw [if_pos hline, List.findSome?_map]
        simp only [Function.comp_def, htail, Bool.false_eq_true, if_false, List.mem_cons,
          Ne.symm hc, false_or]

/-- The message is lazy, so the blanks after it are no part of it. -/
theorem first?_message_blanks_stop (t : Text) :
    (inOrder [pick .message (many false isInLine), blanks, stop]).first? t =
      if '\n' ∈ Text.trimRight t then none else some [(.message, Text.trimRight t)] := by
  have htry (x : Text × Text) :
      ((inOrder [blanks, stop]).first? x.2).map ((LinePart.message, x.1) :: ·) =
        (if x.2.all Text.isBlank then some ([] ++ x.1) else none).map
          fun m => [(LinePart.message, m)] := by
    rw [first?_blanks_stop]
    split <;> rfl
  rw [inOrder, first?_pick_many_seq, tries, if_neg Bool.false_ne_true]
  simp only [htry]
  have hcuts := congrArg (Option.map fun m => [(LinePart.message, m)])
    (findSome?_cuts_isInLine [] t)
  rw [List.map_findSome?] at hcuts
  refine hcuts.trans ?_
  split <;> rfl

/-- **The message at the end of a line** is read without trying. The blanks before it are greedy,
and if it is not in one line without them, then neither with some of them. -/
theorem first?_message (t : Text) :
    message.first? t = (Log.message? t).map fun m => [(.message, m)] := by
  obtain ⟨early, heq, -⟩ := cuts_eq_concat Text.isBlank t
  refine (first?_many_seq true Text.isBlank _ t).trans ?_
  simp only [first?_message_blanks_stop]
  rw [tries, if_pos rfl, heq, List.reverse_append, List.reverse_singleton, List.singleton_append,
    List.findSome?_cons, Log.message?, Text.trim, Text.trimLeft]
  by_cases hbreak : '\n' ∈ Text.trimRight (t.dropWhile Text.isBlank)
  · have hnone : early.reverse.findSome? (fun x =>
        if '\n' ∈ Text.trimRight x.2 then none
        else some [(LinePart.message, Text.trimRight x.2)]) = none := by
      refine List.findSome?_eq_none_iff.mpr fun x hx => if_pos ?_
      have hx' : x ∈ cuts Text.isBlank t := heq ▸ List.mem_append_left _ (List.mem_reverse.mp hx)
      rw [← dropWhile_of_mem_cuts hx'] at hbreak
      rw [← List.takeWhile_append_dropWhile (p := Text.isBlank) (l := x.2)]
      exact Text.mem_trimRight_append hbreak
    rw [if_pos hbreak]
    simpa [hbreak] using hnone
  · simp [hbreak]

/-- **A colon and a message** are read without trying. -/
theorem first?_colonMessage (t : Text) :
    (blanks.seq ((word [':']).seq (message.seq empty))).first? t =
      (Log.colonMessage? t).map fun m => [(.message, m)] := by
  rw [first?_blanks_seq (avoids_word_seq rfl _),
    first?_word_seq, Log.colonMessage?, Option.map_bind]
  congr 1
  funext u
  exact (first?_seq_empty message u).trans (first?_message u)

end Pattern

end GrammarWorkbench
