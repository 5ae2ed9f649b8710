import GrammarWorkbench.Navigation
import GrammarWorkbench.Proofs.Source.Cuts
import GrammarWorkbench.Proofs.Text.Bytes
import Mathlib.Data.List.Induction

/-!
# Reading a word byte by byte

The word at a position can be read from the bytes of a text with two indices that walk away from
the offset of the position, one to the left and one to the right, as long as they meet bytes of
words. This is fast, and it can go wrong: an index may leave the bytes, and the bytes between two
indices need not be a text. `GrammarWorkbench.Navigation.readWord` is this reading with its
**faults**, and `GrammarWorkbench.Navigation.readWord_eq` says that there are none, and that the
word is found.

The one thing to know is that **the bytes of a character are bytes of words exactly if the character
belongs to words** (`GrammarWorkbench.Text.isWordByte_of_mem`). So an index never stops inside a
character, and an offset inside a character has no word on either side.
-/

namespace GrammarWorkbench

/-! ### The bytes of words -/

namespace Text

variable {c : Char} {b : UInt8}

/-- The bytes of words: ASCII letters and digits, and the underscore. -/
def isWordByte (b : UInt8) : Bool :=
  isWord (Char.ofUInt8 b)

/-- The bytes of ASCII digits. -/
def isDigitByte (b : UInt8) : Bool :=
  isDigit (Char.ofUInt8 b)

theorem toNat_lt_of_isWord (h : isWord c = true) : c.toNat < 128 := by
  simp only [isWord, Bool.or_eq_true, beq_iff_eq] at h
  rcases h with (h | h) | rfl
  · have := isLetter_iff.mp h
    omega
  · have := isDigit_iff.mp h
    omega
  · decide

/-- A character of words has one byte. -/
theorem utf8Size_of_isWord (h : isWord c = true) : c.utf8Size = 1 := by
  obtain ⟨b, hb, -⟩ := utf8EncodeChar_of_lt (toNat_lt_of_isWord h)
  rw [← String.length_utf8EncodeChar, hb]
  rfl

/-- **The bytes of a character are bytes of words exactly if the character belongs to words.** -/
theorem isWordByte_of_mem (h : b ∈ String.utf8EncodeChar c) : isWordByte b = isWord c := by
  rcases Nat.lt_or_ge c.toNat 128 with hlt | hge
  · obtain ⟨b', hb', hc⟩ := utf8EncodeChar_of_lt hlt
    rw [hb', List.mem_singleton] at h
    rw [h, isWordByte, hc]
  · have hfalse : ∀ d : Char, 128 ≤ d.toNat → isWord d = false := by
      intro d hd
      by_contra hword
      have := toNat_lt_of_isWord (eq_true_of_ne_false hword)
      omega
    rw [hfalse c hge]
    exact hfalse _ (le_of_mem_utf8EncodeChar hge h)

end Text

/-! ### Two indices -/

namespace Navigation

/-- What can go wrong with bytes. -/
inductive Fault where
  /-- An index lies outside the bytes. -/
  | index
  /-- The bytes between two indices are no text. -/
  | slice
deriving DecidableEq, Repr

/-- The byte at an index. -/
def byteAt (bytes : List UInt8) (i : Nat) : Except Fault UInt8 :=
  match bytes[i]? with
  | some b => .ok b
  | none => .error .index

/-- The text between two indices. -/
def textBetween (source : Text) (first last : Nat) : Except Fault Text :=
  if first ≤ last ∧ source.isBoundary first ∧ source.isBoundary last then
    .ok (source.slice first last)
  else .error .slice

/-- The index to the left: back over bytes of words, but not past `start`. -/
def walkBack (bytes : List UInt8) (start : Nat) : Nat → Except Fault Nat
  | 0 => .ok 0
  | i + 1 =>
    if start < i + 1 then do
      let b ← byteAt bytes i
      if Text.isWordByte b then walkBack bytes start i else return i + 1
    else return i + 1

/-- The index to the right: on over bytes of words, but not past the last byte. -/
def walkOn (bytes : List UInt8) (i : Nat) : Except Fault Nat :=
  if i < bytes.length then do
    let b ← byteAt bytes i
    if Text.isWordByte b then walkOn bytes (i + 1) else return i
  else return i
termination_by bytes.length - i

/-- **The word at a position, read byte by byte.** -/
def readWord (source : Text) (p : Position) : Except Fault (Option Symbol) :=
  if p.line = 0 ∨ p.column = 0 then return none
  else
    let index := LineIndex.ofText source
    match index.offset? (p.line - 1) (p.column - 1), index.lineStart? (p.line - 1) with
    | some offset, some start => do
      let first ← walkBack source.bytes start offset
      let last ← walkOn source.bytes offset
      if first = last then return none
      else
        let b ← byteAt source.bytes first
        if Text.isDigitByte b then return none
        else
          let name ← textBetween source first last
          return some ⟨name, ⟨p.line, first - start + 1⟩, none⟩
    | _, _ => return none

variable {pre part w u v before after post : Text} {c : Char} {start n : Nat}

/-- The bytes of a character, at the place of the character. -/
theorem byteAt_bytes (u : Text) (c : Char) (v : Text) (h : n < c.utf8Size) :
    ∃ b ∈ String.utf8EncodeChar c, byteAt (u ++ c :: v).bytes (u.size + n) = .ok b := by
  have hlength : n < (String.utf8EncodeChar c).length := by rwa [String.length_utf8EncodeChar]
  refine ⟨(String.utf8EncodeChar c)[n], List.getElem_mem hlength, ?_⟩
  rw [byteAt, Text.getElem?_bytes u c v h, List.getElem?_eq_getElem hlength]

/-- The left index stays where no word ends. -/
theorem walkBack_stay {bytes : List UInt8}
    (h : start < n → ∃ b, byteAt bytes (n - 1) = .ok b ∧ Text.isWordByte b = false) :
    walkBack bytes start n = .ok n := by
  cases n with
  | zero => rfl
  | succ i =>
    rw [walkBack]
    split
    next hlt =>
      obtain ⟨b, hbyte, hb⟩ := h hlt
      rw [Nat.add_sub_cancel] at hbyte
      simp [hbyte, hb, bind, Except.bind, pure, Except.pure]
    next => rfl

/-- The right index stays where no word begins. -/
theorem walkOn_stay {bytes : List UInt8}
    (h : n < bytes.length → ∃ b, byteAt bytes n = .ok b ∧ Text.isWordByte b = false) :
    walkOn bytes n = .ok n := by
  rw [walkOn]
  split
  next hlt =>
    obtain ⟨b, hbyte, hb⟩ := h hlt
    simp [hbyte, hb, bind, Except.bind, pure, Except.pure]
  next => rfl

/-- **The left index goes back over a word.** -/
theorem walkBack_word (u : Text) (hw : ∀ c ∈ w, Text.isWord c = true) (v : Text)
    (hstart : start ≤ u.size) :
    walkBack (u ++ (w ++ v)).bytes start (u.size + w.size) =
      walkBack (u ++ (w ++ v)).bytes start u.size := by
  induction w using List.reverseRecOn generalizing v with
  | nil => rfl
  | append_singleton w c ih =>
    have hc : Text.isWord c = true := hw c (by simp)
    have hsize : u.size + Text.size (w ++ [c]) = u.size + Text.size w + 1 := by
      simp [Text.utf8Size_of_isWord hc, Nat.add_assoc]
    have htext : u ++ (w ++ [c] ++ v) = u ++ (w ++ c :: v) := by simp
    obtain ⟨b, hb, hbyte⟩ := byteAt_bytes (n := 0) (u ++ w) c v c.utf8Size_pos
    rw [List.append_assoc, Text.size_append, Nat.add_zero] at hbyte
    have hword : Text.isWordByte b = true := (Text.isWordByte_of_mem hb).trans hc
    rw [hsize, htext, walkBack, if_pos (by omega), hbyte]
    simp only [bind, Except.bind, hword, if_true]
    exact ih (fun d hd => hw d (by simp [hd])) (c :: v)

/-- **The right index goes on over a word.** -/
theorem walkOn_word (u : Text) (hw : ∀ c ∈ w, Text.isWord c = true) (v : Text) :
    walkOn (u ++ (w ++ v)).bytes u.size = walkOn (u ++ (w ++ v)).bytes (u.size + w.size) := by
  induction w generalizing u with
  | nil => rfl
  | cons c w ih =>
    obtain ⟨hc, hw⟩ := List.forall_mem_cons.mp hw
    have hnext : Text.size (u ++ [c]) = u.size + 1 := by simp [Text.utf8Size_of_isWord hc]
    have hsize : u.size + Text.size (c :: w) = u.size + 1 + Text.size w := by
      rw [Text.size_cons, Text.utf8Size_of_isWord hc, Nat.add_assoc]
    have htext : u ++ (c :: w ++ v) = u ++ [c] ++ (w ++ v) := by simp
    obtain ⟨b, hb, hbyte⟩ := byteAt_bytes (n := 0) u c (w ++ v) c.utf8Size_pos
    have hword : Text.isWordByte b = true := (Text.isWordByte_of_mem hb).trans hc
    have hih := ih (u ++ [c]) hw
    rw [hnext, ← htext] at hih
    have hlt : u.size < (u ++ (c :: w ++ v)).bytes.length := by
      simp only [Text.length_bytes, Text.size_append]
      omega
    rw [Nat.add_zero] at hbyte
    rw [hsize, ← hih, walkOn, if_pos hlt, List.cons_append, hbyte]
    simp only [bind, Except.bind, hword, if_true]

/-- The left index stays at a boundary where no word ends. -/
theorem walkBack_edge (pre v : Text) (h : before.getLast?.any Text.isWord = false) :
    walkBack (pre ++ (before ++ v)).bytes pre.size (pre.size + before.size) =
      .ok (pre.size + before.size) := by
  refine walkBack_stay ?_
  intro hlt
  rcases List.eq_nil_or_concat before with rfl | ⟨before, d, rfl⟩
  · simp at hlt
  rw [List.concat_eq_append] at h ⊢
  have hd : Text.isWord d = false := by simpa using h
  have hpos := d.utf8Size_pos
  obtain ⟨b, hb, hbyte⟩ := byteAt_bytes (n := d.utf8Size - 1) (pre ++ before) d v (by omega)
  have hindex : pre.size + Text.size (before ++ [d]) - 1 =
      Text.size (pre ++ before) + (d.utf8Size - 1) := by
    simp only [Text.size_append, Text.size_cons, Text.size_nil]
    omega
  have htext : pre ++ (before ++ [d] ++ v) = pre ++ before ++ d :: v := by simp
  rw [hindex, htext]
  exact ⟨b, hbyte, (Text.isWordByte_of_mem hb).trans hd⟩

/-- The right index stays at a boundary where no word begins. -/
theorem walkOn_edge (u : Text) (h : post.head?.any Text.isWord = false) :
    walkOn (u ++ post).bytes u.size = .ok u.size := by
  refine walkOn_stay ?_
  intro hlt
  cases post with
  | nil => simp at hlt
  | cons d post =>
    obtain ⟨b, hb, hbyte⟩ := byteAt_bytes (n := 0) u d post d.utf8Size_pos
    exact ⟨b, hbyte, (Text.isWordByte_of_mem hb).trans h⟩

/-! ### The word around a cut -/

/-- **Where a word lies around a cut**: it is a longest one on both sides. -/
structure Encloses (before w w' post : Text) : Prop where
  left : ∀ c ∈ w, Text.isWord c = true
  right : ∀ c ∈ w', Text.isWord c = true
  before : before.getLast?.any Text.isWord = false
  post : post.head?.any Text.isWord = false

theorem takeWhile_isWord (hw : ∀ c ∈ w, Text.isWord c = true)
    (hpost : post.head?.any Text.isWord = false) : (w ++ post).takeWhile Text.isWord = w := by
  rw [List.takeWhile_append_of_pos hw]
  cases post with
  | nil => simp
  | cons c post =>
    have hc : Text.isWord c = false := hpost
    simp [hc]

/-- The longest word at the beginning of a text. -/
theorem exists_takeWhile_isWord (t : Text) :
    ∃ w post, t = w ++ post ∧ (∀ c ∈ w, Text.isWord c = true) ∧
      post.head?.any Text.isWord = false := by
  refine ⟨t.takeWhile Text.isWord, t.dropWhile Text.isWord,
    List.takeWhile_append_dropWhile.symm, fun c hc => List.mem_takeWhile_imp hc, ?_⟩
  have hhead := List.head?_dropWhile_not Text.isWord t
  cases hdrop : (t.dropWhile Text.isWord).head? with
  | none => rfl
  | some c =>
    rw [hdrop] at hhead
    exact hhead

/-- The word that is found is the longest one. -/
theorem Encloses.wordBetween {w' : Text} (h : Encloses before w w' post) :
    wordBetween (before ++ w) (w' ++ post) = (before, w ++ w') := by
  have hback : (before ++ w).reverse.takeWhile Text.isWord = w.reverse := by
    rw [List.reverse_append]
    refine takeWhile_isWord ?_ ?_
    · intro c hc
      exact h.left c (List.mem_reverse.mp hc)
    · rw [List.head?_reverse]
      exact h.before
  rw [Navigation.wordBetween, hback, takeWhile_isWord h.right h.post]
  simp

/-- Around every cut there is a longest word. -/
theorem exists_encloses (part after : Text) :
    ∃ before w w' post, part = before ++ w ∧ after = w' ++ post ∧ Encloses before w w' post := by
  obtain ⟨r, rest, hpart, hr, hrest⟩ := exists_takeWhile_isWord part.reverse
  obtain ⟨w', post, hafter, hw', hpost⟩ := exists_takeWhile_isWord after
  refine ⟨rest.reverse, r.reverse, w', post, ?_, hafter, ?_, hw', ?_, hpost⟩
  · rw [← List.reverse_append, ← hpart, List.reverse_reverse]
  · intro c hc
    exact hr c (List.mem_reverse.mp hc)
  · rw [List.getLast?_reverse]
    exact hrest

/-- Between two cuts there is a text. -/
theorem textBetween_append (u w v : Text) :
    textBetween (u ++ (w ++ v)) u.size (u.size + w.size) = .ok w := by
  have hlast : (u ++ (w ++ v)).isBoundary (u.size + w.size) = true := by
    rw [← List.append_assoc, ← Text.size_append]
    exact Text.isBoundary_append _ _
  rw [textBetween, if_pos ⟨Nat.le_add_right _ _, Text.isBoundary_append _ _, hlast⟩,
    Text.slice_append]

/-- What is told of a word: its text, and its place behind `before` in a line. -/
def symbolOf (line : Nat) (before word : Text) : Option Symbol :=
  match word with
  | [] => none
  | c :: _ => if Text.isDigit c then none else some ⟨word, ⟨line, before.size + 1⟩, none⟩

/-- Lines and columns are counted from one. -/
theorem counted (line column : Nat) :
    ¬((⟨line + 1, column + 1⟩ : Position).line = 0 ∨
      (⟨line + 1, column + 1⟩ : Position).column = 0) := by
  simp

/-- **The word at a position that cuts a line.** -/
theorem wordAt_of_cut {line : Nat}
    (hstart : (LineIndex.ofText (pre ++ (part ++ after))).lineStart? line = some pre.size)
    (hoffset : (LineIndex.ofText (pre ++ (part ++ after))).offset? line part.size =
      some (pre.size + part.size)) :
    wordAt (pre ++ (part ++ after)) ⟨line + 1, part.size + 1⟩ =
      symbolOf (line + 1) (wordBetween part after).1 (wordBetween part after).2 := by
  have hboundary : (pre ++ (part ++ after)).isBoundary (pre.size + part.size) = true := by
    rw [← List.append_assoc, ← Text.size_append]
    exact Text.isBoundary_append _ _
  have hdrop : (pre ++ (part ++ after)).dropBytes (pre.size + part.size) = after := by
    rw [Text.dropBytes_append, Text.dropBytes_size]
  rw [wordAt, if_neg (counted _ _)]
  simp only [Nat.add_sub_cancel, hstart, hoffset, hboundary, if_true, Text.slice_append, hdrop]
  rfl

/-- **Both indices stop at the ends of the word.** -/
theorem Encloses.walk {w' : Text} (h : Encloses before w w' post) (pre : Text) :
    walkBack (pre ++ (before ++ w ++ (w' ++ post))).bytes pre.size
        (pre.size + Text.size (before ++ w)) = .ok (pre.size + before.size) ∧
      walkOn (pre ++ (before ++ w ++ (w' ++ post))).bytes (pre.size + Text.size (before ++ w)) =
        .ok (pre.size + before.size + Text.size (w ++ w')) := by
  constructor
  · have hle : pre.size ≤ Text.size (pre ++ before) := by simp
    have hword := walkBack_word (pre ++ before) h.left (w' ++ post) hle
    have hedge := walkBack_edge pre (w ++ (w' ++ post)) h.before
    simp only [Text.size_append, List.append_assoc] at hword ⊢
    rw [← Nat.add_assoc, hword, hedge]
  · have hword := walkOn_word (pre ++ (before ++ w)) h.right post
    have hedge := walkOn_edge (pre ++ (before ++ w) ++ w') h.post
    simp only [Text.size_append, List.append_assoc, Nat.add_assoc] at hword hedge ⊢
    rw [hword, hedge]

/-- **The word at a position that cuts a line, read byte by byte.** -/
theorem Encloses.readWord {w' : Text} {line : Nat} (h : Encloses before w w' post)
    (hstart : (LineIndex.ofText (pre ++ (before ++ w ++ (w' ++ post)))).lineStart? line =
      some pre.size)
    (hoffset : (LineIndex.ofText (pre ++ (before ++ w ++ (w' ++ post)))).offset? line
      (Text.size (before ++ w)) = some (pre.size + Text.size (before ++ w))) :
    readWord (pre ++ (before ++ w ++ (w' ++ post))) ⟨line + 1, Text.size (before ++ w) + 1⟩ =
      .ok (symbolOf (line + 1) before (w ++ w')) := by
  obtain ⟨hback, hon⟩ := h.walk pre
  rw [Navigation.readWord, if_neg (counted _ _)]
  simp only [Nat.add_sub_cancel, hstart, hoffset, hback, hon, bind, Except.bind, pure, Except.pure]
  have hsource : pre ++ (before ++ w ++ (w' ++ post)) = pre ++ before ++ (w ++ w' ++ post) := by
    simp
  have hword : ∀ c ∈ w ++ w', Text.isWord c = true := by
    intro c hc
    exact (List.mem_append.mp hc).elim (h.left c) (h.right c)
  rw [hsource, ← Text.size_append]
  generalize w ++ w' = word at hword
  cases word with
  | nil => simp [symbolOf]
  | cons d word =>
    have hd := hword d List.mem_cons_self
    obtain ⟨b, hb, hbyte⟩ := byteAt_bytes (n := 0) (pre ++ before) d (word ++ post) d.utf8Size_pos
    obtain ⟨b', hb', hchar⟩ := Text.utf8EncodeChar_of_lt (Text.toNat_lt_of_isWord hd)
    rw [hb', List.mem_singleton] at hb
    rw [Nat.add_zero] at hbyte
    have hdigit : Text.isDigitByte b = Text.isDigit d := by rw [hb, Text.isDigitByte, hchar]
    have hne : ¬Text.size (pre ++ before) =
        Text.size (pre ++ before) + Text.size (d :: word) := by
      have := d.utf8Size_pos
      rw [Text.size_cons]
      omega
    have hcolumn : Text.size (pre ++ before) - pre.size + 1 = before.size + 1 := by simp
    rw [if_neg hne, List.cons_append, hbyte, hcolumn]
    simp only [hdigit, symbolOf]
    split
    · rfl
    · rw [← List.cons_append, textBetween_append]

/-- An offset inside a character has no word on either side. -/
theorem walk_inside (u : Text) (c : Char) (v : Text) (hlo : u.size < n)
    (hhi : n < u.size + c.utf8Size) (start : Nat) :
    walkBack (u ++ c :: v).bytes start n = .ok n ∧ walkOn (u ++ c :: v).bytes n = .ok n := by
  have hword : Text.isWord c = false := by
    by_contra hc
    have := Text.utf8Size_of_isWord (eq_true_of_ne_false hc)
    omega
  have hbyte : ∀ k, u.size ≤ k → k < u.size + c.utf8Size →
      ∃ b, byteAt (u ++ c :: v).bytes k = .ok b ∧ Text.isWordByte b = false := by
    intro k hle hlt
    obtain ⟨i, rfl⟩ := Nat.exists_eq_add_of_le hle
    obtain ⟨b, hb, hbyte⟩ := byteAt_bytes u c v (by omega : i < c.utf8Size)
    exact ⟨b, hbyte, (Text.isWordByte_of_mem hb).trans hword⟩
  exact ⟨walkBack_stay fun _ => hbyte (n - 1) (by omega) (by omega),
    walkOn_stay fun _ => hbyte n (by omega) hhi⟩

/-- **Reading byte by byte has no fault and finds the word**, at every position. -/
theorem readWord_eq (source : Text) (p : Position) :
    readWord source p = .ok (wordAt source p) := by
  obtain ⟨line, column⟩ := p
  rcases line with _ | line
  · simp [readWord, wordAt, pure, Except.pure]
  rcases column with _ | column
  · simp [readWord, wordAt, pure, Except.pure]
  have hline := counted line column
  cases hoffset : (LineIndex.ofText source).offset? line column with
  | none =>
    rw [readWord, wordAt, if_neg hline, if_neg hline]
    simp only [Nat.add_sub_cancel, hoffset]
    cases (LineIndex.ofText source).lineStart? line <;> rfl
  | some offset =>
    cases hstart : (LineIndex.ofText source).lineStart? line with
    | none =>
      rw [readWord, wordAt, if_neg hline, if_neg hline]
      simp only [Nat.add_sub_cancel, hoffset, hstart]
      rfl
    | some start =>
      obtain ⟨pre, rest, rfl, rfl, rfl, hle⟩ := LineIndex.cut_of_offset? hstart hoffset
      rcases Text.exists_cut hle with ⟨part, after, rfl, rfl⟩ | ⟨a, c, v, rfl, hlo, hhi⟩
      · obtain ⟨before, w, w', post, rfl, rfl, h⟩ := exists_encloses part after
        rw [h.readWord hstart hoffset, wordAt_of_cut hstart hoffset, h.wordBetween]
      · -- Inside a character neither index moves, and there is no boundary.
        have hboundary : (pre ++ (a ++ c :: v)).isBoundary (pre.size + column) = false := by
          rw [← List.append_assoc]
          exact Text.isBoundary_of_lt (by rw [Text.size_append]; omega)
            (by rw [Text.size_append]; omega)
        obtain ⟨hback, hon⟩ := walk_inside (n := pre.size + column) (pre ++ a) c v
          (by rw [Text.size_append]; omega) (by rw [Text.size_append]; omega) pre.size
        rw [List.append_assoc] at hback hon
        rw [readWord, wordAt, if_neg hline, if_neg hline]
        simp only [Nat.add_sub_cancel, hoffset, hstart, hback, hon, hboundary, bind, Except.bind,
          pure, Except.pure, if_true, Bool.false_eq_true, if_false]

end Navigation

end GrammarWorkbench
