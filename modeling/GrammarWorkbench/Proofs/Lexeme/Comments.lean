import GrammarWorkbench.Proofs.Lexeme.Edges
import GrammarWorkbench.Proofs.Source.Cuts

/-!
# Comments inside comments

A comment between slash and star marks may hold other ones. Said as a grammar, **a comment is an
opening mark, then comments and bytes at which no mark begins, then a closing mark**
(`GrammarWorkbench.Shape.IsComment`). Nothing is counted in it. The bytes are read from left to
right, two at a time, so that a mark is never made of a byte that belongs to the mark before it: a
slash, a star and a slash open a comment and do not close it.

Comments are found by counting instead. `GrammarWorkbench.Shape.countMarks` is the loop over the
bytes behind an opening mark, with the number of open comments. It finds the end of a comment of the
grammar, and this has two sides.

* **The rest of a comment lowers the count by one** at its end, and not before
  (`GrammarWorkbench.Shape.IsRest.countMarks_append`).
* **What is counted down from `depth`** is the rests of `depth` comments, one behind the other
  (`GrammarWorkbench.Shape.exists_rests`). Going back over an opening mark, the rests of two comments
  become the rest of one.

The loop over the bytes and the search character by character give the same
(`GrammarWorkbench.Shape.countMarks_bytes`), as no byte of a longer character is a slash or a star.
-/

namespace GrammarWorkbench

namespace Shape

/-! ### The grammar of comments -/

/-- The mark that opens a comment: a slash and a star. -/
def opening : List UInt8 :=
  [47, 42]

/-- The mark that closes a comment: a star and a slash. -/
def closing : List UInt8 :=
  [42, 47]

/-- **The rest of a comment** behind its opening mark: comments, and bytes at which no mark begins,
up to a closing mark. -/
inductive IsRest : List UInt8 → Prop
  | close : IsRest closing
  | byte {b : UInt8} {s : List UInt8} (hopening : ¬opening <+: b :: s)
      (hclosing : ¬closing <+: b :: s) (h : IsRest s) : IsRest (b :: s)
  | comment {inner s : List UInt8} (hinner : IsRest inner) (h : IsRest s) :
      IsRest (opening ++ inner ++ s)

/-- **A comment**: an opening mark, and the rest of a comment. -/
def IsComment (s : List UInt8) : Prop :=
  ∃ rest, IsRest rest ∧ s = opening ++ rest

/-- **A comment that is opened before a text** is closed after `n` bytes of it. -/
def ClosesAfter (t : Text) (n : Nat) : Prop :=
  n ≤ t.size ∧ IsComment (opening ++ t.bytes.take n)

/-! ### Counting marks -/

/-- **The loop over the bytes behind an opening mark.** There are `depth` open comments, and `i`
bytes have been read: whether the last comment is closed, and how many bytes are read until then, or
until the end. -/
def countMarks (depth i : Nat) : List UInt8 → Bool × Nat
  | 47 :: 42 :: s => countMarks (depth + 1) (i + 2) s
  | 42 :: 47 :: s => if depth - 1 = 0 then (true, i + 2) else countMarks (depth - 1) (i + 2) s
  | _ :: s => countMarks depth (i + 1) s
  | [] => (false, i)

variable {b : UInt8} {s u mark : List UInt8} {t : Text} {c : Char} {depth i n : Nat}

theorem countMarks_opening (depth i : Nat) (s : List UInt8) :
    countMarks depth i (opening ++ s) = countMarks (depth + 1) (i + 2) s := by
  rw [opening, List.cons_append, List.singleton_append, countMarks]

theorem countMarks_closing (depth i : Nat) (s : List UInt8) :
    countMarks (depth + 1) i (closing ++ s) =
      if depth = 0 then (true, i + 2) else countMarks depth (i + 2) s := by
  rw [closing, List.cons_append, List.singleton_append, countMarks, Nat.add_sub_cancel]

/-- A byte at which no mark begins. -/
theorem countMarks_byte (hopening : ¬opening <+: b :: s) (hclosing : ¬closing <+: b :: s)
    (depth i : Nat) : countMarks depth i (b :: s) = countMarks depth (i + 1) s := by
  rw [countMarks]
  · rintro u rfl rfl
    exact hopening ⟨u, rfl⟩
  · rintro u rfl rfl
    exact hclosing ⟨u, rfl⟩

/-! ### The rests of comments -/

theorem IsRest.ne_nil (h : IsRest s) : s ≠ [] := by
  cases h <;> exact List.cons_ne_nil _ _

/-- A byte does not begin a mark if another one would have to come next. -/
theorem not_mark {x y : UInt8} (h : ∀ u, b = x → s = y :: u → False) : ¬[x, y] <+: b :: s := by
  rintro ⟨u, hu⟩
  obtain ⟨rfl, rfl⟩ := List.cons.inj hu
  exact h u rfl rfl

theorem not_mark_of_append (h : ¬mark <+: b :: (s ++ u)) : ¬mark <+: b :: s :=
  fun hbegins => h (hbegins.trans ⟨u, rfl⟩)

/-- A mark has two bytes, so that it does not matter to it what follows the rest of a comment. -/
theorem not_mark_append (hmark : mark.length = 2) (hs : s ≠ []) (h : ¬mark <+: b :: s)
    (u : List UInt8) : ¬mark <+: b :: (s ++ u) := by
  intro hbegins
  refine h (List.prefix_of_prefix_length_le hbegins ⟨u, rfl⟩ ?_)
  have hpos := List.length_pos_of_ne_nil hs
  rw [hmark, List.length_cons]
  omega

/-- **The rest of a comment lowers the count by one**, whatever follows. -/
theorem IsRest.countMarks_append (h : IsRest s) (depth i : Nat) (u : List UInt8) :
    countMarks (depth + 1) i (s ++ u) =
      if depth = 0 then (true, i + s.length) else countMarks depth (i + s.length) u := by
  induction h generalizing depth i u with
  | close => exact countMarks_closing depth i u
  | @byte b s hopening hclosing h ih =>
    have hopening := not_mark_append rfl h.ne_nil hopening u
    have hclosing := not_mark_append rfl h.ne_nil hclosing u
    rw [List.cons_append, countMarks_byte hopening hclosing, ih, List.length_cons, Nat.add_assoc,
      Nat.add_comm 1]
  | @comment inner s _ _ ihinner ih =>
    -- The inner comment is counted up and down again, and the outer one goes on behind it.
    have hlength : (opening ++ inner ++ s).length = 2 + inner.length + s.length := by
      rw [List.length_append, List.length_append]
      rfl
    rw [List.append_assoc, List.append_assoc, countMarks_opening, ihinner,
      if_neg (Nat.succ_ne_zero depth), ih, hlength, Nat.add_assoc i, Nat.add_assoc i]

/-- **The rests of some comments**, one behind the other, from the innermost comment on. -/
inductive Rests : Nat → List UInt8 → Prop
  | nil : Rests 0 []
  | cons {depth : Nat} {s u : List UInt8} (h : IsRest s) (hu : Rests depth u) :
      Rests (depth + 1) (s ++ u)

theorem rests_one_iff : Rests 1 s ↔ IsRest s := by
  constructor
  · rintro (_ | ⟨h, _ | _⟩)
    rwa [List.append_nil]
  · intro h
    have hrests := Rests.cons h .nil
    rwa [List.append_nil] at hrests

/-- A byte in the innermost comment. -/
theorem Rests.byte (h : Rests depth s) (hdepth : 0 < depth) (hopening : ¬opening <+: b :: s)
    (hclosing : ¬closing <+: b :: s) : Rests depth (b :: s) := by
  cases h with
  | nil => cases hdepth
  | cons h hu =>
    exact .cons (.byte (not_mark_of_append hopening) (not_mark_of_append hclosing) h) hu

/-- Before an opening mark, the rests of two comments are the rest of one. -/
theorem Rests.enter (h : Rests (depth + 1) s) (hdepth : 0 < depth) :
    Rests depth (opening ++ s) := by
  obtain _ | ⟨hinner, hu⟩ := h
  cases hu with
  | nil => cases hdepth
  | cons h hu =>
    rw [← List.append_assoc, ← List.append_assoc]
    exact .cons (.comment hinner h) hu

theorem Rests.leave (h : Rests (depth - 1) s) (hdepth : 0 < depth) :
    Rests depth (closing ++ s) := by
  have hrests := Rests.cons .close h
  rwa [Nat.sub_add_cancel hdepth] at hrests

/-- **What is counted down from `depth`** is the rests of `depth` comments. -/
theorem exists_rests (h : countMarks depth i s = (true, n)) (hdepth : 0 < depth) :
    ∃ part u, s = part ++ u ∧ n = i + part.length ∧ Rests depth part := by
  fun_induction countMarks depth i s with
  | case1 depth i s ih =>
    obtain ⟨part, u, rfl, rfl, hpart⟩ := ih h (Nat.succ_pos depth)
    refine ⟨opening ++ part, u, rfl, ?_, hpart.enter hdepth⟩
    rw [List.length_append, Nat.add_assoc]
    rfl
  | case2 depth i s hlast =>
    obtain rfl : depth = 1 := by omega
    cases h
    exact ⟨closing, s, rfl, rfl, rests_one_iff.mpr .close⟩
  | case3 depth i s hlast ih =>
    obtain ⟨part, u, rfl, rfl, hpart⟩ := ih h (Nat.pos_of_ne_zero hlast)
    refine ⟨closing ++ part, u, rfl, ?_, hpart.leave hdepth⟩
    rw [List.length_append, Nat.add_assoc]
    rfl
  | case4 depth i b s hopening hclosing ih =>
    obtain ⟨part, u, rfl, rfl, hpart⟩ := ih h hdepth
    have hopening := not_mark_of_append (not_mark hopening)
    have hclosing := not_mark_of_append (not_mark hclosing)
    refine ⟨b :: part, u, rfl, ?_, hpart.byte hdepth hopening hclosing⟩
    rw [List.length_cons, Nat.add_assoc, Nat.add_comm 1]
  | case5 => cases h

/-- **Counting finds the end of a comment**, and nothing else. -/
theorem countMarks_eq_true_iff :
    countMarks 1 0 s = (true, n) ↔ n ≤ s.length ∧ IsComment (opening ++ s.take n) := by
  constructor
  · intro h
    obtain ⟨part, u, rfl, rfl, hpart⟩ := exists_rests h Nat.one_pos
    rw [Nat.zero_add, List.take_left]
    exact ⟨by simp, part, rests_one_iff.mp hpart, rfl⟩
  · rintro ⟨hle, rest, hrest, heq⟩
    have hcount := hrest.countMarks_append 0 0 (s.drop n)
    rwa [← List.append_cancel_left heq, List.take_append_drop, if_pos rfl, List.length_take,
      Nat.min_eq_left hle, Nat.zero_add, Nat.zero_add] at hcount

/-! ### Bytes and characters -/

/-- Bytes beyond ASCII belong to no mark. -/
theorem countMarks_of_forall_le (h : ∀ b ∈ s, 128 ≤ b.toNat) (depth i : Nat) (u : List UInt8) :
    countMarks depth i (s ++ u) = countMarks depth (i + s.length) u := by
  induction s generalizing i with
  | nil => rfl
  | cons b s ih =>
    obtain ⟨hb, hs⟩ := List.forall_mem_cons.mp h
    rw [List.cons_append, countMarks, ih hs, List.length_cons, Nat.add_assoc, Nat.add_comm 1]
    · rintro u rfl
      exact absurd hb (by decide)
    · rintro u rfl
      exact absurd hb (by decide)

/-- A text whose first byte is an ASCII character begins with that character. -/
theorem exists_of_bytes_eq_cons (h : t.bytes = b :: u) (hb : b.toNat < 128) :
    ∃ v, t = Char.ofUInt8 b :: v := by
  cases t with
  | nil => cases h
  | cons c v =>
    have hmem : b ∈ String.utf8EncodeChar c := by
      cases hc : String.utf8EncodeChar c with
      | nil => exact absurd hc (by simp)
      | cons d rest =>
        rw [Text.bytes_cons, hc] at h
        rw [(List.cons.inj h).1]
        exact List.mem_cons_self
    exact ⟨v, by rw [Text.ofUInt8_of_mem_utf8EncodeChar hmem hb]⟩

/-- A character at which no mark begins. -/
theorem countMarks_char (hopening : ∀ u, c = '/' → t = '*' :: u → False)
    (hclosing : ∀ u, c = '*' → t = '/' :: u → False) (depth i : Nat) :
    countMarks depth i (Text.bytes (c :: t)) = countMarks depth (i + c.utf8Size) t.bytes := by
  rw [Text.bytes_cons, ← String.length_utf8EncodeChar]
  rcases Nat.lt_or_ge c.toNat 128 with hlt | hge
  · obtain ⟨b, hbyte, rfl⟩ := Text.utf8EncodeChar_of_lt hlt
    rw [hbyte, List.singleton_append, List.length_singleton, countMarks]
    · rintro u rfl hu
      obtain ⟨v, rfl⟩ := exists_of_bytes_eq_cons hu (by decide)
      exact hopening v rfl rfl
    · rintro u rfl hu
      obtain ⟨v, rfl⟩ := exists_of_bytes_eq_cons hu (by decide)
      exact hclosing v rfl rfl
  · exact countMarks_of_forall_le (fun b hb => Text.le_of_mem_utf8EncodeChar hge hb) depth i t.bytes

/-- What is known of a text from the number of characters up to the end of a comment. -/
def readUpTo (i : Nat) (t : Text) : Option Nat → Bool × Nat
  | some n => (true, i + Text.size (t.take n))
  | none => (false, i + t.size)

theorem readUpTo_append (i : Nat) (p t : Text) (end? : Option Nat) :
    readUpTo i (p ++ t) (end?.map (· + p.length)) = readUpTo (i + p.size) t end? := by
  cases end? with
  | none => simp [readUpTo, Nat.add_assoc]
  | some n =>
    have htake : (p ++ t).take (n + p.length) = p ++ t.take n := by
      rw [Nat.add_comm, List.take_length_add_append]
    simp [readUpTo, htake, Nat.add_assoc]

/-- **Marks are counted byte by byte as they are character by character.** -/
theorem countMarks_bytes (depth i : Nat) (t : Text) :
    countMarks (depth + 1) i (Text.bytes t) = readUpTo i t (commentBody depth t) := by
  fun_induction commentBody depth t generalizing i with
  | case1 depth t ih =>
    have hbytes : Text.bytes ('/' :: '*' :: t) = opening ++ Text.bytes t := rfl
    rw [hbytes, countMarks_opening, ih]
    exact (readUpTo_append i ['/', '*'] t _).symm
  | case2 t =>
    have hbytes : Text.bytes ('*' :: '/' :: t) = closing ++ Text.bytes t := rfl
    rw [hbytes, countMarks_closing, if_pos rfl]
    rfl
  | case3 t depth ih =>
    have hbytes : Text.bytes ('*' :: '/' :: t) = closing ++ Text.bytes t := rfl
    rw [hbytes, countMarks_closing, if_neg (Nat.succ_ne_zero depth), ih]
    exact (readUpTo_append i ['*', '/'] t _).symm
  | case4 depth c t hopening hclosing ih =>
    rw [countMarks_char hopening hclosing, ih]
    exact (readUpTo_append i [c] t _).symm
  | case5 => rfl

/-- **The end of a comment is found character by character.** -/
theorem closesAfter_iff : ClosesAfter t n ↔
    ∃ k, commentBody 0 t = some k ∧ Text.size (t.take k) = n := by
  rw [ClosesAfter, ← Text.length_bytes, ← countMarks_eq_true_iff, countMarks_bytes 0 0 t]
  cases commentBody 0 t <;> simp [readUpTo]

theorem ClosesAfter.unique {n' : Nat} (h : ClosesAfter t n) (h' : ClosesAfter t n') : n = n' := by
  obtain ⟨k, hk, rfl⟩ := closesAfter_iff.mp h
  obtain ⟨k', hk', rfl⟩ := closesAfter_iff.mp h'
  obtain rfl := Option.some.inj (hk.symm.trans hk')
  rfl

theorem ClosesAfter.isBoundary (h : ClosesAfter t n) : t.isBoundary n = true := by
  obtain ⟨k, -, rfl⟩ := closesAfter_iff.mp h
  have hcut := Text.isBoundary_append (t.take k) (t.drop k)
  rwa [List.take_append_drop] at hcut

theorem commentBody_eq_none (h : ∀ n, ¬ClosesAfter t n) : commentBody 0 t = none := by
  cases hbody : commentBody 0 t with
  | none => rfl
  | some k => exact absurd (closesAfter_iff.mpr ⟨k, hbody, rfl⟩) (h _)

end Shape

/-! ### The lexeme of a comment -/

namespace Lexeme

open Shape (ClosesAfter countMarks commentBody closesAfter_iff)

variable {k : Nat} {t : Text}

/-- A comment that is closed, and the lexemes behind it. -/
theorem scanFrom_comment (h : commentBody 0 t = some k) (index : LineIndex) (offset : Nat) :
    scanFrom index offset ('/' :: '*' :: t) =
      ⟨some .blockComment, offset, '/' :: '*' :: t.take k, index.position offset⟩ ::
        scanFrom index (offset + 2 + Text.size (t.take k)) (t.drop k) := by
  have hfirst : Shape.first '/' ('*' :: t) = (.token .blockComment, k + 1) :=
    Shape.first_of_rule (.blockComment h)
  have hsize : Text.size ('/' :: '*' :: t.take k) = 2 + Text.size (t.take k) :=
    Text.size_append ['/', '*'] (t.take k)
  rw [scanFrom, hfirst]
  simp [ofShape?, hsize, Nat.add_assoc]

/-- A comment that nothing closes is the last lexeme. -/
theorem scanFrom_openComment (h : commentBody 0 t = none) (index : LineIndex) (offset : Nat) :
    scanFrom index offset ('/' :: '*' :: t) =
      [⟨none, offset, '/' :: '*' :: t, index.position offset⟩] := by
  have hfirst : Shape.first '/' ('*' :: t) = (.invalid, t.length + 1) :=
    Shape.first_of_rule (.openComment h)
  rw [scanFrom, hfirst]
  simp [ofShape?, scanFrom]

/-- **Comments nest.** Where a comment is opened before a text, counting byte by byte says that it
is closed after `n` bytes exactly if these bytes, together with the opening mark, are a comment of
the grammar, and so does the scanner, wherever it stands: it makes a lexeme of them and goes on
behind it. There is at most one such number, and it is a boundary of the text. If there is none, all
bytes are read, and one lexeme that is no token goes on to the end of the source. -/
theorem nested_comments (index : LineIndex) (offset : Nat) (t : Text) :
    (∀ n, countMarks 1 0 t.bytes = (true, n) ↔ ClosesAfter t n) ∧
      (∀ n, ClosesAfter t n ↔ ∃ body rest : Text, t = body ++ rest ∧ body.size = n ∧
        scanFrom index offset ('/' :: '*' :: t) =
          ⟨some .blockComment, offset, '/' :: '*' :: body, index.position offset⟩ ::
            scanFrom index (offset + 2 + n) rest) ∧
      (∀ n n', ClosesAfter t n → ClosesAfter t n' → n = n') ∧
      (∀ n, ClosesAfter t n → t.isBoundary n = true) ∧
      ((∀ n, ¬ClosesAfter t n) → countMarks 1 0 t.bytes = (false, t.size) ∧
        scanFrom index offset ('/' :: '*' :: t) =
          [⟨none, offset, '/' :: '*' :: t, index.position offset⟩]) := by
  refine ⟨fun n => ?_, fun n => ?_, fun n n' => ClosesAfter.unique, fun n => ClosesAfter.isBoundary,
    fun hopen => ?_⟩
  · rw [Shape.countMarks_eq_true_iff, Text.length_bytes]
    rfl
  · rw [closesAfter_iff]
    constructor
    · rintro ⟨k, hbody, rfl⟩
      exact ⟨t.take k, t.drop k, (List.take_append_drop k t).symm, rfl,
        scanFrom_comment hbody index offset⟩
    · rintro ⟨body, rest, -, rfl, hscan⟩
      -- The scanner has made the lexeme that it makes of every comment with an end.
      cases hbody : commentBody 0 t with
      | none =>
        rw [scanFrom_openComment hbody] at hscan
        have htoken := congrArg Lexeme.token (List.cons.inj hscan).1
        cases htoken
      | some k =>
        rw [scanFrom_comment hbody] at hscan
        have htext := congrArg Lexeme.text (List.cons.inj hscan).1
        simp only [List.cons.injEq, true_and] at htext
        exact ⟨k, rfl, by rw [htext]⟩
  · have hbody := Shape.commentBody_eq_none hopen
    refine ⟨?_, scanFrom_openComment hbody index offset⟩
    rw [Shape.countMarks_bytes 0 0 t, hbody, Shape.readUpTo, Nat.zero_add]

/-- Where marks overlap, the first one counts. -/
example : countMarks 1 0 (Text.bytes "/*/é**/*/ x*/".toList) = (true, 10) := by decide

end Lexeme

end GrammarWorkbench
