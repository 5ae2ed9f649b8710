import GrammarWorkbench.Log.Generator
import GrammarWorkbench.Proofs.Log.Parts
import GrammarWorkbench.Proofs.Log.Pattern
import GrammarWorkbench.Proofs.Parse.Wording
import GrammarWorkbench.Proofs.Text.Lines

/-!
# Diagnostics in a log

A diagnostic is printed as the parser generator prints its own errors, and the lines of a log are
read back. This file says which diagnostics come back
(`GrammarWorkbench.Diagnostic.generatorLine?_display`): those with a message that is in one line and
has no blanks around it, which the messages of a parse are.

* **The pattern of a line** (`GrammarWorkbench.Log.generatorPattern`) is the specification of what
  is read. Reading it from left to right picks out the same parts
  (`GrammarWorkbench.Log.first?_generatorPattern`), since no part can begin with what the one before
  it is made of.
* **What was written is read** (`GrammarWorkbench.Log.generatorParts?_display`), whatever the
  message is, except for blanks around it.
-/

namespace GrammarWorkbench

open Pattern

/-! ### The pattern of a line -/

/-- **What the generator prints**, as a pattern. -/
def Log.generatorPattern : Pattern :=
  inOrder [blanks, word "--".toList, blanks, word "line".toList, oneOrMore true Text.isBlank,
    digits .line, oneOrMore true Text.isBlank, word "col".toList, oneOrMore true Text.isBlank,
    digits .column, blanks, word [':'], message]

theorem Log.first?_generatorPattern (t : Text) :
    generatorPattern.first? t = (generatorParts? t).map positionParts := by
  rw [generatorPattern, generatorParts?]
  simp only [inOrder, Option.bind_eq_bind, Option.map_bind, Function.comp_def]
  rw [first?_blanks_seq (avoids_word_seq rfl _), first?_word_seq]
  refine congrArg _ (funext fun t => ?_)
  rw [first?_blanks_seq (avoids_word_seq rfl _), first?_word_seq]
  refine congrArg _ (funext fun t => ?_)
  rw [first?_oneOrMore_blanks_seq (avoids_digits_seq _ _)]
  refine congrArg _ (funext fun t => ?_)
  rw [first?_digits_seq (avoids_oneOrMore_blanks_seq _)]
  refine congrArg _ (funext ?_)
  rintro ⟨line, t⟩
  rw [first?_oneOrMore_blanks_seq (avoids_word_seq rfl _), Option.map_bind]
  refine congrArg _ (funext fun t => ?_)
  rw [Function.comp_apply, first?_word_seq, Option.map_bind]
  refine congrArg _ (funext fun t => ?_)
  rw [Function.comp_apply, first?_oneOrMore_blanks_seq (avoids_digits_seq _ _), Option.map_bind]
  refine congrArg _ (funext fun t => ?_)
  have hcolon : ((word [':']).seq (message.seq empty)).Avoids Text.isBlank :=
    avoids_word_seq rfl _
  have hcolon' : ((word [':']).seq (message.seq empty)).Avoids Text.isDecimalDigit :=
    avoids_word_seq rfl _
  rw [Function.comp_apply, first?_digits_seq (avoids_blanks_seq hcolon hcolon'), Option.map_bind]
  refine congrArg _ (funext ?_)
  rintro ⟨column, t⟩
  rw [Function.comp_apply, first?_colonMessage]
  cases colonMessage? t <;> rfl

/-- The diagnostic that the parts of a line tell of. A number has to be written in ASCII digits and
has to be small enough. -/
def Log.diagnosticOfParts? (parts : List (LinePart × Text)) : Option Diagnostic := do
  let line ← Text.digits? (← parts.lookup .line)
  let column ← Text.digits? (← parts.lookup .column)
  return ⟨⟨line, column⟩, ← parts.lookup .message⟩

theorem Log.generatorLine?_eq_first? (t : Text) :
    generatorLine? t = (generatorPattern.first? t).bind diagnosticOfParts? := by
  rw [first?_generatorPattern, generatorLine?]
  cases generatorParts? t <;> rfl

/-! ### Diagnostics that were written -/

theorem Diagnostic.display_eq (d : Diagnostic) :
    d.display = "-- line ".toList ++ (Text.ofNat d.position.line ++ (" col ".toList ++
      (Text.ofNat d.position.column ++ (": ".toList ++ d.message)))) := by
  unfold Diagnostic.display
  simp only [List.append_assoc]

/-- **The parts of a diagnostic come back**, with its message as it is read alone. -/
theorem Log.generatorParts?_display (d : Diagnostic) :
    generatorParts? d.display = (message? d.message).map fun m =>
      (Text.ofNat d.position.line, Text.ofNat d.position.column, m) := by
  have hdashes (t : Text) : Text.after? "--".toList (skipBlanks ("-- line ".toList ++ t)) =
      some (" line ".toList ++ t) := rfl
  have hline (t : Text) : Text.after? "line".toList (skipBlanks (" line ".toList ++ t)) =
      some (' ' :: t) := rfl
  have hblank (t : Text) : skipSomeBlanks? (" col ".toList ++ t) = some ("col ".toList ++ t) := rfl
  have hcol (t : Text) : Text.after? "col".toList ("col ".toList ++ t) = some (' ' :: t) := rfl
  have hlineDigits (t : Text) := digits?_ofNat (t := " col ".toList ++ t) d.position.line
    (by rintro c ⟨⟩; decide)
  have hcolumnDigits (t : Text) := digits?_ofNat (t := ": ".toList ++ t) d.position.column
    (by rintro c ⟨⟩; decide)
  simp only [generatorParts?, d.display_eq, hdashes, hline, skipSomeBlanks?_ofNat, hlineDigits,
    hblank, hcol, hcolumnDigits, colonMessage?_append, Option.bind_eq_bind, Option.bind_some]
  cases message? d.message <;> rfl

/-- **A diagnostic comes back** exactly if its message does. -/
theorem Log.generatorLine?_display_iff {d : Diagnostic}
    (hline : d.position.line < Text.numeralLimit)
    (hcolumn : d.position.column < Text.numeralLimit) :
    generatorLine? d.display = some d ↔ '\n' ∉ d.message ∧ d.message.IsTrimmed := by
  have hread : generatorLine? d.display =
      (message? d.message).map fun m => ⟨d.position, m⟩ := by
    rw [generatorLine?, generatorParts?_display]
    cases message? d.message with
    | none => rfl
    | some m =>
      simp [Text.digits?_ofNat hline, Text.digits?_ofNat hcolumn]
  rw [← message?_eq_some_self_iff, hread]
  cases message? d.message with
  | none => simp
  | some m =>
    obtain ⟨position, message⟩ := d
    simp

/-! ### The log of a parse -/

/-- A diagnostic is printed in one line if its message is in one line. -/
theorem Diagnostic.notMem_display {d : Diagnostic} (h : '\n' ∉ d.message) : '\n' ∉ d.display := by
  have hnumber (n : Nat) : '\n' ∉ Text.ofNat n := fun hmem =>
    absurd (Text.isDigit_of_mem_ofNat hmem) (by decide)
  rw [d.display_eq]
  simp only [List.mem_append, not_or]
  exact ⟨by decide, hnumber _, by decide, hnumber _, by decide, h⟩

/-- A printed diagnostic ends with its message, or with a space if that is empty. -/
theorem Diagnostic.getLast?_display {d : Diagnostic} (h : d.message.IsTrimmed) :
    d.display.getLast? ≠ some '\r' := by
  unfold display
  rw [List.getLast?_append, List.getLast?_append]
  cases hlast : d.message.getLast? with
  | none =>
    have hspace : some ' ' ≠ some '\r' := by decide
    exact hspace
  | some c =>
    rintro ⟨⟩
    exact absurd (h.last _ hlast) (by decide)

/-- **Diagnostics survive the log of the generator.** A line is read as its pattern lays down, with
the parts of the preferred way. A diagnostic whose line and column fit into 64 bits comes back from
its own line exactly if its message is in one line and has no blanks around it; otherwise something
else comes back or nothing. So all diagnostics of a parse come back from a log of them, in order,
and nothing else does. The size of the source bounds their lines and columns. -/
theorem Diagnostic.generatorLine?_display :
    (∀ t, Log.generatorLine? t = (Log.generatorPattern.first? t).bind Log.diagnosticOfParts?) ∧
      (∀ d : Diagnostic, d.position.line < Text.numeralLimit →
        d.position.column < Text.numeralLimit →
        (Log.generatorLine? d.display = some d ↔ '\n' ∉ d.message ∧ d.message.IsTrimmed)) ∧
      ∀ source : Text, source.size + 1 < Text.numeralLimit →
        let diagnostics := (ParseResult.ofSource source).diagnostics
        Log.generatorLog (['\n'].intercalate (diagnostics.map Diagnostic.display)) =
          diagnostics := by
  refine ⟨Log.generatorLine?_eq_first?, fun d => Log.generatorLine?_display_iff, ?_⟩
  intro source hsize diagnostics
  have hmessage : ∀ d ∈ diagnostics, '\n' ∉ d.message ∧ d.message.IsTrimmed := by
    intro d hd
    obtain ⟨e, he⟩ := ParseResult.exists_message_of_mem hd
    exact he ▸ e.isTrimmed_message
  have hlines : Text.lines (['\n'].intercalate (diagnostics.map Diagnostic.display)) =
      diagnostics.map Diagnostic.display := by
    refine Text.lines_intercalate fun l hl => ?_
    obtain ⟨d, hd, rfl⟩ := List.mem_map.mp hl
    obtain ⟨hline, htrimmed⟩ := hmessage d hd
    exact ⟨Diagnostic.notMem_display hline, Diagnostic.getLast?_display htrimmed,
      d.display_eq ▸ List.cons_ne_nil _ _⟩
  rw [Log.generatorLog, hlines, List.filterMap_map]
  have hback : ∀ d ∈ diagnostics, (Log.generatorLine? ∘ Diagnostic.display) d = some d := by
    intro d hd
    obtain ⟨hline, hcolumn⟩ := ParseResult.position_le_of_mem hd
    exact (Log.generatorLine?_display_iff (by omega) (by omega)).mpr (hmessage d hd)
  rw [List.filterMap_congr hback, List.filterMap_some]

/-- A message that looks like a line of the log itself, a message with a blank before it, and the
log of a source with three errors. -/
theorem Diagnostic.generatorLine?_display_nested :
    let d : Diagnostic := ⟨⟨12, 9⟩, "(3,4): : -- line 5 col 6:  x".toList⟩
    let indented : Diagnostic := ⟨⟨12, 9⟩, " x".toList⟩
    let source : Text := "COMPILER A PRODUCTIONS A = ] a b . B \"c\n\" = d . END".toList
    let diagnostics := (ParseResult.ofSource source).diagnostics
    d.position.line < Text.numeralLimit ∧ d.position.column < Text.numeralLimit ∧
      Log.generatorLine? d.display = some d ∧ Log.generatorLine? indented.display ≠ some indented ∧
      source.size + 1 < Text.numeralLimit ∧ diagnostics.length = 3 ∧
      Log.generatorLog (['\n'].intercalate (diagnostics.map Diagnostic.display)) =
        diagnostics := by
  intro d indented source diagnostics
  obtain ⟨-, hline, hlog⟩ := generatorLine?_display
  have hsize : source.size + 1 < Text.numeralLimit := by decide +kernel
  refine ⟨by decide, by decide, ?_, ?_, hsize, by decide +kernel, hlog source hsize⟩
  · exact (hline d (by decide) (by decide)).mpr
      ⟨by decide, Text.trim_eq_self_iff.mp (by decide)⟩
  · intro hback
    obtain ⟨-, htrimmed⟩ := (hline indented (by decide) (by decide)).mp hback
    exact absurd (htrimmed.first ' ' rfl) (by decide)

end GrammarWorkbench
