import GrammarWorkbench.Proofs.Navigation.Bytes
import GrammarWorkbench.Proofs.Symbols.Occurrences

/-!
# Finding a symbol from each of its columns

Navigation cuts words out of the bytes around a position, and knows nothing of lexemes. Symbols are
lexemes, and were found by parsing. The two agree: **from every column of a symbol, and from the one
after it, navigation finds the symbol**, its declaration and its uses
(`GrammarWorkbench.Session.symbol_at_columns`). There is one exception, a symbol at the end of a
pragma, whose letters and digits are taken for a part of the word.

The columns of a symbol are columns of one line, since a word holds no terminator. So all of them
are found behind the same start of a line, and the cut that a column makes through the word moves
from its first character to its end.
-/

namespace GrammarWorkbench

variable {source pre post word : Text} {column : Nat}

/-- Words are cut at every offset. -/
theorem Text.exists_cut_of_isWord {t : Text} {n : Nat} (h : ∀ c ∈ t, isWord c = true)
    (hn : n ≤ t.size) : ∃ w w', t = w ++ w' ∧ size w = n := by
  rcases exists_cut hn with hcut | ⟨a, c, b, rfl, hlo, hhi⟩
  · exact hcut
  · have := utf8Size_of_isWord (h c (by simp))
    omega

namespace Navigation

/-- **A longest word is found from each of its columns.** -/
theorem wordAt_of_isWord (hsource : source = pre ++ (word ++ post))
    (hhead : word.head?.any Text.startsWord = true) (hall : ∀ c ∈ word, Text.isWord c = true)
    (hpre : pre.getLast?.any Text.isWord = false) (hpost : post.head?.any Text.isWord = false)
    {place : Position} (hplace : place = (LineIndex.ofText source).position pre.size)
    (hle : place.column ≤ column) (hge : column ≤ place.column + word.size) :
    wordAt source ⟨place.line, column⟩ = some ⟨word, place, none⟩ := by
  subst hsource
  obtain ⟨w, w', rfl, hw⟩ := Text.exists_cut_of_isWord (n := column - place.column) hall (by omega)
  have hleft : ∀ c ∈ w, Text.isWord c = true := fun c hc => hall c (by simp [hc])
  have hright : ∀ c ∈ w', Text.isWord c = true := fun c hc => hall c (by simp [hc])
  obtain ⟨start, before, line, rfl, hposition, hstart, hoffset⟩ :=
    LineIndex.exists_line_of_isPlain (Text.isPlain_of_isWord hleft) pre (w' ++ post)
  have hbefore : before.getLast?.any Text.isWord = false := by
    rcases List.eq_nil_or_concat before with rfl | ⟨before, d, rfl⟩
    · rfl
    · simpa using hpre
  -- Behind the start of the line, the column cuts what stands before the word and the word.
  have hsource : start ++ before ++ (w ++ (w' ++ post)) =
      start ++ (before ++ w ++ (w' ++ post)) := by simp
  rw [List.append_assoc w w' post] at hplace ⊢
  rw [hposition] at hplace
  subst hplace
  have hcolumn : column = Text.size (before ++ w) + 1 := by
    rw [Text.size_append]
    dsimp only at hw hle
    omega
  rw [hsource] at hstart hoffset ⊢
  rw [hcolumn, wordAt_of_cut hstart hoffset,
    (Encloses.mk hleft hright hbefore hpost).wordBetween]
  cases hword : w ++ w' with
  | nil => simp [hword] at hhead
  | cons d word =>
    have hd : Text.isDigit d = false := by
      rw [hword] at hhead
      exact Text.isDigit_of_startsWord hhead
    simp [symbolOf, hd]

end Navigation

namespace Session

open Navigation

/-- **Navigation works from every column of every symbol.** Let a symbol be named by a word, and let
no pragma end where it begins. From each of its columns, and from the one after its last character,
the word that is found is the symbol; what is found as its definition is what is declared under its
name; and what is found as its uses are the uses of its name, in the order of the source. At no
position at all does it matter that words are read byte by byte: no index leaves the bytes of the
source, and no character is cut. -/
theorem symbol_at_columns (session : Session) (source : Text) :
    let answer := (session.symbols source).1
    (∀ e ∈ answer.declared ++ answer.references.flatMap Prod.snd, e.isWord = true →
      Piece.endsPragma source e.position = false →
        ∀ column, e.position.column ≤ column → column ≤ e.position.column + e.name.size →
          wordAt source ⟨e.position.line, column⟩ = some ⟨e.name, e.position, none⟩ ∧
          definitionAt source ⟨e.position.line, column⟩ =
            (declaration? answer e.name).map Prod.snd ∧
          referencesAt source ⟨e.position.line, column⟩ false = answer.references.get e.name ∧
          (answer.references.get e.name).Pairwise fun u v => u.position < v.position) ∧
      ∀ p, readWord source p = .ok (wordAt source p) := by
  intro answer
  refine ⟨?_, readWord_eq source⟩
  intro e he hword hpragma column hle hge
  obtain ⟨pre, post, hsource, hplace, hall, hpre, hpost⟩ :=
    session.exists_cut_of_mem he hword hpragma
  have hat := wordAt_of_isWord hsource hword hall hpre hpost hplace hle hge
  have hanswer : Snapshot.ofSource source = answer := rfl
  refine ⟨hat, ?_, ?_, session.pairwise_get_references source e.name⟩
  · rw [definitionAt, hat, hanswer]
    rfl
  · rw [referencesAt, hat, hanswer]
    rfl

/-- A use right after a comment with an accent in it, from the column after its last character. The
name after a number is host code, and is no symbol. -/
theorem symbol_at_columns_accent :
    let source := "é COMPILER A\r\nPRODUCTIONS\r\n A=/*é*/b1 (.7x.). b1=\"q\". END A.".toList
    let answer := (({} : Session).symbols source).1
    let use : Symbol := ⟨['b', '1'], ⟨3, 10⟩, some ['A']⟩
    use ∈ answer.declared ++ answer.references.flatMap Prod.snd ∧
      Piece.endsPragma source use.position = false ∧
      wordAt source ⟨3, 12⟩ = some ⟨['b', '1'], ⟨3, 10⟩, none⟩ ∧
      definitionAt source ⟨3, 12⟩ = some ⟨['b', '1'], ⟨3, 21⟩, none⟩ ∧
      referencesAt source ⟨3, 12⟩ false = [use] := by
  intro source answer use
  have hmem : use ∈ answer.declared ++ answer.references.flatMap Prod.snd := by decide +kernel
  have hpragma : Piece.endsPragma source use.position = false := by decide +kernel
  obtain ⟨hword, hdefinition, hreferences, -⟩ :=
    (symbol_at_columns ({} : Session) source).1 use hmem rfl hpragma 12 (by decide) (by decide)
  refine ⟨hmem, hpragma, hword, hdefinition.trans ?_, hreferences.trans ?_⟩ <;> decide +kernel

end Session

end GrammarWorkbench
