import GrammarWorkbench.Proofs.Editor.Segments
import GrammarWorkbench.Proofs.Parse.Taken

/-!
# Highlighting and the notation of a grammar

Highlighting tells host code from the notation of a grammar by itself: it watches for the marks
around attributes and actions (`GrammarWorkbench.Highlight.Region`) and knows nothing of sections,
productions and resolvers. Reading a grammar from left to right knows them
(`GrammarWorkbench.Spot`). The two are compared here, lexeme by lexeme.

At the notation itself, and in attributes and actions, they go together: both open and close host
code at the same marks and count the same angle brackets (`GrammarWorkbench.Spot.region_next`).
What sets them apart is **free text**: the text before a grammar, its global code and the conditions
of its resolvers. It is host code without a mark that highlighting knows, so that a `<` which is
meant as a comparison opens attributes. If every stretch of free text leads highlighting back to
where it was, it never loses the notation; if one does not, keywords of the grammar may no longer be
highlighted, and names may be (`GrammarWorkbench.Highlight.words_of_isGrammar`).
-/

namespace GrammarWorkbench

namespace Highlight

/-! ### The region after some lexemes -/

namespace Region

variable {r : Region} {x : Lexeme} {xs ys : List Lexeme}

/-- The region after one more lexeme. -/
def next (r : Region) (x : Lexeme) : Region :=
  match x.token with
  | none => r
  | some t => (classify r t x.text).2

/-- The region after some lexemes. -/
def after (r : Region) (xs : List Lexeme) : Region :=
  xs.foldl next r

/-- The kind of the next lexeme. -/
def kind? (r : Region) (x : Lexeme) : Option HighlightKind :=
  x.token.bind fun t => (classify r t x.text).1

theorem after_cons : r.after (x :: xs) = (r.next x).after xs := rfl

theorem after_append : r.after (xs ++ ys) = (r.after xs).after ys :=
  List.foldl_append

/-- Comments are the same in all regions. -/
theorem next_of_isComment (h : x.isComment = true) : r.next x = r := by
  obtain ⟨token, start, text, position⟩ := x
  cases token with
  | none => rfl
  | some t => cases t <;> first | rfl | cases h

theorem after_filter (r : Region) (xs : List Lexeme) :
    r.after (xs.filter (!·.isComment)) = r.after xs := by
  induction xs generalizing r with
  | nil => rfl
  | cons x xs ih =>
    cases hx : x.isComment with
    | true => rw [List.filter_cons_of_neg (by simp [hx]), ih, after_cons, next_of_isComment hx]
    | false => rw [List.filter_cons_of_pos (by simp [hx]), after_cons, after_cons, ih]

/-- In host code, a word is highlighted if it is a keyword there. -/
theorem kind?_of_ne_grammar {t : Token} (hr : r ≠ .grammar) (hx : x.token = some t)
    (ht : t.isWord = true) : r.kind? x = inHost t x.text := by
  rw [kind?, hx]
  cases r with
  | grammar => exact absurd rfl hr
  | action | dottedAttributes | attributes => cases t <;> first | rfl | cases ht

/-- **A keyword of the grammar is highlighted in grammar notation only.** -/
theorem kind?_eq_keyword_iff (h : x.token.any Token.isKeyword = true) :
    r.kind? x = some .keyword ↔ r = .grammar := by
  obtain ⟨t, hx, ht⟩ := Option.any_eq_true _ _ |>.mp h
  by_cases hr : r = .grammar
  · refine iff_of_true ?_ hr
    rw [kind?, hx, hr]
    cases t <;> first | rfl | cases ht
  · refine iff_of_false ?_ hr
    rw [kind?_of_ne_grammar hr hx (by simp [Token.isWord, ht])]
    cases t <;> first | (cases ht; done) | (intro hkind; cases hkind)

/-- **A name is highlighted in host code only**, and only if it is a keyword there. -/
theorem kind?_eq_none_iff (h : x.token = some .ident) :
    r.kind? x = none ↔ r = .grammar ∨ isHostKeyword x.text = false := by
  by_cases hr : r = .grammar
  · refine iff_of_true ?_ (Or.inl hr)
    rw [kind?, h, hr]
    rfl
  · rw [kind?_of_ne_grammar hr h rfl, inHost]
    cases isHostKeyword x.text <;> simp [hr]

end Region

/-! ### The highlighting of one lexeme -/

variable {r : Region} {xs ys : List Lexeme} {x : Lexeme} {h : Highlight} {source : Text}

theorem ofLexemes_cons (r : Region) (x : Lexeme) (xs : List Lexeme) :
    ofLexemes r (x :: xs) =
      ((r.kind? x).map fun kind => ⟨kind, x.start, x.stop⟩).toList ++ ofLexemes (r.next x) xs := by
  rw [ofLexemes, Region.kind?, Region.next]
  cases x.token <;> rfl

theorem ofLexemes_append (r : Region) (xs ys : List Lexeme) :
    ofLexemes r (xs ++ ys) = ofLexemes r xs ++ ofLexemes (r.after xs) ys := by
  induction xs generalizing r with
  | nil => rfl
  | cons x xs ih =>
    rw [List.cons_append, ofLexemes_cons, ofLexemes_cons, ih, Region.after_cons, List.append_assoc]

/-- What is highlighted is a lexeme. -/
theorem exists_of_mem_ofLexemes (hh : h ∈ ofLexemes r xs) :
    ∃ x ∈ xs, x.start = h.start ∧ x.stop = h.stop := by
  have hspan := (sublist_ofLexemes r xs).subset (List.mem_map_of_mem hh)
  obtain ⟨x, hx, heq⟩ := List.mem_map.mp hspan
  exact ⟨x, hx, Prod.mk.inj heq⟩

/-- What comes before and after an entry that a filter keeps. -/
theorem exists_of_filter_eq_append_cons {p : Lexeme → Bool} {before after : List Lexeme}
    (h : xs.filter p = before ++ x :: after) :
    ∃ pre post, xs = pre ++ x :: post ∧ pre.filter p = before ∧ post.filter p = after := by
  obtain ⟨first, rest, rfl, hfirst, hrest⟩ := List.filter_eq_append_iff.mp h
  obtain ⟨dropped, post, rfl, hdropped, -, hpost⟩ := List.filter_eq_cons_iff.mp hrest
  refine ⟨first ++ dropped, post, by rw [List.append_assoc], ?_, hpost⟩
  rw [List.filter_append, hfirst, List.filter_eq_nil_iff.mpr hdropped, List.append_nil]

/-- What comes before a lexeme, with the comments. -/
theorem exists_scanAll {before after : List Lexeme}
    (hscan : Lexeme.scan source = before ++ x :: after) :
    ∃ pre post, Lexeme.scanAll source = pre ++ x :: post ∧
      pre.filter (!·.isComment) = before := by
  obtain ⟨pre, post, hall, hpre, -⟩ := exists_of_filter_eq_append_cons hscan
  exact ⟨pre, post, hall, hpre⟩

/-- **What is highlighted where a lexeme stands** is the lexeme, by its kind in the region there. -/
theorem mem_ofSource_iff {before after : List Lexeme}
    (hscan : Lexeme.scan source = before ++ x :: after) (hstart : h.start = x.start) :
    h ∈ ofSource source ↔
      ∃ kind, (Region.grammar.after before).kind? x = some kind ∧ ⟨kind, x.start, x.stop⟩ = h := by
  obtain ⟨pre, post, hall, rfl⟩ := exists_scanAll hscan
  have horder := Lexeme.pairwise_scanAll source
  have htext : ∀ y ∈ Lexeme.scanAll source, y.start < y.stop := by
    intro y hy
    obtain ⟨-, -, -, -, hne⟩ := Lexeme.exists_cut hy
    exact Nat.lt_add_of_pos_right (Text.size_pos hne)
  rw [hall] at horder htext
  obtain ⟨-, hpost, hpre⟩ := List.pairwise_append.mp horder
  -- Before and after the lexeme, only lexemes that begin elsewhere are highlighted.
  have hbefore : h ∉ ofLexemes .grammar pre := by
    intro hh
    obtain ⟨y, hy, hystart, -⟩ := exists_of_mem_ofLexemes hh
    have hlt := htext y (List.mem_append_left _ hy)
    have hle := hpre y hy x List.mem_cons_self
    omega
  have hafter : h ∉ ofLexemes ((Region.grammar.after pre).next x) post := by
    intro hh
    obtain ⟨y, hy, hystart, -⟩ := exists_of_mem_ofLexemes hh
    have hlt := htext x (List.mem_append_right _ List.mem_cons_self)
    have hle := (List.pairwise_cons.mp hpost).1 y hy
    omega
  rw [Region.after_filter, ofSource, hall, ofLexemes_append, ofLexemes_cons]
  simp [hbefore, hafter]

end Highlight

/-! ### Free text -/

/-- The region of host code. Highlighting knows nothing of resolvers. -/
def HostCode.region : HostCode → Highlight.Region
  | resolver | condition _ => .grammar
  | attributes depth => .attributes depth
  | dottedAttributes => .dottedAttributes
  | action => .action

namespace Spot

open Highlight (Region)

variable {r : Spot} {x : Lexeme} {xs : List Lexeme}

/-- **The region that belongs to a spot.** -/
def region (r : Spot) : Region :=
  (r.host.map HostCode.region).getD .grammar

/-- **Whether the next lexeme is free text**: text around the sections of a grammar, or the inside
of the condition of a resolver. -/
def isFree (r : Spot) (t : Option Token) : Bool :=
  match r.host with
  | none => r.place.isHost t
  | some (.condition depth) => ((HostCode.condition depth).next t).isSome
  | some _ => false

/-- **The stretches of free text**, one before each other lexeme and one at the end. -/
def freeText (r : Spot) : List Lexeme → List (List Lexeme)
  | [] => [[]]
  | x :: xs =>
    if r.isFree x.token then ((r.next x.token).freeText xs).modifyHead (x :: ·)
    else [] :: (r.next x.token).freeText xs

end Spot

namespace Highlight.Region

/-- In grammar notation, highlighting goes by the tokens that open host code. -/
theorem next_grammar (x : Lexeme) :
    grammar.next x = ((HostCode.openedBy? x.token).map HostCode.region).getD .grammar := by
  rw [next]
  cases x.token with
  | none => rfl
  | some t => cases t <;> rfl

end Highlight.Region

/-- A condition goes on, or is closed by its parenthesis. -/
theorem HostCode.next_condition (depth : Nat) (t : Option Token) :
    (∃ depth', (condition depth).next t = some (condition depth')) ∨
      t = some .rightParen ∧ (condition depth).next t = none := by
  cases t with
  | none => exact Or.inl ⟨_, rfl⟩
  | some t => cases depth <;> cases t <;> first | exact Or.inl ⟨_, rfl⟩ | exact Or.inr ⟨rfl, rfl⟩

/-- In attributes and in actions, highlighting goes by the tokens that close them. -/
theorem HostCode.next_region {c : HostCode} (hc : c.region ≠ .grammar) (x : Lexeme) :
    c.region.next x = ((c.next x.token).map HostCode.region).getD .grammar := by
  rw [Highlight.Region.next]
  cases c with
  | resolver | condition => exact absurd rfl hc
  | dottedAttributes | action =>
    cases x.token with
    | none => rfl
    | some t => cases t <;> rfl
  | attributes depth =>
    cases x.token with
    | none => cases depth <;> rfl
    | some t => cases depth <;> cases t <;> rfl

namespace Spot

open Highlight (Region)

variable {r : Spot} {x : Lexeme} {xs : List Lexeme} {t : Option Token}

/-- Free text stands where highlighting expects notation, and so does what follows it. -/
theorem region_of_isFree (h : r.isFree t = true) :
    r.region = .grammar ∧ (r.next t).region = .grammar := by
  obtain ⟨place, host⟩ := r
  cases host with
  | none =>
    have hhost : place.isHost t = true := h
    cases place <;> first | exact ⟨rfl, rfl⟩ | cases hhost
  | some c =>
    cases c with
    | condition depth =>
      rcases HostCode.next_condition depth t with ⟨depth', hnext⟩ | ⟨-, hnext⟩
      · refine ⟨rfl, ?_⟩
        rw [next_of_host, hnext]
        rfl
      · simp [isFree, hnext] at h
    | resolver | attributes | dottedAttributes | action => cases h

/-- Outside the sections, notation opens no host code. -/
theorem openedBy?_of_not_isSection (hhost : r.host = none) (hsection : ¬r.place.isSection = true)
    (hfree : r.isFree t = false) (haccepts : r.Accepts t) : HostCode.openedBy? t = none := by
  obtain ⟨place, host⟩ := r
  obtain rfl : host = none := hhost
  have hplace : place.isHost t = false := hfree
  cases place with
  | preamble | endPeriod =>
    obtain rfl := bne_eq_false_iff_eq.mp hplace
    rfl
  | name | endName =>
    obtain rfl : t = some .ident := haccepts
    rfl
  | globalCode =>
    cases hopened : Place.openedBy? t with
    | none => simp [Place.isHost, hopened] at hplace
    | some p => exact (plain_of_openedBy? hopened).1
  | names | definition | settings => exact absurd rfl hsection
  | after => cases hplace

/-- Outside host code, highlighting and reading open it at the same marks. -/
theorem region_next_of_none (hhost : r.host = none) (hfree : r.isFree x.token = false)
    (haccepts : r.Accepts x.token) : Region.grammar.next x = (r.next x.token).region := by
  rw [Region.next_grammar]
  cases hopened : HostCode.openedBy? x.token with
  | none =>
    rw [next_of_openedBy?_eq_none hhost hopened]
    rfl
  | some c =>
    have hsection : r.place.isSection = true := by
      by_contra hsection
      rw [openedBy?_of_not_isSection hhost hsection hfree haccepts] at hopened
      cases hopened
    rw [next_of_openedBy? hhost hsection hopened]
    rfl

/-- **Highlighting keeps up with reading** at each lexeme that is no free text. -/
theorem region_next (hfree : r.isFree x.token = false) (haccepts : r.Accepts x.token) :
    r.region.next x = (r.next x.token).region := by
  obtain ⟨place, host⟩ := r
  cases host with
  | none => exact region_next_of_none rfl hfree haccepts
  | some c =>
    rw [next_of_host]
    have hmarked : c.region ≠ .grammar → (⟨place, some c⟩ : Spot).region.next x =
        (⟨place, c.next x.token⟩ : Spot).region := fun hc => HostCode.next_region hc x
    -- The parentheses of a resolver are none of the marks that highlighting knows.
    have hparen : ∀ t, x.token = some t → HostCode.openedBy? (some t) = none →
        Region.grammar.next x = .grammar := by
      intro t hx ht
      rw [Region.next_grammar, hx, ht]
      rfl
    cases c with
    | attributes | dottedAttributes | action => exact hmarked (by simp [HostCode.region])
    | resolver => exact hparen _ haccepts rfl
    | condition depth =>
      rcases HostCode.next_condition depth x.token with ⟨depth', hnext⟩ | ⟨hx, hnext⟩
      · simp [isFree, hnext] at hfree
      · rw [hnext]
        exact hparen _ hx rfl

/-! ### Stretches of free text -/

/-- The stretches are **neutral**: highlighting is in grammar notation after each of them, if it was
before. -/
def Neutral (stretches : List (List Lexeme)) : Prop :=
  ∀ u ∈ stretches, Region.grammar.after u = .grammar

instance (stretches : List (List Lexeme)) : Decidable (Neutral stretches) :=
  inferInstanceAs (Decidable (∀ u ∈ stretches, Region.grammar.after u = .grammar))

theorem modifyHead_nil_append (stretches : List (List Lexeme)) :
    stretches.modifyHead ([] ++ ·) = stretches := by
  cases stretches <;> rfl

/-- A stretch that is over leaves the region as it was before. -/
theorem region_after_of_neutral {u : List Lexeme} (hu : u = [] ∨ r.region = .grammar)
    (h : Region.grammar.after u = .grammar) : r.region.after u = r.region := by
  rcases hu with rfl | hr
  · rfl
  · rw [hr, h]

/-- **Highlighting keeps up with reading if free text is neutral.** Here `u` is the free text that
has been read last, and it goes on with the lexemes that follow. -/
theorem region_after_append (u : List Lexeme) (hu : u = [] ∨ r.region = .grammar)
    (hneutral : Neutral ((r.freeText xs).modifyHead (u ++ ·)))
    (haccepts : ∀ p ∈ r.annotate xs, p.1.Accepts p.2.token) :
    (r.region.after u).after xs = (r.after xs).region := by
  induction xs generalizing r u with
  | nil => exact region_after_of_neutral hu (hneutral u (by simp [freeText]))
  | cons x xs ih =>
    have hx : r.Accepts x.token := haccepts _ List.mem_cons_self
    have hxs : ∀ p ∈ (r.next x.token).annotate xs, p.1.Accepts p.2.token :=
      fun p hp => haccepts p (List.mem_cons_of_mem _ hp)
    rw [freeText] at hneutral
    split at hneutral
    next hfree =>
      obtain ⟨hr, hnext⟩ := region_of_isFree hfree
      have hmore : Neutral (((r.next x.token).freeText xs).modifyHead ((u ++ [x]) ++ ·)) := by
        rw [List.modifyHead_modifyHead] at hneutral
        simpa [Function.comp_def] using hneutral
      have htail := ih (u ++ [x]) (Or.inr hnext) hmore hxs
      rw [hnext, Region.after_append] at htail
      rw [hr]
      exact htail
    next hfree =>
      have hover : Region.grammar.after u = .grammar := hneutral u (by simp)
      have hrest : Neutral (((r.next x.token).freeText xs).modifyHead ([] ++ ·)) := by
        rw [modifyHead_nil_append]
        exact fun v hv => hneutral v (by simp [hv])
      rw [region_after_of_neutral hu hover, Region.after_cons,
        region_next (Bool.eq_false_iff.mpr hfree) hx]
      exact ih [] (Or.inl rfl) hrest hxs

/-- **Highlighting keeps up with reading** from the start, if the free text is neutral. -/
theorem region_after (hneutral : Neutral (start.freeText xs))
    (haccepts : ∀ p ∈ start.annotate xs, p.1.Accepts p.2.token) :
    Region.grammar.after xs = (start.after xs).region := by
  refine region_after_append [] (Or.inl rfl) ?_ haccepts
  rwa [modifyHead_nil_append]

/-- Where there is notation, highlighting should expect it. -/
theorem region_of_isGrammar (h : r.isGrammar t = true) : r.region = .grammar := by
  obtain ⟨place, host⟩ := r
  cases host with
  | none => rfl
  | some c => cases c <;> first | rfl | cases h

theorem exists_of_mem_annotate {p : Spot × Lexeme} (h : p ∈ r.annotate xs) :
    ∃ before after, xs = before ++ p.2 :: after ∧ r.after before = p.1 := by
  induction xs generalizing r with
  | nil => cases h
  | cons x xs ih =>
    rcases List.mem_cons.mp h with rfl | h
    · exact ⟨[], xs, rfl, rfl⟩
    · obtain ⟨before, after, rfl, hspot⟩ := ih h
      exact ⟨x :: before, after, rfl, hspot⟩

/-- **The words of the notation stand where reading finds notation.** -/
theorem isGrammar_of_mem_words {source : Text} {before after : List Lexeme}
    (hscan : Lexeme.scan source = before ++ x :: after)
    (hx : x ∈ start.words (Lexeme.scan source)) :
    (start.after before).isGrammar x.token = true := by
  obtain ⟨⟨spot, x⟩, hp, rfl⟩ := List.mem_map.mp hx
  obtain ⟨hmem, hfilter⟩ := List.mem_filter.mp hp
  obtain ⟨before', after', hscan', rfl⟩ := exists_of_mem_annotate hmem
  -- No lexeme stands twice in a source, so that both ways to find this one are the same.
  have horder := Lexeme.pairwise_scan source
  rw [hscan] at horder
  obtain ⟨-, htail, hlt⟩ := List.pairwise_append.mp horder
  have hbefore : x ∉ before := fun h => Position.lt_irrefl _ (hlt x h x List.mem_cons_self)
  have hafter : x ∉ after := fun h => Position.lt_irrefl _ ((List.pairwise_cons.mp htail).1 x h)
  obtain ⟨rfl, -, -⟩ :=
    (List.append_cons_inj_of_notMem hbefore hafter).mp (hscan.symm.trans hscan')
  exact (Bool.and_eq_true_iff.mp hfilter).2

end Spot

namespace Highlight

variable {source : Text} {before after : List Lexeme} {x : Lexeme}

theorem keyword_mem_ofSource_iff (hscan : Lexeme.scan source = before ++ x :: after)
    (hkeyword : x.token.any Token.isKeyword = true) :
    ⟨.keyword, x.start, x.stop⟩ ∈ ofSource source ↔ Region.grammar.after before = .grammar := by
  rw [mem_ofSource_iff hscan rfl, ← Region.kind?_eq_keyword_iff hkeyword]
  constructor
  · rintro ⟨kind, hkind, heq⟩
    rw [hkind, (Highlight.mk.inj heq).1]
  · exact fun hkind => ⟨_, hkind, rfl⟩

theorem start_ne_of_mem_ofSource_iff (hscan : Lexeme.scan source = before ++ x :: after)
    (hident : x.token = some .ident) :
    (∀ h ∈ ofSource source, h.start ≠ x.start) ↔
      Region.grammar.after before = .grammar ∨ isHostKeyword x.text = false := by
  rw [← Region.kind?_eq_none_iff hident, Option.eq_none_iff_forall_ne_some]
  constructor
  · intro hnone kind hkind
    exact hnone _ ((mem_ofSource_iff hscan rfl).mpr ⟨kind, hkind, rfl⟩) rfl
  · intro hnone h hh hstart
    obtain ⟨kind, hkind, -⟩ := (mem_ofSource_iff hscan hstart).mp hh
    exact hnone kind hkind

/-- **Highlighting expects notation at the words that the parser takes**, if the free text before
them is neutral. -/
theorem region_of_mem_taken (hok : (ParseResult.ofSource source).isOk = true)
    (hscan : Lexeme.scan source = before ++ x :: after) (hx : x ∈ ParseResult.taken source)
    (hword : x.isWord = true) (hneutral : Spot.Neutral (Spot.start.freeText before)) :
    Region.grammar.after before = .grammar := by
  have haccepts : ∀ p ∈ Spot.start.annotate before, p.1.Accepts p.2.token := by
    intro p hp
    refine ParseResult.accepts_of_isOk hok p ?_
    rw [hscan, Spot.annotate_append]
    exact List.mem_append_left _ hp
  have hwords : x ∈ Spot.start.words (Lexeme.scan source) := by
    rw [← ParseResult.filter_taken hok]
    exact List.mem_filter.mpr ⟨hx, hword⟩
  rw [Spot.region_after hneutral haccepts,
    Spot.region_of_isGrammar (Spot.isGrammar_of_mem_words hscan hwords)]

/-- **How the words of a grammar are highlighted** in a source without an error. A keyword that the
parser takes is highlighted as one if and only if highlighting takes it for notation, and a name
that the parser takes is left alone unless highlighting takes it for host code and it is a keyword
there. Nothing goes wrong as long as the free text before the word is neutral. -/
theorem words_of_taken (hok : (ParseResult.ofSource source).isOk = true)
    (hscan : Lexeme.scan source = before ++ x :: after) (hx : x ∈ ParseResult.taken source) :
    (x.token.any Token.isKeyword = true →
        (⟨.keyword, x.start, x.stop⟩ ∈ ofSource source ↔
          Region.grammar.after before = .grammar)) ∧
      (x.token = some .ident →
        ((∀ h ∈ ofSource source, h.start ≠ x.start) ↔
          Region.grammar.after before = .grammar ∨ isHostKeyword x.text = false)) ∧
      (x.isWord = true → Spot.Neutral (Spot.start.freeText before) →
        Region.grammar.after before = .grammar) :=
  ⟨keyword_mem_ofSource_iff hscan, start_ne_of_mem_ofSource_iff hscan,
    region_of_mem_taken hok hscan hx⟩

/-- Angle brackets in all three kinds of free text, each with its counterpart: the keyword at the
end is highlighted, and the name of a production that the host language reserves is not. -/
theorem words_of_taken_brackets :
    let source :=
      "List<int> COMPILER A Set<int> s; PRODUCTIONS A = IF (g<int>(s)) int . END A.".toList
    let lexemes := Lexeme.scan source
    (ParseResult.ofSource source).isOk = true ∧
      Spot.Neutral (Spot.start.freeText (lexemes.take 27)) ∧
      ⟨.keyword, 70, 73⟩ ∈ ofSource source ∧ ∀ h ∈ ofSource source, h.start ≠ 64 := by
  intro source lexemes
  have hok : (ParseResult.ofSource source).isOk = true := by decide +kernel
  have hneutral : Spot.Neutral (Spot.start.freeText (lexemes.take 27)) := by decide +kernel
  refine ⟨hok, hneutral, ?_, ?_⟩
  · have hscan : lexemes = lexemes.take 27 ++ ⟨some .endKw, 70, "END".toList, ⟨1, 71⟩⟩ ::
        lexemes.drop 28 := by decide +kernel
    obtain ⟨hkeyword, -, hregion⟩ := words_of_taken hok hscan (by decide +kernel)
    exact (hkeyword rfl).mpr (hregion rfl hneutral)
  · have hscan : lexemes = lexemes.take 25 ++ ⟨some .ident, 64, "int".toList, ⟨1, 65⟩⟩ ::
        lexemes.drop 26 := by decide +kernel
    obtain ⟨-, hname, hregion⟩ := words_of_taken hok hscan (by decide +kernel)
    exact (hname rfl).mpr (Or.inl (hregion rfl (by decide +kernel)))

/-- **A comparison in a condition loses the notation.** The source has no error and the parser takes
the keyword at its end, but highlighting takes the `<` for the beginning of attributes that never
end. -/
theorem keyword_lost_after_comparison :
    let source := "COMPILER A PRODUCTIONS A = IF (a < b) \"x\" . END A.".toList
    let keyword : Lexeme := ⟨some .endKw, 44, "END".toList, ⟨1, 45⟩⟩
    (ParseResult.ofSource source).isOk = true ∧ keyword ∈ ParseResult.taken source ∧
      ∀ h ∈ ofSource source, h.start ≠ keyword.start := by
  decide +kernel

end Highlight

end GrammarWorkbench
