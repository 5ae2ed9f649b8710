import GrammarWorkbench.Lexeme.Basic
import GrammarWorkbench.Parse.Goal
import Mathlib.Data.List.Basic

/-!
# Which lexemes belong to the grammar

A grammar holds code of another language: text before and after it, global code, attributes,
semantic actions and the conditions of resolvers. There, names and brackets mean nothing to the
grammar. Which lexemes are host code, which names are declared and which are used can be told by
**reading from left to right**, without parsing: it is enough to know in which section one is,
whether a name is still to be declared there, and in which piece of host code one is, if in any.

`GrammarWorkbench.Spot` is this knowledge and `GrammarWorkbench.Spot.next` changes it with each
lexeme. `GrammarWorkbench.Spot.annotate` pairs each lexeme with the spot before it. The text is
trusted to be a grammar: reading finds no errors.
-/

namespace GrammarWorkbench

/-! ### Places of a grammar -/

/-- The places of a grammar that reading tells apart. -/
inductive Place where
  /-- Before the grammar. -/
  | preamble
  /-- Before the name of the grammar. -/
  | name
  /-- After the name of the grammar. -/
  | globalCode
  /-- In a section, where the next name is declared. -/
  | names (kind : DeclarationKind)
  /-- In a section, to the right of a declared name and the sign after it. -/
  | definition (kind : DeclarationKind)
  /-- In a section that declares nothing. -/
  | settings
  /-- Before the name at the end of the grammar. -/
  | endName
  /-- Before the period at the end of the grammar. -/
  | endPeriod
  /-- After the grammar. -/
  | after
deriving DecidableEq, Repr

namespace Place

/-- Inside a section. -/
def isSection : Place → Bool
  | names _ | definition _ | settings => true
  | _ => false

/-- Inside a section, where names are used. -/
def isBody : Place → Bool
  | definition _ | settings => true
  | _ => false

theorem isSection_of_isBody {p : Place} (h : p.isBody = true) : p.isSection = true := by
  cases p <;> first | rfl | cases h

/-- The place after the keyword of a section. -/
def openedBy? : Option Token → Option Place
  | some .charactersKw => some (names .charSet)
  | some .tokensKw | some .pragmasKw => some (names .token)
  | some .productionsKw => some (names .production)
  | some .ignoreCaseKw | some .commentsKw | some .ignoreKw => some settings
  | _ => none

/-- The sections begin with the tokens that end the global code. -/
theorem openedBy?_eq_none {t : Option Token} (h : ¬t.any Token.startsSection = true) :
    openedBy? t = none := by
  unfold openedBy?
  split <;> first | rfl | exact absurd rfl h

/-- The place after one more lexeme of the grammar. -/
def next : Place → Option Token → Place
  | preamble, t => if t = some .compilerKw then name else preamble
  | name, _ => globalCode
  | definition kind, t => if t = some .period then names kind else definition kind
  | names kind, t =>
    if t = some .equal then definition kind
    else if t = some .endKw then endName
    else (openedBy? t).getD (names kind)
  | globalCode, t => (openedBy? t).getD globalCode
  | settings, t => (openedBy? t).getD settings
  | endName, _ => endPeriod
  | endPeriod, _ => after
  | after, _ => after

/-- Whether a lexeme is host code because of the place alone. -/
def isHost : Place → Option Token → Bool
  | preamble, t => t != some .compilerKw
  | globalCode, t => (openedBy? t).isNone
  | endPeriod, t => t != some .period
  | after, _ => true
  | _, _ => false

end Place

/-- What a name is in a grammar. -/
inductive Naming where
  | declaration (kind : DeclarationKind)
  | reference
deriving DecidableEq, Repr

/-- What a lexeme names at a place. In the sections of tokens, literals are declared like names. -/
def Place.naming? : Place → Option Token → Option Naming
  | name, some .ident => some (.declaration .grammar)
  | names .token, some .string | names .token, some .char => some (.declaration .token)
  | names kind, some .ident => some (.declaration kind)
  | definition _, some .ident | settings, some .ident | endName, some .ident => some .reference
  | _, _ => none

/-- Only names and literals name something. -/
theorem Place.naming?_eq_none (p : Place) {t : Option Token} (h : t.any Token.isSymbol = false) :
    p.naming? t = none := by
  unfold naming?
  split <;> first | rfl | cases h

/-- A name that belongs to the grammar is declared or used. -/
theorem Place.isSome_naming?_of_isHost {p : Place} (h : p.isHost (some .ident) = false) :
    (p.naming? (some .ident)).isSome = true := by
  cases p with
  | names kind => cases kind <;> rfl
  | preamble | globalCode | endPeriod | after => cases h
  | _ => rfl

/-- **What else is named** is a literal in a section of tokens. -/
theorem Place.naming?_of_ne_ident {p : Place} {t : Option Token} (ht : t ≠ some .ident) :
    p.naming? t = if (t = some .string ∨ t = some .char) ∧ p = .names .token then
      some (.declaration .token) else none := by
  by_cases h : (t = some .string ∨ t = some .char) ∧ p = .names .token
  · obtain ⟨rfl | rfl, rfl⟩ := h <;> rfl
  · rw [if_neg h]
    unfold naming?
    split <;> simp_all

/-! ### Host code inside a section -/

/-- Host code inside a section. -/
inductive HostCode where
  /-- Between the keyword of a resolver and its parenthesis. -/
  | resolver
  /-- In the condition of a resolver, inside so many further parentheses. -/
  | condition (depth : Nat)
  /-- In attributes, inside so many further angle brackets. -/
  | attributes (depth : Nat)
  | dottedAttributes
  | action
deriving DecidableEq, Repr

namespace HostCode

/-- The host code that a token opens. -/
def openedBy? : Option Token → Option HostCode
  | some .ifKw => some resolver
  | some .less => some (attributes 0)
  | some .lessPeriod => some dottedAttributes
  | some .parenPeriod => some action
  | _ => none

/-- The host code after one more lexeme, if it goes on. -/
def next : HostCode → Option Token → Option HostCode
  | resolver, _ => some (condition 0)
  | condition depth, some .leftParen => some (condition (depth + 1))
  | condition 0, some .rightParen => none
  | condition (depth + 1), some .rightParen => some (condition depth)
  | attributes depth, some .less => some (attributes (depth + 1))
  | attributes 0, some .greater => none
  | attributes (depth + 1), some .greater => some (attributes depth)
  | dottedAttributes, some .periodGreater => none
  | action, some .periodParen => none
  | c, _ => some c

end HostCode

/-! ### Spots -/

/-- What a token does to the open brackets, where it is a bracket of the grammar. -/
def Token.braceEvent? : Token → Option BraceEvent
  | .leftParen => some (.opened .paren)
  | .leftBracket => some (.opened .bracket)
  | .leftBrace => some (.opened .brace)
  | .rightParen => some (.closed .paren)
  | .rightBracket => some (.closed .bracket)
  | .rightBrace => some (.closed .brace)
  | _ => none

/-- What is known of a grammar that has been read up to some lexeme. -/
structure Spot where
  place : Place := .preamble
  /-- The host code that has been opened inside a section. -/
  host : Option HostCode := none
deriving DecidableEq, Repr

namespace Spot

/-- Before the first lexeme. -/
def start : Spot := ⟨.preamble, none⟩

/-- The host code that the next lexeme opens. -/
def opened? (r : Spot) (t : Option Token) : Option HostCode :=
  if r.place.isSection then HostCode.openedBy? t else none

/-- **One more lexeme.** -/
def next (r : Spot) (t : Option Token) : Spot :=
  match r.host with
  | some c => { r with host := c.next t }
  | none =>
    match r.opened? t with
    | some c => { r with host := some c }
    | none => { r with place := r.place.next t }

/-- **Whether the next lexeme is host code.** The marks around a piece of host code belong to it. -/
def isHost (r : Spot) (t : Option Token) : Bool :=
  r.host.isSome || (r.opened? t).isSome || r.place.isHost t

/-- **Whether the next lexeme is part of the notation of the grammar**, and neither text around the
grammar nor host code. The tokens that open host code are part of the notation, and so is the
parenthesis of a resolver. -/
def isGrammar (r : Spot) (t : Option Token) : Bool :=
  match r.host with
  | none => !r.place.isHost t
  | some .resolver => true
  | some _ => false

/-- What the next lexeme names, outside host code. -/
def naming? (r : Spot) (t : Option Token) : Option Naming :=
  if r.isHost t then none else r.place.naming? t

/-- What the next lexeme does to the open brackets, outside host code. -/
def event? (r : Spot) (t : Option Token) : Option BraceEvent :=
  if r.isHost t then none else t.bind Token.braceEvent?

/-- The spot after some lexemes. -/
def after (r : Spot) (xs : List Lexeme) : Spot :=
  xs.foldl (fun r x => r.next x.token) r

/-- **Each lexeme with the spot before it.** -/
def annotate (r : Spot) : List Lexeme → List (Spot × Lexeme)
  | [] => []
  | x :: xs => (r, x) :: annotate (r.next x.token) xs

variable {r : Spot} {xs ys : List Lexeme} {x : Lexeme} {t : Option Token}

theorem after_concat : r.after (xs ++ [x]) = (r.after xs).next x.token := by
  simp [after]

theorem annotate_append : r.annotate (xs ++ ys) = r.annotate xs ++ (r.after xs).annotate ys := by
  induction xs generalizing r with
  | nil => rfl
  | cons x xs ih => rw [List.cons_append, annotate, annotate, ih, List.cons_append, after, after,
      List.foldl_cons]

theorem annotate_concat : r.annotate (xs ++ [x]) = r.annotate xs ++ [(r.after xs, x)] :=
  annotate_append

theorem map_snd_annotate (r : Spot) (xs : List Lexeme) :
    (r.annotate xs).map Prod.snd = xs := by
  induction xs generalizing r with
  | nil => rfl
  | cons x xs ih => rw [annotate, List.map_cons, ih]

theorem pairwise_annotate (h : xs.Pairwise fun x y => x.position < y.position) :
    (r.annotate xs).Pairwise fun p q => p.2.position < q.2.position := by
  rw [← map_snd_annotate r xs, List.pairwise_map] at h
  exact h

/-- In host code, the place does not change. -/
theorem next_of_host (place : Place) (c : HostCode) (t : Option Token) :
    (⟨place, some c⟩ : Spot).next t = ⟨place, c.next t⟩ := rfl

/-- Outside host code, and not at a token that opens it, only the place changes. -/
theorem next_of_openedBy?_eq_none (hhost : r.host = none) (ht : HostCode.openedBy? t = none) :
    r.next t = ⟨r.place.next t, none⟩ := by
  simp [next, opened?, hhost, ht]

/-- In a section, a token that opens host code leaves the place as it is. -/
theorem next_of_openedBy? {c : HostCode} (hhost : r.host = none)
    (hsection : r.place.isSection = true) (ht : HostCode.openedBy? t = some c) :
    r.next t = ⟨r.place, some c⟩ := by
  simp [next, opened?, hhost, hsection, ht]

/-- In a section, only the tokens that open host code belong to it. -/
theorem isHost_of_isSection (hhost : r.host = none) (hsection : r.place.isSection = true) :
    r.isHost t = (HostCode.openedBy? t).isSome := by
  obtain ⟨place, host⟩ := r
  obtain rfl : host = none := hhost
  cases place <;> simp [Place.isSection] at hsection <;>
    simp [isHost, opened?, Place.isSection, Place.isHost]

theorem event?_of_isSection (hhost : r.host = none) (hsection : r.place.isSection = true)
    (ht : HostCode.openedBy? t = none) : r.event? t = t.bind Token.braceEvent? := by
  simp [event?, isHost_of_isSection hhost hsection, ht]

theorem naming?_of_isSection (hhost : r.host = none) (hsection : r.place.isSection = true)
    (ht : HostCode.openedBy? t = none) : r.naming? t = r.place.naming? t := by
  simp [naming?, isHost_of_isSection hhost hsection, ht]

/-- The token that opens host code belongs to it. -/
theorem isHost_of_openedBy? (hhost : r.host = none) (hsection : r.place.isSection = true)
    (ht : (HostCode.openedBy? t).isSome = true) : r.isHost t = true :=
  (isHost_of_isSection hhost hsection).trans ht

theorem isHost_of_isSome (hhost : r.host.isSome = true) : r.isHost t = true := by
  simp [isHost, hhost]

/-- In a section, all but host code is notation. -/
theorem isGrammar_of_isSection (hhost : r.host = none) (hsection : r.place.isSection = true) :
    r.isGrammar t = true := by
  obtain ⟨place, host⟩ := r
  obtain rfl : host = none := hhost
  cases place <;> first | rfl | cases hsection

theorem isHost_preamble (ht : t ≠ some .compilerKw) :
    (⟨.preamble, none⟩ : Spot).isHost t = true := by
  simp [isHost, Place.isHost, ht]

theorem isHost_globalCode (ht : Place.openedBy? t = none) :
    (⟨.globalCode, none⟩ : Spot).isHost t = true := by
  simp [isHost, Place.isHost, ht]

/-- Host code has no brackets of the grammar. -/
theorem event?_of_isHost (h : r.isHost t = true) : r.event? t = none := by
  simp [event?, h]

/-- Host code has no names of the grammar. -/
theorem naming?_of_isHost (h : r.isHost t = true) : r.naming? t = none := by
  simp [naming?, h]

/-- In the body of a section, a token changes the spot only if it ends a definition, opens a section
or opens host code. -/
theorem next_of_isBody (hhost : r.host = none) (hbody : r.place.isBody = true)
    (hperiod : t ≠ some .period) (hsection : Place.openedBy? t = none)
    (ht : HostCode.openedBy? t = none) : r.next t = r := by
  obtain ⟨place, host⟩ := r
  obtain rfl : host = none := hhost
  rw [next_of_openedBy?_eq_none rfl ht]
  cases place <;> simp [Place.isBody] at hbody <;> simp [Place.next, hperiod, hsection]

/-- In the body of a section, names are used. -/
theorem naming?_of_isBody (hhost : r.host = none) (hbody : r.place.isBody = true) :
    r.naming? t = if t = some .ident then some .reference else none := by
  have hsection := Place.isSection_of_isBody hbody
  cases hopened : HostCode.openedBy? t with
  | some c =>
    have hident : t ≠ some .ident := by
      rintro rfl
      cases hopened
    have hhost' : r.isHost t = true := isHost_of_openedBy? hhost hsection (hopened ▸ rfl)
    rw [naming?_of_isHost hhost', if_neg hident]
  | none =>
    rw [naming?_of_isSection hhost hsection hopened]
    cases hp : r.place <;> simp [hp, Place.isBody] at hbody <;>
      unfold Place.naming? <;> split <;> simp_all

/-- Once the grammar is over, it stays over. -/
theorem next_after (t : Option Token) : (⟨.after, none⟩ : Spot).next t = ⟨.after, none⟩ := rfl

/-- Once the grammar is over, all is host code. -/
theorem isHost_of_mem_annotate_after {p : Spot × Lexeme}
    (hp : p ∈ (⟨.after, none⟩ : Spot).annotate xs) : p.1.isHost p.2.token = true := by
  induction xs with
  | nil => simp [annotate] at hp
  | cons x xs ih =>
    rw [annotate, next_after] at hp
    rcases List.mem_cons.mp hp with rfl | hp
    · rfl
    · exact ih hp

/-! ### The brackets and the names of a text -/

/-- A name outside host code. -/
def isName (r : Spot) (t : Option Token) : Bool :=
  t = some .ident && !r.isHost t

/-- A literal that is declared in a section of tokens, outside host code. -/
def isLiteralName (r : Spot) (t : Option Token) : Bool :=
  (t = some .string || t = some .char) && r.place = .names .token && !r.isHost t

/-- **Every name outside host code is declared or used.** -/
theorem isName_eq (r : Spot) (t : Option Token) :
    r.isName t = (t = some .ident && (r.naming? t).isSome) := by
  by_cases ht : t = some .ident
  · subst ht
    cases h : r.isHost (some .ident) with
    | true => simp [isName, naming?, h]
    | false =>
      have hplace : r.place.isHost (some .ident) = false := by
        simp only [isHost, Bool.or_eq_false_iff] at h
        exact h.2
      simp [isName, naming?, h, Place.isSome_naming?_of_isHost hplace]
  · simp [isName, ht]

/-- **What else is named** is a literal in a section of tokens. -/
theorem isLiteralName_eq (r : Spot) (t : Option Token) :
    r.isLiteralName t = (t ≠ some .ident && (r.naming? t).isSome) := by
  by_cases ht : t = some .ident
  · simp [isLiteralName, ht]
  · cases h : r.isHost t with
    | true => simp [isLiteralName, naming?, h]
    | false =>
      rw [naming?, h, if_neg Bool.false_ne_true, Place.naming?_of_ne_ident ht]
      by_cases hliteral : (t = some .string ∨ t = some .char) ∧ r.place = .names .token
      · rw [if_pos hliteral]
        simpa [isLiteralName, h, ht] using hliteral
      · rw [if_neg hliteral]
        simpa [isLiteralName, h] using hliteral

end Spot

/-- A bracket of the grammar: what it does to the open brackets, and where. -/
structure Mark where
  event : BraceEvent
  position : Position
deriving DecidableEq, Repr

namespace Lexeme

/-- **The brackets of the grammar** among some lexemes. -/
def marks (xs : List Lexeme) : List Mark :=
  (Spot.start.annotate xs).filterMap fun p => (p.1.event? p.2.token).map (⟨·, p.2.position⟩)

/-- **The names of the grammar** among some lexemes, declared and used. -/
def named (xs : List Lexeme) : List (Naming × Lexeme) :=
  (Spot.start.annotate xs).filterMap fun p => (p.1.naming? p.2.token).map (·, p.2)

theorem marks_concat (xs : List Lexeme) (x : Lexeme) :
    marks (xs ++ [x]) =
      marks xs ++ (((Spot.start.after xs).event? x.token).map (⟨·, x.position⟩)).toList := by
  rw [marks, Spot.annotate_concat, List.filterMap_append, List.filterMap_cons]
  cases (Spot.start.after xs).event? x.token <;> rfl

theorem named_concat (xs : List Lexeme) (x : Lexeme) :
    named (xs ++ [x]) =
      named xs ++ (((Spot.start.after xs).naming? x.token).map (·, x)).toList := by
  rw [named, Spot.annotate_concat, List.filterMap_append, List.filterMap_cons]
  cases (Spot.start.after xs).naming? x.token <;> rfl

section Named

variable {xs ys : List Lexeme}

/-- What is named is a name or a literal. -/
theorem mem_of_mem_named {p : Naming × Lexeme} (hp : p ∈ named xs) :
    p.2 ∈ xs ∧ p.2.token.any Token.isSymbol = true := by
  obtain ⟨⟨r, x⟩, hmem, hx⟩ := List.mem_filterMap.mp hp
  obtain ⟨naming, hnaming, rfl⟩ := Option.map_eq_some_iff.mp hx
  refine ⟨?_, ?_⟩
  · rw [← Spot.map_snd_annotate .start xs]
    exact List.mem_map_of_mem hmem
  · by_contra hsymbol
    have hnone := Place.naming?_eq_none r.place (eq_false_of_ne_true hsymbol)
    simp [Spot.naming?, hnone] at hnaming

/-- What is named and is no name is declared as a token. -/
theorem naming_of_mem_named {p : Naming × Lexeme} (hp : p ∈ named xs)
    (hne : p.2.token ≠ some .ident) : p.1 = .declaration .token := by
  obtain ⟨⟨r, x⟩, -, hx⟩ := List.mem_filterMap.mp hp
  obtain ⟨naming, hnaming, rfl⟩ := Option.map_eq_some_iff.mp hx
  simp only [Spot.naming?, Place.naming?_of_ne_ident hne] at hnaming
  split at hnaming
  · cases hnaming
  · split at hnaming <;> cases hnaming
    rfl

/-- The names of the grammar stand in the order of their lexemes. -/
theorem pairwise_named (h : xs.Pairwise fun x y => x.position < y.position) :
    (named xs).Pairwise fun p q => p.2.position < q.2.position := by
  rw [named, List.pairwise_filterMap]
  refine (Spot.pairwise_annotate h).imp ?_
  intro p q hlt p' hp' q' hq'
  obtain ⟨-, -, rfl⟩ := Option.map_eq_some_iff.mp hp'
  obtain ⟨-, -, rfl⟩ := Option.map_eq_some_iff.mp hq'
  exact hlt

/-- Once the grammar is over, nothing is named. -/
theorem named_append_of_after (h : Spot.start.after xs = ⟨.after, none⟩) :
    named (xs ++ ys) = named xs := by
  have hnone : ((⟨.after, none⟩ : Spot).annotate ys).filterMap
      (fun p => (p.1.naming? p.2.token).map (·, p.2)) = [] := by
    rw [List.filterMap_eq_nil_iff]
    intro p hp
    rw [Spot.naming?_of_isHost (Spot.isHost_of_mem_annotate_after hp)]
    rfl
  rw [named, Spot.annotate_append, List.filterMap_append, h, hnone, List.append_nil]
  rfl

/-- The names with some token, read off the lexemes with the spots before them. -/
theorem map_filter_named {α : Type} (f : Lexeme → α) {p : Option Token → Bool}
    {q : Spot → Option Token → Bool} (hq : ∀ r t, q r t = (p t && (r.naming? t).isSome)) :
    ((named xs).filter fun n => p n.2.token).map (fun n => f n.2) =
      ((Spot.start.annotate xs).filter fun n => q n.1 n.2.token).map (fun n => f n.2) := by
  rw [named, List.filter_filterMap, List.map_filterMap, ← List.filterMap_eq_map,
    List.filterMap_filter]
  refine List.filterMap_congr ?_
  rintro ⟨r, x⟩ -
  rw [hq]
  cases r.naming? x.token with
  | none => simp
  | some naming => cases h : p x.token <;> simp [h]

end Named

end Lexeme

namespace Spot

variable {r : Spot} {t : Option Token}

/-! ### Between the sections -/

/-- Outside host code and in no definition, so that the next section may begin. -/
def isOpen (r : Spot) : Bool :=
  r.host.isNone &&
    match r.place with
    | .globalCode | .names _ | .settings => true
    | _ => false

/-- The keyword of a section is no more than that. -/
theorem plain_of_openedBy? {p : Place} (h : Place.openedBy? t = some p) :
    HostCode.openedBy? t = none ∧ t.bind Token.braceEvent? = none ∧ t ≠ some .equal ∧
      t ≠ some .endKw ∧ ∀ q : Place, q.naming? t = none := by
  unfold Place.openedBy? at h
  split at h <;> cases h <;>
    exact ⟨rfl, rfl, by decide, by decide, fun q => by cases q <;> simp [Place.naming?]⟩

/-- **At the keyword of a section it does not matter what comes before the section.** -/
theorem keyword_of_isOpen {p : Place} (hr : r.isOpen = true) (ht : Place.openedBy? t = some p) :
    r.next t = ⟨p, none⟩ ∧ r.event? t = none ∧ r.naming? t = none := by
  obtain ⟨hopened, hevent, hequal, hend, hnaming⟩ := plain_of_openedBy? ht
  obtain ⟨hhost, hplace⟩ : r.host = none ∧ r.place.next t = p := by
    obtain ⟨place, host⟩ := r
    cases host with
    | some c => simp [isOpen] at hr
    | none => cases place <;> simp [isOpen] at hr <;> simp [Place.next, ht, hequal, hend]
  refine ⟨?_, ?_, ?_⟩
  · rw [next_of_openedBy?_eq_none hhost hopened, hplace]
  · rw [event?, hevent, ite_self]
  · rw [naming?, hnaming, ite_self]

/-- The keyword of a section is part of the notation. -/
theorem isGrammar_of_isOpen {p : Place} (hr : r.isOpen = true)
    (ht : Place.openedBy? t = some p) : r.isGrammar t = true := by
  obtain ⟨place, host⟩ := r
  cases host with
  | some c => cases hr
  | none => cases place <;> first | (cases hr; done) | simp [isGrammar, Place.isHost, ht]

end Spot

end GrammarWorkbench
