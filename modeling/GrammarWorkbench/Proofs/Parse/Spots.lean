import GrammarWorkbench.Proofs.Lexeme.Spots
import GrammarWorkbench.Proofs.Parse.Clean
import Mathlib.Tactic.MkIffOfInductiveProp

/-!
# Parsing agrees with reading

As long as there is no error, what a parse does with a lexeme is what can be read off the text
before it (`GrammarWorkbench.Spot`): it skips what reading takes for host code, it announces the
names that reading finds, and it announces a bracket as opened or closed where reading finds a
bracket of the grammar.

The goals of a parse know where it is. `GrammarWorkbench.Goal.spot` is the spot that they describe:
the first goal tells the host code, and the place is found by going through the goals up to one that
belongs to a single place. This works because every goal stands before goals of the right kind
(`GrammarWorkbench.Goal.Joined`).

**Between two sections** the goals know more than reading does. A parse drops the goals of the
sections that are not there, while reading is still at the end of the last section. The next lexeme
is the keyword of a section, and there the difference ends
(`GrammarWorkbench.Spot.keyword_of_isOpen`).
-/

namespace GrammarWorkbench

/-- What the next lexeme names at a checkpoint. -/
def Checkpoint.naming? (c : Checkpoint) : Option Naming :=
  match c.declaration? with
  | some kind => some (.declaration kind)
  | none => if c.isReference then some .reference else none

namespace Goal

variable {g : Goal} {gs next : List Goal} {t : Option Token} {c : Checkpoint}

/-! ### The spot that the goals describe -/

/-- The place before a required token, where `p` is the place after it. -/
def requiredAt (t : Token) (p : Place) : Place :=
  match t, p with
  | .compilerKw, _ => .preamble
  | .endKw, _ => .names .production
  | .ident, _ => .endName
  | .equal, .definition kind => .names kind
  | .period, .names kind => .definition kind
  | .period, .after => .endPeriod
  | _, p => p

/-- The place before a goal, where `p` is the place after it. -/
def placeBefore (g : Goal) (p : Place) : Place :=
  match g with
  | require t => requiredAt t p
  | request _ => .name
  | preamble => .preamble
  | globalCode => .globalCode
  | ignoreCaseOption | charactersOption | tokensOption _ | commentDeclarations | ignoreSets
  | productionsStart | productionsOption => .settings
  | charSets => .names .charSet
  | tokenDeclarations _ => .names .token
  | productions => .names .production
  | _ => p

/-- The place before some goals. -/
def place : List Goal → Place
  | [] => .after
  | g :: gs => g.placeBefore (place gs)

/-- The host code that a goal reads. -/
def code? : Goal → Option HostCode
  | condition depth => some (.condition depth)
  | attributes depth => some (.attributes depth)
  | dottedAttributes => some .dottedAttributes
  | action => some .action
  | _ => none

/-- The host code before some goals. -/
def host : List Goal → Option HostCode
  | announce _ :: gs => host gs
  | require .leftParen :: announce .resolverCondition :: _ => some .resolver
  | g :: _ => g.code?
  | [] => none

/-- **The spot that the goals describe.** -/
def spot (gs : List Goal) : Spot := ⟨place gs, host gs⟩

/-- What is announced next about brackets. -/
def event? : List Goal → Option BraceEvent
  | announce c :: _ => c.braceEvent?
  | _ => none

/-- What has been announced of the next lexeme: the two names of a grammar are announced apart from
their tokens. -/
def awaited? : List Goal → Option Naming
  | request _ :: _ => some (.declaration .grammar)
  | require .ident :: _ => some .reference
  | _ => none

/-- A goal for a section that may be absent. -/
def isBetween : Goal → Bool
  | ignoreCaseOption | charactersOption | tokensOption _ | commentDeclarations | ignoreSets
  | productionsStart | productionsOption => true
  | _ => false

/-! ### Goals that stand together -/

/-- Goals before which there is no host code, and before which nothing has just been seen. -/
@[mk_iff]
structure Quiet (gs : List Goal) : Prop where
  host : host gs = none
  event : event? gs = none
  awaited : awaited? gs = none
  start : gs.head? ≠ some productionsOption

/-- **A token is required where it belongs**: it is part of the notation, and what it does to the
spot, to the brackets and to the names is what the goals after it and before it know. -/
@[mk_iff]
structure Required (t : Token) (gs : List Goal) : Prop where
  grammar : (spot (require t :: gs)).isGrammar (some t) = true
  spot : spot gs = (spot (require t :: gs)).next (some t)
  event : event? gs = (Goal.spot (require t :: gs)).event? (some t)
  naming : awaited? (require t :: gs) = (Goal.spot (require t :: gs)).naming? (some t)
  awaited : awaited? gs = none
  start : gs.head? ≠ some productionsOption

/-- What a goal asks of the goals after it. -/
def Joins (g : Goal) (gs : List Goal) : Prop :=
  match g with
  | announce c => awaited? gs = c.naming? ∧ event? gs = none ∧ gs.head? ≠ some productionsOption
  | require t => Required t gs
  | request t => t = .ident ∧ place gs = .globalCode ∧ Quiet gs
  | preamble => place gs = .preamble ∧ Quiet gs
  | globalCode | ignoreCaseOption | charactersOption | tokensOption _ | commentDeclarations
  | ignoreSets | charSets | tokenDeclarations _ => gs.head?.any isBetween = true ∧ Quiet gs
  | productionsStart => gs.head? = some productionsOption
  | productionsOption | productions => place gs = .names .production ∧ Quiet gs
  | definitionOption => place gs = .names .token ∧ Quiet gs
  | attributesOption after =>
    after.braceEvent? = none ∧ after.naming? = none ∧ (place gs).isSection = true ∧ Quiet gs
  | attributes _ | dottedAttributes | actionOption | action | condition _ | boundary =>
    (place gs).isSection = true ∧ Quiet gs
  | recovery => False
  | _ => (place gs).isBody = true ∧ Quiet gs

/-- **Every goal gets what it asks of the goals after it.** -/
def Joined : List Goal → Prop
  | [] => True
  | g :: gs => g.Joins gs ∧ Joined gs

theorem joined_grammar : Joined grammar := by
  simp [grammar, Joined, Joins, spot, place, placeBefore, requiredAt, host, code?, event?, awaited?,
    isBetween, quiet_iff, required_iff, Checkpoint.naming?, Checkpoint.declaration?,
    Checkpoint.isReference, Checkpoint.braceEvent?, Spot.next, Spot.event?, Spot.naming?,
    Spot.opened?, Spot.isHost, Spot.isGrammar, Place.isSection, Place.next, Place.isHost,
    Place.naming?, HostCode.openedBy?, Token.braceEvent?]

/-! ### Goals inside a section -/

/-- **The goals stand in a section**, outside host code. -/
structure InSection (gs : List Goal) : Prop extends Quiet gs where
  isSection : (place gs).isSection = true
  joined : Joined gs

/-- **The goals stand in the body of a section**, outside host code. -/
structure InBody (gs : List Goal) : Prop extends InSection gs where
  isBody : (place gs).isBody = true

/-- The goals that stand in the body of a section only. -/
def isBody : Goal → Bool
  | simpleSet | setOperations | rangeOption | nestedOption | tokenFactor | tokenFactors
  | contextOption | tokenAlternatives | resolverOption | factors | alternatives | symbol => true
  | _ => false

/-- A goal that neither tells a place nor is host code, and announces no name and no bracket. -/
def isInner : Goal → Bool
  | announce c | attributesOption c => c.braceEvent?.isNone && c.naming?.isNone
  | require .char | require .fromKw | require .toKw | actionOption | boundary => true
  | g => g.isBody

theorem inBody_of_joins (hbody : (place gs).isBody = true) (hquiet : Quiet gs)
    (hjoined : Joined gs) : InBody gs :=
  ⟨⟨hquiet, Place.isSection_of_isBody hbody, hjoined⟩, hbody⟩

/-- A checkpoint without a name and a bracket may stand anywhere in a section. -/
theorem InSection.checkpoint (h : InSection gs) (hevent : c.braceEvent? = none)
    (hnaming : c.naming? = none) : InSection (announce c :: gs) :=
  ⟨⟨h.host, hevent, rfl, by simp⟩, h.isSection,
    ⟨h.awaited.trans hnaming.symm, h.event, h.start⟩, h.joined⟩

/-- So may attributes. -/
theorem InSection.attributesOption (h : InSection gs) (hevent : c.braceEvent? = none)
    (hnaming : c.naming? = none) : InSection (attributesOption c :: gs) :=
  ⟨⟨rfl, rfl, rfl, by simp⟩, h.isSection, ⟨hevent, hnaming, h.isSection, h.toQuiet⟩, h.joined⟩

/-- So may an action. -/
theorem InSection.actionOption (h : InSection gs) : InSection (actionOption :: gs) :=
  ⟨⟨rfl, rfl, rfl, by simp⟩, h.isSection, ⟨h.isSection, h.toQuiet⟩, h.joined⟩

/-- So may the end of a declaration. -/
theorem InSection.boundary (h : InSection gs) : InSection (boundary :: gs) :=
  ⟨⟨rfl, rfl, rfl, by simp⟩, h.isSection, ⟨h.isSection, h.toQuiet⟩, h.joined⟩

/-- A period ends a definition. -/
theorem InSection.period (h : InSection gs) {kind : DeclarationKind}
    (hplace : place gs = .names kind) :
    InBody (require .period :: gs) ∧ spot (require .period :: gs) = ⟨.definition kind, none⟩ := by
  have hspot : spot (require .period :: gs) = ⟨.definition kind, none⟩ := by
    simp [spot, place, placeBefore, requiredAt, host, code?, hplace]
  have hbefore : place (require .period :: gs) = .definition kind := congrArg Spot.place hspot
  refine ⟨inBody_of_joins (hbefore ▸ rfl) ⟨rfl, rfl, rfl, by simp⟩ ⟨?_, h.joined⟩, hspot⟩
  refine ⟨hspot ▸ rfl, ?_, ?_, ?_, h.awaited, h.start⟩
  · rw [hspot, spot, hplace, h.host]
    rfl
  · rw [hspot, h.event]
    rfl
  · rw [hspot]
    rfl

/-- The sign after a declared name begins its definition. -/
theorem InBody.equal (h : InBody gs) {kind : DeclarationKind} (hplace : place gs = .definition kind) :
    InSection (require .equal :: gs) ∧ spot (require .equal :: gs) = ⟨.names kind, none⟩ := by
  have hspot : spot (require .equal :: gs) = ⟨.names kind, none⟩ := by
    simp [spot, place, placeBefore, requiredAt, host, code?, hplace]
  have hbefore : place (require .equal :: gs) = .names kind := congrArg Spot.place hspot
  have hnone : (⟨.names kind, none⟩ : Spot).naming? (some .equal) = none := by
    rw [Spot.naming?_of_isSection rfl rfl rfl]
    exact Place.naming?_eq_none _ rfl
  refine ⟨⟨⟨rfl, rfl, rfl, by simp⟩, hbefore ▸ rfl, ?_, h.joined⟩, hspot⟩
  refine ⟨hspot ▸ rfl, ?_, ?_, ?_, h.awaited, h.start⟩
  · rw [hspot, spot, hplace, h.host]
    rfl
  · rw [hspot, h.event]
    rfl
  · rw [hspot, hnone]
    rfl

/-- The tokens that are required in the body of a section and leave it as it is. -/
theorem required_of_isBody {t : Token}
    (ht : t ∈ [.char, .fromKw, .toKw, .rightParen, .rightBracket, .rightBrace])
    (hbody : (place gs).isBody = true) (hhost : host gs = none) (hevent : event? gs = t.braceEvent?)
    (hawaited : awaited? gs = none) (hstart : gs.head? ≠ some productionsOption) :
    spot (require t :: gs) = spot gs ∧ Required t gs := by
  have hsection := Place.isSection_of_isBody hbody
  simp only [List.mem_cons, List.not_mem_nil, or_false] at ht
  have hspot : spot (require t :: gs) = spot gs := by
    rcases ht with rfl | rfl | rfl | rfl | rfl | rfl <;>
      simp [spot, place, placeBefore, requiredAt, host, code?, hhost]
  obtain ⟨hperiod, hkeyword, hopened, hnaming⟩ : some t ≠ some .period ∧
      Place.openedBy? (some t) = none ∧ HostCode.openedBy? (some t) = none ∧
      (place gs).naming? (some t) = awaited? (require t :: gs) := by
    cases hp : place gs <;> simp [hp, Place.isBody] at hbody <;>
      rcases ht with rfl | rfl | rfl | rfl | rfl | rfl <;> exact ⟨by decide, rfl, rfl, rfl⟩
  refine ⟨hspot, ?_, ?_, ?_, ?_, hawaited, hstart⟩
  · rw [hspot, Spot.isGrammar_of_isSection hhost hsection]
  · rw [hspot, Spot.next_of_isBody hhost hbody hperiod hkeyword hopened]
  · rw [hspot, Spot.event?_of_isSection hhost hsection hopened]
    exact hevent
  · rw [hspot, Spot.naming?_of_isSection hhost hsection hopened]
    exact hnaming.symm

theorem InBody.cons (h : InBody gs) (hg : g.isInner = true) :
    InBody (g :: gs) ∧ spot (g :: gs) = spot gs := by
  -- All inner goals but the required tokens ask for no more than a body.
  have hkeep : spot (g :: gs) = spot gs → event? (g :: gs) = none → awaited? (g :: gs) = none →
      g ≠ productionsOption → g.Joins gs → InBody (g :: gs) ∧ spot (g :: gs) = spot gs := by
    intro hspot hevent hawaited hstart hjoins
    have hplace : place (g :: gs) = place gs := congrArg Spot.place hspot
    have hhost : host (g :: gs) = none := (congrArg Spot.host hspot).trans h.host
    refine ⟨inBody_of_joins (hplace ▸ h.isBody) ⟨hhost, hevent, hawaited, ?_⟩ ⟨hjoins, h.joined⟩,
      hspot⟩
    simpa using hstart
  have hrefl : spot gs = ⟨place gs, none⟩ := congrArg (Spot.mk (place gs)) h.host
  cases g with
  | announce c =>
    obtain ⟨hevent, hnaming⟩ : c.braceEvent? = none ∧ c.naming? = none := by
      simpa [isInner] using hg
    exact hkeep rfl hevent rfl (by simp)
      ⟨h.awaited.trans hnaming.symm, h.event, h.start⟩
  | attributesOption c =>
    obtain ⟨hevent, hnaming⟩ : c.braceEvent? = none ∧ c.naming? = none := by
      simpa [isInner] using hg
    exact hkeep hrefl.symm rfl rfl (by simp) ⟨hevent, hnaming, h.isSection, h.toQuiet⟩
  | require t =>
    have ht : t ∈ [.char, .fromKw, .toKw, .rightParen, .rightBracket, .rightBrace] ∧
        t.braceEvent? = none ∧ awaited? (.require t :: gs) = none := by
      cases t <;> first | (cases hg; done) | exact ⟨by simp, rfl, rfl⟩
    obtain ⟨hspot, hrequired⟩ :=
      required_of_isBody ht.1 h.isBody h.host (h.event.trans ht.2.1.symm) h.awaited h.start
    exact hkeep hspot rfl ht.2.2 (by simp) hrequired
  | actionOption => exact hkeep hrefl.symm rfl rfl (by simp) ⟨h.isSection, h.toQuiet⟩
  | boundary => exact hkeep hrefl.symm rfl rfl (by simp) ⟨h.isSection, h.toQuiet⟩
  | simpleSet | setOperations | rangeOption | nestedOption | tokenFactor | tokenFactors
  | contextOption | tokenAlternatives | resolverOption | factors | alternatives | symbol =>
    exact hkeep hrefl.symm rfl rfl (by simp) ⟨h.isBody, h.toQuiet⟩
  | _ => cases hg

theorem InBody.append (h : InBody gs) (next : List Goal) (hnext : next.all isInner = true) :
    InBody (next ++ gs) ∧ spot (next ++ gs) = spot gs := by
  induction next with
  | nil => exact ⟨h, rfl⟩
  | cons g next ih =>
    rw [List.all_cons, Bool.and_eq_true] at hnext
    obtain ⟨hbody, hspot⟩ := ih hnext.2
    obtain ⟨hbody', hspot'⟩ := hbody.cons hnext.1
    exact ⟨hbody', hspot'.trans hspot⟩

/-! ### Goals right after a token -/

/-- **The goals are the ones after a token** that is read at the spot `r`. -/
structure After (r : Spot) (t : Option Token) (gs : List Goal) : Prop where
  joined : Joined gs
  spot : spot gs = r.next t
  event : event? gs = r.event? t
  awaited : awaited? gs = none
  start : gs.head? ≠ some productionsOption

/-- A token that leaves the body of a section as it is. -/
def isIdle (t : Option Token) : Bool :=
  t != some .period && (Place.openedBy? t).isNone && (HostCode.openedBy? t).isNone &&
    (t.bind Token.braceEvent?).isNone

theorem InSection.after_of_next {r : Spot} (h : InSection gs) (hspot : r.next t = spot gs)
    (hevent : r.event? t = none) : After r t gs :=
  ⟨h.joined, hspot.symm, h.event.trans hevent.symm, h.awaited, h.start⟩

theorem InBody.after (h : InBody gs) (ht : isIdle t = true) (hnext : next.all isInner = true) :
    After (spot gs) t (next ++ gs) := by
  obtain ⟨hbody, hspot⟩ := h.append _ hnext
  simp only [isIdle, Bool.and_eq_true, bne_iff_ne, Option.isNone_iff_eq_none] at ht
  obtain ⟨⟨⟨hperiod, hkeyword⟩, hopened⟩, hevent⟩ := ht
  refine hbody.after_of_next ?_ ?_
  · rw [hspot, Spot.next_of_isBody h.host h.isBody hperiod hkeyword hopened]
  · rw [Spot.event?_of_isSection h.host h.isSection hopened, hevent]

/-- **A group in brackets**: it is announced right after its brackets. -/
theorem InBody.bracketed (h : InBody gs) {kind : Brace} {opened closed : Checkpoint} {t : Token}
    (ht : t.braceEvent? = some (.opened kind)) (ho : opened.braceEvent? = some (.opened kind))
    (ho' : opened.naming? = none) (hc : closed.braceEvent? = some (.closed kind))
    (hc' : closed.naming? = none) (hnext : next.all isInner = true) :
    After (spot gs) (some t)
      (announce opened :: next ++ [require kind.closer, announce closed] ++ gs) := by
  -- From the end to the beginning: after the closing bracket, inside the group, after the opening.
  have hclosed : Joined (announce closed :: gs) :=
    ⟨⟨h.awaited.trans hc'.symm, h.event, h.start⟩, h.joined⟩
  obtain ⟨hspot, hrequired⟩ : spot (require kind.closer :: announce closed :: gs) = spot gs ∧
      Required kind.closer (announce closed :: gs) := by
    refine required_of_isBody ?_ h.isBody h.host ?_ rfl (by simp)
    · cases kind <;> simp [Brace.closer]
    · rw [event?, hc]
      cases kind <;> rfl
  have hinner : InBody (require kind.closer :: announce closed :: gs) := by
    have hplace : place (require kind.closer :: announce closed :: gs) = place gs :=
      congrArg Spot.place hspot
    refine inBody_of_joins (hplace ▸ h.isBody) ⟨(congrArg Spot.host hspot).trans h.host, rfl, ?_,
      by simp⟩ ⟨hrequired, hclosed⟩
    cases kind <;> rfl
  obtain ⟨hbody, hspot'⟩ := hinner.append _ hnext
  have hopened : HostCode.openedBy? (some t) = none ∧ some t ≠ some .period ∧
      Place.openedBy? (some t) = none := by
    cases t <;> first | exact ⟨rfl, by decide, rfl⟩ | cases ht
  simp only [List.append_assoc, List.cons_append, List.nil_append]
  refine ⟨⟨⟨hbody.awaited.trans ho'.symm, hbody.event, hbody.start⟩, hbody.joined⟩, ?_, ?_, rfl,
    by simp⟩
  · rw [Spot.next_of_isBody h.host h.isBody hopened.2.1 hopened.2.2 hopened.1]
    exact hspot'.trans hspot
  · rw [Spot.event?_of_isSection h.host h.isSection hopened.1, event?, ho]
    exact ht.symm

/-- A goal that reads host code. -/
theorem InSection.inHost (h : InSection gs) {code : HostCode} (hg : g.code? = some code) :
    Joined (g :: gs) ∧ spot (g :: gs) = ⟨place gs, some code⟩ ∧ event? (g :: gs) = none ∧
      awaited? (g :: gs) = none ∧ (g :: gs).head? ≠ some productionsOption := by
  cases g <;> cases hg <;> exact ⟨⟨⟨h.isSection, h.toQuiet⟩, h.joined⟩, rfl, rfl, rfl, by simp⟩

/-- **Host code is opened.** -/
theorem InSection.after_opening (h : InSection gs) {code : HostCode} (hg : g.code? = some code)
    (ht : HostCode.openedBy? t = some code) :
    After (spot gs) t (announce .semanticText :: g :: gs) := by
  obtain ⟨hjoined, hspot, hevent, hawaited, hstart⟩ := h.inHost hg
  refine ⟨⟨⟨hawaited, hevent, hstart⟩, hjoined⟩, ?_, ?_, rfl, by simp⟩
  · rw [Spot.next_of_openedBy? h.host h.isSection ht]
    exact hspot
  · rw [Spot.event?_of_isHost (Spot.isHost_of_openedBy? h.host h.isSection (ht ▸ rfl))]
    rfl

/-- **Host code goes on.** -/
theorem InSection.after_within (h : InSection gs) {code code' : HostCode} (hg : g.code? = some code')
    (ht : code.next t = some code') : After ⟨place gs, some code⟩ t (g :: gs) := by
  obtain ⟨hjoined, hspot, hevent, hawaited, hstart⟩ := h.inHost hg
  refine ⟨hjoined, ?_, ?_, hawaited, hstart⟩
  · rw [hspot, Spot.next_of_host, ht]
  · rw [hevent, Spot.event?_of_isHost (Spot.isHost_of_isSome rfl)]

/-- **Host code is closed.** -/
theorem InSection.after_closing (h : InSection gs) {code : HostCode} (ht : code.next t = none) :
    After ⟨place gs, some code⟩ t gs := by
  refine ⟨h.joined, ?_, ?_, h.awaited, h.start⟩
  · rw [spot, h.host, Spot.next_of_host, ht]
  · rw [h.event, Spot.event?_of_isHost (Spot.isHost_of_isSome rfl)]

/-! ### The table -/

theorem after_tokenFactorMove (h : InBody gs) (hm : (tokenFactorMove t).Consumes next) :
    After (spot gs) t (next ++ gs) := by
  unfold tokenFactorMove at hm
  split at hm
  case h_1 | h_2 | h_3 =>
    obtain rfl := Move.consumes_take.mp hm
    exact h.after rfl rfl
  case h_4 | h_5 | h_6 =>
    obtain rfl := Move.consumes_take.mp hm
    exact h.bracketed rfl rfl rfl rfl rfl rfl
  all_goals simp at hm

theorem after_symbolMove (h : InBody gs) (hm : (symbolMove t).Consumes next) :
    After (spot gs) t (next ++ gs) := by
  unfold symbolMove at hm
  split at hm
  case h_1 | h_2 | h_3 =>
    obtain rfl := Move.consumes_take.mp hm
    exact h.after rfl rfl
  all_goals simp at hm

theorem after_factorMove (h : InBody gs) (hm : (factorMove t).Consumes next) :
    After (spot gs) t (next ++ gs) := by
  unfold factorMove at hm
  split at hm
  case h_2 | h_3 | h_4 =>
    obtain rfl := Move.consumes_take.mp hm
    exact h.bracketed rfl rfl rfl rfl rfl rfl
  case h_5 =>
    obtain rfl := Move.consumes_skip.mp hm
    exact (h.checkpoint rfl rfl).after_opening rfl rfl
  case h_8 => exact after_symbolMove h hm
  all_goals
    obtain rfl := Move.consumes_take.mp hm
    exact h.after rfl rfl

theorem after_simpleSetMove (h : InBody gs) (hm : (simpleSetMove t).Consumes next) :
    After (spot gs) t (next ++ gs) := by
  unfold simpleSetMove at hm
  split at hm
  case h_1 | h_2 | h_3 | h_4 =>
    obtain rfl := Move.consumes_take.mp hm
    exact h.after rfl rfl
  all_goals simp at hm

/-! Inside host code the goals and the spot count the brackets alike. -/

theorem after_attributesMove (h : InSection gs) {depth : Nat}
    (hm : (attributesMove depth t).Consumes next) :
    After ⟨place gs, some (.attributes depth)⟩ t (next ++ gs) := by
  unfold attributesMove at hm
  split at hm
  case h_1 => simp at hm
  case h_2 =>
    obtain rfl := Move.consumes_skip.mp hm
    exact h.after_within rfl rfl
  case h_3 =>
    cases depth with
    | zero =>
      obtain rfl := Move.consumes_take.mp hm
      exact h.after_closing rfl
    | succ depth =>
      obtain rfl := Move.consumes_skip.mp hm
      exact h.after_within rfl rfl
  case h_4 =>
    obtain rfl := Move.consumes_skip.mp hm
    refine h.after_within rfl ?_
    unfold HostCode.next
    split <;> simp_all

theorem after_conditionMove (h : InSection gs) {depth : Nat}
    (hm : (conditionMove depth t).Consumes next) :
    After ⟨place gs, some (.condition depth)⟩ t (next ++ gs) := by
  unfold conditionMove at hm
  split at hm
  case h_1 =>
    obtain rfl := Move.consumes_skip.mp hm
    exact h.after_within rfl rfl
  case h_2 =>
    cases depth with
    | zero =>
      obtain rfl := Move.consumes_take.mp hm
      exact h.after_closing rfl
    | succ depth =>
      obtain rfl := Move.consumes_skip.mp hm
      exact h.after_within rfl rfl
  case h_3 =>
    obtain rfl := Move.consumes_skip.mp hm
    refine h.after_within rfl ?_
    unfold HostCode.next
    split <;> simp_all

theorem after_dottedAttributes (h : InSection gs) (hm : (dottedAttributes.move t).Consumes next) :
    After ⟨place gs, some .dottedAttributes⟩ t (next ++ gs) := by
  simp only [move] at hm
  split at hm
  case h_1 => simp at hm
  case h_2 =>
    obtain rfl := Move.consumes_take.mp hm
    exact h.after_closing rfl
  case h_3 =>
    obtain rfl := Move.consumes_skip.mp hm
    refine h.after_within rfl ?_
    unfold HostCode.next
    split <;> simp_all

theorem after_action (h : InSection gs) (hm : (action.move t).Consumes next) :
    After ⟨place gs, some .action⟩ t (next ++ gs) := by
  simp only [move] at hm
  split at hm
  case h_1 =>
    obtain rfl := Move.consumes_take.mp hm
    exact h.after_closing rfl
  case h_4 =>
    obtain rfl := Move.consumes_skip.mp hm
    refine h.after_within rfl ?_
    unfold HostCode.next
    split <;> simp_all
  all_goals simp at hm

theorem after_attributesOption (h : InSection gs) (hevent : c.braceEvent? = none)
    (hnaming : c.naming? = none) (hm : ((attributesOption c).move t).Consumes next) :
    After (spot gs) t (next ++ gs) := by
  have hsection := h.checkpoint hevent hnaming
  have hspot : spot (announce c :: gs) = spot gs := rfl
  simp only [move] at hm
  split at hm
  case h_1 =>
    obtain rfl := Move.consumes_skip.mp hm
    exact hspot ▸ hsection.after_opening rfl rfl
  case h_2 =>
    obtain rfl := Move.consumes_skip.mp hm
    exact hspot ▸ hsection.after_opening rfl rfl
  case h_3 => simp at hm

theorem after_actionOption (h : InSection gs) (hm : (actionOption.move t).Consumes next) :
    After (spot gs) t (next ++ gs) := by
  simp only [move] at hm
  split at hm
  next ht =>
    obtain rfl := Move.consumes_skip.mp hm
    exact h.after_opening rfl (ht ▸ rfl)
  next => simp at hm

/-- A resolver is host code from its keyword on. -/
theorem after_resolverOption (h : InBody gs) (hm : (resolverOption.move t).Consumes next) :
    After (spot gs) t (next ++ gs) := by
  obtain ⟨rfl, rfl⟩ := consumes_optionMove.mp hm
  have hafter := h.checkpoint (c := .expressionStart) rfl rfl
  -- The first parenthesis is host code already, and no bracket of the grammar.
  have hhost : ∀ t, (⟨place gs, some .resolver⟩ : Spot).isHost t = true := fun t =>
    Spot.isHost_of_isSome rfl
  have hparen : Required .leftParen
      (announce .resolverCondition :: condition 0 :: announce .expressionStart :: gs) :=
    ⟨rfl, rfl, (Spot.event?_of_isHost (hhost _)).symm, (Spot.naming?_of_isHost (hhost _)).symm, rfl,
      by simp⟩
  refine ⟨⟨⟨rfl, rfl, by simp⟩, hparen, ⟨rfl, rfl, by simp⟩, ⟨hafter.isSection, hafter.toQuiet⟩,
    hafter.joined⟩, ?_, ?_, rfl, by simp⟩
  · rw [Spot.next_of_openedBy? h.host h.isSection rfl]
    rfl
  · rw [Spot.event?_of_isHost (Spot.isHost_of_openedBy? h.host h.isSection rfl)]
    rfl

/-- A context is a group whose bracket comes after a keyword. -/
theorem after_contextOption (h : InBody gs) (hm : (contextOption.move t).Consumes next) :
    After (spot gs) t (next ++ gs) := by
  obtain ⟨rfl, rfl⟩ := consumes_optionMove.mp hm
  obtain ⟨hjoined, hspot, hevent, hawaited, hstart⟩ :
      After (spot gs) (some .leftParen) (tokenGroup .paren ++ gs) :=
    h.bracketed rfl rfl rfl rfl rfl rfl
  have hrefl : spot (require .leftParen :: (tokenGroup .paren ++ gs)) = spot gs := by
    have hplace : place (tokenGroup .paren ++ gs) = place gs := by
      have hnext : (spot gs).next (some .leftParen) = spot gs :=
        Spot.next_of_isBody h.host h.isBody (by decide) rfl rfl
      exact congrArg Spot.place (hspot.trans hnext)
    change (⟨place (tokenGroup .paren ++ gs), none⟩ : Spot) = ⟨place gs, host gs⟩
    rw [hplace, h.host]
  have hnaming : (spot gs).naming? (some .leftParen) = none := by
    rw [Spot.naming?_of_isSection h.host h.isSection rfl]
    exact Place.naming?_eq_none _ rfl
  have hparen : Required .leftParen (tokenGroup .paren ++ gs) :=
    ⟨by rw [hrefl, Spot.isGrammar_of_isSection h.host h.isSection], by rw [hrefl, hspot],
      by rw [hrefl, hevent], by rw [hrefl, hnaming]; rfl, hawaited, hstart⟩
  refine ⟨⟨hparen, hjoined⟩, ?_, ?_, rfl, by simp⟩
  · rw [Spot.next_of_isBody h.host h.isBody (by decide) rfl rfl]
    exact hrefl
  · rw [Spot.event?_of_isSection h.host h.isSection rfl]
    rfl

/-- **What a goal consumes in the body of a section.** -/
theorem after_body (hg : g.isBody = true) (h : InBody gs) (hm : (g.move t).Consumes next) :
    After (spot gs) t (next ++ gs) := by
  cases g with
  | simpleSet => exact after_simpleSetMove h hm
  | symbol => exact after_symbolMove h hm
  | tokenFactor => exact after_tokenFactorMove h hm
  | contextOption => exact after_contextOption h hm
  | resolverOption => exact after_resolverOption h hm
  -- A loop stays behind the goals of its factor, and both stand at the same spot.
  | tokenFactors =>
    obtain ⟨h', hspot⟩ := h.cons (g := tokenFactors) rfl
    simp only [move] at hm
    split at hm
    next =>
      obtain ⟨goals, hfactor, rfl⟩ := Move.consumes_followedBy.mp hm
      rw [← hspot, List.append_assoc]
      exact after_tokenFactorMove h' hfactor
    next => simp at hm
  | factors =>
    obtain ⟨h', hspot⟩ := h.cons (g := factors) rfl
    simp only [move] at hm
    split at hm
    next =>
      obtain ⟨goals, hfactor, rfl⟩ := Move.consumes_followedBy.mp hm
      rw [← hspot, List.append_assoc]
      exact after_factorMove h' hfactor
    next => simp at hm
  | setOperations =>
    simp only [move] at hm
    split at hm
    next ht =>
      obtain rfl := Move.consumes_take.mp hm
      rcases ht with rfl | rfl <;> exact h.after rfl rfl
    next => simp at hm
  | rangeOption | nestedOption | tokenAlternatives | alternatives =>
    obtain ⟨rfl, rfl⟩ := consumes_optionMove.mp hm
    exact h.after rfl rfl
  | _ => cases hg

/-! ### Declarations and sections -/

/-- Between two sections, the goals describe a section that declares nothing. -/
theorem spot_of_isBetween (h : gs.head?.any isBetween = true) : spot gs = ⟨.settings, none⟩ := by
  cases gs with
  | nil => simp at h
  | cons g gs => cases g <;> first | rfl | simp [isBetween] at h

theorem after_charSets (h : Joined (charSets :: gs)) (hm : (charSets.move t).Consumes next) :
    After (spot (charSets :: gs)) t (next ++ gs) := by
  have hsection : InSection (charSets :: gs) := ⟨⟨rfl, rfl, rfl, by simp⟩, rfl, h⟩
  simp only [move] at hm
  split at hm
  next ht =>
    subst ht
    obtain rfl := Move.consumes_take.mp hm
    -- The goals of a declaration are built up from the last one to the first.
    have hdone := (hsection.checkpoint (c := .charactersSection) rfl rfl).boundary
    obtain ⟨hbody, hspot⟩ := hdone.period rfl
    obtain ⟨hset, hspot'⟩ := hbody.append (announce .setOperand :: set) rfl
    obtain ⟨hequal, -⟩ := hset.equal (congrArg Spot.place (hspot'.trans hspot))
    have hnext := hequal.checkpoint (c := .charSetAssign) rfl rfl
    exact hnext.after_of_next rfl rfl
  next => simp at hm

theorem after_tokenDeclarations {s : TokenSection} (h : Joined (tokenDeclarations s :: gs))
    (hm : ((tokenDeclarations s).move t).Consumes next) :
    After (spot (tokenDeclarations s :: gs)) t (next ++ gs) := by
  have hsection : InSection (tokenDeclarations s :: gs) := ⟨⟨rfl, rfl, rfl, by simp⟩, rfl, h⟩
  have hdone : InSection (actionOption :: boundary :: announce s.checkpoint ::
      tokenDeclarations s :: gs) := by
    refine (hsection.checkpoint ?_ ?_).boundary.actionOption <;> cases s <;> rfl
  have hnext : InSection (definitionOption :: actionOption :: boundary :: announce s.checkpoint ::
      tokenDeclarations s :: gs) :=
    ⟨⟨rfl, rfl, rfl, by simp⟩, rfl, ⟨rfl, hdone.toQuiet⟩, hdone.joined⟩
  simp only [move, declarationMove] at hm
  split at hm
  case h_1 | h_2 | h_3 =>
    obtain rfl := Move.consumes_take.mp hm
    exact hnext.after_of_next rfl rfl
  all_goals simp at hm

theorem after_definitionOption (h : Joined (definitionOption :: gs))
    (hm : (definitionOption.move t).Consumes next) :
    After (spot (definitionOption :: gs)) t (next ++ gs) := by
  obtain ⟨⟨hplace, hquiet⟩, hjoined⟩ := h
  obtain ⟨rfl, rfl⟩ := consumes_optionMove.mp hm
  have hsection : InSection gs := ⟨hquiet, hplace ▸ rfl, hjoined⟩
  obtain ⟨hbody, hspot⟩ := hsection.period hplace
  obtain ⟨hnext, hspot'⟩ := hbody.append (announce .tokenExpression :: tokenExpression) rfl
  have hrefl : spot (definitionOption :: gs) = ⟨.names .token, none⟩ :=
    congrArg (Spot.mk · none) hplace
  rw [hrefl]
  exact hnext.after_of_next (hspot'.trans hspot).symm rfl

theorem after_productions (h : Joined (productions :: gs)) (hm : (productions.move t).Consumes next) :
    After (spot (productions :: gs)) t (next ++ gs) := by
  have hsection : InSection (productions :: gs) := ⟨⟨rfl, rfl, rfl, by simp⟩, rfl, h⟩
  simp only [move] at hm
  split at hm
  next ht =>
    subst ht
    obtain rfl := Move.consumes_take.mp hm
    have hdone := hsection.boundary.checkpoint (c := .productionDone) rfl rfl
    obtain ⟨hbody, hspot⟩ := hdone.period rfl
    obtain ⟨hside, hspot'⟩ := hbody.append (announce .expressionStart :: expression) rfl
    obtain ⟨hequal, -⟩ := hside.equal (congrArg Spot.place (hspot'.trans hspot))
    have hnext := (hequal.actionOption.attributesOption (c := .afterAttributes) rfl rfl).checkpoint
      (c := .afterProductionName) rfl rfl
    exact hnext.after_of_next rfl rfl
  next => simp at hm

/-- **A section begins with its keyword.** -/
theorem after_isBetween (hg : g.isBetween = true) (h : Joined (g :: gs))
    (hstart : g = productionsOption → t = some .productionsKw)
    (hm : (g.move t).Consumes next) :
    After ⟨.settings, none⟩ t (next ++ gs) ∧ (Place.openedBy? t).isSome = true := by
  obtain ⟨hjoins, hgs⟩ := h
  cases g with
  | ignoreCaseOption =>
    obtain ⟨rfl, rfl⟩ := consumes_optionMove.mp hm
    have hspot := spot_of_isBetween hjoins.1
    have hsection : InSection gs := ⟨hjoins.2, congrArg (Place.isSection ∘ Spot.place) hspot, hgs⟩
    exact ⟨(hsection.checkpoint rfl rfl).after_of_next hspot.symm rfl, rfl⟩
  | charactersOption =>
    obtain ⟨rfl, rfl⟩ := consumes_optionMove.mp hm
    have hsection : InSection (charSets :: gs) := ⟨⟨rfl, rfl, rfl, by simp⟩, rfl, hjoins, hgs⟩
    exact ⟨(hsection.checkpoint rfl rfl).after_of_next rfl rfl, rfl⟩
  | tokensOption s =>
    obtain ⟨rfl, rfl⟩ := consumes_optionMove.mp hm
    have hsection : InSection (tokenDeclarations s :: gs) :=
      ⟨⟨rfl, rfl, rfl, by simp⟩, rfl, hjoins, hgs⟩
    cases s <;> exact ⟨(hsection.checkpoint rfl rfl).after_of_next rfl rfl, rfl⟩
  | commentDeclarations =>
    obtain ⟨rfl, rfl⟩ := consumes_optionMove.mp hm
    have hbody : InBody (commentDeclarations :: gs) :=
      ⟨⟨⟨rfl, rfl, rfl, by simp⟩, rfl, hjoins, hgs⟩, rfl⟩
    obtain ⟨hnext, hspot⟩ := hbody.append ([announce .commentsKeyword, require .fromKw,
      announce .tokenExpression] ++ tokenExpression ++ [announce .commentsFrom, require .toKw,
      announce .tokenExpression] ++ tokenExpression ++ [announce .commentsTo, nestedOption,
      boundary]) rfl
    exact ⟨hnext.after_of_next hspot.symm rfl, rfl⟩
  | ignoreSets =>
    obtain ⟨rfl, rfl⟩ := consumes_optionMove.mp hm
    have hbody : InBody (ignoreSets :: gs) := ⟨⟨⟨rfl, rfl, rfl, by simp⟩, rfl, hjoins, hgs⟩, rfl⟩
    obtain ⟨hnext, hspot⟩ := hbody.append
      (announce .setOperand :: set ++ [boundary, announce .ignoreSet]) rfl
    exact ⟨hnext.after_of_next hspot.symm rfl, rfl⟩
  | productionsOption =>
    obtain rfl := hstart rfl
    obtain rfl := Move.consumes_take.mp hm
    have hsection : InSection (productions :: gs) := ⟨⟨rfl, rfl, rfl, by simp⟩, rfl, hjoins, hgs⟩
    exact ⟨(hsection.checkpoint rfl rfl).after_of_next rfl rfl, rfl⟩
  | productionsStart =>
    simp only [move] at hm
    split at hm <;> simp at hm
  | _ => cases hg

/-- **What a goal consumes is what is read at its spot.** -/
theorem after_of_consumes (h : Joined (g :: gs))
    (hstart : g = productionsOption → t = some .productionsKw) (hm : (g.move t).Consumes next) :
    After (spot (g :: gs)) t (next ++ gs) := by
  obtain ⟨hjoins, hgs⟩ := h
  -- In a section, a goal that is no host code itself stands where the goals after it stand.
  have hsection : (place gs).isSection = true ∧ Quiet gs →
      InSection gs ∧ ⟨place gs, none⟩ = spot gs :=
    fun h => ⟨⟨h.2, h.1, hgs⟩, congrArg (Spot.mk (place gs)) h.2.host.symm⟩
  cases g with
  | announce c => simp [move] at hm
  | boundary => simp [move] at hm
  | recovery => exact hjoins.elim
  | require t' =>
    simp only [move] at hm
    split at hm
    next ht =>
      subst ht
      obtain rfl := Move.consumes_take.mp hm
      exact ⟨hgs, hjoins.spot, hjoins.event, hjoins.awaited, hjoins.start⟩
    next => simp at hm
  | request t' =>
    obtain ⟨rfl, hplace, hquiet⟩ := hjoins
    simp only [move] at hm
    split at hm
    next ht =>
      subst ht
      obtain rfl := Move.consumes_take.mp hm
      refine ⟨hgs, ?_, hquiet.event, hquiet.awaited, hquiet.start⟩
      rw [List.nil_append, spot, hplace, hquiet.host]
      rfl
    next => simp at hm
  | preamble =>
    simp only [move] at hm
    split at hm
    next => simp at hm
    next ht =>
      obtain rfl := Move.consumes_skip.mp hm
      have hevent := Spot.event?_of_isHost (Spot.isHost_preamble ht)
      refine ⟨⟨hjoins, hgs⟩, ?_, hevent.symm, rfl, by simp⟩
      exact congrArg (Spot.mk · none) (if_neg ht).symm
  | globalCode =>
    simp only [move] at hm
    split at hm
    next => simp at hm
    next ht =>
      obtain rfl := Move.consumes_skip.mp hm
      have hnone := Place.openedBy?_eq_none ht
      have hevent := Spot.event?_of_isHost (Spot.isHost_globalCode hnone)
      refine ⟨⟨hjoins, hgs⟩, ?_, hevent.symm, rfl, by simp⟩
      exact congrArg (Spot.mk · none) (congrArg (Option.getD · Place.globalCode) hnone).symm
  | ignoreCaseOption | charactersOption | tokensOption | commentDeclarations | ignoreSets
  | productionsStart | productionsOption =>
    exact (after_isBetween rfl ⟨hjoins, hgs⟩ hstart hm).1
  | charSets => exact after_charSets ⟨hjoins, hgs⟩ hm
  | tokenDeclarations s => exact after_tokenDeclarations ⟨hjoins, hgs⟩ hm
  | definitionOption => exact after_definitionOption ⟨hjoins, hgs⟩ hm
  | productions => exact after_productions ⟨hjoins, hgs⟩ hm
  | attributesOption c =>
    obtain ⟨hevent, hnaming, hjoins⟩ := hjoins
    obtain ⟨h, hspot⟩ := hsection hjoins
    change After ⟨place gs, none⟩ t (next ++ gs)
    rw [hspot]
    exact after_attributesOption h hevent hnaming hm
  | actionOption =>
    obtain ⟨h, hspot⟩ := hsection hjoins
    change After ⟨place gs, none⟩ t (next ++ gs)
    rw [hspot]
    exact after_actionOption h hm
  | attributes depth => exact after_attributesMove (hsection hjoins).1 hm
  | dottedAttributes => exact after_dottedAttributes (hsection hjoins).1 hm
  | action => exact after_action (hsection hjoins).1 hm
  | condition depth => exact after_conditionMove (hsection hjoins).1 hm
  | simpleSet | setOperations | rangeOption | nestedOption | tokenFactor | tokenFactors
  | contextOption | tokenAlternatives | resolverOption | factors | alternatives | symbol =>
    have h := inBody_of_joins hjoins.1 hjoins.2 hgs
    rw [(h.cons rfl).2]
    exact after_body rfl h hm

end Goal

end GrammarWorkbench
