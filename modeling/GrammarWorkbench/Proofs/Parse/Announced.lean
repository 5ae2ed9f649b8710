import GrammarWorkbench.Proofs.Parse.Brackets
import GrammarWorkbench.Proofs.Parse.Spots

/-!
# What parsing announces

The checkpoints of a parse tell of names and of brackets. As long as there is no error they tell of
exactly those that can be read off the lexemes: `GrammarWorkbench.Parsing.Reaches.told` says that
the brackets and the names that have been announced are the brackets and the names of the lexemes
that have been consumed.

Two small delays have to be kept in mind, and they are part of the invariant
`GrammarWorkbench.Parsing.Told`. A bracket is announced **after** it has been consumed, and the two
names of a grammar are announced **before** they are.
-/

namespace GrammarWorkbench

/-- What an optional entry gives to a list. -/
theorem List.filterMap_append_toList {α β : Type} (f : α → Option β) (l : List α) (o : Option α) :
    (l ++ o.toList).filterMap f = l.filterMap f ++ (o.bind f).toList := by
  cases o with
  | none => simp
  | some a => cases h : f a <;> simp [h]

namespace Notification

/-- The bracket that a notification tells of, which is the last consumed lexeme. -/
def mark? (n : Notification) : Option Mark :=
  n.checkpoint.braceEvent?.map (⟨·, n.current⟩)

/-- The name that a notification tells of, which is the next lexeme. -/
def named? (n : Notification) : Option (Naming × Lexeme) :=
  n.checkpoint.naming?.bind fun naming => n.lookahead.map (naming, ·)

end Notification

namespace Goal

variable {g : Goal} {gs next : List Goal} {t : Option Token} {la : Option (Option Token)}

/-! ### Names -/

theorem naming_symbolMove (hm : (symbolMove t).Consumes next) :
    (symbolMove t).before?.bind Checkpoint.naming? =
      if t = some .ident then some .reference else none := by
  unfold symbolMove at hm ⊢
  split at hm <;> first | rfl | simp at hm

theorem naming_tokenFactorMove (hm : (tokenFactorMove t).Consumes next) :
    (tokenFactorMove t).before?.bind Checkpoint.naming? =
      if t = some .ident then some .reference else none := by
  unfold tokenFactorMove at hm ⊢
  split at hm <;> first | rfl | simp at hm

theorem naming_factorMove (hm : (factorMove t).Consumes next) :
    (factorMove t).before?.bind Checkpoint.naming? =
      if t = some .ident then some .reference else none := by
  unfold factorMove at hm ⊢
  split at hm
  case h_8 => exact naming_symbolMove hm
  all_goals rfl

/-- **What is announced before a token in the body of a section**: a name that is used. -/
theorem naming_body (hg : g.isBody = true) (hm : (g.move t).Consumes next) :
    (g.move t).before?.bind Checkpoint.naming? =
      if t = some .ident then some .reference else none := by
  cases g with
  | symbol => exact naming_symbolMove hm
  | tokenFactor => exact naming_tokenFactorMove hm
  | tokenFactors =>
    simp only [move] at hm ⊢
    split at hm
    next ht =>
      obtain ⟨goals, hfactor, -⟩ := Move.consumes_followedBy.mp hm
      rw [if_pos ht, Move.before?_followedBy]
      exact naming_tokenFactorMove hfactor
    next => simp at hm
  | factors =>
    simp only [move] at hm ⊢
    split at hm
    next ht =>
      obtain ⟨goals, hfactor, -⟩ := Move.consumes_followedBy.mp hm
      rw [if_pos ht, Move.before?_followedBy]
      exact naming_factorMove hfactor
    next => simp at hm
  | simpleSet =>
    simp only [move, simpleSetMove] at hm ⊢
    split at hm <;> first | rfl | simp at hm
  | setOperations =>
    simp only [move] at hm ⊢
    split at hm
    next ht => rcases ht with rfl | rfl <;> rfl
    next => simp at hm
  | rangeOption | nestedOption | contextOption | tokenAlternatives | resolverOption
  | alternatives =>
    obtain ⟨rfl, -⟩ := consumes_optionMove.mp hm
    rfl
  | _ => cases hg

/-- A goal that skips a token announces nothing. -/
theorem before?_of_code? {code : HostCode} (hg : g.code? = some code) :
    (g.move t).before? = none := by
  cases g <;> cases hg <;> simp only [move, attributesMove, conditionMove] <;>
    repeat' split
  all_goals rfl

/-- **The names that are announced are those that are read**: one that has been announced already,
or one that is announced with its token. -/
theorem naming_of_consumes (h : Joined (g :: gs))
    (hstart : g = productionsOption → t = some .productionsKw) (hm : (g.move t).Consumes next) :
    (awaited? (g :: gs)).toList ++ ((g.move t).before?.bind Checkpoint.naming?).toList =
      ((spot (g :: gs)).naming? t).toList := by
  have hjoins := h.1
  -- Where nothing is announced, nothing may be read: in host code, and at signs and keywords.
  have hnone : awaited? (g :: gs) = none → (g.move t).before? = none →
      (spot (g :: gs)).naming? t = none → (awaited? (g :: gs)).toList ++
        ((g.move t).before?.bind Checkpoint.naming?).toList =
          ((spot (g :: gs)).naming? t).toList := by
    intro hawaited hbefore hnaming
    rw [hawaited, hbefore, hnaming]
    rfl
  cases g with
  | announce c => simp [move] at hm
  | boundary => simp [move] at hm
  | recovery => exact hjoins.elim
  | require t' =>
    simp only [move] at hm ⊢
    split at hm
    next ht =>
      subst ht
      rw [if_pos rfl, ← hjoins.naming]
      exact List.append_nil _
    next => simp at hm
  | request t' =>
    obtain ⟨rfl, -, -⟩ := hjoins
    simp only [move] at hm ⊢
    split at hm
    next ht =>
      subst ht
      rfl
    next => simp at hm
  | preamble =>
    simp only [move] at hm
    split at hm
    next => simp at hm
    next ht =>
      refine hnone rfl ?_ (Spot.naming?_of_isHost (Spot.isHost_preamble ht))
      simp [move, ht, Move.before?]
  | globalCode =>
    simp only [move] at hm
    split at hm
    next => simp at hm
    next ht =>
      refine hnone rfl ?_
        (Spot.naming?_of_isHost (Spot.isHost_globalCode (Place.openedBy?_eq_none ht)))
      simp [move, ht, Move.before?]
  | ignoreCaseOption | charactersOption | tokensOption | commentDeclarations | ignoreSets
  | productionsStart | productionsOption =>
    obtain ⟨p, hp⟩ := Option.isSome_iff_exists.mp (after_isBetween rfl h hstart hm).2
    have hnaming := (Spot.keyword_of_isOpen (r := ⟨.settings, none⟩) rfl hp).2.2
    refine hnone rfl ?_ hnaming
    simp only [move, optionMove]
    repeat' split
    all_goals rfl
  | charSets | productions =>
    simp only [move] at hm ⊢
    split at hm
    next ht =>
      subst ht
      rfl
    next => simp at hm
  | tokenDeclarations s =>
    simp only [move, declarationMove] at hm ⊢
    split at hm <;> first | rfl | simp at hm
  | definitionOption =>
    obtain ⟨rfl, -⟩ := consumes_optionMove.mp hm
    have hspot : spot (definitionOption :: gs) = ⟨.names .token, none⟩ :=
      congrArg (Spot.mk · none) hjoins.1
    refine hnone rfl rfl ?_
    rw [hspot]
    rfl
  | attributesOption c =>
    have hsection : (spot (attributesOption c :: gs)).place.isSection = true := hjoins.2.2.1
    have hopened : (HostCode.openedBy? t).isSome = true ∧
        ((attributesOption c).move t).before? = none := by
      simp only [move] at hm ⊢
      split at hm <;> first | exact ⟨rfl, rfl⟩ | simp at hm
    exact hnone rfl hopened.2
      (Spot.naming?_of_isHost (Spot.isHost_of_openedBy? rfl hsection hopened.1))
  | actionOption =>
    have hsection : (spot (actionOption :: gs)).place.isSection = true := hjoins.1
    have hopened : (HostCode.openedBy? t).isSome = true ∧ (actionOption.move t).before? = none := by
      simp only [move] at hm ⊢
      split at hm
      next ht =>
        subst ht
        exact ⟨rfl, rfl⟩
      next => simp at hm
    exact hnone rfl hopened.2
      (Spot.naming?_of_isHost (Spot.isHost_of_openedBy? rfl hsection hopened.1))
  | attributes | dottedAttributes | action | condition =>
    exact hnone rfl (before?_of_code? rfl) (Spot.naming?_of_isHost rfl)
  | simpleSet | setOperations | rangeOption | nestedOption | tokenFactor | tokenFactors
  | contextOption | tokenAlternatives | resolverOption | factors | alternatives | symbol =>
    rw [naming_body rfl hm, Spot.naming?_of_isBody rfl hjoins.1]
    rfl

/-! ### Goals that are dropped -/

/-- **The goals and the spot agree**, up to the sections that are still to come. -/
def Agrees (r : Spot) (gs : List Goal) : Prop :=
  r = spot gs ∨ gs.head?.any isBetween = true ∧ r.isOpen = true

/-- What is known of the goals after one that is dropped. -/
structure Left (r : Spot) (la : Option (Option Token)) (gs : List Goal) : Prop where
  agrees : Agrees r gs
  event : event? gs = none
  awaited : awaited? gs = none
  start : gs.head? = some productionsOption → la = some (some .productionsKw)

/-- Host code is not dropped. -/
theorem meet_ne_pass_of_code? {code : HostCode} (hg : g.code? = some code) :
    g.meet la ≠ .still .pass := by
  cases la with
  | none => cases g <;> cases hg <;> simp [atEnd, Move.fail]
  | some t =>
    cases g <;> cases hg <;> simp only [meet_some, move, attributesMove, conditionMove] <;>
      repeat' split
    all_goals simp [Move.fail]

/-- **A goal that is dropped** says nothing about where the parse is, except at the end of a
section. -/
theorem Agrees.pass {r : Spot} (h : Agrees r (g :: gs)) (hjoined : Joined (g :: gs))
    (hm : g.meet la = .still .pass)
    (hstart : g = productionsOption → la = some (some .productionsKw)) : Left r la gs := by
  have hjoins := hjoined.1
  -- Inside a section the spot stays. At the end of one, reading stays behind the goals.
  have hkeep : g.isBetween = false → spot (g :: gs) = spot gs → Quiet gs → Left r la gs := by
    intro hbetween hspot hquiet
    have hr : r = spot gs := by
      rcases h with h | ⟨h, -⟩
      · exact h.trans hspot
      · simp [hbetween] at h
    exact ⟨Or.inl hr, hquiet.event, hquiet.awaited, fun h => absurd h hquiet.start⟩
  have hleave : (spot (g :: gs)).isOpen = true → gs.head?.any isBetween = true ∧ Quiet gs →
      Left r la gs := by
    rintro hspot ⟨hbetween, hquiet⟩
    have hr : r.isOpen = true := by
      rcases h with rfl | ⟨-, h⟩
      · exact hspot
      · exact h
    exact ⟨Or.inr ⟨hbetween, hr⟩, hquiet.event, hquiet.awaited, fun h => absurd h hquiet.start⟩
  have hspot : Quiet gs → ⟨place gs, none⟩ = spot gs := fun h => congrArg (Spot.mk _) h.host.symm
  cases g with
  | globalCode | ignoreCaseOption | charactersOption | tokensOption | commentDeclarations
  | ignoreSets | charSets | tokenDeclarations => exact hleave rfl hjoins
  | productionsStart =>
    -- The productions have to start here, so that nothing stands before their keyword.
    obtain ⟨gs, rfl⟩ := List.head?_eq_some_iff.mp hjoins
    have hr : r.isOpen = true := by
      rcases h with rfl | ⟨-, h⟩
      · rfl
      · exact h
    have hla : la = some (some .productionsKw) := by
      cases la with
      | none => cases hm
      | some t =>
        simp only [meet_some, move] at hm
        split at hm
        next ht => rw [ht]
        next => cases hm
    exact ⟨Or.inr ⟨rfl, hr⟩, rfl, rfl, fun _ => hla⟩
  | productionsOption =>
    rw [hstart rfl] at hm
    cases hm
  | preamble | productions =>
    refine hkeep rfl ?_ hjoins.2
    rw [← hspot hjoins.2, hjoins.1]
    rfl
  | attributesOption c => exact hkeep rfl (hspot hjoins.2.2.2) hjoins.2.2.2
  | definitionOption | actionOption | boundary | simpleSet | setOperations | rangeOption
  | nestedOption | tokenFactor | tokenFactors | contextOption | tokenAlternatives | resolverOption
  | factors | alternatives | symbol => exact hkeep rfl (hspot hjoins.2) hjoins.2
  | attributes | dottedAttributes | action | condition =>
    exact absurd hm (meet_ne_pass_of_code? rfl)
  | recovery => exact hjoins.elim
  | announce | require | request =>
    cases la with
    | none => cases hm
    | some t =>
      simp only [meet_some, move] at hm
      first
        | cases hm
        | split at hm <;> cases hm

end Goal

namespace Parsing

variable {s s' : Parsing} {g : Goal} {gs next : List Goal} {n : Option Notification}
  {heard : List Notification} {read rest : List Lexeme} {x : Lexeme}

/-! ### Where a parse is -/

/-- **The parse is where reading is** after the consumed lexemes. -/
structure Located (read : List Lexeme) (s : Parsing) : Prop where
  agrees : Goal.Agrees (Spot.start.after read) s.goals
  joined : Goal.Joined s.goals
  start : s.goals.head? = some .productionsOption → s.lookahead = some (some .productionsKw)

theorem located_start (lexemes : List Lexeme) (stop : Position) :
    Located [] (start lexemes stop) :=
  ⟨Or.inl rfl, Goal.joined_grammar, by simp [Parsing.start, Goal.grammar]⟩

/-- At the end there are no goals left, and hence no grammar left to read. -/
theorem Located.after_of_goals_eq_nil (h : Located read s) (hg : s.goals = []) :
    Spot.start.after read = ⟨.after, none⟩ := by
  have hagrees := h.agrees
  rw [hg] at hagrees
  rcases hagrees with hspot | ⟨hbetween, -⟩
  · exact hspot
  · cases hbetween

/-- **A consumed lexeme means to the goals what it means to a reader.** -/
theorem Located.consume (h : Located read s) (hg : s.goals = g :: gs) (hrest : s.rest = x :: rest)
    (hm : (g.move x.token).Consumes next) :
    Goal.After (Spot.start.after read) x.token (next ++ gs) ∧
      (Goal.awaited? s.goals).toList ++
        ((g.move x.token).before?.bind Checkpoint.naming?).toList =
          ((Spot.start.after read).naming? x.token).toList := by
  obtain ⟨hagrees, hjoined, hstart⟩ := h
  rw [hg] at hagrees hjoined hstart ⊢
  have hla : s.lookahead = some x.token := by simp [lookahead, hrest]
  have hproductions : g = .productionsOption → x.token = some .productionsKw := by
    rintro rfl
    simpa [hla] using hstart rfl
  have hafter := Goal.after_of_consumes hjoined hproductions hm
  have hnaming := Goal.naming_of_consumes hjoined hproductions hm
  rcases hagrees with hspot | ⟨hbetween, hopen⟩
  · rw [hspot]
    exact ⟨hafter, hnaming⟩
  · -- Between two sections, the lexeme is a keyword, and the spots before it do not matter.
    have hg' : g.isBetween = true := by simpa using hbetween
    obtain ⟨p, hp⟩ :=
      Option.isSome_iff_exists.mp (Goal.after_isBetween hg' hjoined hproductions hm).2
    obtain ⟨hnext, hevent, hnone⟩ := Spot.keyword_of_isOpen hopen hp
    have hspot : Goal.spot (g :: gs) = ⟨.settings, none⟩ := Goal.spot_of_isBetween hbetween
    obtain ⟨hnext', hevent', hnone'⟩ :=
      Spot.keyword_of_isOpen (r := Goal.spot (g :: gs)) (hspot ▸ rfl) hp
    refine ⟨⟨hafter.joined, ?_, ?_, hafter.awaited, hafter.start⟩, ?_⟩
    · rw [hafter.spot, hnext, hnext']
    · rw [hafter.event, hevent, hevent']
    · rw [hnaming, hnone, hnone']

/-! ### What has been told -/

/-- The bracket that is still to be announced. -/
def pendingMark (s : Parsing) : Option Mark :=
  (Goal.event? s.goals).map (⟨·, s.current⟩)

/-- The name that has been announced and is still to be consumed. -/
def pendingName (s : Parsing) : Option (Naming × Lexeme) :=
  (Goal.awaited? s.goals).bind fun naming => s.rest.head?.map (naming, ·)

/-- **What has been announced is what has been read**, up to a bracket that is announced next and a
name that is consumed next. -/
structure Told (heard : List Notification) (read : List Lexeme) (s : Parsing) : Prop
    extends Located read s where
  marks : heard.filterMap Notification.mark? ++ s.pendingMark.toList = Lexeme.marks read
  named : heard.filterMap Notification.named? = Lexeme.named read ++ s.pendingName.toList

theorem told_start (lexemes : List Lexeme) (stop : Position) :
    Told [] [] (start lexemes stop) :=
  ⟨located_start lexemes stop, rfl, rfl⟩

/-- Dropping a goal tells nothing. -/
theorem Told.pass (h : Told heard read s) (hg : s.goals = g :: gs)
    (hm : g.meet s.lookahead = .still .pass) : Told heard read { s with goals := gs } := by
  obtain ⟨⟨hagrees, hjoined, hstart⟩, hmarks, hnamed⟩ := h
  rw [hg] at hagrees hjoined hstart
  have hleft := hagrees.pass hjoined hm fun hg => hstart (by rw [hg]; rfl)
  have hevent : Goal.event? s.goals = none := by
    rw [hg]
    cases g with
    | announce c => exact absurd rfl (Goal.ne_announce_of_pass hm c)
    | _ => rfl
  have hawaited : Goal.awaited? s.goals = none := by
    rw [hg]
    have hne : ∀ t, g ≠ .request t ∧ g ≠ .require t := by
      intro t
      refine ⟨?_, ?_⟩ <;> rintro rfl <;> cases hla : s.lookahead <;> rw [hla] at hm <;>
        simp only [Goal.meet_none, Goal.meet_some, Goal.move, Goal.atEnd] at hm
      all_goals
        repeat' split at hm
        all_goals cases hm
    cases g with
    | request t => exact absurd rfl (hne t).1
    | require t => exact absurd rfl (hne t).2
    | _ => rfl
  refine ⟨⟨hleft.agrees, hjoined.2, hleft.start⟩, ?_, ?_⟩
  · rw [← hmarks, pendingMark, pendingMark, hevent, hleft.event]
  · rw [hnamed, pendingName, pendingName, hawaited, hleft.awaited]

/-- **An announcement** tells of the last bracket, or of the next name. -/
theorem Told.tell {c : Checkpoint} (h : Told heard read s) (hg : s.goals = .announce c :: gs) :
    Told (heard ++ [s.notice c]) read { s with goals := gs } := by
  obtain ⟨⟨hagrees, hjoined, -⟩, hmarks, hnamed⟩ := h
  rw [hg] at hagrees hjoined
  obtain ⟨⟨hawaited, hevent, hstart⟩, hgs⟩ := hjoined
  have hspot : Goal.Agrees (Spot.start.after read) gs := by
    rcases hagrees with h | ⟨h, -⟩
    · exact Or.inl h
    · simp [Goal.isBetween] at h
  refine ⟨⟨hspot, hgs, fun h => absurd h hstart⟩, ?_, ?_⟩
  · have hpending : s.pendingMark = (s.notice c).mark? := by
      rw [pendingMark, hg]
      rfl
    rw [← hmarks, hpending, pendingMark, hevent, ← Option.toList_some,
      List.filterMap_append_toList]
    exact List.append_nil _
  · have hpending : s.pendingName = none := by
      rw [pendingName, hg]
      rfl
    have hnext : ({ s with goals := gs } : Parsing).pendingName = (s.notice c).named? := by
      rw [pendingName, hawaited]
      rfl
    rw [hnext, ← Option.toList_some, List.filterMap_append_toList, hnamed, hpending,
      Option.toList_none, List.append_nil]
    rfl

/-- **A consumed lexeme** is a bracket that is announced next, a name that is announced with it, or
neither. -/
theorem Told.consume (h : Told heard read s) (hg : s.goals = g :: gs) (hrest : s.rest = x :: rest)
    (hm : (g.move x.token).Consumes next) :
    Told (heard ++ ((g.move x.token).before?.map s.notice).toList) (read ++ [x])
      { s.consume x rest with goals := next ++ gs } := by
  obtain ⟨hafter, hnaming⟩ := h.toLocated.consume hg hrest hm
  obtain ⟨-, hmarks, hnamed⟩ := h
  have hspot := hafter.spot
  rw [← Spot.after_concat] at hspot
  refine ⟨⟨Or.inl hspot.symm, hafter.joined, fun h => absurd h hafter.start⟩, ?_, ?_⟩
  · -- A bracket is announced before anything else is consumed, so that none is pending here.
    have hpending : s.pendingMark = none := by
      rw [pendingMark, hg]
      cases g with
      | announce c => simp [Goal.move] at hm
      | _ => rfl
    have hbefore : ((g.move x.token).before?.map s.notice).bind Notification.mark? = none := by
      cases hc : (g.move x.token).before? with
      | none => rfl
      | some c =>
        have hevent := Goal.braceEvent?_of_before? hc
        simp [Notification.mark?, notice, hevent]
    rw [hpending, Option.toList_none, List.append_nil] at hmarks
    rw [Lexeme.marks_concat, List.filterMap_append_toList, hbefore, hmarks, ← hafter.event,
      Option.toList_none, List.append_nil]
    rfl
  · have hpending : s.pendingName.toList =
        (Goal.awaited? s.goals).toList.map (·, x) := by
      rw [pendingName, hrest]
      cases Goal.awaited? s.goals <;> rfl
    have hbefore : (((g.move x.token).before?.map s.notice).bind Notification.named?).toList =
        ((g.move x.token).before?.bind Checkpoint.naming?).toList.map (·, x) := by
      cases (g.move x.token).before? with
      | none => rfl
      | some c =>
        simp only [Option.map_some, Option.bind_some, Notification.named?, notice, hrest]
        cases c.naming? <;> rfl
    have hnone : ({ s.consume x rest with goals := next ++ gs } : Parsing).pendingName = none := by
      rw [pendingName, hafter.awaited]
      rfl
    rw [List.filterMap_append_toList, hnamed, hbefore, hpending, hnone, List.append_assoc,
      ← List.map_append, hnaming, Lexeme.named_concat, Option.toList_none, List.append_nil]
    cases (Spot.start.after read).naming? x.token <;> rfl

/-- **One clean turn** keeps what is announced and what is read together. -/
theorem Told.cleanTurn (h : Told heard read s) (hg : s.goals = g :: gs)
    (ht : CleanTurn s g gs n s') :
    ∃ read', read' ++ s'.rest = read ++ s.rest ∧ Told (heard ++ n.toList) read' s' := by
  cases ht with
  | pass hm => exact ⟨read, rfl, by simpa using h.pass hg hm⟩
  | tell c hm =>
    obtain rfl := Goal.eq_announce_of_tell hm
    exact ⟨read, rfl, h.tell hg⟩
  | take x rest before next hrest hm =>
    refine ⟨read ++ [x], by simp [hrest], ?_⟩
    have hbefore : (g.move x.token).before? = before := by rw [hm]; rfl
    have htold := h.consume hg hrest (by rw [hm]; exact Move.consumes_take.mpr rfl)
    rwa [hbefore] at htold
  | skip x rest next hrest hm =>
    refine ⟨read ++ [x], by simp [hrest], ?_⟩
    have hbefore : (g.move x.token).before? = none := by rw [hm]; rfl
    have htold := h.consume hg hrest (by rw [hm]; exact Move.consumes_skip.mpr rfl)
    rwa [hbefore] at htold

/-- **As long as there is no error, parsing announces what is read.** -/
theorem Reaches.told {lexemes : List Lexeme} {stop : Position}
    (h : Reaches (start lexemes stop) heard s) (hnil : s.diagnostics = []) :
    ∃ read, read ++ s.rest = lexemes ∧ Told heard read s := by
  refine h.cleanInvariant (P := fun heard s => ∃ read, read ++ s.rest = lexemes ∧ Told heard read s)
    ⟨[], rfl, told_start lexemes stop⟩ ?_ hnil
  rintro heard s g gs hg ⟨read, hread, htold⟩ n s' ht
  obtain ⟨read', hread', htold'⟩ := htold.cleanTurn hg ht
  exact ⟨read', hread'.trans hread, htold'⟩

end Parsing

end GrammarWorkbench
