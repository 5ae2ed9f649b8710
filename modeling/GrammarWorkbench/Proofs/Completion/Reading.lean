import GrammarWorkbench.Proofs.Completion.Cursor
import GrammarWorkbench.Proofs.Parse.Brackets
import GrammarWorkbench.Proofs.Symbols.References
import Mathlib.Data.List.Induction

/-!
# What a tracker answers, read off the notifications

A tracker hears one notification after the other and changes with each of them. Its answer can also
be read off the finished list of notifications, with no state at all:

* those **without an error** are a beginning of the list, and those among them that come **before
  the cursor** are a beginning of that;
* the symbols are the names at the declarations and at the uses without an error;
* the legal constructs follow from the last notification before the cursor and from the brackets
  that are open after it, and there are none if the first error comes before the cursor.

`GrammarWorkbench.Session.complete_eq_reading` says that the two agree. That the lists are
beginnings is a fact about parsing, which never goes back
(`GrammarWorkbench.Parsing.Reaches.states`); all else is a fact about the tracker, which is proved
notification by notification (`GrammarWorkbench.Tracker.Knows.hear`).
-/

namespace GrammarWorkbench

/-! ### The symbols of a list of notifications -/

namespace Notification

/-- The symbol that the next lexeme is, if it has a name. -/
def symbol? (context : Option Text) (n : Notification) : Option Symbol :=
  n.lookahead.bind fun x => if n.name = [] then none else some ⟨n.name, x.position, context⟩

/-- The symbol that a notification declares as the given kind. -/
def declares? (kind : DeclarationKind) (n : Notification) : Option Symbol :=
  if n.checkpoint.declaration? = some kind then n.symbol? none else none

/-- The symbol that a notification declares as anything. -/
def declaresAny? (n : Notification) : Option Symbol :=
  if n.checkpoint.declaration?.isSome then n.symbol? none else none

/-- The use that a notification is of a name, inside a declaration. -/
def use? (context : Option Text) (n : Notification) : Option Symbol :=
  if n.checkpoint.isReference then n.symbol? context else none

/-- The symbols that are declared as the given kind. -/
def declared (kind : DeclarationKind) (ns : List Notification) : List Symbol :=
  ns.filterMap (declares? kind)

/-- The name of the last declaration. -/
def context (ns : List Notification) : Option Text :=
  (ns.filterMap declaresAny?).getLast?.map Symbol.name

/-- The uses of names in `ns`, which comes after `earlier`. -/
def usesAfter (earlier : List Notification) : List Notification → List Symbol
  | [] => []
  | n :: ns => (n.use? (context earlier)).toList ++ usesAfter (earlier ++ [n]) ns

/-- **The uses of names**, each inside the last declaration before it. -/
def uses (ns : List Notification) : List Symbol :=
  usesAfter [] ns

/-- The notifications before a cursor, if there is one. -/
def beforeCursor (cursor : Option Position) (ns : List Notification) : List Notification :=
  ns.filter fun n => cursor.any n.current.isBefore

variable {ns earlier : List Notification} {n : Notification} {cursor : Option Position}

theorem usesAfter_concat :
    usesAfter earlier (ns ++ [n]) =
      usesAfter earlier ns ++ (n.use? (context (earlier ++ ns))).toList := by
  induction ns generalizing earlier with
  | nil => simp [usesAfter]
  | cons m ns ih =>
    rw [List.cons_append, usesAfter, usesAfter, ih, List.append_assoc, List.append_assoc,
      List.singleton_append]

theorem uses_concat : uses (ns ++ [n]) = uses ns ++ (n.use? (context ns)).toList :=
  usesAfter_concat

theorem declared_concat (kind : DeclarationKind) :
    declared kind (ns ++ [n]) = declared kind ns ++ (n.declares? kind).toList := by
  rw [declared, List.filterMap_append, List.filterMap_cons]
  cases n.declares? kind <;> rfl

theorem context_concat :
    context (ns ++ [n]) = ((n.declaresAny?).map Symbol.name).or (context ns) := by
  rw [context, List.filterMap_append, List.filterMap_cons]
  cases n.declaresAny? <;> simp [context]

theorem beforeCursor_concat :
    beforeCursor cursor (ns ++ [n]) =
      beforeCursor cursor ns ++ if cursor.any n.current.isBefore then [n] else [] := by
  rw [beforeCursor, List.filter_append, List.filter_cons, List.filter_nil]
  rfl

/-- No checkpoint is a declaration and a use. -/
theorem isReference_of_declaration? {c : Checkpoint} {kind : DeclarationKind}
    (h : c.declaration? = some kind) : c.isReference = false := by
  cases c <;> first | rfl | cases h

/-- The name of a symbol is the name of the next lexeme, wherever it is used. -/
theorem symbol?_eq_none_or (n : Notification) :
    (∀ context, n.symbol? context = none) ∨
      ∃ x, n.lookahead = some x ∧ n.name ≠ [] ∧
        ∀ context, n.symbol? context = some ⟨n.name, x.position, context⟩ := by
  unfold symbol?
  cases n.lookahead with
  | none => exact Or.inl fun _ => rfl
  | some x =>
    by_cases h : n.name = []
    · exact Or.inl fun _ => by simp [h]
    · exact Or.inr ⟨x, rfl, h, fun _ => by simp [h]⟩

end Notification

/-! ### What a tracker knows -/

namespace Tracker

open Notification

variable {t : Tracker} {ns : List Notification} {n : Notification} {cursor : Option Position}

/-- **The symbols that a tracker has collected** are those of the notifications. -/
structure Collected (ns : List Notification) (t : Tracker) : Prop where
  context : t.context = Notification.context ns
  grammarName : t.grammarName = (declared .grammar ns).getLast?
  charSets : t.charSets = declared .charSet ns
  tokens : t.tokens = declared .token ns
  productions : t.productions = declared .production ns
  sorted : t.references.Sorted
  references : ∀ name, t.references.get name = (uses ns).filter (·.name = name)
  names : ∀ name, name ∈ t.references.names ↔ ∃ use ∈ uses ns, use.name = name

/-- **What a tracker knows after notifications without an error**: the symbols, and the last
checkpoint and the open brackets before the cursor. -/
structure Knows (cursor : Option Position) (ns : List Notification) (t : Tracker) : Prop
    extends Collected ns t where
  target : t.target = cursor
  last : t.last = (beforeCursor cursor ns).getLast?.map Notification.checkpoint
  braces : t.braces = BraceStack.after (beforeCursor cursor ns)

/-- A tracker for a new parse knows nothing. -/
theorem knows_begin (t : Tracker) (cursor : Option Position) :
    Knows cursor [] (t.begin cursor) where
  target := rfl
  last := rfl
  braces := rfl
  context := rfl
  grammarName := rfl
  charSets := rfl
  tokens := rfl
  productions := rfl
  sorted := References.sorted_nil
  references _ := rfl
  names _ := by simp [begin, References.names, uses, usesAfter]

/-! The tracker collects symbols and follows the cursor, and neither has to do with the other. -/

theorem Collected.withSight (h : Collected ns t) (last : Option Checkpoint) (braces : BraceStack) :
    Collected ns { t with last := last, braces := braces } :=
  ⟨h.context, h.grammarName, h.charSets, h.tokens, h.productions, h.sorted, h.references, h.names⟩

theorem follow_eq (t : Tracker) (n : Notification) :
    t.follow n = { t with
      last := if t.target.any n.current.isBefore then some n.checkpoint else t.last
      braces := if t.target.any n.current.isBefore then
          (n.checkpoint.braceEvent?.map t.braces.apply).getD t.braces
        else t.braces } := by
  obtain ⟨target, last, braces⟩ := t
  cases target with
  | none => rfl
  | some p =>
    simp only [follow, Option.any_some]
    split <;> rfl

theorem discard_eq (t : Tracker) (e : Option Position) :
    t.discard e = { t with
      last := if e.any (fun p => t.target.any p.isBefore) then none else t.last } := by
  obtain ⟨target, last, braces⟩ := t
  cases e with
  | none => rfl
  | some p =>
    cases target with
    | none => rfl
    | some q =>
      simp only [discard, Option.any_some]
      split <;> rfl

/-! What is collected from one notification. -/

theorem collect_of_symbol?_eq_none (h : ∀ context, n.symbol? context = none) :
    t.collect n = t := by
  unfold collect
  split
  · rfl
  next x hx =>
    have hname : n.name = [] := by
      have := h none
      rw [symbol?, hx] at this
      by_contra hne
      simp [hne] at this
    rw [if_pos hname]

theorem collect_of_name_ne_nil {x : Lexeme} (hx : n.lookahead = some x) (hne : n.name ≠ []) :
    t.collect n =
      match n.checkpoint.declaration? with
      | some kind => t.declare kind ⟨n.name, x.position, none⟩
      | none =>
        if n.checkpoint.isReference then
          { t with references := t.references.add n.name ⟨n.name, x.position, t.context⟩ }
        else t := by
  unfold collect
  rw [hx]
  exact if_neg hne

section Declare

variable (t : Tracker) (kind : DeclarationKind) (s : Symbol)

theorem declare_context : (t.declare kind s).context = some s.name := by
  cases kind <;> rfl

theorem declare_grammarName :
    (t.declare kind s).grammarName = if kind = .grammar then some s else t.grammarName := by
  cases kind <;> rfl

theorem declare_charSets :
    (t.declare kind s).charSets = t.charSets ++ if kind = .charSet then [s] else [] := by
  cases kind <;> simp [declare]

theorem declare_tokens :
    (t.declare kind s).tokens = t.tokens ++ if kind = .token then [s] else [] := by
  cases kind <;> simp [declare]

theorem declare_productions :
    (t.declare kind s).productions = t.productions ++ if kind = .production then [s] else [] := by
  cases kind <;> simp [declare]

theorem declare_references : (t.declare kind s).references = t.references := by
  cases kind <;> rfl

end Declare

/-- A declaration is added to the ones of its kind. -/
theorem Collected.declare (h : Collected ns t) {kind : DeclarationKind} {x : Lexeme}
    (hd : n.checkpoint.declaration? = some kind)
    (hsymbol : n.symbol? none = some ⟨n.name, x.position, none⟩) :
    Collected (ns ++ [n]) (t.declare kind ⟨n.name, x.position, none⟩) := by
  have hdeclared : ∀ k, declared k (ns ++ [n]) =
      declared k ns ++ if kind = k then [⟨n.name, x.position, none⟩] else [] := by
    intro k
    rw [declared_concat, declares?, hd, hsymbol]
    by_cases hk : kind = k <;> simp [hk]
  have hcontext : Notification.context (ns ++ [n]) = some n.name := by
    rw [context_concat, declaresAny?, hd, hsymbol]
    rfl
  have huses : uses (ns ++ [n]) = uses ns := by
    rw [uses_concat, use?, isReference_of_declaration? hd]
    simp
  refine ⟨?_, ?_, ?_, ?_, ?_, ?_, ?_, ?_⟩
  · rw [hcontext, declare_context]
  · rw [declare_grammarName, hdeclared, h.grammarName]
    split <;> simp
  · rw [declare_charSets, hdeclared, h.charSets]
  · rw [declare_tokens, hdeclared, h.tokens]
  · rw [declare_productions, hdeclared, h.productions]
  · rw [declare_references]
    exact h.sorted
  · rw [declare_references, huses]
    exact h.references
  · rw [declare_references, huses]
    exact h.names

/-- Where nothing is declared, only the uses can change. -/
theorem Collected.of_uses (h : Collected ns t) (hd : n.declaresAny? = none)
    {refs : References} (hsorted : refs.Sorted)
    (hget : ∀ name, refs.get name = (uses (ns ++ [n])).filter (·.name = name))
    (hnames : ∀ name, name ∈ refs.names ↔ ∃ use ∈ uses (ns ++ [n]), use.name = name) :
    Collected (ns ++ [n]) { t with references := refs } := by
  have hnone : ∀ k, n.declares? k = none := by
    intro k
    unfold declares?
    split
    next hk =>
      rw [declaresAny?, hk] at hd
      simpa using hd
    next => rfl
  have hdeclared : ∀ k, declared k (ns ++ [n]) = declared k ns := by
    intro k
    rw [declared_concat, hnone]
    simp
  have hcontext : Notification.context (ns ++ [n]) = Notification.context ns := by
    rw [context_concat, hd]
    simp
  exact ⟨hcontext ▸ h.context, hdeclared .grammar ▸ h.grammarName,
    hdeclared .charSet ▸ h.charSets, hdeclared .token ▸ h.tokens,
    hdeclared .production ▸ h.productions, hsorted, hget, hnames⟩

/-- A notification that is no use of a name leaves the uses as they are. -/
theorem Collected.of_no_use (h : Collected ns t) (hd : n.declaresAny? = none)
    (huse : ∀ context, n.use? context = none) : Collected (ns ++ [n]) t := by
  have huses : uses (ns ++ [n]) = uses ns := by
    rw [uses_concat, huse]
    simp
  exact h.of_uses hd h.sorted (huses ▸ h.references) (huses ▸ h.names)

/-- **A tracker collects the symbol of each notification.** -/
theorem Collected.collect (h : Collected ns t) (n : Notification) :
    Collected (ns ++ [n]) (t.collect n) := by
  rcases symbol?_eq_none_or n with hnone | ⟨x, hx, hne, hsymbol⟩
  · rw [collect_of_symbol?_eq_none hnone]
    exact h.of_no_use (by simp [declaresAny?, hnone]) fun context => by simp [use?, hnone]
  · rw [collect_of_name_ne_nil hx hne]
    cases hd : n.checkpoint.declaration? with
    | some kind => exact h.declare hd (hsymbol none)
    | none =>
      have hany : n.declaresAny? = none := by simp [declaresAny?, hd]
      cases hr : n.checkpoint.isReference with
      | false => exact h.of_no_use hany fun context => by simp [use?, hr]
      | true =>
        have huses : uses (ns ++ [n]) = uses ns ++ [⟨n.name, x.position, t.context⟩] := by
          rw [uses_concat, use?, hr, hsymbol, h.context]
          rfl
        refine h.of_uses hany (h.sorted.add _ _) ?_ ?_
        · intro name
          rw [References.get_add h.sorted, huses, List.filter_append, h.references]
          by_cases hname : name = n.name
          · simp [hname]
          · simp [hname, Ne.symm hname]
        · intro name
          rw [References.mem_names_add, huses, h.names]
          simp only [List.mem_append, List.mem_singleton, or_and_right, exists_or,
            exists_eq_left]
          rw [or_comm, eq_comm]

/-- **One more notification without an error.** -/
theorem Knows.hear (h : Knows cursor ns t) (hn : n.errorCount = 0) :
    Knows cursor (ns ++ [n]) (t.hear n) := by
  have hsight := sight_collect t n
  simp only [sight, Prod.mk.injEq] at hsight
  obtain ⟨htarget, hlast, hbraces⟩ := hsight
  have hcursor := htarget.trans h.target
  rw [Tracker.hear, if_pos hn, follow_eq]
  refine ⟨(h.toCollected.collect n).withSight _ _, hcursor, ?_, ?_⟩
  · rw [beforeCursor_concat, hcursor, hlast, h.last]
    split <;> simp
  · rw [beforeCursor_concat, hcursor, hbraces, h.braces]
    split
    · rw [BraceStack.after_concat]
    · rw [List.append_nil]

theorem knows_foldl (hns : ∀ n ∈ ns, n.errorCount = 0) (h : Knows cursor [] t) :
    Knows cursor ns (ns.foldl Tracker.hear t) := by
  induction ns using List.reverseRecOn with
  | nil => exact h
  | append_singleton ns n ih =>
    rw [List.foldl_append, List.foldl_cons, List.foldl_nil]
    exact (ih fun m hm => hns m (List.mem_append_left _ hm)).hear (hns n (by simp))

/-- To forget the last checkpoint twice is to forget it once. -/
theorem discard_discard (t : Tracker) (e : Option Position) :
    (t.discard e).discard e = t.discard e := by
  rw [discard_eq, discard_eq]
  by_cases h : e.any (fun p => t.target.any p.isBefore) = true <;> simp [h]

/-- **Notifications with an error tell no more than the end of the parse does.** -/
theorem finish_foldl {ds : List Diagnostic}
    (hns : ∀ n ∈ ns, n.errorCount ≠ 0 ∧ n.firstError = ds.head?.map Diagnostic.position) :
    (ns.foldl Tracker.hear t).finish ds = t.finish ds := by
  induction ns generalizing t with
  | nil => rfl
  | cons n ns ih =>
    obtain ⟨hcount, hfirst⟩ := hns n List.mem_cons_self
    rw [List.foldl_cons, ih fun m hm => hns m (List.mem_cons_of_mem n hm), Tracker.hear,
      if_neg hcount, hfirst]
    exact discard_discard t _

end Tracker

/-! ### Beginnings of the list of notifications -/

/-- What never comes back once it is gone holds of a beginning. -/
theorem List.filter_isPrefix_of_pairwise {α : Type} {p : α → Bool} {l : List α}
    (h : l.Pairwise fun a b => p b = true → p a = true) : l.filter p <+: l := by
  induction l with
  | nil => exact List.prefix_refl _
  | cons a l ih =>
    obtain ⟨hfirst, hrest⟩ := List.pairwise_cons.mp h
    by_cases ha : p a = true
    · rw [List.filter_cons_of_pos ha]
      exact (List.prefix_cons_inj a).mpr (ih hrest)
    · have hnone : l.filter p = [] := by
        rw [List.filter_eq_nil_iff]
        intro b hb hpb
        exact ha (hfirst b hb hpb)
      rw [List.filter_cons_of_neg ha, hnone]
      exact List.nil_prefix

namespace ParseResult

open Notification

variable (source : Text)

/-- The notifications without an error. -/
def clean (r : ParseResult) : List Notification :=
  r.notifications.filter (·.errorCount = 0)

/-- **How the notifications of a source follow each other**: the last consumed lexeme is never an
earlier one, errors only become more, and the first of them stays the first. -/
theorem states_ofSource :
    ∃ l : List (Parsing × Checkpoint),
      (ofSource source).notifications = l.map (fun p => p.1.notice p.2) ∧
      l.Pairwise (fun p q => Parsing.Later p.1 q.1) ∧
      ∀ p ∈ l, p.1.diagnostics <+: (ofSource source).diagnostics := by
  have hrun := Parsing.reaches_run
    (.start (Lexeme.scan source) ((LineIndex.ofText source).position source.size))
  obtain ⟨-, l, hout, hpairwise, hbetween⟩ :=
    hrun.states (Parsing.inOrder_start source) (Parsing.reported_start _ _)
  exact ⟨l, hout, hpairwise, fun p hp => (hbetween p hp).2.diagnostics⟩

/-- **The notifications without an error are a beginning.** -/
theorem clean_isPrefix : (ofSource source).clean <+: (ofSource source).notifications := by
  obtain ⟨l, hout, hpairwise, -⟩ := states_ofSource source
  refine List.filter_isPrefix_of_pairwise ?_
  rw [hout, List.pairwise_map]
  refine hpairwise.imp ?_
  intro p q hlater hq
  have hle := hlater.diagnostics.length_le
  have hq : q.1.diagnostics.length = 0 := of_decide_eq_true hq
  have hp : p.1.diagnostics.length = 0 := by omega
  exact decide_eq_true hp

/-- The last consumed lexeme is never an earlier one. -/
theorem pairwise_current :
    (ofSource source).notifications.Pairwise fun n m => ¬m.current < n.current := by
  obtain ⟨l, hout, hpairwise, -⟩ := states_ofSource source
  rw [hout, List.pairwise_map]
  exact hpairwise.imp fun hlater => hlater.current

/-- **The notifications before a cursor are a beginning of those without an error.** -/
theorem beforeCursor_isPrefix (cursor : Option Position) :
    beforeCursor cursor (ofSource source).clean <+: (ofSource source).clean := by
  refine List.filter_isPrefix_of_pairwise (((pairwise_current source).filter _).imp ?_)
  intro n m hnm hm
  rw [Option.any_eq_true_iff_get] at hm ⊢
  obtain ⟨hsome, hlt⟩ := hm
  refine ⟨hsome, ?_⟩
  simp only [Position.isBefore, decide_eq_true_eq] at hlt ⊢
  by_contra hge
  exact Position.not_lt_trans hge hnm hlt

/-- The notifications of a source: those without an error, and then those that know of the first
error. -/
theorem exists_notifications_eq :
    ∃ late, (ofSource source).notifications = (ofSource source).clean ++ late ∧
      ∀ n ∈ late, n.errorCount ≠ 0 ∧
        n.firstError = (ofSource source).diagnostics.head?.map Diagnostic.position := by
  obtain ⟨late, hlate⟩ := clean_isPrefix source
  refine ⟨late, hlate.symm, ?_⟩
  intro n hn
  have hcount : n.errorCount ≠ 0 := by
    -- All notifications without an error stand in the first part already.
    have hfilter : (ofSource source).clean ++ late.filter (·.errorCount = 0) =
        (ofSource source).clean := by
      conv_rhs => rw [clean, ← hlate, List.filter_append]
      congr 1
      exact (List.filter_eq_self.mpr fun m hm => (List.mem_filter.mp hm).2).symm
    have hnil : late.filter (·.errorCount = 0) = [] := List.append_right_eq_self.mp hfilter
    simpa using List.filter_eq_nil_iff.mp hnil n hn
  refine ⟨hcount, ?_⟩
  obtain ⟨l, hout, -, hdiagnostics⟩ := states_ofSource source
  have hmem : n ∈ l.map (fun p => p.1.notice p.2) := by
    rw [← hout, ← hlate]
    exact List.mem_append_right _ hn
  obtain ⟨p, hp, rfl⟩ := List.mem_map.mp hmem
  obtain ⟨more, hmore⟩ := hdiagnostics p hp
  have hne : p.1.diagnostics ≠ [] := fun h => hcount (by simp [Parsing.notice, h])
  rw [← hmore, List.head?_append_of_ne_nil _ hne]
  rfl

/-- **What a tracker knows after a whole source.** -/
theorem knows_hearAll (t : Tracker) (cursor : Option Position) :
    ∃ heard : Tracker, Tracker.Knows cursor (ofSource source).clean heard ∧
      (t.begin cursor).hearAll (ofSource source) = heard.finish (ofSource source).diagnostics := by
  obtain ⟨late, hlate, herrors⟩ := exists_notifications_eq source
  refine ⟨(ofSource source).clean.foldl Tracker.hear (t.begin cursor), ?_, ?_⟩
  · refine Tracker.knows_foldl ?_ (Tracker.knows_begin t cursor)
    intro n hn
    simpa using (List.mem_filter.mp hn).2
  · rw [Tracker.hearAll, hlate, List.foldl_append]
    exact Tracker.finish_foldl herrors

/-- The first error of a source comes before all others. -/
theorem firstBefore_of_mem {cursor : Position} {d : Diagnostic}
    (hd : d ∈ (ofSource source).diagnostics) (hlt : d.position < cursor) :
    Diagnostic.firstBefore cursor (ofSource source).diagnostics = true := by
  have hrun := Parsing.reaches_run
    (.start (Lexeme.scan source) ((LineIndex.ofText source).position source.size))
  have hincreasing : (ofSource source).diagnostics.Pairwise fun d d' => d.position < d'.position :=
    (hrun.reported (Parsing.inOrder_start source) (Parsing.reported_start _ _)).2.increasing
  cases hds : (ofSource source).diagnostics with
  | nil => simp [hds] at hd
  | cons first ds =>
    rw [hds] at hd hincreasing
    have hfirst : first.position < cursor := by
      rcases List.mem_cons.mp hd with rfl | hd
      · exact hlt
      · exact Position.lt_trans ((List.pairwise_cons.mp hincreasing).1 d hd) hlt
    simpa [Diagnostic.firstBefore, Position.isBefore] using hfirst

end ParseResult

open Notification in
/-- **The answer of a tracker is the one that the notifications tell.** Let `clean` be the
notifications of a source without an error, and `seen` those among them before the cursor. Both are
beginnings. The constructs that are legal at the cursor follow from the last notification of `seen`
and from the brackets that are open after `seen`; if the first error comes before the cursor, or if
`seen` is empty, there are none. The symbols are those of `clean`: the last name of a grammar, the
other declarations in order, and for each name its uses in order, with no entry for a name without
uses. The diagnostics are those of the parse. So any error before the cursor leaves nothing that is
legal there. -/
theorem Session.complete_eq_reading (session : Session) (source : Text) (cursor : Position) :
    let parse := ParseResult.ofSource source
    let answer := (session.complete source cursor).1
    let clean := parse.notifications.filter (·.errorCount = 0)
    let seen := clean.filter (·.current.isBefore cursor)
    clean <+: parse.notifications ∧ seen <+: clean ∧
      answer.legal =
        (if Diagnostic.firstBefore cursor parse.diagnostics = true ∨ seen = [] then .empty
          else .legal (seen.getLast?.map Notification.checkpoint) (BraceStack.after seen).top) ∧
      answer.grammarName = (declared .grammar clean).getLast? ∧
      answer.charSets = declared .charSet clean ∧
      answer.tokens = declared .token clean ∧
      answer.productions = declared .production clean ∧
      (∀ name, answer.references.get name = (uses clean).filter (·.name = name)) ∧
      (∀ name, name ∈ answer.references.names ↔ ∃ use ∈ uses clean, use.name = name) ∧
      answer.references.names.Pairwise (· < ·) ∧
      answer.diagnostics = parse.diagnostics ∧
      ((∃ d ∈ parse.diagnostics, d.position < cursor) → answer.legal = .empty) := by
  intro parse answer clean seen
  obtain ⟨heard, hknows, hhear⟩ :=
    ParseResult.knows_hearAll source session.tracker (some cursor)
  have hanswer : answer = .ofTracker (heard.finish parse.diagnostics) parse.diagnostics :=
    congrArg (Snapshot.ofTracker · parse.diagnostics) hhear
  rw [Tracker.finish, Tracker.discard_eq, hknows.target] at hanswer
  -- The symbols are known as they are; what is legal depends on the first error.
  have hlegal : answer.legal =
      if Diagnostic.firstBefore cursor parse.diagnostics = true ∨ seen = [] then .empty
      else .legal (seen.getLast?.map Notification.checkpoint) (BraceStack.after seen).top := by
    have hlast : heard.last = seen.getLast?.map Notification.checkpoint := hknows.last
    have hbraces : heard.braces = BraceStack.after seen := hknows.braces
    rw [hanswer]
    change ConstructSet.legal (if Diagnostic.firstBefore cursor parse.diagnostics = true then none
      else heard.last) heard.braces.top = _
    rw [hlast, hbraces]
    by_cases hfirst : Diagnostic.firstBefore cursor parse.diagnostics = true
    · rw [if_pos hfirst, if_pos (Or.inl hfirst)]
      rfl
    · rw [if_neg hfirst]
      by_cases hseen : seen = []
      · rw [if_pos (Or.inr hseen), hseen]
        rfl
      · rw [if_neg (not_or.mpr ⟨hfirst, hseen⟩)]
  refine ⟨ParseResult.clean_isPrefix source, ParseResult.beforeCursor_isPrefix source (some cursor),
    hlegal, ?_, ?_, ?_, ?_, ?_, ?_, ?_, ?_, ?_⟩
  · rw [hanswer]
    exact hknows.grammarName
  · rw [hanswer]
    exact hknows.charSets
  · rw [hanswer]
    exact hknows.tokens
  · rw [hanswer]
    exact hknows.productions
  · rw [hanswer]
    exact hknows.references
  · rw [hanswer]
    exact hknows.names
  · rw [hanswer]
    exact hknows.sorted
  · rw [hanswer]
    rfl
  · rintro ⟨d, hd, hlt⟩
    rw [hlegal, if_pos (Or.inl (ParseResult.firstBefore_of_mem source hd hlt))]

/-- Where a production would be legal, an error before it leaves nothing. -/
theorem Session.complete_eq_reading_early_error :
    let source := "COMPILER A PRODUCTIONS A=b. ? ".toList
    (∃ d ∈ (ParseResult.ofSource source).diagnostics, d.position < ⟨1, 31⟩) ∧
      (({} : Session).complete source ⟨1, 31⟩).1.legal = .empty := by
  intro source
  have herror : ∃ d ∈ (ParseResult.ofSource source).diagnostics, d.position < ⟨1, 31⟩ := by
    decide +kernel
  obtain ⟨-, -, -, -, -, -, -, -, -, -, -, hempty⟩ :=
    Session.complete_eq_reading ({} : Session) source ⟨1, 31⟩
  exact ⟨herror, hempty herror⟩

end GrammarWorkbench
