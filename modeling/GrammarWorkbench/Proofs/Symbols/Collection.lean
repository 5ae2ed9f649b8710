import GrammarWorkbench.Navigation
import GrammarWorkbench.Proofs.Completion.Reading
import GrammarWorkbench.Proofs.Lexeme.Spelling
import GrammarWorkbench.Proofs.Parse.Sections

/-!
# The symbols of a grammar are its names

The symbols that a session answers with are collected from the notifications of a parse. For a
source without errors they can also be read off the lexemes: each name outside host code is one
symbol, declared or used, and each literal that is declared as a token is one more
(`GrammarWorkbench.Session.symbols_correspond`). Nothing is lost, and nothing is collected twice.

There are three steps.

* The names that a parse announces are those that are read from left to right
  (`GrammarWorkbench.ParseResult.named_clean`).
* The symbols of some notifications are a matter of the names they announce
  (`GrammarWorkbench.Notification.reads`): each name is a declaration or a use, and a use stands
  inside the last declaration before it.
* The sections of a grammar come in order, so that the declarations by kind are the declarations in
  the order of the source (`GrammarWorkbench.DeclarationKind.append_filter`).
-/

namespace GrammarWorkbench

/-- The name of a symbol, and where it stands. -/
def Symbol.site (s : Symbol) : Text × Position := (s.name, s.position)

/-- The text of a lexeme, and where it stands. -/
def Lexeme.site (x : Lexeme) : Text × Position := (x.text, x.position)

/-! ### Declarations and uses among some names -/

namespace Naming

variable {l before after : List (Naming × Lexeme)} {x : Lexeme}

/-- The declaration that a name is, if it is one. -/
def declared? : Naming × Lexeme → Option (DeclarationKind × Symbol)
  | (declaration kind, x) => some (kind, ⟨x.text, x.position, none⟩)
  | (reference, _) => none

/-- The use that a name is, if it is one. -/
def used? : Naming × Lexeme → Option Lexeme
  | (declaration _, _) => none
  | (reference, x) => some x

/-- The declarations among some names, in order. -/
def declarations (l : List (Naming × Lexeme)) : List (DeclarationKind × Symbol) :=
  l.filterMap declared?

/-- The name of the last declaration. -/
def context (l : List (Naming × Lexeme)) : Option Text :=
  (declarations l).getLast?.map (·.2.name)

/-- **Each name is a declaration or a use**, and not both. -/
theorem perm_site (l : List (Naming × Lexeme)) :
    (l.map (·.2.site)).Perm
      ((declarations l).map (·.2.site) ++ (l.filterMap used?).map Lexeme.site) := by
  induction l with
  | nil => exact List.Perm.refl _
  | cons p l ih =>
    obtain ⟨naming, x⟩ := p
    cases naming with
    | declaration kind => exact ih.cons x.site
    | reference => exact (ih.cons x.site).trans List.perm_middle.symm

/-- The names stand one after the other. -/
def Increasing (l : List (Naming × Lexeme)) : Prop :=
  l.Pairwise fun p q => p.2.position < q.2.position

theorem position_of_declared? {p : Naming × Lexeme} {d : DeclarationKind × Symbol}
    (h : declared? p = some d) : d.2.position = p.2.position := by
  obtain ⟨_ | _, x⟩ := p <;> cases h
  rfl

theorem Increasing.declarations (h : Increasing l) :
    (declarations l).Pairwise fun p q => p.2.position < q.2.position := by
  rw [Naming.declarations, List.pairwise_filterMap]
  refine h.imp ?_
  intro p q hlt d hd d' hd'
  rw [position_of_declared? hd, position_of_declared? hd']
  exact hlt

theorem Increasing.used (h : Increasing l) :
    ((l.filterMap used?).map Lexeme.site).Pairwise fun k k' => k.2 < k'.2 := by
  rw [List.pairwise_map, List.pairwise_filterMap]
  refine h.imp ?_
  rintro ⟨_ | _, x⟩ ⟨_ | _, y⟩ hlt x' hx y' hy <;> cases hx <;> cases hy
  exact hlt

/-- **The declarations before a name are those with smaller positions.** -/
theorem Increasing.filter_declarations {naming : Naming}
    (h : Increasing (before ++ (naming, x) :: after)) :
    (Naming.declarations (before ++ (naming, x) :: after)).filter
      (·.2.position.isBefore x.position) = Naming.declarations before := by
  obtain ⟨-, htail, hbefore⟩ := List.pairwise_append.mp h
  have hafter := (List.pairwise_cons.mp htail).1
  rw [Naming.declarations, List.filterMap_append, List.filter_append]
  have hfirst : (before.filterMap declared?).filter (·.2.position.isBefore x.position) =
      before.filterMap declared? := by
    rw [List.filter_eq_self]
    intro d hd
    obtain ⟨p, hp, hpd⟩ := List.mem_filterMap.mp hd
    rw [position_of_declared? hpd]
    exact decide_eq_true (hbefore p hp _ List.mem_cons_self)
  have hlast : (((naming, x) :: after).filterMap declared?).filter
      (·.2.position.isBefore x.position) = [] := by
    rw [List.filter_eq_nil_iff]
    intro d hd
    obtain ⟨p, hp, hpd⟩ := List.mem_filterMap.mp hd
    rw [position_of_declared? hpd, Position.isBefore, decide_eq_true_eq]
    rcases List.mem_cons.mp hp with rfl | hp
    · exact Position.lt_irrefl _
    · exact Position.not_lt_of_lt (hafter p hp) (Position.lt_irrefl _)
  rw [hfirst, hlast, List.append_nil]
  rfl

end Naming

/-! ### The symbols of notifications are their names -/

namespace Notification

variable {ns : List Notification} {n : Notification}

/-- What can be collected as a symbol: a name or a literal, with a text. -/
def Spelled (p : Naming × Lexeme) : Prop :=
  p.2.symbolName = p.2.text ∧ p.2.text ≠ []

/-- **What a notification says about symbols**: nothing, or one declaration, or one use. -/
theorem named?_cases (n : Notification) (h : ∀ p, n.named? = some p → Spelled p) :
    (n.named? = none ∧ (∀ kind, n.declares? kind = none) ∧ n.declaresAny? = none ∧
        ∀ context, n.use? context = none) ∨
      (∃ kind x, n.named? = some (.declaration kind, x) ∧
        (∀ k, n.declares? k = if kind = k then some ⟨x.text, x.position, none⟩ else none) ∧
        n.declaresAny? = some ⟨x.text, x.position, none⟩ ∧ ∀ context, n.use? context = none) ∨
      ∃ x, n.named? = some (.reference, x) ∧ (∀ kind, n.declares? kind = none) ∧
        n.declaresAny? = none ∧
        ∀ context, n.use? context = some ⟨x.text, x.position, context⟩ := by
  -- Without a next lexeme there is no name; with one, the checkpoint tells what the name is.
  cases hx : n.lookahead with
  | none =>
    have hsymbol : ∀ context, n.symbol? context = none := fun context => by simp [symbol?, hx]
    refine Or.inl ⟨by simp [named?, hx], ?_, ?_, ?_⟩ <;>
      simp [declares?, declaresAny?, use?, hsymbol]
  | some x =>
    have hsymbol : ∀ naming, n.named? = some (naming, x) →
        ∀ context, n.symbol? context = some ⟨x.text, x.position, context⟩ := by
      intro naming hnamed context
      obtain ⟨htext, hne⟩ := h _ hnamed
      simp [symbol?, hx, name, htext, hne]
    cases hd : n.checkpoint.declaration? with
    | some kind =>
      have hnamed : n.named? = some (.declaration kind, x) := by
        simp [named?, hx, Checkpoint.naming?, hd]
      refine Or.inr (Or.inl ⟨kind, x, hnamed, ?_, ?_, ?_⟩)
      · intro k
        simp [declares?, hd, hsymbol _ hnamed]
      · simp [declaresAny?, hd, hsymbol _ hnamed]
      · simp [use?, isReference_of_declaration? hd]
    | none =>
      cases hr : n.checkpoint.isReference with
      | true =>
        have hnamed : n.named? = some (.reference, x) := by
          simp [named?, hx, Checkpoint.naming?, hd, hr]
        refine Or.inr (Or.inr ⟨x, hnamed, ?_, ?_, ?_⟩)
        · simp [declares?, hd]
        · simp [declaresAny?, hd]
        · simp [use?, hr, hsymbol _ hnamed]
      | false =>
        refine Or.inl ⟨by simp [named?, Checkpoint.naming?, hd, hr], ?_, ?_, ?_⟩ <;>
          simp [declares?, declaresAny?, use?, hd, hr]

/-- **The symbols of some notifications, in terms of some names**: the declarations of each kind, the
last declaration, and the uses. -/
structure Reads (ns : List Notification) (l : List (Naming × Lexeme)) : Prop where
  declared : ∀ kind, declared kind ns = ((Naming.declarations l).filter (·.1 = kind)).map Prod.snd
  context : Notification.context ns = Naming.context l
  sites : (uses ns).map Symbol.site = (l.filterMap Naming.used?).map Lexeme.site
  inside : ∀ use ∈ uses ns, ∃ before x after, l = before ++ (.reference, x) :: after ∧
    use = ⟨x.text, x.position, Naming.context before⟩

/-- One more notification. -/
theorem Reads.concat {l : List (Naming × Lexeme)} (h : Reads ns l)
    (hn : ∀ p, n.named? = some p → Spelled p) : Reads (ns ++ [n]) (l ++ n.named?.toList) := by
  rcases n.named?_cases hn with ⟨hnamed, hdeclares, hany, huse⟩ |
    ⟨kind, x, hnamed, hdeclares, hany, huse⟩ | ⟨x, hnamed, hdeclares, hany, huse⟩
  · -- Nothing is named, and nothing changes.
    have huses : uses (ns ++ [n]) = uses ns := by simp [uses_concat, huse]
    rw [hnamed, Option.toList_none, List.append_nil]
    refine ⟨?_, ?_, ?_, ?_⟩
    · intro k
      rw [declared_concat, hdeclares, ← h.declared k]
      exact List.append_nil _
    · rw [context_concat, hany, ← h.context]
      rfl
    · rw [huses, h.sites]
    · rw [huses]
      exact h.inside
  · -- A declaration becomes the last one of its kind and of all.
    have huses : uses (ns ++ [n]) = uses ns := by simp [uses_concat, huse]
    rw [hnamed, Option.toList_some]
    refine ⟨?_, ?_, ?_, ?_⟩
    · intro k
      rw [declared_concat, hdeclares, h.declared k]
      by_cases hk : kind = k <;> simp [Naming.declarations, Naming.declared?, hk]
    · rw [context_concat, hany]
      simp [Naming.context, Naming.declarations, Naming.declared?]
    · rw [huses, h.sites]
      simp [Naming.used?]
    · rw [huses]
      intro use hmem
      obtain ⟨before, y, after, rfl, heq⟩ := h.inside use hmem
      exact ⟨before, y, after ++ [(.declaration kind, x)], by simp, heq⟩
  · -- A use stands inside the last declaration among the names before it.
    have huses : uses (ns ++ [n]) = uses ns ++ [⟨x.text, x.position, Naming.context l⟩] := by
      rw [uses_concat, huse, h.context]
      rfl
    rw [hnamed, Option.toList_some]
    refine ⟨?_, ?_, ?_, ?_⟩
    · intro k
      rw [declared_concat, hdeclares, h.declared k]
      simp [Naming.declarations, Naming.declared?]
    · rw [context_concat, hany, h.context]
      simp [Naming.context, Naming.declarations, Naming.declared?]
    · rw [huses, List.map_append, h.sites, List.filterMap_append, List.map_append]
      rfl
    · rw [huses]
      intro use hmem
      rcases List.mem_append.mp hmem with hmem | hmem
      · obtain ⟨before, y, after, rfl, heq⟩ := h.inside use hmem
        exact ⟨before, y, after ++ [(.reference, x)], by simp, heq⟩
      · exact ⟨l, x, [], rfl, List.mem_singleton.mp hmem⟩

/-- **The symbols of notifications are the names that they announce.** -/
theorem reads (ns : List Notification) (h : ∀ p ∈ ns.filterMap named?, Spelled p) :
    Reads ns (ns.filterMap named?) := by
  induction ns using List.reverseRecOn with
  | nil => exact ⟨fun _ => rfl, rfl, rfl, by simp [uses, usesAfter]⟩
  | append_singleton ns n ih =>
    have hlast : (ns ++ [n]).filterMap named? = ns.filterMap named? ++ n.named?.toList :=
      List.filterMap_append_toList named? ns (some n)
    rw [hlast] at h ⊢
    refine (ih ?_).concat ?_
    · intro p hp
      exact h p (List.mem_append_left _ hp)
    · intro p hp
      exact h p (List.mem_append_right _ (by simp [hp]))

/-- The uses stand in the order of their names. -/
theorem Reads.pairwise_uses {l : List (Naming × Lexeme)} (h : Reads ns l)
    (hl : Naming.Increasing l) : (uses ns).Pairwise fun u v => u.position < v.position := by
  have hsites := hl.used
  rw [← h.sites, List.pairwise_map] at hsites
  exact hsites

end Notification

/-! ### Declarations by kind -/

namespace DeclarationKind

variable {α : Type} {l : List (DeclarationKind × α)}

/-- **Where the sections come in order**, the declarations by kind are all declarations in order. -/
theorem append_filter (h : l.Pairwise fun p q => p.1.precedes q.1 = true) :
    l.filter (·.1 = .grammar) ++ l.filter (·.1 = .charSet) ++ l.filter (·.1 = .token) ++
      l.filter (·.1 = .production) = l := by
  induction l with
  | nil => rfl
  | cons p l ih =>
    obtain ⟨kind, a⟩ := p
    obtain ⟨hfirst, hrest⟩ := List.pairwise_cons.mp h
    have hnone : ∀ k, kind.precedes k = false → l.filter (·.1 = k) = [] := by
      intro k hk
      rw [List.filter_eq_nil_iff]
      rintro q hq heq
      have hprecedes := hfirst q hq
      rw [of_decide_eq_true heq, hk] at hprecedes
      cases hprecedes
    have ih := ih hrest
    cases kind with
    | grammar => simpa [hnone .grammar rfl] using ih
    | charSet => simpa [hnone .grammar rfl] using ih
    | token => simpa [hnone .grammar rfl, hnone .charSet rfl] using ih
    | production =>
      simpa [hnone .grammar rfl, hnone .charSet rfl, hnone .token rfl] using ih

/-- The kind of a declaration is known from the list it stands in. -/
theorem map_filter (kind : DeclarationKind) (l : List (DeclarationKind × α)) :
    ((l.filter (·.1 = kind)).map Prod.snd).map (kind, ·) = l.filter (·.1 = kind) := by
  have hself : (l.filter (·.1 = kind)).map (fun p => (kind, p.2)) =
      (l.filter (·.1 = kind)).map id := by
    refine List.map_congr_left ?_
    rintro ⟨k, a⟩ hmem
    obtain rfl : k = kind := of_decide_eq_true (List.mem_filter.mp hmem).2
    rfl
  rw [List.map_map]
  exact hself.trans (List.map_id _)

/-- A grammar is declared once at most. -/
theorem getLast?_filter_grammar (h : l.Pairwise fun p q => p.1.precedes q.1 = true) :
    (l.filter (·.1 = .grammar)).getLast?.toList = l.filter (·.1 = .grammar) := by
  have hpairwise := h.filter (·.1 = .grammar)
  cases hl : l.filter (·.1 = .grammar) with
  | nil => rfl
  | cons p rest =>
    cases rest with
    | nil => rfl
    | cons q rest =>
      have hp : p.1 = .grammar := by
        have hmem : p ∈ l.filter (·.1 = .grammar) := by simp [hl]
        exact of_decide_eq_true (List.mem_filter.mp hmem).2
      have hq : q.1 = .grammar := by
        have hmem : q ∈ l.filter (·.1 = .grammar) := by simp [hl]
        exact of_decide_eq_true (List.mem_filter.mp hmem).2
      rw [hl] at hpairwise
      have hprecedes := (List.pairwise_cons.mp hpairwise).1 q List.mem_cons_self
      rw [hp, hq] at hprecedes
      cases hprecedes

end DeclarationKind

/-! ### The names of a source without errors -/

/-- **A parse without errors announces the names of its lexemes.** -/
theorem Parsing.named_run {lexemes : List Lexeme} {stop : Position}
    (hnil : (start lexemes stop).run.2.diagnostics = []) :
    (start lexemes stop).run.1.filterMap Notification.named? = Lexeme.named lexemes := by
  obtain ⟨read, hread, htold⟩ := (reaches_run (start lexemes stop)).told hnil
  have hgoals := run_goals (start lexemes stop)
  have hafter := htold.after_of_goals_eq_nil hgoals
  have hpending : (start lexemes stop).run.2.pendingName = none := by
    rw [pendingName, hgoals]
    rfl
  have hnames : Lexeme.named lexemes = Lexeme.named read := by
    rw [← hread, Lexeme.named_append_of_after hafter]
  rw [htold.named, hpending, hnames]
  exact List.append_nil _

namespace ParseResult

variable {source : Text}

/-- **The names that a parse announces are the names of its source**, if there is no error. -/
theorem named_clean (hok : (ofSource source).isOk = true) :
    (ofSource source).clean.filterMap Notification.named? =
      Lexeme.named (Lexeme.scan source) := by
  have hrun := Parsing.reaches_run
    (.start (Lexeme.scan source) ((LineIndex.ofText source).position source.size))
  have hclean : (ofSource source).clean = (ofSource source).notifications := by
    rw [clean, List.filter_eq_self]
    intro n hn
    exact decide_eq_true (hrun.errorCount_eq_zero (List.isEmpty_iff.mp hok) n hn)
  rw [hclean]
  exact Parsing.named_run (List.isEmpty_iff.mp hok)

/-- **The declarations of a source come in the order of the sections.** -/
theorem pairwise_precedes (hok : (ofSource source).isOk = true) :
    (Naming.declarations (Lexeme.named (Lexeme.scan source))).Pairwise
      fun p q => p.1.precedes q.1 = true := by
  have hsections := (Parsing.reaches_run (.start (Lexeme.scan source)
    ((LineIndex.ofText source).position source.size))).sections (List.isEmpty_iff.mp hok)
  have hkinds : (ofSource source).notifications.Pairwise fun n m =>
      ∀ k, n.checkpoint.declaration? = some k → ∀ k', m.checkpoint.declaration? = some k' →
        k.precedes k' = true :=
    List.pairwise_filterMap.mp (List.pairwise_append.mp hsections).1
  have hkind : ∀ {n : Notification} {p d}, n.named? = some p → Naming.declared? p = some d →
      n.checkpoint.declaration? = some d.1 := by
    rintro n ⟨naming, x⟩ d hp hd
    obtain ⟨naming', hnaming, hx⟩ := Option.bind_eq_some_iff.mp hp
    obtain ⟨x', -, hpair⟩ := Option.map_eq_some_iff.mp hx
    obtain ⟨rfl, rfl⟩ := Prod.mk.inj hpair
    cases naming' with
    | reference => cases hd
    | declaration kind =>
      cases hd
      unfold Checkpoint.naming? at hnaming
      split at hnaming
      next k hk => simpa [hk] using hnaming
      next => split at hnaming <;> cases hnaming
  rw [← named_clean hok, Naming.declarations, List.pairwise_filterMap, List.pairwise_filterMap]
  refine (hkinds.sublist List.filter_sublist).imp ?_
  intro n m h p hp q hq d hd d' hd'
  exact h _ (hkind hp hd) _ (hkind hq hd')

end ParseResult

/-! ### The answer of a session -/

namespace Snapshot

/-- The declarations by kind, each of them with its kind. -/
def byKind (s : Snapshot) : List (DeclarationKind × Symbol) :=
  s.grammarName.toList.map (DeclarationKind.grammar, ·) ++
    s.charSets.map (DeclarationKind.charSet, ·) ++ s.tokens.map (DeclarationKind.token, ·) ++
    s.productions.map (DeclarationKind.production, ·)

theorem map_snd_byKind (s : Snapshot) : s.byKind.map Prod.snd = s.declared := by
  simp [byKind, declared, Function.comp_def]

/-- **The symbols of a snapshot, in terms of some names**: the declarations by kind are those of the
names, and so are all uses together, each of them inside the last declaration before it. -/
structure Collects (l : List (Naming × Lexeme)) (s : Snapshot) : Prop where
  byKind : s.byKind = Naming.declarations l
  sites : ((s.references.flatMap Prod.snd).map Symbol.site).Perm
    ((l.filterMap Naming.used?).map Lexeme.site)
  increasing : ∀ entry ∈ s.references, entry.2.Pairwise fun u v => u.position < v.position
  inside : ∀ entry ∈ s.references, ∀ use ∈ entry.2, use.name = entry.1 ∧
    ∃ before x after, l = before ++ (.reference, x) :: after ∧
      use = ⟨x.text, x.position, Naming.context before⟩

variable {l : List (Naming × Lexeme)} {s : Snapshot}

/-- **Every name is a symbol, and every symbol is a name.** -/
theorem Collects.perm_sites (h : s.Collects l) :
    ((s.declared ++ s.references.flatMap Prod.snd).map Symbol.site).Perm
      (l.map (·.2.site)) := by
  have hdeclared : s.declared.map Symbol.site = (Naming.declarations l).map (·.2.site) := by
    rw [← s.map_snd_byKind, h.byKind, List.map_map]
    rfl
  rw [List.map_append, hdeclared]
  exact (h.sites.append_left _).trans (Naming.perm_site l).symm

/-- The symbols with some property of their texts and positions. -/
theorem Collects.perm_filter (h : s.Collects l) (q : Text × Position → Bool) :
    (((s.declared ++ s.references.flatMap Prod.snd).filter fun e => q e.site).map
      Symbol.site).Perm ((l.filter fun p => q p.2.site).map (·.2.site)) := by
  have hperm := h.perm_sites.filter q
  rw [List.filter_map, List.filter_map] at hperm
  exact hperm

/-- **A use stands inside the last declaration with a smaller position.** -/
theorem Collects.context_eq (h : s.Collects l) (hl : Naming.Increasing l)
    {entry : Text × List Symbol} (hentry : entry ∈ s.references) {use : Symbol}
    (huse : use ∈ entry.2) :
    use.context =
      ((s.declared.filter (·.position.isBefore use.position)).getLast?).map Symbol.name := by
  obtain ⟨-, before, x, after, rfl, rfl⟩ := h.inside entry hentry use huse
  rw [← s.map_snd_byKind, h.byKind, List.filter_map, List.getLast?_map, Option.map_map]
  change Naming.context before = ((Naming.declarations _).filter
    (·.2.position.isBefore x.position)).getLast?.map (·.2.name)
  rw [hl.filter_declarations]
  rfl

/-- Where the declarations by kind stand in order, they are in the order of the source. -/
theorem declarations_eq_byKind
    (h : s.byKind.Pairwise fun p q => p.2.position < q.2.position) :
    Navigation.declarations s = s.byKind := by
  refine List.mergeSort_of_pairwise (h.imp ?_)
  intro p q hlt
  have hnot : ¬q.2.position < p.2.position := Position.not_lt_of_lt hlt (Position.lt_irrefl _)
  simp [Position.isBefore, hnot]

theorem mem_tokens_of_mem_byKind {e : Symbol} (h : (DeclarationKind.token, e) ∈ s.byKind) :
    e ∈ s.tokens := by
  simpa [byKind] using h

end Snapshot

namespace Session

open Notification

/-- **What a session answers is what a tracker has collected**, with a cursor or without one. The
last checkpoint is that of the last notification before the cursor, if it has not been forgotten. -/
theorem exists_collected_serve (session : Session) (source : Text) (cursor : Option Position) :
    ∃ t : Tracker, Tracker.Collected (ParseResult.ofSource source).clean t ∧
      (t.last = none ∨ t.last = (beforeCursor cursor
        (ParseResult.ofSource source).clean).getLast?.map Notification.checkpoint) ∧
      (session.serve source cursor).1 =
        .ofTracker t (ParseResult.ofSource source).diagnostics := by
  obtain ⟨heard, hknows, hhear⟩ := ParseResult.knows_hearAll source session.tracker cursor
  refine ⟨_, ?_, ?_,
    congrArg (Snapshot.ofTracker · (ParseResult.ofSource source).diagnostics) hhear⟩
  · rw [Tracker.finish, Tracker.discard_eq]
    exact hknows.toCollected.withSight _ _
  · rw [Tracker.finish, Tracker.discard_eq, ← hknows.last]
    dsimp only
    split
    · exact Or.inl rfl
    · exact Or.inr rfl

/-- What a session answers without a cursor. -/
theorem exists_collected (session : Session) (source : Text) :
    ∃ t : Tracker, Tracker.Collected (ParseResult.ofSource source).clean t ∧
      (session.symbols source).1 = .ofTracker t (ParseResult.ofSource source).diagnostics := by
  obtain ⟨t, hcollected, -, hanswer⟩ := session.exists_collected_serve source none
  exact ⟨t, hcollected, hanswer⟩

/-- **A session collects the names of a source without errors.** -/
theorem collects_symbols (session : Session) {source : Text}
    (hok : (ParseResult.ofSource source).isOk = true) :
    (session.symbols source).1.Collects (Lexeme.named (Lexeme.scan source)) := by
  obtain ⟨t, hcollected, hanswer⟩ := session.exists_collected source
  have hspelled : ∀ p ∈ (ParseResult.ofSource source).clean.filterMap named?, Spelled p := by
    rw [ParseResult.named_clean hok]
    intro p hp
    obtain ⟨hmem, hsymbol⟩ := Lexeme.mem_of_mem_named hp
    exact ⟨by simp [Lexeme.symbolName, hsymbol], Lexeme.text_ne_nil_of_mem_scan hmem⟩
  have hreads := reads _ hspelled
  rw [ParseResult.named_clean hok] at hreads
  -- The uses of one name are some of all uses, in the same order.
  have hentry : ∀ entry ∈ t.references,
      entry.2 = (uses (ParseResult.ofSource source).clean).filter (·.name = entry.1) := by
    intro entry hmem
    rw [← hcollected.references, hcollected.sorted.get_of_mem hmem]
  rw [hanswer]
  refine ⟨?_, ?_, ?_, ?_⟩
  · have hsections := ParseResult.pairwise_precedes hok
    have hgrammar : t.grammarName.toList.map (DeclarationKind.grammar, ·) =
        (Naming.declarations (Lexeme.named (Lexeme.scan source))).filter (·.1 = .grammar) := by
      rw [hcollected.grammarName, hreads.declared, List.getLast?_map, Option.toList_map,
        DeclarationKind.getLast?_filter_grammar hsections, DeclarationKind.map_filter]
    change t.grammarName.toList.map _ ++ t.charSets.map _ ++ t.tokens.map _ ++
      t.productions.map _ = _
    rw [hgrammar, hcollected.charSets, hcollected.tokens, hcollected.productions]
    simp only [hreads.declared, DeclarationKind.map_filter]
    exact DeclarationKind.append_filter hsections
  · rw [← hreads.sites]
    exact (hcollected.sorted.perm_flatMap hcollected.references hcollected.names).map _
  · intro entry hmem
    rw [hentry entry hmem]
    exact (hreads.pairwise_uses
      (Lexeme.pairwise_named (Lexeme.pairwise_scan source))).filter _
  · intro entry hmem use huse
    rw [hentry entry hmem] at huse
    obtain ⟨hused, hname⟩ := List.mem_filter.mp huse
    exact ⟨of_decide_eq_true hname, hreads.inside use hused⟩

end Session

/-- A symbol that is collected from a source is a word exactly if it is no literal. -/
theorem Lexeme.isWord_of_mem_named {source : Text} {p : Naming × Lexeme}
    (hp : p ∈ named (scan source)) :
    p.2.text.head?.any Text.startsWord = decide (p.2.token = some .ident) := by
  obtain ⟨hmem, hsymbol⟩ := mem_of_mem_named hp
  exact startsWord_of_mem_scan hmem hsymbol

/-- **The literals among the symbols are declared as tokens.** -/
theorem Snapshot.Collects.mem_tokens {source : Text} {s : Snapshot}
    (h : s.Collects (Lexeme.named (Lexeme.scan source))) {e : Symbol}
    (he : e ∈ s.declared ++ s.references.flatMap Prod.snd) (hword : e.isWord = false) :
    e ∈ s.tokens := by
  have hnaming : ∀ p ∈ Lexeme.named (Lexeme.scan source), e.name = p.2.text →
      p.1 = .declaration .token := by
    intro p hp hname
    refine Lexeme.naming_of_mem_named hp ?_
    have hp := Lexeme.isWord_of_mem_named hp
    rw [← hname] at hp
    exact of_decide_eq_false (hp.symm.trans hword)
  rcases List.mem_append.mp he with he | he
  · rw [← s.map_snd_byKind] at he
    obtain ⟨⟨kind, e'⟩, hd, rfl⟩ := List.mem_map.mp he
    refine Snapshot.mem_tokens_of_mem_byKind ?_
    have hmem := hd
    rw [h.byKind] at hmem
    obtain ⟨⟨naming, x⟩, hp, hdeclared⟩ := List.mem_filterMap.mp hmem
    cases naming with
    | reference => cases hdeclared
    | declaration kind' =>
      cases hdeclared
      cases hnaming _ hp rfl
      exact hd
  · obtain ⟨entry, hentry, huse⟩ := List.mem_flatMap.mp he
    obtain ⟨-, before, x, after, hl, rfl⟩ := h.inside entry hentry e huse
    cases hnaming (.reference, x) (by simp [hl]) rfl

/-- **The symbols of a source without errors are its names.** The symbols that are named by words,
declared or used, correspond one to one to the names outside host code, by text and position. All
others correspond to the literals that are declared in the sections of tokens, and are tokens. The
declarations by kind stand in the order of the source, which is the order of the outline. The uses of
a name stand in the order of the source, and a use stands inside the last declaration before it. -/
theorem Session.symbols_correspond (session : Session) (source : Text)
    (hok : (ParseResult.ofSource source).isOk = true) :
    let answer := (session.symbols source).1
    let entries := answer.declared ++ answer.references.flatMap Prod.snd
    let lexemes := Spot.start.annotate (Lexeme.scan source)
    ((entries.filter (·.isWord)).map Symbol.site).Perm
        ((lexemes.filter fun p => p.1.isName p.2.token).map (·.2.site)) ∧
      ((entries.filter (!·.isWord)).map Symbol.site).Perm
        ((lexemes.filter fun p => p.1.isLiteralName p.2.token).map (·.2.site)) ∧
      (∀ e ∈ entries, e.isWord = false → e ∈ answer.tokens) ∧
      (answer.declared.Pairwise fun e e' => e.position < e'.position) ∧
      Navigation.declarations answer = answer.byKind ∧
      ∀ entry ∈ answer.references,
        (entry.2.Pairwise fun u v => u.position < v.position) ∧
          ∀ use ∈ entry.2, use.name = entry.1 ∧
            use.context =
              (answer.declared.filter (·.position.isBefore use.position)).getLast?.map
                Symbol.name := by
  intro answer entries lexemes
  have hcollects : answer.Collects (Lexeme.named (Lexeme.scan source)) :=
    session.collects_symbols hok
  have hincreasing : Naming.Increasing (Lexeme.named (Lexeme.scan source)) :=
    Lexeme.pairwise_named (Lexeme.pairwise_scan source)
  have hdeclarations := hincreasing.declarations
  rw [← hcollects.byKind] at hdeclarations
  refine ⟨?_, ?_, fun e he => hcollects.mem_tokens he, ?_,
    Snapshot.declarations_eq_byKind hdeclarations, ?_⟩
  -- In both cases the first character of a text tells what the token of its lexeme is.
  · rw [← Lexeme.map_filter_named Lexeme.site Spot.isName_eq]
    refine (hcollects.perm_filter (·.1.head?.any Text.startsWord)).trans (.of_eq ?_)
    congr 1
    exact List.filter_congr fun p hp => Lexeme.isWord_of_mem_named hp
  · rw [← Lexeme.map_filter_named Lexeme.site Spot.isLiteralName_eq]
    refine (hcollects.perm_filter (!·.1.head?.any Text.startsWord)).trans (.of_eq ?_)
    congr 1
    refine List.filter_congr fun p hp => ?_
    rw [decide_not, ← Lexeme.isWord_of_mem_named hp]
    rfl
  · rw [← Snapshot.map_snd_byKind, List.pairwise_map]
    exact hdeclarations
  · intro entry hentry
    refine ⟨hcollects.increasing entry hentry, ?_⟩
    intro use huse
    exact ⟨(hcollects.inside entry hentry use huse).1,
      hcollects.context_eq hincreasing hentry huse⟩

/-- Names before and after the grammar, in global code, attributes, an action and a condition are no
symbols, and neither is a literal that is only used. -/
theorem Session.symbols_correspond_look_alikes :
    let source := ("x COMPILER A y CHARACTERS d=\"01\". TOKENS n=d\x7bd\x7d. \"if\" " ++
      "PRODUCTIONS A<v>=n(.w.)|IF(z)\"if\". END A. t").toList
    let answer := (({} : Session).symbols source).1
    let entries := answer.declared ++ answer.references.flatMap Prod.snd
    (ParseResult.ofSource source).isOk = true ∧
      ((entries.filter (·.isWord)).map Symbol.site).Perm
        [(['A'], ⟨1, 12⟩), (['d'], ⟨1, 27⟩), (['n'], ⟨1, 42⟩), (['d'], ⟨1, 44⟩), (['d'], ⟨1, 46⟩),
          (['A'], ⟨1, 67⟩), (['n'], ⟨1, 72⟩), (['A'], ⟨1, 94⟩)] ∧
      ((entries.filter (!·.isWord)).map Symbol.site).Perm [("\"if\"".toList, ⟨1, 50⟩)] := by
  intro source answer entries
  have hok : (ParseResult.ofSource source).isOk = true := by decide +kernel
  obtain ⟨hwords, hliterals, -⟩ := Session.symbols_correspond ({} : Session) source hok
  refine ⟨hok, hwords.trans (.of_eq ?_), hliterals.trans (.of_eq ?_)⟩ <;> decide +kernel

end GrammarWorkbench
