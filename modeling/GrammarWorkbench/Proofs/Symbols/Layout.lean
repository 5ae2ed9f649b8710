import GrammarWorkbench.Proofs.Completion.Independence
import GrammarWorkbench.Proofs.Parse.Spacing

/-!
# Layout does not matter

White space, line breaks, comments and pragmas between the lexemes of a source decide where the
lexemes stand, and nothing else. A parse hands positions on but never looks at them: to **move** all
lexemes, by any function of positions whatsoever, is to move the results
(`GrammarWorkbench.Parsing.run_moved`). The same is true of a tracker without a cursor
(`GrammarWorkbench.Tracker.hearAll_moved`).

So each position can be replaced by the index of the lexeme that stands there. Two sources with the
same lexemes, wherever these stand, become the same by that, and have the same results up to
positions: `GrammarWorkbench.Session.symbols_congr_layout`.
-/

namespace GrammarWorkbench

/-! ### Moving the data of a parse -/

section Moved

variable (f : Position → Position)

/-- A lexeme at another position. How many bytes stand before it is forgotten. -/
def Lexeme.moved (x : Lexeme) : Lexeme :=
  { x with start := 0, position := f x.position }

/-- A diagnostic at another position. -/
def Diagnostic.moved (d : Diagnostic) : Diagnostic :=
  { d with position := f d.position }

/-- A notification about moved lexemes. -/
def Notification.moved (n : Notification) : Notification :=
  { n with
    lookahead := n.lookahead.map (Lexeme.moved f)
    current := f n.current
    firstError := n.firstError.map f }

/-- A parse of moved lexemes. -/
def Parsing.moved (s : Parsing) : Parsing :=
  { s with
    rest := s.rest.map (Lexeme.moved f)
    current := f s.current
    diagnostics := s.diagnostics.map (Diagnostic.moved f)
    stop := f s.stop }

/-- The results of a parse of moved lexemes. -/
def ParseResult.moved (r : ParseResult) : ParseResult :=
  ⟨r.notifications.map (Notification.moved f), r.diagnostics.map (Diagnostic.moved f)⟩

/-- A symbol at another position. -/
def Symbol.moved (s : Symbol) : Symbol :=
  { s with position := f s.position }

/-- The uses of moved symbols. -/
def References.moved (refs : References) : References :=
  refs.map fun entry => (entry.1, entry.2.map (Symbol.moved f))

/-- A tracker of moved symbols. -/
def Tracker.moved (t : Tracker) : Tracker :=
  { t with
    grammarName := t.grammarName.map (Symbol.moved f)
    charSets := t.charSets.map (Symbol.moved f)
    tokens := t.tokens.map (Symbol.moved f)
    productions := t.productions.map (Symbol.moved f)
    references := t.references.moved f }

end Moved

/-! ### A parse does not look at positions -/

namespace Parsing

variable {f : Position → Position} (s : Parsing)

theorem lookahead_moved : (s.moved f).lookahead = s.lookahead := by
  obtain ⟨goals, rest⟩ := s
  cases rest <;> rfl

theorem lookaheadPosition_moved : (s.moved f).lookaheadPosition = f s.lookaheadPosition := by
  obtain ⟨goals, rest⟩ := s
  cases rest <;> rfl

theorem report_moved (e : SyntaxError) : (s.moved f).report e = (s.report e).moved f := by
  unfold report
  rw [lookaheadPosition_moved]
  by_cases h : minErrorDistance ≤ s.distance
  · rw [if_pos h, if_pos (show minErrorDistance ≤ (s.moved f).distance from h)]
    simp [moved, Diagnostic.moved]
  · rw [if_neg h, if_neg (show ¬minErrorDistance ≤ (s.moved f).distance from h)]
    rfl

theorem dropInvalid_moved (rest : List Lexeme) :
    (s.moved f).dropInvalid (rest.map (Lexeme.moved f)) = (s.dropInvalid rest).moved f := by
  induction rest generalizing s with
  | nil => rfl
  | cons x rest ih =>
    rw [List.map_cons, dropInvalid, dropInvalid]
    have htoken : (x.moved f).token = x.token := rfl
    rw [htoken]
    cases x.token with
    | some t => rfl
    | none =>
      -- The invalid lexeme is reported and consumed on both sides.
      refine Eq.trans ?_
        (ih ((({ s with rest := x :: rest }).report .invalidSymbol).consume x rest))
      have hreport := report_moved (f := f) { s with rest := x :: rest } .invalidSymbol
      exact congrArg (fun m => (consume m (x.moved f) (rest.map (Lexeme.moved f))).dropInvalid
        (rest.map (Lexeme.moved f))) hreport

theorem notice_moved (c : Checkpoint) : (s.moved f).notice c = (s.notice c).moved f := by
  obtain ⟨goals, rest, current, distance, diagnostics⟩ := s
  cases rest <;> cases diagnostics <;> simp [moved, notice, Notification.moved, Diagnostic.moved]

theorem stand_moved (gs : List Goal) (m : Still) :
    (s.moved f).stand gs m =
      ((s.stand gs m).1.map (Notification.moved f), (s.stand gs m).2.moved f) := by
  cases m with
  | pass => rfl
  | tell c => exact congrArg (fun n => (some n, { s.moved f with goals := gs })) (notice_moved s c)
  | note e => exact congrArg (fun m => (none, { m with goals := gs })) (report_moved s e)
  | fail e => exact congrArg (fun m => (none, { m with goals := unwind gs })) (report_moved s e)

theorem advance_moved : (s.moved f).advance = s.advance.moved f := by
  obtain ⟨goals, rest⟩ := s
  cases rest <;> rfl

theorem get_moved : (s.moved f).get = s.get.moved f := by
  rw [get, advance_moved]
  exact dropInvalid_moved s.advance s.advance.rest

theorem act_moved (gs : List Goal) (m : Move) :
    (s.moved f).act gs m =
      ((s.act gs m).1.map (Notification.moved f), (s.act gs m).2.moved f) := by
  cases m with
  | still m => exact stand_moved s gs m
  | take before next =>
    have hnotice : before.map (s.moved f).notice =
        (before.map s.notice).map (Notification.moved f) := by
      cases before with
      | none => rfl
      | some c => exact congrArg some (notice_moved s c)
    simp only [act, hnotice, get_moved]
    rfl
  | skip next =>
    simp only [act, advance_moved]
    rfl
  | spoil before e next =>
    simp only [act, notice_moved, report_moved]
    rfl

/-- **A step takes the same turn wherever the lexemes stand.** -/
theorem step_moved (g : Goal) (gs : List Goal) :
    (s.moved f).step g gs =
      ((s.step g gs).1.map (Notification.moved f), (s.step g gs).2.moved f) := by
  unfold step
  rw [lookahead_moved]
  exact act_moved s gs (g.meet s.lookahead)

/-- **A run is the same wherever the lexemes stand.** -/
theorem run_moved :
    (s.moved f).run = (s.run.1.map (Notification.moved f), s.run.2.moved f) := by
  fun_induction run s with
  | case1 s h => exact run_of_goals_nil h
  | case2 s g gs h this notices last hrun ih =>
    have hgoals : (s.moved f).goals = g :: gs := h
    rw [run_of_goals_cons hgoals, step_moved, ih, hrun]
    cases (s.step g gs).1 <;> rfl

end Parsing

/-! ### A tracker without a cursor does not look at positions -/

theorem References.add_moved {f : Position → Position} (refs : References) (name : Text)
    (use : Symbol) : (refs.add name use).moved f = (refs.moved f).add name (use.moved f) := by
  induction refs with
  | nil => rfl
  | cons entry refs ih =>
    obtain ⟨n, uses⟩ := entry
    change _ = add name (use.moved f) ((n, uses.map (Symbol.moved f)) :: moved f refs)
    rw [add, add]
    split
    · simp [moved]
    · split
      · rw [← ih]
        rfl
      · rfl

namespace Tracker

variable {f : Position → Position} (t : Tracker) (n : Notification)

theorem declare_moved (kind : DeclarationKind) (s : Symbol) :
    (t.moved f).declare kind (s.moved f) = (t.declare kind s).moved f := by
  cases kind <;> simp [declare, moved, Symbol.moved]

/-- **What is collected depends on texts**, and takes its position along. -/
theorem collect_moved : (t.moved f).collect (n.moved f) = (t.collect n).moved f := by
  have hname : (n.moved f).name = n.name := by
    unfold Notification.name
    cases hx : n.lookahead <;> simp [Notification.moved, hx, Lexeme.moved, Lexeme.symbolName]
  unfold collect
  rw [hname]
  cases hx : n.lookahead with
  | none => simp [Notification.moved, hx]
  | some x =>
    have hx' : (n.moved f).lookahead = some (x.moved f) := by simp [Notification.moved, hx]
    have hcheckpoint : (n.moved f).checkpoint = n.checkpoint := rfl
    rw [hx', hcheckpoint]
    dsimp only
    split
    · rfl
    · split
      · exact declare_moved t _ ⟨n.name, x.position, none⟩
      · split
        · have hadd := References.add_moved (f := f) t.references n.name
            ⟨n.name, x.position, t.context⟩
          simp only [moved, hadd]
          rfl
        · rfl

theorem hear_moved (h : t.target = none) :
    (t.moved f).hear (n.moved f) = (t.hear n).moved f := by
  have hcount : (n.moved f).errorCount = n.errorCount := rfl
  have htarget : (t.moved f).target = none := h
  unfold hear
  rw [hcount]
  split
  · rw [follow_of_target ((target_collect _ _).trans htarget),
      follow_of_target ((target_collect _ _).trans h), collect_moved]
  · rw [discard_of_target htarget, discard_of_target h]

/-- **The symbols of a parse are the same wherever its lexemes stand.** -/
theorem hearAll_moved (h : t.target = none) (r : ParseResult) :
    (t.moved f).hearAll (r.moved f) = (t.hearAll r).moved f := by
  have hfold : ∀ (ns : List Notification) (t : Tracker), t.target = none →
      (ns.map (Notification.moved f)).foldl hear (t.moved f) = (ns.foldl hear t).moved f ∧
        (ns.foldl hear t).target = none := by
    intro ns
    induction ns with
    | nil => exact fun t h => ⟨rfl, h⟩
    | cons n ns ih =>
      intro t h
      rw [List.map_cons, List.foldl_cons, List.foldl_cons, hear_moved t n h]
      exact ih (t.hear n) ((target_hear t n).trans h)
  obtain ⟨hmoved, htarget⟩ := hfold r.notifications t h
  rw [hearAll, hearAll, finish, finish, discard_of_target htarget]
  change ((r.notifications.map (Notification.moved f)).foldl hear (t.moved f)).discard _ = _
  have htarget' : ((r.notifications.foldl hear t).moved f).target = none := htarget
  rw [hmoved, discard_of_target htarget']

end Tracker

/-! ### Indices for positions -/

namespace Lexeme

/-- What a lexeme is, wherever it stands. -/
def content (x : Lexeme) : Option Token × Text := (x.token, x.text)

/-- The index of the lexeme at a position, put into a position. -/
def index (lexemes : List Lexeme) (p : Position) : Position :=
  ⟨0, lexemes.findIdx (·.position = p)⟩

variable {lexemes lexemes' : List Lexeme}

/-- **Moved to their indices**, lexemes are known by what they are. -/
theorem moved_index (h : lexemes.Pairwise fun x y => x.position < y.position) :
    lexemes.map (moved (index lexemes)) =
      (lexemes.map content).mapIdx fun i k => ⟨k.1, 0, k.2, ⟨0, i⟩⟩ := by
  refine List.ext_getElem (by simp) ?_
  intro i hi _
  rw [List.length_map] at hi
  -- No earlier lexeme stands at the position of this one.
  have hidx : lexemes.findIdx (·.position = lexemes[i].position) = i := by
    rw [List.findIdx_eq hi]
    refine ⟨decide_eq_true rfl, ?_⟩
    intro j hji
    have hlt := List.pairwise_iff_getElem.mp h j i (by omega) hi hji
    refine decide_eq_false ?_
    intro heq
    exact Position.lt_irrefl _ (heq ▸ hlt)
  simp [moved, index, content, hidx]

/-- A position at which no lexeme stands goes behind the last one. -/
theorem index_of_ne {p : Position} (h : ∀ x ∈ lexemes, x.position ≠ p) :
    index lexemes p = ⟨0, lexemes.length⟩ := by
  rw [index, List.findIdx_eq_length_of_false fun x hx => decide_eq_false (h x hx)]

end Lexeme

/-- The start of a parse of lexemes that stand at their indices. -/
def Parsing.startIndexed (contents : List (Option Token × Text)) : Parsing :=
  { start (contents.mapIdx fun i k => ⟨k.1, 0, k.2, ⟨0, i⟩⟩) ⟨0, contents.length⟩ with
    current := ⟨0, contents.length⟩ }

/-- **With indices for positions**, sources differ in what their lexemes are and in nothing else. -/
theorem Parsing.start_moved_index (source : Text) :
    (start (Lexeme.scan source) ((LineIndex.ofText source).position source.size)).moved
        (Lexeme.index (Lexeme.scan source)) =
      startIndexed ((Lexeme.scan source).map Lexeme.content) := by
  have hinOrder := inOrder_start source
  have hrest := Lexeme.moved_index (Lexeme.pairwise_scan source)
  have hcurrent : Lexeme.index (Lexeme.scan source) ⟨0, 0⟩ = ⟨0, (Lexeme.scan source).length⟩ :=
    Lexeme.index_of_ne fun x hx heq => Position.lt_irrefl _ (heq ▸ hinOrder.current x hx)
  have hstop : Lexeme.index (Lexeme.scan source) ((LineIndex.ofText source).position source.size) =
      ⟨0, (Lexeme.scan source).length⟩ :=
    Lexeme.index_of_ne fun x hx heq => Position.lt_irrefl _ (heq ▸ hinOrder.stop x hx)
  simp only [moved, start, startIndexed, List.map_nil, hrest, hcurrent, hstop, List.length_map]

/-- **Two sources with the same lexemes have the same results**, up to positions. -/
theorem ParseResult.moved_congr {source source' : Text}
    (h : (Lexeme.scan source).map Lexeme.content = (Lexeme.scan source').map Lexeme.content) :
    (ofSource source).moved (Lexeme.index (Lexeme.scan source)) =
      (ofSource source').moved (Lexeme.index (Lexeme.scan source')) := by
  have hrun : ∀ source : Text, (ofSource source).moved (Lexeme.index (Lexeme.scan source)) =
      ⟨(Parsing.startIndexed ((Lexeme.scan source).map Lexeme.content)).run.1,
        (Parsing.startIndexed ((Lexeme.scan source).map Lexeme.content)).run.2.diagnostics⟩ := by
    intro source
    rw [← Parsing.start_moved_index, Parsing.run_moved]
    rfl
  rw [hrun, hrun, h]

/-! ### What two sources have in common -/

/-- What a notification says, positions left aside. -/
def Notification.content (n : Notification) : Checkpoint × Text × Nat :=
  (n.checkpoint, n.name, n.errorCount)

/-- What a symbol is, wherever it stands. -/
def Symbol.content (s : Symbol) : Text × Option Text := (s.name, s.context)

/-- The names of a snapshot, list by list, each with the declaration around it. -/
def Snapshot.content (s : Snapshot) :
    Option (Text × Option Text) × List (Text × Option Text) × List (Text × Option Text) ×
      List (Text × Option Text) × List (Text × List (Text × Option Text)) :=
  (s.grammarName.map Symbol.content, s.charSets.map Symbol.content, s.tokens.map Symbol.content,
    s.productions.map Symbol.content,
    s.references.map fun entry => (entry.1, entry.2.map Symbol.content))

section Content

variable {f : Position → Position}

theorem Notification.content_moved (n : Notification) : (n.moved f).content = n.content := by
  unfold content name
  cases hx : n.lookahead <;> simp [moved, hx, Lexeme.moved, Lexeme.symbolName]

theorem Symbol.content_moved (s : Symbol) : (s.moved f).content = s.content := rfl

theorem Snapshot.content_moved (t : Tracker) (ds ds' : List Diagnostic) :
    (ofTracker (t.moved f) ds).content = (ofTracker t ds').content := by
  have hmap : ∀ l : List Symbol, (l.map (Symbol.moved f)).map Symbol.content =
      l.map Symbol.content := by
    intro l
    rw [List.map_map]
    rfl
  have hoption : (t.grammarName.map (Symbol.moved f)).map Symbol.content =
      t.grammarName.map Symbol.content := by
    rw [Option.map_map]
    rfl
  simp only [content, ofTracker, Tracker.moved, References.moved, List.map_map, hmap, hoption,
    Function.comp_def]

end Content

/-- **Layout does not matter.** Two sources with the same lexemes, comments left aside, by token and
text and wherever they stand, have notifications with the same checkpoints, the same names ahead and
the same numbers of errors, and diagnostics with the same messages at the same lexemes. The symbols
have the same names in the same lists, in the same order, inside the same declarations. -/
theorem Session.symbols_congr_layout (session session' : Session) (source source' : Text)
    (h : (Lexeme.scan source).map Lexeme.content = (Lexeme.scan source').map Lexeme.content) :
    let parse := ParseResult.ofSource source
    let parse' := ParseResult.ofSource source'
    parse.notifications.map Notification.content = parse'.notifications.map Notification.content ∧
      (parse.diagnostics.map fun d => (d.message, d.place (Lexeme.scan source))) =
        (parse'.diagnostics.map fun d => (d.message, d.place (Lexeme.scan source'))) ∧
      (session.symbols source).1.content = (session'.symbols source').1.content := by
  intro parse parse'
  have hmoved := ParseResult.moved_congr h
  have hnotifications := congrArg ParseResult.notifications hmoved
  have hdiagnostics := congrArg ParseResult.diagnostics hmoved
  refine ⟨?_, ?_, ?_⟩
  · have hcontent := congrArg (List.map Notification.content) hnotifications
    simpa only [ParseResult.moved, List.map_map, Function.comp_def,
      Notification.content_moved] using hcontent
  · have hplaces := congrArg (List.map fun d => (d.message, d.position.column)) hdiagnostics
    simp only [ParseResult.moved, List.map_map] at hplaces
    exact hplaces
  · -- A tracker hears the same from both parses once they are moved.
    have hheard : ∀ (session : Session) (source : Text), (session.symbols source).1.content =
        (Snapshot.ofTracker ((session.tracker.begin none).hearAll
        ((ParseResult.ofSource source).moved (Lexeme.index (Lexeme.scan source)))) []).content := by
      intro session source
      have hear := Tracker.hearAll_moved (f := Lexeme.index (Lexeme.scan source))
        (session.tracker.begin none) rfl (ParseResult.ofSource source)
      exact (Snapshot.content_moved _ [] _).symm.trans
        (congrArg (fun t => (Snapshot.ofTracker t []).content) hear.symm)
    rw [hheard, hheard, hmoved]
    rfl

/-- A grammar in one line and the same grammar in several, with a comment and a pragma: both have
the same error at the same lexeme. -/
theorem Session.symbols_congr_layout_lines :
    let source := "COMPILER A PRODUCTIONS A=b. B=)c. END A.".toList
    let source' := "COMPILER A // x\n PRODUCTIONS A\t= b.\r\nB /* . */=$y )\nc. END\nA.".toList
    (Lexeme.scan source).map Lexeme.content = (Lexeme.scan source').map Lexeme.content ∧
      (Snapshot.ofSource source).content = (Snapshot.ofSource source').content ∧
      (ParseResult.ofSource source').diagnostics.map
          (fun d => (d.message, d.place (Lexeme.scan source'))) =
        [("\".\" expected".toList, 9)] := by
  intro source source'
  have hsame : (Lexeme.scan source).map Lexeme.content =
      (Lexeme.scan source').map Lexeme.content := by decide +kernel
  obtain ⟨-, hdiagnostics, hsymbols⟩ :=
    Session.symbols_congr_layout ({} : Session) ({} : Session) source source' hsame
  refine ⟨hsame, hsymbols, hdiagnostics.symm.trans ?_⟩
  decide +kernel

end GrammarWorkbench
