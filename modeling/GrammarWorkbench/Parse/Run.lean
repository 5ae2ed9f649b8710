import GrammarWorkbench.Parse.Goal
import GrammarWorkbench.Parse.Notification

/-!
# Parsing a grammar

Parsing starts with the goals of a whole grammar and the lexemes of a source, and carries out one
move of the table after the other until no goal is left. Its results are the notifications of the
checkpoints that it passed and the diagnostics that it recorded.

* **Errors keep a distance**: after an error, further ones go unrecorded until two lexemes have been
  consumed. An unrecorded error starts the count again.
* **Errors are caught at the end of a declaration**: the remaining goals of the declaration are
  dropped, and text is skipped up to a period or to the keyword of a section.
* **Pieces of text that are no tokens** are errors where a token has been taken before them, and are
  of no interest where host code is skipped.

`GrammarWorkbench.Parsing.step` carries out one move. Every step lowers
`GrammarWorkbench.Parsing.potential`, so that `GrammarWorkbench.Parsing.run` comes to an end. Nothing
in the form of a move makes it so: it is the table that does not consume at the end of the source,
and that puts a failed declaration back only where the recovery has something to consume.
-/

namespace GrammarWorkbench

/-- The state of a parse. -/
structure Parsing where
  /-- What has still to be found. -/
  goals : List Goal
  /-- The lexemes that are not consumed. -/
  rest : List Lexeme
  /-- The position of the last consumed lexeme. -/
  current : Position
  /-- The number of lexemes consumed since the last error. -/
  distance : Nat
  diagnostics : List Diagnostic
  /-- The position of the end of the source. -/
  stop : Position
deriving DecidableEq, Repr

/-- The result of a parse. -/
structure ParseResult where
  notifications : List Notification
  diagnostics : List Diagnostic
deriving DecidableEq, Repr

namespace Parsing

/-- The number of lexemes that have to be consumed between two recorded errors. -/
def minErrorDistance : Nat := 2

/-! ### The parts of a move -/

/-- What the table is asked about: the token of the next lexeme, if there is one. -/
def lookahead (s : Parsing) : Option (Option Token) :=
  s.rest.head?.map Lexeme.token

/-- The position of the next lexeme, or of the end of the source. -/
def lookaheadPosition (s : Parsing) : Position :=
  match s.rest with
  | [] => s.stop
  | x :: _ => x.position

/-- Report an error at the next lexeme. It is recorded if the last error is far enough away. -/
def report (s : Parsing) (e : SyntaxError) : Parsing :=
  if minErrorDistance ≤ s.distance then
    { s with distance := 0, diagnostics := s.diagnostics ++ [⟨s.lookaheadPosition, e.message⟩] }
  else { s with distance := 0 }

/-- Consume the lexeme `x`, which `rest` follows. -/
def consume (s : Parsing) (x : Lexeme) (rest : List Lexeme) : Parsing :=
  { s with rest := rest, current := x.position, distance := s.distance + 1 }

/-- Report and consume the invalid lexemes at the beginning of `rest`. -/
def dropInvalid (s : Parsing) : List Lexeme → Parsing
  | [] => { s with rest := [] }
  | x :: rest =>
    match x.token with
    | some _ => { s with rest := x :: rest }
    | none =>
      ((({ s with rest := x :: rest }).report .invalidSymbol).consume x rest).dropInvalid rest

/-- Consume a lexeme as part of the grammar: invalid lexemes after it are errors. -/
def take (s : Parsing) (x : Lexeme) (rest : List Lexeme) : Parsing :=
  (s.consume x rest).dropInvalid rest

/-- Consume the next lexeme. At the end of the source there is none, and what was consumed is counted
all the same. -/
def advance (s : Parsing) : Parsing :=
  match s.rest with
  | [] => { s with distance := s.distance + 1 }
  | x :: rest => s.consume x rest

/-- Consume the next lexeme as part of the grammar. -/
def get (s : Parsing) : Parsing :=
  s.advance.dropInvalid s.advance.rest

theorem advance_of_cons {s : Parsing} {x : Lexeme} {rest : List Lexeme} (h : s.rest = x :: rest) :
    s.advance = s.consume x rest := by
  simp [advance, h]

theorem get_of_cons {s : Parsing} {x : Lexeme} {rest : List Lexeme} (h : s.rest = x :: rest) :
    s.get = s.take x rest := by
  rw [get, advance_of_cons h, take]
  rfl

/-- The notice of a checkpoint. -/
def notice (s : Parsing) (c : Checkpoint) : Notification where
  checkpoint := c
  lookahead := s.rest.head?
  current := s.current
  errorCount := s.diagnostics.length
  firstError := s.diagnostics.head?.map Diagnostic.position

/-- The goals that are left when the declaration at hand has failed. -/
def unwind : List Goal → List Goal
  | [] => []
  | .boundary :: goals => .recovery :: goals
  | _ :: goals => unwind goals

/-! ### One step -/

/-- Carry out a move that consumes nothing, where `goals` follow the first goal. -/
def stand (s : Parsing) (goals : List Goal) : Still → Option Notification × Parsing
  | .pass => (none, { s with goals := goals })
  | .tell c => (some (s.notice c), { s with goals := goals })
  | .note e => (none, { s.report e with goals := goals })
  | .fail e => (none, { s.report e with goals := unwind goals })

/-- Carry out a move, where `goals` follow the first goal. -/
def act (s : Parsing) (goals : List Goal) : Move → Option Notification × Parsing
  | .still m => s.stand goals m
  | .take before next => (before.map s.notice, { s.get with goals := next ++ goals })
  | .skip next => (none, { s.advance with goals := next ++ goals })
  | .spoil before e next => (some (s.notice before), { s.report e with goals := next ++ goals })

/-- Carry out the move for the first goal, which `goals` follow. -/
def step (s : Parsing) (goal : Goal) (goals : List Goal) : Option Notification × Parsing :=
  s.act goals (goal.meet s.lookahead)

/-! ### Progress -/

/-- A failed declaration has handed over to its recovery, which has an unterminated string before
it. -/
def resumes (s : Parsing) : Bool :=
  s.goals.head? = some .recovery && s.lookahead = some (some .badString)

theorem resumes_iff {s : Parsing} : s.resumes = true ↔
    s.goals.head? = some .recovery ∧ s.lookahead = some (some .badString) := by
  simp [resumes]

/-- A quantity that every step lowers. A consumed lexeme outweighs the goals that replace the first
one, and the three goals that replace a failed declaration are paid for in advance: only a state
that resumes has spent them. -/
def potential (s : Parsing) : Nat :=
  (Goal.width + 3) * s.rest.length + s.goals.length + if s.resumes then 0 else 3

@[simp]
theorem report_rest (s : Parsing) (e : SyntaxError) : (s.report e).rest = s.rest := by
  unfold report
  split <;> rfl

theorem length_dropInvalid_le (s : Parsing) (rest : List Lexeme) :
    (s.dropInvalid rest).rest.length ≤ rest.length := by
  induction rest generalizing s with
  | nil => simp [dropInvalid]
  | cons x rest ih =>
    unfold dropInvalid
    split
    · simp
    · exact Nat.le_succ_of_le (ih _)

theorem length_unwind_le (goals : List Goal) : (unwind goals).length ≤ goals.length := by
  induction goals with
  | nil => simp [unwind]
  | cons g goals ih =>
    cases g <;> simp [unwind] <;> omega

/-- **A move that is not still is the table's move at a next lexeme.** -/
theorem exists_cons_of_meet {s : Parsing} {goal : Goal} {m : Move}
    (h : goal.meet s.lookahead = m) (hm : ∀ k, m ≠ .still k) :
    ∃ x rest, s.rest = x :: rest ∧ goal.move x.token = m := by
  cases hrest : s.rest with
  | nil =>
    obtain ⟨k, hk⟩ := Goal.exists_atEnd_eq_still goal
    have hlook : s.lookahead = none := by simp [lookahead, hrest]
    rw [hlook, Goal.meet_none] at h
    exact absurd (h.symm.trans hk) (hm k)
  | cons x rest =>
    have hlook : s.lookahead = some x.token := by simp [lookahead, hrest]
    rw [hlook, Goal.meet_some] at h
    exact ⟨x, rest, rfl, h⟩

theorem length_advance_lt {s : Parsing} {x : Lexeme} {rest : List Lexeme}
    (h : s.rest = x :: rest) : s.advance.rest.length < s.rest.length := by
  simp [advance_of_cons h, consume, h]

theorem length_get_lt {s : Parsing} {x : Lexeme} {rest : List Lexeme} (h : s.rest = x :: rest) :
    s.get.rest.length < s.rest.length :=
  Nat.lt_of_le_of_lt (length_dropInvalid_le _ _) (length_advance_lt h)

/-- A state that resumes skips a lexeme. -/
theorem meet_of_resumes {s : Parsing} {goal : Goal} {goals : List Goal}
    (hgoals : s.goals = goal :: goals) (h : s.resumes) :
    goal.meet s.lookahead = .skip [.recovery] := by
  obtain ⟨hhead, hlook⟩ := resumes_iff.mp h
  obtain rfl : goal = .recovery := by simpa [hgoals] using hhead
  rw [hlook, Goal.meet_some, Goal.move_recovery_badString]

/-- Consuming a lexeme lowers the potential, whatever goals the table puts in place of the first
one. -/
theorem potential_lt_of_length_lt {s s' : Parsing} {next goals : List Goal} {goal : Goal}
    (hgoals : s.goals = goal :: goals) (hgoals' : s'.goals = next ++ goals)
    (hnext : next.length ≤ Goal.width) (h : s'.rest.length < s.rest.length) :
    s'.potential < s.potential := by
  have hmul := Nat.mul_le_mul_left (Goal.width + 3) (Nat.succ_le_of_lt h)
  simp only [potential, hgoals, hgoals', List.length_append, List.length_cons, Nat.mul_succ] at *
  split <;> split <;> omega

/-- Dropping goals lowers the potential of a state that does not resume. -/
theorem potential_stand_lt {s : Parsing} {goals : List Goal} (m : Still) (hresumes : ¬s.resumes)
    (h : goals.length < s.goals.length) : (s.stand goals m).2.potential < s.potential := by
  have hrest : (s.stand goals m).2.rest = s.rest := by cases m <;> simp [stand]
  have hlen : (s.stand goals m).2.goals.length < s.goals.length := by
    cases m with
    | fail e => exact Nat.lt_of_le_of_lt (length_unwind_le goals) h
    | _ => exact h
  simp only [potential, hrest, if_neg hresumes]
  split <;> omega

/-- **A failed declaration lowers the potential**: its recovery has a lexeme to consume. -/
theorem potential_lt_of_spoil {s s' : Parsing} {goal : Goal} {goals next : List Goal}
    {c : Checkpoint} {e : SyntaxError} (hgoals : s.goals = goal :: goals)
    (h : goal.meet s.lookahead = .spoil c e next) (hrest : s'.rest = s.rest)
    (hgoals' : s'.goals = next ++ goals) : s'.potential < s.potential := by
  have hresumes : ¬s.resumes := by
    intro hr
    cases (meet_of_resumes hgoals hr).symm.trans h
  obtain ⟨x, rest, hcons, hmove⟩ := exists_cons_of_meet h (by simp)
  obtain ⟨sec, -, hx, -, -, rfl⟩ := Goal.move_eq_spoil hmove
  have hresumes' : s'.resumes := by simp [resumes, lookahead, hgoals', hrest, hcons, hx]
  simp only [potential, hrest, hgoals, hgoals', if_pos hresumes', if_neg hresumes,
    List.length_append, List.length_cons, List.length_nil]
  omega

/-- **Every step makes progress.** -/
theorem potential_step_lt (s : Parsing) (goal : Goal) (goals : List Goal)
    (h : s.goals = goal :: goals) : (s.step goal goals).2.potential < s.potential := by
  cases hm : goal.meet s.lookahead with
  | still m =>
    have hresumes : ¬s.resumes := by
      intro hr
      cases (meet_of_resumes h hr).symm.trans hm
    have hstep : s.step goal goals = s.stand goals m := by simp only [step, hm, act]
    rw [hstep]
    exact potential_stand_lt m hresumes (by simp [h])
  | spoil before e next =>
    exact potential_lt_of_spoil h hm (by simp [step, hm, act]) (by simp [step, hm, act])
  | take before next =>
    obtain ⟨x, rest, hrest, hmove⟩ := exists_cons_of_meet hm (by simp)
    have hgoals : (s.step goal goals).2.goals = next ++ goals := by simp only [step, hm, act]
    exact potential_lt_of_length_lt h hgoals
      (by simpa [hmove] using Goal.length_next_move_le goal x.token)
      (by simpa only [step, hm, act] using length_get_lt hrest)
  | skip next =>
    obtain ⟨x, rest, hrest, hmove⟩ := exists_cons_of_meet hm (by simp)
    have hgoals : (s.step goal goals).2.goals = next ++ goals := by simp only [step, hm, act]
    exact potential_lt_of_length_lt h hgoals
      (by simpa [hmove] using Goal.length_next_move_le goal x.token)
      (by simpa only [step, hm, act] using length_advance_lt hrest)

/-! ### The whole parse -/

/-- Carry out moves until no goal is left: the notifications on the way, and the last state. -/
def run (s : Parsing) : List Notification × Parsing :=
  match h : s.goals with
  | [] => ([], s)
  | goal :: goals =>
    have : (s.step goal goals).2.potential < s.potential := potential_step_lt s goal goals h
    let (notices, last) := run (s.step goal goals).2
    ((s.step goal goals).1.toList ++ notices, last)
termination_by s.potential

/-- The state in which a list of lexemes starts to be parsed. -/
def start (lexemes : List Lexeme) (stop : Position) : Parsing where
  goals := Goal.grammar
  rest := lexemes
  current := ⟨0, 0⟩
  distance := minErrorDistance
  diagnostics := []
  stop := stop

end Parsing

namespace ParseResult

/-- Parse the lexemes of a source that ends at the given position. -/
def ofLexemes (lexemes : List Lexeme) (stop : Position) : ParseResult :=
  let (notices, last) := (Parsing.start lexemes stop).run
  ⟨notices, last.diagnostics⟩

/-- **Parse a source.** -/
def ofSource (source : Text) : ParseResult :=
  ofLexemes (Lexeme.scan source) ((LineIndex.ofText source).position source.size)

end ParseResult

/-- A parser, with the lexemes of the source that it has parsed last. -/
structure Parser where
  lexemes : List Lexeme := []
deriving DecidableEq, Repr

/-- Parse a source with a parser that may have parsed another one before. -/
def Parser.parse (p : Parser) (source : Text) : ParseResult × Parser :=
  let p := { p with lexemes := Lexeme.scan source }
  (.ofLexemes p.lexemes ((LineIndex.ofText source).position source.size), p)

/-- **Nothing is left of the earlier source.** -/
theorem Parser.parse_eq (p : Parser) (source : Text) :
    p.parse source = (.ofSource source, ⟨Lexeme.scan source⟩) := rfl

namespace ParseResult

/-- Whether a source has no syntax error. -/
def isOk (r : ParseResult) : Bool :=
  r.diagnostics.isEmpty

/-- The position of the first error. -/
def firstError (r : ParseResult) : Option Position :=
  r.diagnostics.head?.map Diagnostic.position

end ParseResult

end GrammarWorkbench
