import GrammarWorkbench.Proofs.Completion.Reading

/-!
# Answers depend on the request alone

A session serves one request after the other with the same parser and the same tracker, and a
tracker listens to a parse for two purposes at once: it collects symbols, and it follows the cursor.
None of this leaves a trace where it should not.

* **No trace of earlier requests**: what a parser and a tracker have kept is overwritten when the
  next request begins (`GrammarWorkbench.Session.serve_eq`).
* **No trace of the cursor** in the symbols and the diagnostics. To forget the cursor
  (`GrammarWorkbench.Tracker.blind`) before a parse or after it is the same
  (`GrammarWorkbench.Tracker.blind_hearAll`), since what is heard about the cursor is never asked
  for when a symbol is collected.

Both together are `GrammarWorkbench.Session.answers_after`.
-/

namespace GrammarWorkbench

/-! ### Trackers without a cursor -/

namespace Tracker

variable {t : Tracker} {n : Notification}

/-- A tracker that has forgotten the cursor and all that it knew about it. -/
def blind (t : Tracker) : Tracker :=
  { t with target := none, last := none, braces := .empty }

theorem blind_begin (t : Tracker) (target : Option Position) :
    (t.begin target).blind = t.begin none := rfl

/-- Declarations are taken note of without the cursor. -/
theorem blind_declare (kind : DeclarationKind) (s : Symbol) :
    (t.declare kind s).blind = t.blind.declare kind s := by
  cases kind <;> rfl

/-- **Symbols are collected without the cursor.** -/
theorem blind_collect (t : Tracker) (n : Notification) :
    (t.collect n).blind = t.blind.collect n := by
  unfold collect
  split
  · rfl
  · split
    · rfl
    · split
      · exact blind_declare _ _
      · split <;> rfl

/-- What is heard about the cursor can be forgotten at once. -/
theorem blind_follow (t : Tracker) (n : Notification) : (t.follow n).blind = t.blind := by
  rw [follow_eq]
  rfl

theorem blind_discard (t : Tracker) (e : Option Position) : (t.discard e).blind = t.blind := by
  rw [discard_eq]
  rfl

/-- A tracker without a cursor only collects. -/
theorem follow_of_target (h : t.target = none) : t.follow n = t := by
  rw [follow, h]

/-- It has nothing to discard. -/
theorem discard_of_target (h : t.target = none) {e : Option Position} : t.discard e = t := by
  cases e <;> simp [discard, h]

theorem target_collect (t : Tracker) (n : Notification) : (t.collect n).target = t.target :=
  congrArg Prod.fst (sight_collect t n)

/-- **To hear a notification and forget the cursor** is to hear it without a cursor. -/
theorem blind_hear (t : Tracker) (n : Notification) : (t.hear n).blind = t.blind.hear n := by
  unfold hear
  split
  · have htarget : (t.blind.collect n).target = none := target_collect t.blind n
    rw [blind_follow, blind_collect, follow_of_target htarget]
  · rw [blind_discard, discard_of_target rfl]

/-- **To hear a parse and forget the cursor** is to hear it without a cursor. -/
theorem blind_hearAll (t : Tracker) (r : ParseResult) :
    (t.hearAll r).blind = t.blind.hearAll r := by
  have hfold : ∀ (ns : List Notification) (t : Tracker),
      (ns.foldl hear t).blind = ns.foldl hear t.blind := by
    intro ns
    induction ns with
    | nil => exact fun _ => rfl
    | cons n ns ih =>
      intro t
      rw [List.foldl_cons, List.foldl_cons, ih, blind_hear]
  -- A tracker without a cursor stays without one, and has nothing to discard in the end.
  rw [hearAll, hearAll, finish, finish, blind_discard, ← hfold, discard_of_target rfl]

/-- The snapshot of a tracker without a cursor has no legal constructs. -/
theorem ofTracker_blind (t : Tracker) (ds : List Diagnostic) :
    Snapshot.ofTracker t.blind ds = { Snapshot.ofTracker t ds with legal := .empty } := rfl

end Tracker

/-! ### Sessions -/

/-- A request: a source, and a cursor in it if constructs are asked for. -/
structure Request where
  source : Text
  cursor : Option Position
deriving DecidableEq, Repr

namespace Session

/-- The session after some requests. -/
def after (session : Session) (history : List Request) : Session :=
  history.foldl (fun s r => (s.serve r.source r.cursor).2) session

/-- **An answer depends on its request alone.** Whatever requests a session has served before, with
whatever sources and cursors, and whatever was left over when it began, it answers like a fresh one.
And whatever the cursor is, the answer is the one without a cursor but for the legal constructs: the
same symbols, in the same lists, and the same diagnostics. Without a cursor there are no legal
constructs. -/
theorem answers_after (session session' : Session) (history history' : List Request)
    (source : Text) (cursor : Position) :
    let answer := ((session.after history).complete source cursor).1
    let symbols := ((session'.after history').symbols source).1
    answer = Snapshot.atCursor source cursor ∧ symbols = Snapshot.ofSource source ∧
      symbols = { answer with legal := .empty } := by
  intro answer symbols
  refine ⟨congrArg Prod.fst ((serve_eq _ _ _).trans (serve_eq _ _ _).symm),
    congrArg Prod.fst ((serve_eq _ _ _).trans (serve_eq _ _ _).symm), ?_⟩
  have hblind := Tracker.blind_hearAll ((session.after history).tracker.begin (some cursor))
    (ParseResult.ofSource source)
  calc
    symbols = Snapshot.ofTracker
        (((session.after history).tracker.begin none).hearAll (ParseResult.ofSource source))
        (ParseResult.ofSource source).diagnostics := rfl
    _ = { answer with legal := .empty } := by
      rw [← Tracker.blind_begin _ (some cursor), ← hblind, Tracker.ofTracker_blind]
      rfl

end Session

end GrammarWorkbench
