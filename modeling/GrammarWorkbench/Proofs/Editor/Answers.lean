import GrammarWorkbench.Editor.Server
import GrammarWorkbench.Proofs.Lookup
import Mathlib.Data.List.Induction

/-!
# Answers depend on the latest text alone

A server keeps many documents, and parses all of them in one session. Still, what it answers about a
document is what a fresh server answers that has been given **the latest text** of this document and
nothing else (`GrammarWorkbench.Server.answers_latest`).

Two facts are behind this. A message changes the text of the document that it is about and of no
other one (`GrammarWorkbench.Server.text?_handle`), so that the last message about a document
decides which text it has (`GrammarWorkbench.Server.text?_after`). And what a session has served
before is no part of an answer (`GrammarWorkbench.Server.fst_question_congr`).
-/

namespace GrammarWorkbench

/-! ### What messages are about -/

namespace EditorMessage

/-- What a message makes of the text of a document: a new text, no text, or what it was before. -/
def sets? (address : Address) : EditorMessage → Option (Option Text)
  | opened a _ t => if address = a then some (some t) else none
  | changed a _ texts => if address = a then texts.getLast?.map some else none
  | closed a => if address = a then some none else none
  | _ => none

/-- **The latest text of a document**: what the last message about its text has made of it. -/
def latest? (history : List EditorMessage) (address : Address) : Option Text :=
  (history.reverse.findSome? (sets? address)).join

/-- The document about which a message asks. -/
def asksAbout? : EditorMessage → Option Address
  | completion a _ | definition a _ | references a _ _ | symbols a | highlighting a => some a
  | _ => none

end EditorMessage

namespace Server

variable {s : Server} {m : EditorMessage} {a : Address}

/-- A server to which nothing has been told yet. -/
def fresh (options : CompletionOptions) : Server :=
  { options := options }

/-- The server after some messages. -/
def after (s : Server) (history : List EditorMessage) : Server :=
  history.foldl (fun s m => (s.handle m).2.2) s

theorem after_concat (history : List EditorMessage) (m : EditorMessage) :
    s.after (history ++ [m]) = ((s.after history).handle m).2.2 := by
  simp [after]

/-! ### Questions -/

/-- What a message asks of a document, in a session. -/
def question (options : CompletionOptions) :
    EditorMessage → Session → Document → EditorAnswer × Session
  | .completion _ cursor => completion options cursor
  | .definition a cursor => definition a cursor
  | .references a cursor withDeclaration => references a cursor withDeclaration
  | .symbols _ => outline
  | .highlighting _ => highlighting
  | _ => fun session _ => (.nothing, session)

/-- A request is answered by its question, and publishes nothing. -/
theorem handle_of_asksAbout? (s : Server) (hm : m.asksAbout? = some a) :
    s.handle m = ((s.ask a (question s.options m)).1, [], (s.ask a (question s.options m)).2) := by
  cases m <;> cases hm <;> rfl

/-- **What a session has served before is no part of an answer.** -/
theorem fst_question_congr (options : CompletionOptions) (m : EditorMessage)
    (session session' : Session) (d : Document) :
    (question options m session d).1 = (question options m session' d).1 := by
  cases m with
  | definition a cursor =>
    have hdefinition : ∀ session : Session, (definition a cursor session d).1 =
        ((Navigation.definitionIn session d.text (d.toSource cursor)).1.map fun s =>
          EditorAnswer.location a (d.symbolRange s)).getD .nothing := by
      intro session
      rw [definition]
      rcases Navigation.definitionIn session d.text (d.toSource cursor) with ⟨_ | s, next⟩ <;> rfl
    refine (hdefinition session).trans (Eq.trans ?_ (hdefinition session').symm)
    rw [Navigation.definitionIn, Navigation.definitionIn]
    cases Navigation.wordAt d.text (d.toSource cursor) <;> rfl
  | references a cursor withDeclaration =>
    simp only [question, references, Navigation.referencesIn]
    cases Navigation.wordAt d.text (d.toSource cursor) <;> rfl
  | _ => rfl

/-! ### The texts of the documents -/

theorem text?_remove (s : Server) (a address : Address) :
    (s.remove a).text? address = if address = a then none else s.text? address :=
  lookup_filter_bne s.documents a address

theorem text?_store (s : Server) (a : Address) (version : Int) (t : Text) (address : Address) :
    (s.store a version t).1.text? address = if address = a then some t else s.text? address := by
  refine (lookup_cons_eq a t (s.remove a).documents address).trans ?_
  split
  · rfl
  next hne => exact (text?_remove s a address).trans (if_neg hne)

/-- A question leaves the documents and the options as they are. -/
theorem ask_documents (s : Server) (a : Address)
    (q : Session → Document → EditorAnswer × Session) :
    (s.ask a q).2.documents = s.documents ∧ (s.ask a q).2.options = s.options := by
  rw [ask]
  split <;> exact ⟨rfl, rfl⟩

/-- **A message changes the text of the document that it is about**, and of no other one. -/
theorem text?_handle (s : Server) (m : EditorMessage) (address : Address) :
    (s.handle m).2.2.text? address = (m.sets? address).getD (s.text? address) := by
  cases m with
  | opened a version t =>
    refine (text?_store s a version t address).trans ?_
    rw [EditorMessage.sets?]
    split <;> rfl
  | changed a version texts =>
    simp only [handle, EditorMessage.sets?]
    cases texts.getLast? with
    | none => simp
    | some t =>
      refine (text?_store s a version t address).trans ?_
      split <;> rfl
  | closed a =>
    refine (text?_remove s a address).trans ?_
    rw [EditorMessage.sets?]
    split <;> rfl
  | completion a | definition a | references a | symbols a | highlighting a =>
    rw [handle_of_asksAbout? (a := a) s rfl, text?, (ask_documents s a _).1]
    rfl
  | hello | initialized | shutdown => rfl

theorem options_handle (s : Server) (m : EditorMessage) :
    (s.handle m).2.2.options = s.options := by
  cases m with
  | changed a version texts =>
    simp only [handle]
    cases texts.getLast? <;> rfl
  | completion a | definition a | references a | symbols a | highlighting a =>
    rw [handle_of_asksAbout? (a := a) s rfl, (ask_documents s a _).2]
  | _ => rfl

/-- **The last message about a document decides which text it has.** -/
theorem text?_after (options : CompletionOptions) (history : List EditorMessage)
    (address : Address) :
    ((fresh options).after history).text? address = EditorMessage.latest? history address := by
  induction history using List.reverseRecOn with
  | nil => rfl
  | append_singleton history m ih =>
    rw [after_concat, text?_handle, ih, EditorMessage.latest?, EditorMessage.latest?,
      List.reverse_concat, List.findSome?_cons]
    rcases m.sets? address with _ | text <;> rfl

theorem options_after (s : Server) (history : List EditorMessage) :
    (s.after history).options = s.options := by
  induction history using List.reverseRecOn with
  | nil => rfl
  | append_singleton history m ih => rw [after_concat, options_handle, ih]

/-! ### Answers -/

/-- The answer to a request, from the text of the document in a session that has served nothing. -/
def answerTo (options : CompletionOptions) (m : EditorMessage) (text : Option Text) :
    EditorAnswer :=
  match text with
  | none => .nothing
  | some t => (question options m {} (.ofText t)).1

/-- **A request is answered from the text of its document.** -/
theorem fst_handle_of_asksAbout? (s : Server) (hm : m.asksAbout? = some a) :
    (s.handle m).1 = answerTo s.options m (s.text? a) := by
  rw [handle_of_asksAbout? s hm, ask]
  cases s.text? a with
  | none => rfl
  | some t => exact fst_question_congr s.options m s.session {} (.ofText t)

/-- The diagnostics that a new text of a document has published. -/
def published (address : Address) (version : Int) (t : Text) : Publication :=
  ⟨address, some version, (ParseResult.ofSource t).diagnostics.map (Document.ofText t).diagnostic⟩

/-- **Answers depend on the latest text alone.** Let a server have been told anything about any
documents. A request about a document is answered as by a fresh server to which only the latest text
of this document has been told, and not at all if there is none; it publishes nothing. A new text,
of which a change may bring several, publishes the diagnostics of this text under its version. A
change without texts publishes nothing and leaves the server as it is. A document that is closed
publishes, without a version, that there are no diagnostics. -/
theorem answers_latest (options : CompletionOptions) (history : List EditorMessage) :
    let server := (fresh options).after history
    (∀ m address, m.asksAbout? = some address →
      (∀ t, EditorMessage.latest? history address = some t → ∀ version,
        (server.handle m).1 =
          (((fresh options).after [.opened address version t]).handle m).1) ∧
      (EditorMessage.latest? history address = none → (server.handle m).1 = .nothing) ∧
      (server.handle m).2.1 = []) ∧
    ∀ address,
      (∀ version t,
        (server.handle (.opened address version t)).2.1 = [published address version t]) ∧
      (∀ version texts t,
        (server.handle (.changed address version (texts ++ [t]))).2.1 =
          [published address version t]) ∧
      (∀ version, server.handle (.changed address version []) = (.nothing, [], server)) ∧
      (server.handle (.closed address)).2.1 = [⟨address, none, []⟩] := by
  intro server
  constructor
  · intro m address hm
    have hanswer : (server.handle m).1 =
        answerTo options m (EditorMessage.latest? history address) := by
      rw [fst_handle_of_asksAbout? server hm, options_after, text?_after]
      rfl
    refine ⟨?_, ?_, ?_⟩
    · intro t ht version
      have hopened : EditorMessage.latest? [.opened address version t] address = some t := by
        simp [EditorMessage.latest?, EditorMessage.sets?]
      rw [hanswer, ht, fst_handle_of_asksAbout? _ hm, options_after, text?_after, hopened]
      rfl
    · intro hnone
      rw [hanswer, hnone]
      rfl
    · rw [handle_of_asksAbout? server hm]
  · intro address
    refine ⟨fun _ _ => rfl, ?_, fun _ => rfl, rfl⟩
    intro version texts t
    simp only [handle, List.getLast?_concat]
    rfl

/-- Two documents in one session. The first one was changed after a request about the second one,
which is closed. -/
theorem answers_latest_interleaved :
    let a : Address := ⟨"untitled".toList, none, ['a'], none, none⟩
    let b : Address := ⟨"untitled".toList, none, ['b'], none, none⟩
    let t := "COMPILER C PRODUCTIONS C=D. D=. END C.".toList
    let history : List EditorMessage :=
      [.opened a 1 "COMPILER A".toList, .opened b 1 "COMPILER B CHARACTERS d".toList,
        .completion b ⟨0, 11⟩, .changed a 2 [[], t], .closed b]
    let server := (fresh {}).after history
    EditorMessage.latest? history a = some t ∧ EditorMessage.latest? history b = none ∧
      (server.handle (.definition a ⟨0, 25⟩)).1 = .location a ⟨⟨0, 28⟩, ⟨0, 29⟩⟩ ∧
      (server.handle (.symbols b)).1 = .nothing := by
  intro a b t history server
  obtain ⟨hrequest, -⟩ := answers_latest {} history
  have ha : EditorMessage.latest? history a = some t := by decide +kernel
  have hb : EditorMessage.latest? history b = none := by decide +kernel
  obtain ⟨htext, -⟩ := hrequest (.definition a ⟨0, 25⟩) a rfl
  obtain ⟨-, hclosed, -⟩ := hrequest (.symbols b) b rfl
  refine ⟨ha, hb, (htext t ha 1).trans ?_, hclosed hb⟩
  decide +kernel

end Server

end GrammarWorkbench
