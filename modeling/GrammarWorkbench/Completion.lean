import GrammarWorkbench.Snapshot
import GrammarWorkbench.Text.Order

/-!
# Completion candidates

The legal constructs of a snapshot are turned into candidates to choose from: keywords and marks as
they are written, placeholders as the names that the grammar declares, and a new production as a
name that is used but declared nowhere. Candidates are listed by label in the order of their
characters. Of candidates with one label the first stays, in the order of the constructs.
-/

namespace GrammarWorkbench

/-- Which candidates are wanted. -/
structure CompletionOptions where
  keywords : Bool := true
  /-- Whether keywords come with a description. -/
  descriptions : Bool := true
  /-- Whether undeclared names are offered as names of new productions. -/
  undeclaredProductions : Bool := true
deriving DecidableEq, Repr

/-- What a candidate is. -/
inductive CandidateKind where
  | keyword
  | constant
  | function
  | module
deriving DecidableEq, Repr

/-- The number by which editors know a kind of candidate. -/
def CandidateKind.code : CandidateKind → Nat
  | function => 3
  | module => 9
  | keyword => 14
  | constant => 21

/-- Something to choose from. -/
structure Candidate where
  label : Text
  detail : Option Text
  kind : CandidateKind
  insertText : Option Text
deriving DecidableEq, Repr

namespace Candidate

/-- The candidate of a name. -/
def ofName (kind : CandidateKind) (detail : String) (name : Text) : Candidate :=
  ⟨name, some detail.toList, kind, none⟩

/-- The candidate of a keyword or a mark. -/
def ofKeyword (options : CompletionOptions) (c : Construct) (word : Text) : Candidate :=
  ⟨word, if options.descriptions then some c.description else none, .keyword, some word⟩

/-- The candidates of one construct. -/
def ofConstruct (s : Snapshot) (options : CompletionOptions) (c : Construct) : List Candidate :=
  match c with
  | .existingCharSet => s.charSets.map fun x => ofName .constant "character set" x.name
  | .existingToken => s.tokens.map fun x => ofName .constant "token" x.name
  | .existingProduction => s.productions.map fun x => ofName .function "production" x.name
  | .grammarName => s.grammarName.toList.map fun x => ofName .module "grammar" x.name
  | .productionName =>
    if options.undeclaredProductions then
      s.undeclared.map (ofName .function "undeclared production")
    else []
  | c => if options.keywords then (c.keyword?.map (ofKeyword options c)).toList else []

/-- Of neighbours with one label, the first one. -/
def dropRepeated : List Candidate → List Candidate
  | [] => []
  | x :: rest => x :: go x.label rest
where
  /-- The candidates after one with the label `last`. -/
  go (last : Text) : List Candidate → List Candidate
    | [] => []
    | x :: rest => if x.label = last then go last rest else x :: go x.label rest

/-- **The candidates of a snapshot.** -/
def ofSnapshot (s : Snapshot) (options : CompletionOptions) : List Candidate :=
  dropRepeated <|
    (s.legal.toList.flatMap (ofConstruct s options)).mergeSort fun a b => a.label.le b.label

end Candidate

end GrammarWorkbench
