import GrammarWorkbench.Snapshot

/-!
# Finding one's way in a grammar

The word under a position, the declaration of a name, the uses of a name, and the declarations of a
grammar as an outline.

A word is a longest run of letters, digits and underscores that does not start with a digit. A
position right after its last character still belongs to it.
-/

namespace GrammarWorkbench

namespace DeclarationKind

/-- What a declaration is called. -/
def label : DeclarationKind → Text
  | grammar => "grammar".toList
  | charSet => "character set".toList
  | token => "token".toList
  | production => "production".toList

/-- The number by which editors know a kind of symbol. -/
def code : DeclarationKind → Nat
  | grammar => 2
  | charSet => 10
  | production => 12
  | token => 14

end DeclarationKind

namespace Navigation

/-- The word around the boundary between two parts of a line and of the text after it: what comes
before it, and the word. -/
def wordBetween (before after : Text) : Text × Text :=
  let back := before.reverse.takeWhile Text.isWord
  (before.take (before.length - back.length), back.reverse ++ after.takeWhile Text.isWord)

/-- The word at a position. -/
def wordAt (source : Text) (p : Position) : Option Symbol :=
  if p.line = 0 ∨ p.column = 0 then none
  else
    let index := LineIndex.ofText source
    match index.lineStart? (p.line - 1), index.offset? (p.line - 1) (p.column - 1) with
    | some start, some offset =>
      if source.isBoundary offset then
        let (before, word) := wordBetween (source.slice start offset) (source.dropBytes offset)
        match word with
        | [] => none
        | c :: _ =>
          if Text.isDigit c then none else some ⟨word, ⟨p.line, Text.size before + 1⟩, none⟩
      else none
    | _, _ => none

/-- The declaration of a name. Productions come before tokens, tokens before character sets, and the
grammar comes last. -/
def declaration? (s : Snapshot) (name : Text) : Option (DeclarationKind × Symbol) :=
  [(DeclarationKind.production, s.productions), (.token, s.tokens), (.charSet, s.charSets),
    (.grammar, s.grammarName.toList)].findSome? fun (kind, symbols) =>
      (symbols.find? (·.name == name)).map (kind, ·)

/-- The uses of a name in the order of the source, after its declaration if that is wanted. -/
def references (s : Snapshot) (name : Text) (withDeclaration : Bool) : List Symbol :=
  (if withDeclaration then ((declaration? s name).map Prod.snd).toList else []) ++
    s.references.get name

/-- All declarations in the order of the source. -/
def declarations (s : Snapshot) : List (DeclarationKind × Symbol) :=
  (s.grammarName.toList.map (DeclarationKind.grammar, ·) ++
    s.charSets.map (DeclarationKind.charSet, ·) ++ s.tokens.map (DeclarationKind.token, ·) ++
    s.productions.map (DeclarationKind.production, ·)).mergeSort
      fun a b => !b.2.position.isBefore a.2.position

/-- The declaration of the word at a position. -/
def definitionAt (source : Text) (p : Position) : Option Symbol :=
  (wordAt source p).bind fun word =>
    (declaration? (Snapshot.ofSource source) word.name).map Prod.snd

/-- The uses of the word at a position. -/
def referencesAt (source : Text) (p : Position) (withDeclaration : Bool) : List Symbol :=
  match wordAt source p with
  | none => []
  | some word => references (Snapshot.ofSource source) word.name withDeclaration

/-- The declaration of the word at a position, as a session finds it. Where there is no word, the
session is not asked. -/
def definitionIn (session : Session) (source : Text) (p : Position) : Option Symbol × Session :=
  match wordAt source p with
  | none => (none, session)
  | some word =>
    let (snapshot, session) := session.symbols source
    ((declaration? snapshot word.name).map Prod.snd, session)

/-- The uses of the word at a position, as a session finds them. -/
def referencesIn (session : Session) (source : Text) (p : Position) (withDeclaration : Bool) :
    List Symbol × Session :=
  match wordAt source p with
  | none => ([], session)
  | some word =>
    let (snapshot, session) := session.symbols source
    (references snapshot word.name withDeclaration, session)

end Navigation

/-- An outline: the grammar with the declarations below it, or the declarations alone. -/
structure Outline where
  root : Option Symbol
  entries : List (DeclarationKind × Symbol)
deriving DecidableEq, Repr

/-- The outline of a grammar. -/
def Outline.ofSnapshot (s : Snapshot) : Outline where
  root := s.grammarName
  entries := (Navigation.declarations s).filter (·.1 != .grammar)

end GrammarWorkbench
