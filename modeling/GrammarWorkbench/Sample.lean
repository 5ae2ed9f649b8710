import GrammarWorkbench.Source.LineIndex

/-!
# Sample grammars and marked texts

Three small grammars that are known to be right, for trying things out, and texts with a **marked**
cursor: the first occurrence of a dollar sign and a zero is taken out of the text, and its place is
the position of the cursor.
-/

namespace GrammarWorkbench

namespace Sample

/-- The text with the given lines, each with its line feed. -/
def unlines (lines : List String) : Text :=
  lines.flatMap fun line => line.toList ++ ['\n']

/-- The smallest complete grammar. -/
def minimal : Text :=
  unlines
    ["COMPILER Foo",
     "PRODUCTIONS",
     "  Foo = \"x\" .",
     "END Foo."]

/-- The language Taste: attributes, semantic actions, comments and ignored characters. -/
def taste : Text :=
  unlines
    ["using System;",
     "",
     "COMPILER Taste",
     "",
     "  const int undef = 0, integer = 1, boolean = 2;",
     "",
     "CHARACTERS",
     "  letter = 'A'..'Z' + 'a'..'z'.",
     "  digit  = \"0123456789\".",
     "  cr     = '\\r'.",
     "  lf     = '\\n'.",
     "  tab    = '\\t'.",
     "",
     "TOKENS",
     "  ident  = letter \x7bletter | digit\x7d.",
     "  number = digit \x7bdigit\x7d.",
     "",
     "COMMENTS FROM \"/*\" TO \"*/\" NESTED",
     "COMMENTS FROM \"//\" TO lf",
     "",
     "IGNORE cr + lf + tab",
     "",
     "PRODUCTIONS",
     "",
     "AddOp<out Op op>",
     "=                        (. op = Op.ADD; .)",
     "  ( '+'",
     "  | '-'                  (. op = Op.SUB; .)",
     "  ).",
     "",
     "Expr<out int type>       (. int type1; Op op; .)",
     "= SimExpr<out type>",
     "  [ RelOp<out op>",
     "    SimExpr<out type1>   (. if (type != type1) SemErr(\"incompatible types\"); .)",
     "  ].",
     "",
     "Factor<out int type>     (. int n; .)",
     "=                        (. type = undef; .)",
     "  ( Ident<out name>",
     "  | number               (. n = Convert.ToInt32(t.val); .)",
     "  | '-' Factor<out type>",
     "  | \"true\"               (. type = boolean; .)",
     "  | \"false\"              (. type = boolean; .)",
     "  ).",
     "",
     "Ident<out string name>",
     "= ident                  (. name = t.val; .)",
     "  .",
     "",
     "RelOp<out Op op>",
     "=                        (. op = Op.EQU; .)",
     "  ( \"==\"",
     "  | '<'                  (. op = Op.LSS; .)",
     "  | '>'                  (. op = Op.GTR; .)",
     "  ).",
     "",
     "SimExpr<out int type>    (. int type1; Op op; .)",
     "= Term<out type>",
     "  \x7b AddOp<out op>",
     "    Term<out type1>",
     "  \x7d.",
     "",
     "Stat                     (. int type; string name; .)",
     "= Ident<out name>",
     "  ( '=' Expr<out type> ';'",
     "  | '(' ')' ';'",
     "  )",
     "| \"if\" '(' Expr<out type> ')' Stat [ \"else\" Stat ]",
     "| \"while\" '(' Expr<out type> ')' Stat",
     "| \"read\" Ident<out name> ';'",
     "| \"write\" Expr<out type> ';'",
     "| '\x7b' \x7b Stat \x7d '\x7d'",
     ".",
     "",
     "Term<out int type>       (. int type1; Op op; .)",
     "= Factor<out type>",
     "  \x7b (\"*\" | \"/\")          (. op = Op.MUL; .)",
     "    Factor<out type1>",
     "  \x7d.",
     "",
     "Taste                    (. string name; .)",
     "= \"program\" Ident<out name> '\x7b' \x7b Stat \x7d '\x7d'",
     "  .",
     "",
     "END Taste."]

/-- Resolvers, weak symbols, synchronisation, context, pragmas and the neglect of case. -/
def resolvers : Text :=
  unlines
    ["COMPILER Calc",
     "  bool IsCall() \x7b return la.kind == _ident && Peek(1).kind == _lpar; \x7d",
     "",
     "IGNORECASE",
     "",
     "CHARACTERS",
     "  letter = 'a'..'z'.",
     "  digit  = '0'..'9'.",
     "  noQuote = ANY - '\"'.",
     "",
     "TOKENS",
     "  ident  = letter \x7bletter | digit\x7d.",
     "  number = digit \x7bdigit\x7d | \"0x\" \x7bdigit\x7d CONTEXT (\".\").",
     "  string = '\"' \x7bnoQuote\x7d '\"'.",
     "  lpar   = '('.",
     "",
     "PRAGMAS",
     "  option = \"$\" letter.   (. SetOption(la.val); .)",
     "",
     "PRODUCTIONS",
     "  Calc = \x7b Stmt \x7d .",
     "  Stmt = IF (IsCall()) Call ';'",
     "       | ident '=' Expr ';'",
     "       | SYNC ';'",
     "       .",
     "  Call = ident lpar [ Expr \x7b ',' Expr \x7d ] ')' .",
     "  Expr = Term \x7b ('+' | '-') Term \x7d .",
     "  Term = WEAK number | ident | string | lpar Expr ')' | ANY .",
     "END Calc."]

/-- A sample by the name of its file. -/
def byName? (name : Text) : Option Text :=
  if name = "minimal.atg".toList then some minimal
  else if name = "taste.atg".toList then some taste
  else if name = "resolvers.atg".toList then some resolvers
  else none

end Sample

namespace MarkedText

/-- The text before the first cursor mark and the text after it. -/
def split? : Text → Option (Text × Text)
  | '$' :: '0' :: t => some ([], t)
  | c :: t => (split? t).map fun (before, after) => (c :: before, after)
  | [] => none

/-- The text without its cursor mark, and the position of the cursor. -/
def read? (t : Text) : Option (Text × Position) :=
  (split? t).map fun (before, after) =>
    (before ++ after, (LineIndex.ofText (before ++ after)).position before.size)

end MarkedText

end GrammarWorkbench
