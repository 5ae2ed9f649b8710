import GrammarWorkbench.Text.Basic

/-!
# A text with a read cursor

The cursor of a buffer is a byte offset into its text. It can be moved anywhere: a target past the
end is the end, and a target inside a character is the start of that character. So the cursor always
stands between two characters, and reading from it never splits one.
-/

namespace GrammarWorkbench

/-- A text and the byte offset at which it is read. -/
structure Buffer where
  text : Text
  cursor : Nat := 0
deriving DecidableEq, Repr

namespace Buffer

/-- A buffer read from its start. -/
def ofText (text : Text) : Buffer :=
  ⟨text, 0⟩

/-- The number of bytes of the text. -/
def size (b : Buffer) : Nat :=
  b.text.size

/-- What has not been read yet. -/
def rest (b : Buffer) : Text :=
  b.text.dropBytes b.cursor

/-- Move the cursor to the last boundary that is not after the target. -/
def seek (b : Buffer) (target : Nat) : Buffer :=
  { b with cursor := (b.text.takeBytes target).size }

/-- The character under the cursor. -/
def peek (b : Buffer) : Option Char :=
  b.rest.head?

/-- The character under the cursor, and the buffer with the cursor after it. -/
def read (b : Buffer) : Option Char × Buffer :=
  match b.peek with
  | none => (none, b)
  | some c => (some c, { b with cursor := b.cursor + c.utf8Size })

/-- Run an action on the buffer, and put the cursor back where it was. -/
def preserving {α : Type} (b : Buffer) (act : Buffer → α × Buffer) : α × Buffer :=
  ((act b).1, { (act b).2 with cursor := b.cursor })

end Buffer

end GrammarWorkbench
