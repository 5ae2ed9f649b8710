import GrammarWorkbench.Text.Basic

/-!
# Scans

A scan reads something at the beginning of a text, and leaves the rest. Scans are put together from
smaller ones: one after the other, repeated, or separated by a character.
-/

namespace GrammarWorkbench

/-- A way to read something at the beginning of a text: what was read, and the rest. -/
abbrev Scan (α : Type) := Text → Option (α × Text)

namespace Scan

variable {α β : Type}

/-- Read one given character. -/
def char (c : Char) : Scan Unit
  | x :: t => if x = c then some ((), t) else none
  | [] => none

/-- Read a given text. -/
def word (w : Text) : Scan Unit := fun t =>
  (w.after? t).map ((), ·)

/-- Read one or more characters of a kind. -/
def run (p : Char → Bool) : Scan Text := fun t =>
  let chosen := t.takeWhile p
  if chosen.isEmpty then none else some (chosen, t.drop chosen.length)

/-- Read two things, one after the other. -/
def pair (first : Scan α) (second : Scan β) : Scan (α × β) := fun t =>
  (first t).bind fun (a, r) => (second r).map fun (b, r) => ((a, b), r)

/-- Read the second of two things, after the first. -/
def after (first : Scan α) (second : Scan β) : Scan β := fun t =>
  (pair first second t).map fun ((_, b), r) => (b, r)

/-- Read the first of two things, and the second after it. -/
def before (first : Scan α) (second : Scan β) : Scan α := fun t =>
  (pair first second t).map fun ((a, _), r) => (a, r)

/-- Read something if it is there. -/
def optional (item : Scan α) : Scan (Option α) := fun t =>
  match item t with
  | some (a, r) => some (some a, r)
  | none => some (none, t)

/-- Read one thing, or another one if the first is not there. -/
def or (first second : Scan α) : Scan α := fun t =>
  (first t).orElse fun _ => second t

/-- Read something, and turn it into something else. -/
def map (f : α → β) (item : Scan α) : Scan β := fun t =>
  (item t).map fun (a, r) => (f a, r)

/-- Read something, and refuse it if it cannot be turned into something else. -/
def filterMap (f : α → Option β) (item : Scan α) : Scan β := fun t =>
  (item t).bind fun (a, r) => (f a).map (·, r)

/-- Read items as long as there are some. An item that takes nothing away ends the list. -/
def many (item : Scan α) (t : Text) : List α × Text :=
  match item t with
  | none => ([], t)
  | some (a, r) =>
    if r.length < t.length then
      let (l, s) := many item r
      (a :: l, s)
    else ([], t)
termination_by t.length

/-- Read any number of items. -/
def repeated (item : Scan α) : Scan (List α) := fun t =>
  some (many item t)

/-- Read one or more items with a character between them. -/
def separated (item : Scan α) (sep : Char) : Scan (List α) :=
  map (fun (a, l) => a :: l) (pair item (repeated (after (char sep) item)))

end Scan

end GrammarWorkbench
