import GrammarWorkbench.Address.Escape
import GrammarWorkbench.Text.Split

/-!
# Paths of addresses

The path of an address is a list of segments. A segment that is a single point stays where it is,
and one of two points leads back; neither of them is kept. The points may be escaped.

Segments that name a **drive**, a letter and a colon, are never left by leading back. In addresses
of files a first segment may also name a drive with a bar instead of the colon.
-/

namespace GrammarWorkbench.Address

/-- The texts between slashes, or also between backslashes. -/
def cutSegments (withBackslash : Bool) (t : Text) : List Text :=
  Text.splitAt '/' (t.map fun c => if withBackslash && c == '\\' then '/' else c)

/-- A segment with its escaped points written out, and all else left alone. -/
def showPoints : Text → Text
  | '%' :: '2' :: 'e' :: t | '%' :: '2' :: 'E' :: t => '.' :: showPoints t
  | c :: t => c :: showPoints t
  | [] => []

/-- Whether a segment stays where it is. -/
def isHere (segment : Text) : Bool :=
  showPoints segment == ['.']

/-- Whether a segment leads back. -/
def isBack (segment : Text) : Bool :=
  showPoints segment == ['.', '.']

/-- Whether a segment names a drive, with a colon or a bar. -/
def isDrive : Text → Bool
  | [c, d] => Text.isLetter c && (d == ':' || d == '|')
  | _ => false

/-- Go back from the last of some segments, which are given last one first. -/
def back : List Text → List Text
  | [] => []
  | last :: rest => if isDrive last then last :: rest else rest

/-- A segment as it is added to others. -/
def addedSegment (isFile : Bool) (before : List Text) (segment : Text) : Text :=
  if isFile && before.isEmpty && isDrive segment then segment.take 1 ++ [':'] else segment

/-- Follow segments. Those that are kept are given last one first. -/
def follow (isFile : Bool) (before : List Text) : List Text → List Text
  | [] => before
  | [last] =>
    if isBack last then [] :: back before
    else if isHere last then [] :: before
    else addedSegment isFile before last :: before
  | segment :: rest =>
    if isBack segment then follow isFile (back before) rest
    else if isHere segment then follow isFile before rest
    else follow isFile (addedSegment isFile before segment :: before) rest

/-- **The segments of a path**, escaped and without points. -/
def segments (isFile isSpecial : Bool) (t : Text) : List Text :=
  (follow isFile [] (cutSegments isSpecial (escape .path t))).reverse

/-- Segments without the empty ones in front. One segment is kept. -/
def dropEmpty (segments : List Text) : List Text :=
  match segments.dropWhile List.isEmpty with
  | [] => [[]]
  | l => l

/-- The text of segments: a slash in front of each of them. -/
def displaySegments (l : List Text) : Text :=
  l.flatMap ('/' :: ·)

end GrammarWorkbench.Address
