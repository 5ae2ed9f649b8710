import GrammarWorkbench.Address.Host
import GrammarWorkbench.Address.Segments
import GrammarWorkbench.Text.Numeral

/-!
# Addresses of documents

An editor names documents by addresses. The same address can be written in many ways: in capital or
small letters, with or without escapes, with points in its path. `GrammarWorkbench.Address.read?`
takes a text apart and keeps each part in its one form, so that **two texts name the same document
if their addresses are equal**, and `GrammarWorkbench.Address.display` shows this form.

Some schemes are well known: their addresses have a host and a path with slashes, and slashes may be
backslashes. The host of a file may be empty. Addresses of other schemes have a host if two slashes
follow the scheme; if not even one slash does, all that follows is kept as it is.
-/

namespace GrammarWorkbench

/-- Where a document is served. -/
structure Authority where
  /-- The name of a user, and a password after a colon. -/
  user : Text := []
  host : Text := []
  /-- The number of a service at the host, if it is not the usual one. -/
  service : Option Nat := none
deriving DecidableEq, Repr

/-- The address of a document. -/
structure Address where
  scheme : Text
  authority : Option Authority := none
  path : Text
  query : Option Text := none
  fragment : Option Text := none
deriving DecidableEq, Repr

namespace Address

/-! ### Schemes -/

/-- The well-known schemes, with the numbers of their usual services. -/
def schemes : List (String × Option Nat) :=
  [("http", some 80), ("https", some 443), ("ws", some 80), ("wss", some 443), ("ftp", some 21),
   ("file", none)]

/-- The number of the usual service of a scheme, which is not shown. -/
def usualService? (scheme : Text) : Option Nat :=
  (schemes.lookup (String.ofList scheme)).join

/-- Whether a scheme is well known. -/
def isSpecial (scheme : Text) : Bool :=
  (schemes.lookup (String.ofList scheme)).isSome

/-- Whether a scheme is that of files. -/
def isFile (scheme : Text) : Bool :=
  scheme == "file".toList

/-- The characters of schemes. -/
def isSchemeChar (c : Char) : Bool :=
  Text.isLetter c || Text.isDigit c || c == '+' || c == '-' || c == '.'

/-- The scheme of an address in small letters, and what follows its colon. -/
def cutScheme? (t : Text) : Option (Text × Text) :=
  let scheme := t.takeWhile isSchemeChar
  match t.drop scheme.length with
  | ':' :: rest =>
    if scheme.head?.any Text.isLetter then some (Text.foldAscii scheme, rest) else none
  | _ => none

/-! ### Authorities -/

/-- Cut a text at the first place of a character. There is no second part without the character. -/
def cutAt (c : Char) (t : Text) : Text × Option Text :=
  let first := t.takeWhile (· != c)
  (first, (t.drop first.length).tail?)

/-- Cut a text at the last place of a character. There is no first part without the character. -/
def cutAtLast (c : Char) (t : Text) : Option Text × Text :=
  let (last, first) := cutAt c t.reverse
  (first.map List.reverse, last.reverse)

/-- A user as it is written. A password that is empty is left out. -/
def displayUser (t : Text) : Text :=
  match cutAt ':' t with
  | (name, some (c :: password)) => escape .user name ++ ':' :: escape .user (c :: password)
  | (name, _) => escape .user name

/-- The length of a host at the beginning of a text. It ends before a colon, unless that stands in
brackets. -/
def hostLength (inBrackets : Bool) : Text → Nat
  | [] => 0
  | c :: t =>
    if c = ':' ∧ !inBrackets then 0
    else hostLength (c = '[' ∨ (inBrackets ∧ c ≠ ']')) t + 1

/-- The number of the service after a host: a colon and digits, or nothing. -/
def readService? : Text → Option (Option Nat)
  | [] | [':'] => some none
  | ':' :: t =>
    if t.all Text.isDigit then
      (Text.digits? t).bind fun n => if n < 65536 then some (some n) else none
    else none
  | _ => none

/-- **Read an authority.** Without a host it has neither a user nor a service. -/
def readAuthority? (scheme t : Text) : Option Authority :=
  let (user, rest) := cutAtLast '@' t
  let host := rest.take (hostLength false rest)
  match if isSpecial scheme then Host.special? host else Host.other? host,
      readService? (rest.drop host.length) with
  | some name, some service =>
    let shown := displayUser (user.getD [])
    if name.isEmpty ∧ (rest ≠ [] ∨ user = some [] ∨ shown ≠ []) then none
    else some ⟨shown, name, if service = usualService? scheme then none else service⟩
  | _, _ => none

/-! ### What follows the scheme -/

/-- Whether a character separates segments. -/
def isSlash (withBackslash : Bool) (c : Char) : Bool :=
  c == '/' || (withBackslash && c == '\\')

/-- An address of a well-known scheme other than that of files. Any number of slashes may stand in
front of the host. -/
def readSpecial? (scheme t : Text) : Option Address :=
  let t := t.dropWhile (isSlash true)
  let authority := t.takeWhile (!isSlash true ·)
  let path := displaySegments (segments false true (t.drop (authority.length + 1)))
  (readAuthority? scheme authority).map fun a => ⟨scheme, some a, path, none, none⟩

/-- The host of a file. The own host is not shown. -/
def fileHost? (t : Text) : Option Text :=
  if t.isEmpty then some []
  else (Host.special? t).map fun name => if name = "localhost".toList then [] else name

/-- The address of a file with a host. A path that begins with a drive has no host. -/
def fileAddress (scheme host path : Text) : Address :=
  let l := segments true true path
  let host := if l.head?.any isDrive then [] else host
  ⟨scheme, some { host := host }, displaySegments (dropEmpty l), none, none⟩

/-- The address of a file. -/
def readFile? (scheme t : Text) : Option Address :=
  match t with
  | a :: b :: rest =>
    if isSlash true a && isSlash true b then
      let host := rest.takeWhile (!isSlash true ·)
      if isDrive host then some (fileAddress scheme [] rest)
      else
        (fileHost? host).map fun name =>
          fileAddress scheme name (rest.drop (host.length + if name.isEmpty then 0 else 1))
    else some (fileAddress scheme [] (if isSlash true a then b :: rest else t))
  | [a] => some (fileAddress scheme [] (if isSlash true a then [] else t))
  | [] => some (fileAddress scheme [] [])

/-- An address of any other scheme. -/
def readOther? (scheme t : Text) : Option Address :=
  match t with
  | '/' :: '/' :: t =>
    let authority := t.takeWhile (· != '/')
    (readAuthority? scheme authority).map fun a =>
      let path := match t.drop authority.length with
        | '/' :: rest => displaySegments (segments false false rest)
        | _ => []
      ⟨scheme, some a, path, none, none⟩
  | '/' :: t => some ⟨scheme, none, displaySegments (segments false false t), none, none⟩
  | t => some ⟨scheme, none, escape .plain t, none, none⟩

/-- The part of an address between its scheme and its query. -/
def readMiddle? (scheme t : Text) : Option Address :=
  if isFile scheme then readFile? scheme t
  else if isSpecial scheme then readSpecial? scheme t
  else readOther? scheme t

/-! ### Addresses -/

/-- A text without control characters and spaces around it, and without tabs and line breaks. -/
def clean (t : Text) : Text :=
  let isVoid (c : Char) := decide (c.toNat ≤ 0x20)
  ((t.dropWhile isVoid).reverse.dropWhile isVoid).reverse.filter fun c =>
    c != '\t' && c != '\n' && c != '\r'

/-- **Read an address.** -/
def read? (t : Text) : Option Address := do
  let (scheme, rest) ← cutScheme? (clean t)
  let (rest, fragment) := cutAt '#' rest
  let (rest, query) := cutAt '?' rest
  let a ← readMiddle? scheme rest
  let place := if isSpecial scheme then Place.specialQuery else .query
  return { a with query := query.map (escape place), fragment := fragment.map (escape .fragment) }

/-- The text of an authority. -/
def displayAuthority (a : Authority) : Text :=
  ['/', '/'] ++ (if a.user.isEmpty then [] else a.user ++ ['@']) ++ a.host ++
    (a.service.map fun n => ':' :: Text.ofNat n).getD []

/-- The text of a part after its mark, or nothing. -/
def displayPart (mark : Char) (t : Option Text) : Text :=
  (t.map (mark :: ·)).getD []

/-- **The text of an address.** A path that would be taken for an authority gets a point in
front. -/
def display (a : Address) : Text :=
  let front := match a.authority with
    | some x => displayAuthority x
    | none => if ['/', '/'].isPrefixOf a.path then ['/', '.'] else []
  a.scheme ++ ':' :: front ++ a.path ++ displayPart '?' a.query ++ displayPart '#' a.fragment

end Address

end GrammarWorkbench
