import Isolation.Text.Blank
import Isolation.Text.Split
import Isolation.Url.Address
import Isolation.Url.Domain
import Isolation.Url.Percent

/-!
# Reading URLs

A text is read without a base: it starts with a scheme. Of the schemes, `file` and a few network
schemes have rules of their own, under which a backslash separates as a slash does and a path is
never empty. Dot segments of a path are resolved while it is read.
-/

namespace Isolation.Url

/-- How a scheme shapes the rest of its URLs. -/
inductive SchemeKind where
  | file
  | network (standardPort : Nat)
  | other
  deriving DecidableEq

/-- The kind of a scheme, by its lower-case name. -/
def SchemeKind.ofName (scheme : List Char) : SchemeKind :=
  match String.ofList scheme with
  | "file" => file
  | "http" => network 80
  | "ws" => network 80
  | "https" => network 443
  | "wss" => network 443
  | "ftp" => network 21
  | _ => other

/-- Whether a backslash separates as a slash does. -/
def SchemeKind.isSpecial : SchemeKind → Bool
  | other => false
  | _ => true

/-- Whether a character separates the segments of a path. -/
def separates (special : Bool) (c : Char) : Bool :=
  c == '/' || (special && c == '\\')

/-- Whether a character ends a path. -/
def endsPath (c : Char) : Bool :=
  c == '?' || c == '#'

/-- The text that is read: without controls and spaces at its ends, and without tabs and line ends.
-/
def relevantChars (text : List Char) : List Char :=
  (Text.trimBoth (fun c => c.toNat ≤ 0x20) text).filter fun c =>
    !(['\t', '\n', '\r'].contains c)

/-- The scheme that a text starts with, in lower case, and what follows its colon. -/
def cutScheme (text : List Char) : Option (List Char × List Char) :=
  let allowed := fun (c : Char) => c.isAlphanum || ['+', '-', '.'].contains c
  match text.head?, text.dropWhile allowed with
  | some first, ':' :: rest =>
    if first.isAlpha then some ((text.takeWhile allowed).map Char.toLower, rest) else none
  | _, _ => none

/-- A text cut before its query and fragment. -/
structure Tail where
  path : List Char
  query : Option (List Char)
  fragment : Option (List Char)

/-- Cuts what follows an authority into a path, a query and a fragment, all as written. -/
def Tail.ofChars (text : List Char) : Tail :=
  let path := text.takeWhile (!endsPath ·)
  match text.dropWhile (!endsPath ·) with
  | '?' :: rest =>
    let query := rest.takeWhile (· ≠ '#')
    match rest.dropWhile (· ≠ '#') with
    | _ :: fragment => ⟨path, some query, some fragment⟩
    | [] => ⟨path, some query, none⟩
  | _ :: fragment => ⟨path, none, some fragment⟩
  | [] => ⟨path, none, none⟩

/-- Whether a segment is a dot, in one of its spellings. -/
def isDot (segment : List Char) : Bool :=
  [".", "%2e", "%2E"].contains (String.ofList segment)

/-- Whether a segment is two dots, in one of their spellings. -/
def isDotDot (segment : List Char) : Bool :=
  ["..", ".%2e", ".%2E", "%2e.", "%2E.", "%2e%2e", "%2e%2E", "%2E%2e", "%2E%2E"].contains
    (String.ofList segment)

/-- Whether a segment has the shape of a drive letter: a letter and a colon or a bar. -/
def isDriveLetter : List Char → Bool
  | [letter, mark] => letter.isAlpha && (mark == ':' || mark == '|')
  | _ => false

/-- The segments without the last one, which stays if it has the shape of a drive letter. -/
def dropSegment (segments : List (List Char)) : List (List Char) :=
  match segments.getLast? with
  | some last => if isDriveLetter last then segments else segments.dropLast
  | none => segments

/-- Adds one segment to those before it. With `drives`, a drive letter that comes first is written
with a colon. -/
def addSegment (drives : Bool) (segments : List (List Char)) (segment : List Char) :
    List (List Char) :=
  if isDotDot segment then dropSegment segments
  else if isDot segment then segments
  else if drives && segments.isEmpty && isDriveLetter segment then [segment.take 1 ++ [':']]
  else segments ++ [encodeText escapedInPath segment]

/-- The segments of a path. A path that ends in a dot segment ends in an empty segment. -/
def resolveSegments (drives : Bool) (written : List (List Char)) : List (List Char) :=
  let resolved := written.foldl (addSegment drives) []
  match written.getLast? with
  | some last => if isDotDot last || isDot last then resolved ++ [[]] else resolved
  | none => resolved

/-- Whether some segment is a drive letter with no segments before it. -/
def meetsDrive (segments : List (List Char)) : List (List Char) → Bool
  | [] => false
  | segment :: rest =>
    (segments.isEmpty && isDriveLetter segment) ||
      meetsDrive (addSegment true segments segment) rest

/-- The segments without empty ones at the start, as far as others follow. -/
def dropEmptyStart : List (List Char) → List (List Char)
  | [] :: next :: rest => dropEmptyStart (next :: rest)
  | segments => segments

/-- A path without its first separator. -/
def afterFirstSlash (special : Bool) : List Char → List Char
  | [] => []
  | head :: rest => if separates special head then rest else head :: rest

/-- The segments of a path as they are written. -/
def writtenSegments (special : Bool) (path : List Char) : List (List Char) :=
  (afterFirstSlash special path).splitOnP (separates special)

/-- Reads a host in brackets. -/
def bracketed (text : List Char) : Except ParseError Host :=
  if text.getLast? = some ']' then
    match ipv6? (text.drop 1).dropLast with
    | some pieces => .ok (.ipv6 pieces)
    | none => .error .invalidIpv6
  else .error .invalidIpv6

/-- Characters that may not stand in a host that is no domain name. -/
def forbiddenInHost (c : Char) : Bool :=
  ("\x00\t\n\r #/:<>?@[\\]^|".toList).contains c

/-- Reads the host of a scheme without rules of its own; an empty one is none. -/
def readOpaqueHost (text : List Char) : Except ParseError (Option Host) :=
  if text.head? = some '[' then (bracketed text).map some
  else if text.any forbiddenInHost then .error .invalidDomainCharacter
  else if text = [] then .ok none
  else .ok (some (.name (encodeText isControl text)))

/-- Reads a domain name or an address. -/
def readDomainHost (text : List Char) : Except ParseError Host :=
  if text.head? = some '[' then bracketed text
  else
    match domainToAscii? (decodeBytes text) with
    | none => .error .invalidInternationalName
    | some [] => .error .emptyHost
    | some domain =>
      if endsInNumber domain then
        match ipv4? domain with
        | some address => .ok (.ipv4 address)
        | none => .error .invalidIpv4
      else .ok (.name domain)

/-- Whether a character ends an authority. -/
def endsAuthority (special : Bool) (c : Char) : Bool :=
  separates special c || endsPath c

/-- A user name and a password, both escaped. -/
def splitUserInfo (text : List Char) : List Char × List Char :=
  let name := text.takeWhile (· ≠ ':')
  (encodeText escapedInUserInfo name,
    encodeText escapedInUserInfo ((text.dropWhile (· ≠ ':')).drop 1))

/-- What precedes the last at sign of an authority, and what follows it. -/
def cutUserInfo (special : Bool) (text : List Char) :
    Except ParseError ((List Char × List Char) × List Char) :=
  let authority := text.takeWhile (!endsAuthority special ·)
  let rest := text.dropWhile (!endsAuthority special ·)
  match Text.cutLast '@' authority with
  | none => .ok (([], []), text)
  | some ([], []) =>
    if rest = [] then .ok (([], []), []) else .error .emptyHost
  | some (userInfo, host) => .ok (splitUserInfo userInfo, host ++ rest)

/-- What belongs to the host at the start of a text, and the rest. A colon ends the host outside of
brackets. -/
def cutHost (special inBrackets : Bool) : List Char → List Char × List Char
  | [] => ([], [])
  | c :: rest =>
    if endsAuthority special c || (c == ':' && !inBrackets) then ([], c :: rest)
    else
      let (host, after) := cutHost special ((inBrackets || c == '[') && c != ']') rest
      (c :: host, after)

/-- Reads a port after its colon; the standard port and an empty one are none. -/
def readPort (standard : Option Nat) (text : List Char) :
    Except ParseError (Option Nat × List Char) :=
  let digits := text.takeWhile Char.isDigit
  let rest := text.drop digits.length
  let port := (numberOfDigits? 10 digits).getD 0
  if 65535 < port then .error .invalidPort
  else
    match rest.head? with
    | some c =>
      if endsAuthority true c then
        .ok (if digits = [] ∨ some port = standard then none else some port, rest)
      else .error .invalidPort
    | none => .ok (if digits = [] ∨ some port = standard then none else some port, rest)

/-- Reads the host of an authority. -/
def readHost (kind : SchemeKind) (text : List Char) : Except ParseError (Option Host) :=
  if kind.isSpecial then
    if text = [] then .error .emptyHost else (readDomainHost text).map some
  else readOpaqueHost text

/-- Reads an authority after its two slashes. -/
def readAuthority (kind : SchemeKind) (text : List Char) :
    Except ParseError (Authority × List Char) := do
  let ((username, password), text) ← cutUserInfo kind.isSpecial text
  let (hostText, rest) := cutHost kind.isSpecial false text
  let host ← readHost kind hostText
  if host.isNone && rest.head? == some ':' then throw .emptyHost
  let standard := match kind with
    | .network port => some port
    | _ => none
  let (port, rest) ← match rest with
    | ':' :: digits => readPort standard digits
    | _ => pure (none, rest)
  if host.isNone && !(username.isEmpty && password.isEmpty) then throw .emptyHost
  return (⟨username, password, host, port⟩, rest)

/-- The query of a URL, escaped. -/
def escapeQuery (special : Bool) (query : List Char) : List Char :=
  encodeText (fun c => escapedInQuery c || (special && c == '\'')) query

/-- Puts a URL together from its first parts and what is written after the path. -/
def assemble (scheme : List Char) (special : Bool) (authority : Option Authority) (path : Route)
    (tail : Tail) : Url where
  scheme := scheme
  authority := authority
  path := path
  query := tail.query.map (escapeQuery special)
  fragment := tail.fragment.map (encodeText escapedInFragment)

/-- Reads what follows the two slashes of a URL that is no `file` URL. -/
def readHierarchical (scheme : List Char) (kind : SchemeKind) (text : List Char) :
    Except ParseError Url := do
  let (authority, rest) ← readAuthority kind text
  let tail := Tail.ofChars rest
  let segments :=
    if !kind.isSpecial && tail.path.isEmpty then []
    else resolveSegments false (writtenSegments kind.isSpecial tail.path)
  return assemble scheme kind.isSpecial (some authority) (.segments segments) tail

/-- Reads what follows the colon of a scheme without rules of its own. -/
def readOther (scheme text : List Char) : Except ParseError Url :=
  match text with
  | '/' :: '/' :: rest => readHierarchical scheme .other rest
  | '/' :: _ =>
    let tail := Tail.ofChars text
    .ok (assemble scheme false none
      (.segments (resolveSegments false (writtenSegments false tail.path))) tail)
  | _ =>
    let tail := Tail.ofChars text
    .ok (assemble scheme false none (.plain (encodeText isControl tail.path)) tail)

/-- A `file` URL with this host and this path; a path that starts with a drive letter has no host.
-/
def fileUrl (host : Option Host) (rest : List Char) : Url :=
  let tail := Tail.ofChars rest
  let written := writtenSegments true tail.path
  let host := if meetsDrive [] written then none else host
  assemble "file".toList true (some { host := host })
    (.segments (dropEmptyStart (resolveSegments true written))) tail

/-- Reads what follows the colon of a `file` URL. A host that has the shape of a drive letter
belongs to the path, and `localhost` is no host. -/
def readFile (text : List Char) : Except ParseError Url :=
  match text with
  | first :: second :: rest =>
    if separates true first && separates true second then
      let hostText := rest.takeWhile (!endsAuthority true ·)
      let after := rest.dropWhile (!endsAuthority true ·)
      if isDriveLetter hostText then .ok (fileUrl none ('/' :: rest))
      else if hostText = [] then .ok (fileUrl none after)
      else do
        let host ← readDomainHost hostText
        return fileUrl (if host = .name "localhost".toList then none else some host) after
    else .ok (fileUrl none text)
  | _ => .ok (fileUrl none text)

/-- Reads a URL. -/
def parse (text : List Char) : Except ParseError Url :=
  match cutScheme (relevantChars text) with
  | none => .error .relativeWithoutBase
  | some (scheme, rest) =>
    match SchemeKind.ofName scheme with
    | .file => readFile rest
    | .network port =>
      readHierarchical scheme (.network port) (rest.dropWhile (separates true))
    | .other => readOther scheme rest

end Isolation.Url
