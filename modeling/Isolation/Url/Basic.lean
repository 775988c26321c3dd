import Isolation.Text.Digits

/-!
# URLs

A URL has a scheme, perhaps an authority, a path, and perhaps a query and a fragment. All of its
parts are kept in their escaped form, so its text is their concatenation.
-/

namespace Isolation

namespace Url

/-- Where an authority lies on the network. -/
inductive Host where
  | name (name : List Char)
  | ipv4 (address : Nat)
  | ipv6 (pieces : List Nat)
  deriving DecidableEq

/-- What follows the two slashes of a URL; an authority may lack a host. -/
structure Authority where
  username : List Char := []
  password : List Char := []
  host : Option Host := none
  port : Option Nat := none
  deriving DecidableEq

/-- The path of a URL: a list of segments, each after a slash, or a text without structure. -/
inductive Route where
  | segments (segments : List (List Char))
  | plain (text : List Char)
  deriving DecidableEq

/-- Why a text is no URL. -/
inductive ParseError where
  | relativeWithoutBase
  | emptyHost
  | invalidPort
  | invalidDomainCharacter
  | invalidInternationalName
  | invalidIpv4
  | invalidIpv6
  deriving DecidableEq, Inhabited

/-- What an error says. -/
def ParseError.message : ParseError → String
  | relativeWithoutBase => "relative URL without a base"
  | emptyHost => "empty host"
  | invalidPort => "invalid port number"
  | invalidDomainCharacter => "invalid domain character"
  | invalidInternationalName => "invalid international domain name"
  | invalidIpv4 => "invalid IPv4 address"
  | invalidIpv6 => "invalid IPv6 address"

end Url

/-- A URL in its parts. -/
structure Url where
  scheme : List Char
  authority : Option Url.Authority := none
  path : Url.Route
  query : Option (List Char) := none
  fragment : Option (List Char) := none
  deriving DecidableEq

namespace Url

/-- A number in decimal. -/
def decimal (n : Nat) : List Char :=
  Nat.toDigits 10 n

/-- The longest run of zero pieces, of two or more, as its start and its length; the first of
equally long ones. -/
def longestZeroRun (pieces : List Nat) : Option (Nat × Nat) :=
  let runs := (List.range pieces.length).map fun start =>
    (start, ((pieces.drop start).takeWhile (· == 0)).length)
  runs.foldl
    (fun best run =>
      let record : Nat := (best.map (·.2)).getD 1
      if record < run.2 then some run else best)
    none

/-- Pieces of an address in hexadecimal, joined by colons. -/
def colonPieces (pieces : List Nat) : List Char :=
  [':'].intercalate (pieces.map Text.hexDigits)

/-- How a host is written. -/
def Host.text : Host → List Char
  | .name text => text
  | .ipv4 address =>
    ['.'].intercalate ([24, 16, 8, 0].map fun shift => decimal (address / Nat.pow 2 shift % 256))
  | .ipv6 pieces =>
    let inner :=
      match longestZeroRun pieces with
      | some (start, length) =>
        colonPieces (pieces.take start) ++ [':', ':'] ++ colonPieces (pieces.drop (start + length))
      | none => colonPieces pieces
    '[' :: (inner ++ [']'])

/-- How the user name and the password of an authority are written. -/
def Authority.userInfo (authority : Authority) : List Char :=
  if authority.username = [] ∧ authority.password = [] then []
  else
    authority.username ++
      (if authority.password = [] then [] else ':' :: authority.password) ++ ['@']

/-- How an authority is written, with the slashes before it. -/
def Authority.text (authority : Authority) : List Char :=
  ['/', '/'] ++ authority.userInfo ++ (authority.host.map Host.text).getD [] ++
    (authority.port.map fun port => ':' :: decimal port).getD []

/-- How a path is written. -/
def Route.text : Route → List Char
  | .segments list => list.flatMap ('/' :: ·)
  | .plain text => text

/-- What stands between the scheme and the path: an authority, or what keeps a path that starts with
two slashes from being read as one. -/
def lead (url : Url) : List Char :=
  match url.authority with
  | some authority => authority.text
  | none => if ['/', '/'].isPrefixOf url.path.text then ['/', '.'] else []

/-- The characters of a URL. -/
def chars (url : Url) : List Char :=
  url.scheme ++ ':' :: (url.lead ++ url.path.text ++ (url.query.map ('?' :: ·)).getD [] ++
    (url.fragment.map ('#' :: ·)).getD [])

/-- The text of a URL. -/
def text (url : Url) : String :=
  .ofList url.chars

end Url

end Isolation
