import Isolation.Url.Basic

/-!
# Network addresses

The readers of IPv4 and IPv6 addresses. An IPv4 address has at most four numbers, in decimal, octal
or hexadecimal, of which the last fills the bytes that the others leave; an IPv6 address has eight
pieces, of which two colons may stand for a run of zeros and the last two may be an IPv4 address.
-/

namespace Isolation.Url

/-- The number that digits of a base stand for, if all of them are digits of that base. -/
def numberOfDigits? (base : Nat) (digits : List Char) : Option Nat :=
  digits.foldl
    (fun total c => do
      let value ← Text.hexValue? c
      if value < base then some ((← total) * base + value) else none)
    (some 0)

/-- One number of an IPv4 address: hexadecimal after `0x`, octal after `0`, decimal otherwise. -/
def ipv4Number? (text : List Char) : Option Nat :=
  match text with
  | [] => none
  | '0' :: 'x' :: digits => numberOfDigits? 16 digits
  | '0' :: 'X' :: digits => numberOfDigits? 16 digits
  | ['0'] => some 0
  | '0' :: digits => numberOfDigits? 8 digits
  | digits => numberOfDigits? 10 digits

/-- The parts of a dotted name, without an empty one at the end. -/
def dottedParts (text : List Char) : List (List Char) :=
  let parts := text.splitOn '.'
  if parts.getLast? = some [] then parts.dropLast else parts

/-- Whether the last part of a name is a number, so that the name must be an IPv4 address. -/
def endsInNumber (text : List Char) : Bool :=
  match (dottedParts text).getLast? with
  | none => false
  | some last => (last ≠ [] && last.all Char.isDigit) || (ipv4Number? last).isSome

/-- The address that at most four numbers stand for. -/
def ipv4OfNumbers? (numbers : List Nat) : Option Nat :=
  match numbers.getLast? with
  | none => none
  | some last =>
    let leading := numbers.dropLast
    if numbers.length ≤ 4 ∧ leading.all (· ≤ 255) ∧ last < Nat.pow 256 (4 - leading.length) then
      let high := leading.foldl (fun total n => total * 256 + n) 0
      some (high * Nat.pow 256 (4 - leading.length) + last)
    else none

/-- Reads an IPv4 address. -/
def ipv4? (text : List Char) : Option Nat := do
  ipv4OfNumbers? (← (dottedParts text).mapM ipv4Number?)

/-- A decimal number below 256 without a leading zero. -/
def byteNumber? (text : List Char) : Option Nat :=
  if text = [] ∨ text.all Char.isDigit = false then none
  else if text.head? = some '0' ∧ text.length > 1 then none
  else (numberOfDigits? 10 text).bind fun n => if n < 256 then some n else none

/-- The two pieces of an IPv4 address that ends an IPv6 address. -/
def embeddedIpv4? (text : List Char) : Option (List Nat) :=
  match (text.splitOn '.').mapM byteNumber? with
  | some [a, b, c, d] => some [a * 256 + b, c * 256 + d]
  | _ => none

/-- The pieces read so far, and how many of them stand before the run of zeros. -/
structure Ipv6State where
  pieces : List Nat := []
  gap : Option Nat := none

/-- Notes that the run of zeros comes here; it stands for at least one piece. -/
def Ipv6State.markGap? (state : Ipv6State) : Option Ipv6State :=
  if state.gap.isSome then none
  else some ⟨state.pieces ++ [0], some (state.pieces.length + 1)⟩

/-- The eight pieces, with the run of zeros filled in. -/
def Ipv6State.finish? (state : Ipv6State) : Option (List Nat) :=
  let count := state.pieces.length
  match state.gap with
  | some gap =>
    if count ≤ 8 then
      some (state.pieces.take gap ++ List.replicate (8 - count) 0 ++ state.pieces.drop gap)
    else none
  | none => if count = 8 then some state.pieces else none

/-- Reads pieces until the text ends; every round takes at least one character. -/
def ipv6Pieces? : Nat → Ipv6State → List Char → Option (List Nat)
  | 0, _, _ => none
  | _, state, [] => state.finish?
  | fuel + 1, state, text@(head :: rest) =>
    if state.pieces.length ≥ 8 then none
    else if head = ':' then do ipv6Pieces? fuel (← state.markGap?) rest
    else
      let digits := (text.take 4).takeWhile fun c => (Text.hexValue? c).isSome
      let after := text.drop digits.length
      let next := { state with pieces := state.pieces ++ [(numberOfDigits? 16 digits).getD 0] }
      match after with
      | [] => next.finish?
      | '.' :: _ =>
        if digits = [] ∨ state.pieces.length > 6 then none
        else do
          Ipv6State.finish? { state with pieces := state.pieces ++ (← embeddedIpv4? text) }
      | [':'] => none
      | ':' :: following => ipv6Pieces? fuel next following
      | _ => none

/-- Reads an IPv6 address, without brackets. -/
def ipv6? (text : List Char) : Option (List Nat) :=
  match text with
  | ':' :: ':' :: rest => ipv6Pieces? (text.length + 1) ⟨[0], some 1⟩ rest
  | ':' :: _ => none
  | [_] => none
  | [] => none
  | text => ipv6Pieces? (text.length + 1) {} text

end Isolation.Url
