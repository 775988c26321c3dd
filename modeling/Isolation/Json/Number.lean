import Isolation.Decimal.Shortest
import Isolation.Json.Error

/-!
# Numbers in JSON texts

No number is ever wanted, so a number is read only to say which one was found. An integer of up to
64 bits is one as it stands; any other number is floating-point, its digits beyond 64 bits counting
only for its size.
-/

namespace Isolation.Json

/-- The largest number of 64 bits. -/
def maxSignificand : Nat := 0xFFFFFFFFFFFFFFFF

/-- The digits of a number, read as far as the value fits in 64 bits; then how many are left. -/
def fitDigits (value : Nat) : List Char → Nat × Nat
  | [] => (value, 0)
  | digit :: rest =>
    let next := value * 10 + (digit.toNat - '0'.toNat)
    if maxSignificand < next then (value, rest.length + 1) else fitDigits next rest

/-- A floating-point number, or `malformed` when it is too large for one. -/
def floating (negative : Bool) (significand : Nat) (exponent : Int) : Except ReadError Found :=
  match Decimal.Binary64.ofDecimal? significand exponent with
  | some value => .ok (.floating (.ofList (Decimal.text negative value)))
  | none => .error .malformed

/-- Reads an exponent after its letter. -/
def readExponent (negative : Bool) (significand : Nat) (exponent : Int) (text : List Char) :
    Except ReadError (Found × List Char) := do
  let (down, text) := match text with
    | '-' :: rest => (true, rest)
    | '+' :: rest => (false, rest)
    | rest => (false, rest)
  let digits := text.takeWhile Char.isDigit
  if digits.isEmpty then
    throw (if text.isEmpty then .truncated else .malformed)
  let power : Int := (Nat.ofDigitChars 10 digits 0 : Nat)
  let found ← floating negative significand (if down then exponent - power else exponent + power)
  return (found, text.drop digits.length)

/-- Finishes a floating-point number, which may have an exponent. -/
def readScale (negative : Bool) (significand : Nat) (exponent : Int) (text : List Char) :
    Except ReadError (Found × List Char) :=
  match text with
  | 'e' :: rest => readExponent negative significand exponent rest
  | 'E' :: rest => readExponent negative significand exponent rest
  | rest => (floating negative significand exponent).map (·, rest)

/-- Reads the digits after a point. -/
def readFraction (negative : Bool) (significand : Nat) (exponent : Int) (text : List Char) :
    Except ReadError (Found × List Char) :=
  let digits := text.takeWhile Char.isDigit
  if digits = [] then .error (if text = [] then .truncated else .malformed)
  else
    let (value, left) := fitDigits significand digits
    readScale negative value (exponent - (digits.length - left : Nat)) (text.drop digits.length)

/-- An integer as it stands. A negative zero, and a negative number beyond 64 bits, count as
floating-point. -/
def integer (negative : Bool) (value : Nat) : Except ReadError Found :=
  if !negative then .ok (.integer (toString value))
  else if value = 0 ∨ 0x8000000000000000 < value then floating true value 0
  else .ok (.integer ("-" ++ toString value))

/-- Reads a number after its sign. -/
def readNumber (negative : Bool) (text : List Char) : Except ReadError (Found × List Char) :=
  let digits := text.takeWhile Char.isDigit
  let rest := text.drop digits.length
  if digits = [] then .error (if text = [] then .truncated else .malformed)
  else if digits.head? = some '0' ∧ digits.length > 1 then .error .malformed
  else
    let (value, left) := fitDigits 0 digits
    match rest with
    | '.' :: after => readFraction negative value left after
    | 'e' :: after => readExponent negative value left after
    | 'E' :: after => readExponent negative value left after
    | rest =>
      if left = 0 then (integer negative value).map (·, rest)
      else (floating negative value left).map (·, rest)

end Isolation.Json
