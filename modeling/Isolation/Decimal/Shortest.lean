import Isolation.Decimal.Binary64

/-!
# Shortest decimals

The shortest decimal that reads back as a given floating-point number, and of the shortest ones the
nearest. Small and large numbers are written with an exponent, others positionally, always with a
digit after the point.
-/

namespace Isolation.Decimal

/-- A number written as `digits * 10 ^ exponent`. -/
structure Scaled where
  digits : Nat
  exponent : Int
  deriving DecidableEq

/-- Whether a ratio rounds to `x`: it lies between the midpoints to the neighbours of `x`, which
count when the mantissa is even. -/
def readsBack (x : Binary64) (numerator denominator : Nat) : Bool :=
  Binary64.ofRatio? numerator denominator == some x

/-- Numerator and denominator of a scaled number. -/
def Scaled.ratio (s : Scaled) : Nat × Nat :=
  match s.exponent with
  | .ofNat e => (s.digits * Nat.pow 10 e, 1)
  | .negSucc e => (s.digits, Nat.pow 10 (e + 1))

/-- The two multiples of a power of ten around `x`. -/
def gridNeighbours (x : Binary64) (exponent : Int) : List Scaled :=
  let (n, d) := x.ratio
  let below :=
    match exponent with
    | .ofNat e => n / (d * Nat.pow 10 e)
    | .negSucc e => n * Nat.pow 10 (e + 1) / d
  [⟨below, exponent⟩, ⟨below + 1, exponent⟩]

/-- The distance of two ratios, over the product of their denominators. -/
def distance (n d n' d' : Nat) : Nat :=
  (n * d' - n' * d) + (n' * d - n * d')

/-- Of the neighbours that read back, the nearest. -/
def bestOnGrid? (x : Binary64) (exponent : Int) : Option Scaled :=
  let (n, d) := x.ratio
  let hits := (gridNeighbours x exponent).filter fun s => readsBack x s.ratio.1 s.ratio.2
  match hits with
  | [below, above] =>
    let toBelow := distance n d below.ratio.1 below.ratio.2
    let toAbove := distance n d above.ratio.1 above.ratio.2
    if toAbove < toBelow ∨ (toAbove = toBelow ∧ below.digits % 2 = 1) then some above
    else some below
  | [single] => some single
  | _ => none

/-- An exponent of ten that is at least that of the first digit of `x`. -/
def topExponent (x : Binary64) : Int :=
  ((Nat.log2 x.mantissa : Int) + 1 + x.exponent) * 30103 / 100000 + 1

/-- The shortest decimal that reads back as `x`, which is not zero. -/
def shortest (x : Binary64) : Scaled :=
  let top := topExponent x
  let grids := (List.range 20).map fun (drop : Nat) => bestOnGrid? x (top - (drop : Int))
  let first := grids.filterMap id
  let trimmed := first.map fun s =>
    if s.digits % 10 = 0 then (⟨s.digits / 10, s.exponent + 1⟩ : Scaled) else s
  (trimmed.head?).getD ⟨x.mantissa, x.exponent⟩

/-- A shortest decimal as text. -/
def Scaled.text (s : Scaled) : List Char :=
  let digits := Nat.toDigits 10 s.digits
  let point : Int := digits.length + s.exponent
  if 0 ≤ s.exponent ∧ point ≤ 16 then
    digits ++ List.replicate s.exponent.toNat '0' ++ ['.', '0']
  else if 0 < point ∧ point ≤ 16 then
    digits.take point.toNat ++ '.' :: digits.drop point.toNat
  else if -5 < point ∧ point ≤ 0 then
    ['0', '.'] ++ List.replicate (-point).toNat '0' ++ digits
  else
    let power := point - 1
    let sign := if power < 0 then ['-'] else []
    let mantissa :=
      match digits with
      | [single] => [single]
      | first :: rest => first :: '.' :: rest
      | [] => []
    mantissa ++ 'e' :: (sign ++ Nat.toDigits 10 power.natAbs)

/-- A floating-point number as text. -/
def text (negative : Bool) (x : Binary64) : List Char :=
  (if negative then ['-'] else []) ++
    (if x.mantissa = 0 then ['0', '.', '0'] else (shortest x).text)

end Isolation.Decimal
