/-!
# Binary floating-point numbers

Non-negative numbers of the form `mantissa * 2 ^ exponent` with at most 53 bits in the mantissa, as
in the 64-bit format. Rounding goes to the nearest such number, and half-way to the even one; it is
done in exact arithmetic on natural numbers.
-/

namespace Isolation.Decimal

/-- A non-negative floating-point number: `mantissa * 2 ^ exponent`. -/
structure Binary64 where
  mantissa : Nat
  exponent : Int
  deriving DecidableEq

namespace Binary64

/-- Zero. -/
def zero : Binary64 := ⟨0, -1074⟩

/-- The quotient of two numbers, rounded to the nearest, half-way to the even one. -/
def roundDiv (numerator denominator : Nat) : Nat :=
  let quotient := numerator / denominator
  let twice := 2 * (numerator % denominator)
  if twice > denominator ∨ (twice = denominator ∧ quotient % 2 = 1) then quotient + 1 else quotient

/-- Numerator and denominator of `numerator / (denominator * 2 ^ exponent)`. -/
def unscale (numerator denominator : Nat) (exponent : Int) : Nat × Nat :=
  match exponent with
  | .ofNat e => (numerator, denominator * Nat.pow 2 e)
  | .negSucc e => (numerator * Nat.pow 2 (e + 1), denominator)

/-- The least exponent, not below the smallest one, at which a ratio fits in 53 bits. -/
def fittingExponent (numerator denominator : Nat) : Int :=
  let guess : Int := (Nat.log2 numerator : Int) - Nat.log2 denominator - 53
  let fits := fun (exponent : Int) =>
    let (n, d) := unscale numerator denominator exponent
    n < d * Nat.pow 2 53
  let tight := if fits guess then guess else guess + 1
  max tight (-1074)

/-- The floating-point number nearest to a ratio; `none` when it is too large for one. -/
def ofRatio? (numerator denominator : Nat) : Option Binary64 :=
  if numerator = 0 then some zero
  else
    let exponent := fittingExponent numerator denominator
    let (n, d) := unscale numerator denominator exponent
    let rounded := roundDiv n d
    let result : Binary64 :=
      if rounded = Nat.pow 2 53 then ⟨Nat.pow 2 52, exponent + 1⟩ else ⟨rounded, exponent⟩
    if result.exponent > 971 then none else some result

/-- Numerator and denominator of a floating-point number. -/
def ratio (x : Binary64) : Nat × Nat :=
  match x.exponent with
  | .ofNat e => (x.mantissa * Nat.pow 2 e, 1)
  | .negSucc e => (x.mantissa, Nat.pow 2 (e + 1))

/-- The rounded product. -/
def mul? (x y : Binary64) : Option Binary64 :=
  ofRatio? (x.ratio.1 * y.ratio.1) (x.ratio.2 * y.ratio.2)

/-- The rounded quotient. -/
def div? (x y : Binary64) : Option Binary64 :=
  ofRatio? (x.ratio.1 * y.ratio.2) (x.ratio.2 * y.ratio.1)

/-- A power of ten, rounded. -/
def powerOfTen? (n : Nat) : Option Binary64 :=
  ofRatio? (Nat.pow 10 n) 1

/-- The value of `x * 10 ^ exponent`, found by one product or by quotients with powers of ten up to
the 308th; `none` when it is too large. -/
def scale? : Nat → Binary64 → Int → Option Binary64
  | 0, x, _ => some x
  | rounds + 1, x, exponent =>
    if x.mantissa = 0 then some zero
    else if 308 < exponent then none
    else if 0 ≤ exponent then do x.mul? (← powerOfTen? exponent.toNat)
    else if -308 ≤ exponent then do x.div? (← powerOfTen? (-exponent).toNat)
    else do scale? rounds (← x.div? (← powerOfTen? 308)) (exponent + 308)

/-- The value of `digits * 10 ^ exponent`, where `digits` has at most 64 bits. -/
def ofDecimal? (digits : Nat) (exponent : Int) : Option Binary64 := do
  scale? 8 (← ofRatio? digits 1) exponent

end Binary64

end Isolation.Decimal
