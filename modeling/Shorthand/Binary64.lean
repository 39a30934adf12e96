/-!
Floating-point numbers as their 64 bits. A finite number is `mantissa * 2 ^ exponent`, and every
operation here is exact arithmetic on these two: a fraction is rounded once, to the nearest number,
a tie to the even mantissa.
-/

namespace Shorthand

/-- A double-precision number, kept as its bits: sign, eleven bits of exponent, 52 of fraction. -/
structure Binary64 where
  bits : UInt64
deriving DecidableEq, Repr

namespace Binary64

/-- Whether the sign bit is set; zero and NaN have one too. -/
def isNegative (x : Binary64) : Bool := x.bits.toNat / Nat.pow 2 63 = 1

/-- The eleven exponent bits. -/
def exponentField (x : Binary64) : Nat := x.bits.toNat / Nat.pow 2 52 % Nat.pow 2 11

/-- The 52 fraction bits. -/
def fractionField (x : Binary64) : Nat := x.bits.toNat % Nat.pow 2 52

def isNaN (x : Binary64) : Bool := x.exponentField = 2047 && x.fractionField ≠ 0

def isInfinite (x : Binary64) : Bool := x.exponentField = 2047 && x.fractionField = 0

def isFinite (x : Binary64) : Bool := x.exponentField ≠ 2047

/-- The integer mantissa of a finite number; a normal number has the leading bit 52. -/
def mantissa (x : Binary64) : Nat :=
  if x.exponentField = 0 then x.fractionField else x.fractionField + Nat.pow 2 52

/-- The power of two that the mantissa is scaled by. -/
def exponent (x : Binary64) : Int := (max x.exponentField 1 : Nat) - 1075

/-- Both zeros. -/
def isZero (x : Binary64) : Bool := x.exponentField = 0 && x.fractionField = 0

/-- The number with this sign and these other 63 bits; what does not fit into 63 bits is infinite. -/
def ofMagnitude (negative : Bool) (magnitude : Nat) : Binary64 :=
  let capped := min magnitude (2047 * Nat.pow 2 52)
  ⟨UInt64.ofNat (if negative then Nat.pow 2 63 + capped else capped)⟩

def zero (negative : Bool) : Binary64 := ofMagnitude negative 0

def infinity (negative : Bool) : Binary64 := ofMagnitude negative (2047 * Nat.pow 2 52)

/-- The quiet NaN without a payload. -/
def nan : Binary64 := ⟨UInt64.ofNat (2047 * Nat.pow 2 52 + Nat.pow 2 51)⟩

/-- The quotient to the nearest integer, a tie to the even one. -/
def roundedQuotient (numerator denominator : Nat) : Nat :=
  let q := numerator / denominator
  let r := numerator % denominator
  if 2 * r < denominator then q
  else if 2 * r > denominator then q + 1
  else if q % 2 = 0 then q else q + 1

/-- The quotient of `numerator` by `denominator * 2 ^ scale`, as an integer fraction. -/
def scaled (numerator denominator : Nat) (scale : Int) : Nat × Nat :=
  match scale with
  | .ofNat s => (numerator, denominator * Nat.pow 2 s)
  | .negSucc s => (numerator * Nat.pow 2 (s + 1), denominator)

/-- The number nearest to the fraction `numerator / denominator`.

The scale is chosen so that the rounded quotient has 53 bits, or is the smallest one; the mantissa
is then added to the exponent field, where a mantissa that rounds up to 54 bits carries over. -/
def ofFraction (negative : Bool) (numerator denominator : Nat) : Binary64 :=
  if numerator = 0 then zero negative
  else
    let low : Int := max ((numerator.log2 : Int) - denominator.log2 - 53) (-1074)
    let (n, d) := scaled numerator denominator low
    let scale := if n / d < Nat.pow 2 53 then low else low + 1
    let (n, d) := scaled numerator denominator scale
    ofMagnitude negative ((scale + 1074).toNat * Nat.pow 2 52 + roundedQuotient n d)

/-- The number nearest to `digits * 10 ^ power`. Powers that are out of reach for these digits are
settled before any power of ten is computed. -/
def ofDecimal (negative : Bool) (digits : Nat) (power : Int) : Binary64 :=
  if digits = 0 then zero negative
  else if power > 400 then infinity negative
  else if power < -(400 + (digits.log2 : Int)) then zero negative
  else
    match power with
    | .ofNat p => ofFraction negative (digits * Nat.pow 10 p) 1
    | .negSucc p => ofFraction negative digits (Nat.pow 10 (p + 1))

/-- The integer that the number is, if it is one. -/
def toInt? (x : Binary64) : Option Int :=
  if !x.isFinite then none
  else
    let sign : Int := if x.isNegative then -1 else 1
    match x.exponent with
    | .ofNat e => some (sign * (x.mantissa * Nat.pow 2 e : Nat))
    | .negSucc e =>
      let unit := Nat.pow 2 (e + 1)
      if x.mantissa % unit = 0 then some (sign * (x.mantissa / unit : Nat)) else none

/-- Equality of numbers: the two zeros are equal, and NaN equals nothing. -/
def equals (x y : Binary64) : Bool :=
  !x.isNaN && !y.isNaN && (x.bits = y.bits || (x.isZero && y.isZero))

end Binary64

end Shorthand
