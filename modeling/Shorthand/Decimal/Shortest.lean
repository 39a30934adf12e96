import Shorthand.Binary64

/-!
The shortest decimal that reads back as a given number. The reals that round to `m * 2 ^ q` form an
interval; its ends belong to it when `m` is even. For one, two, … seventeen digits the two
neighbours of the number on that decimal grid are tried: the first grid that has one of them in the
interval wins, and of two the nearer.
-/

namespace Shorthand.Decimal

/-- A positive decimal `0.d₁d₂… * 10 ^ point`, its digits without a trailing zero. -/
structure Digits where
  digits : List Nat
  point : Int
deriving DecidableEq, Repr

/-- The reals that round to one positive number, in units of `1 / denominator`. -/
structure Interval where
  low : Nat
  value : Nat
  high : Nat
  denominator : Nat
  closed : Bool

/-- The interval of a finite number that is not zero. Below a power of two the neighbours are half
as far apart, save at the smallest exponent. -/
def Interval.of (x : Binary64) : Interval :=
  let m := x.mantissa
  let narrow := m = Nat.pow 2 52 && x.exponentField > 1
  let (up, down) : Nat × Nat :=
    match x.exponent - 2 with
    | .ofNat e => (Nat.pow 2 e, 1)
    | .negSucc e => (1, Nat.pow 2 (e + 1))
  { low := (if narrow then 4 * m - 1 else 4 * m - 2) * up
    value := 4 * m * up
    high := (4 * m + 2) * up
    denominator := down
    closed := m % 2 = 0 }

/-- The fraction over `10 ^ power`, as numerator and denominator. -/
def overPower (numerator denominator : Nat) (power : Int) : Nat × Nat :=
  match power with
  | .ofNat p => (numerator, denominator * Nat.pow 10 p)
  | .negSucc p => (numerator * Nat.pow 10 (p + 1), denominator)

/-- Whether the grid point `c * 10 ^ power` lies in the interval. -/
def Interval.holds (i : Interval) (c : Nat) (power : Int) : Bool :=
  let (low, unit) := overPower i.low i.denominator power
  let (high, _) := overPower i.high i.denominator power
  let point := c * unit
  if i.closed then low ≤ point && point ≤ high else low < point && point < high

/-- The greatest `e` with `10 ^ e ≤ numerator / denominator`, searched upwards from `start`. -/
def decimalExponentFrom (numerator denominator : Nat) : (steps : Nat) → (start : Int) → Int
  | 0, e => e
  | steps + 1, e =>
    let (n, d) := overPower numerator denominator (e + 1)
    if d ≤ n then decimalExponentFrom numerator denominator steps (e + 1) else e

/-- The greatest `e` with `10 ^ e ≤ numerator / denominator`. The logarithm to base two is off by
less than one, so the estimate starts below and climbs a few steps. -/
def decimalExponent (numerator denominator : Nat) : Int :=
  let estimate : Int := ((numerator.log2 : Int) - denominator.log2 - 1) * 30103 / 100000 - 1
  decimalExponentFrom numerator denominator 4 estimate

/-- The decimal digits of a number, most significant first. -/
def digitsOf (n : Nat) : List Nat := (Nat.toDigits 10 n).map fun c => c.toNat - '0'.toNat

/-- Drops the zeros at the end. -/
def trimZeros (ds : List Nat) : List Nat := (ds.reverse.dropWhile (· = 0)).reverse

/-- The better neighbour on the grid `10 ^ power`, if one lies in the interval: the nearer of two,
the even one of two equally near. -/
def Interval.neighbour? (i : Interval) (power : Int) : Option Nat :=
  let (n, d) := overPower i.value i.denominator power
  let below := n / d
  let twice := 2 * (n % d)
  match below > 0 && i.holds below power, i.holds (below + 1) power with
  | true, true =>
    some (if twice < d then below else if twice > d then below + 1
      else if below % 2 = 0 then below else below + 1)
  | true, false => some below
  | false, true => some (below + 1)
  | false, false => none

/-- Tries grids of `count`, `count + 1`, … digits, at most `steps` of them. -/
def Interval.shortestFrom (i : Interval) (top : Int) : (steps : Nat) → (count : Nat) → Digits
  | 0, count =>
    let power := top + 1 - count
    let (n, d) := overPower i.value i.denominator power
    let ds := digitsOf (n / d)
    ⟨trimZeros ds, power + ds.length⟩
  | steps + 1, count =>
    let power := top + 1 - count
    match i.neighbour? power with
    | some c => let ds := digitsOf c; ⟨trimZeros ds, power + ds.length⟩
    | none => i.shortestFrom top steps (count + 1)

/-- The shortest decimal that reads back as the finite number, of those the nearest; its sign is
left to the caller, and zero is the digit zero. -/
def shortest (x : Binary64) : Digits :=
  if x.isZero then ⟨[0], 1⟩
  else
    let i := Interval.of x
    i.shortestFrom (decimalExponent i.value i.denominator) 17 1

end Shorthand.Decimal
