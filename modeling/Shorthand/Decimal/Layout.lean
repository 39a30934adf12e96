import Shorthand.Decimal.Shortest

/-!
The written form of a number: its shortest digits laid out by a `Layout`, which says where
positional notation ends and how an exponent is written.
-/

namespace Shorthand.Decimal

/-- How digits become text. A number is positional when the exponent of its first digit lies in
`[leastPositional, scientificFrom)`. -/
structure Layout where
  leastPositional : Int
  scientificFrom : Int
  exponentDigits : Nat
  notANumber : String
  infinite : String

/-- The layout of numbers inside text: positional from `1e-4` up to, but not at, `1e16`; a whole
number keeps `.0`, and an exponent has a sign and at least two digits. -/
def plain : Layout :=
  { leastPositional := -4, scientificFrom := 16, exponentDigits := 2,
    notANumber := "nan", infinite := "inf" }

/-- The layout of numbers in a data file: as `plain`, with capitalised names of the values that no
digits can write. -/
def dataFile : Layout := { plain with notANumber := "NaN", infinite := "Infinity" }

def digitChar (d : Nat) : Char := Char.ofNat ('0'.toNat + d)

/-- Zeros in front, up to the width. -/
def padLeft (width : Nat) (s : List Char) : List Char := List.replicate (width - s.length) '0' ++ s

/-- Digits with the point behind the first `n` of them, zeros filling the gap. -/
def positional (ds : List Char) (n : Int) : List Char :=
  match n with
  | .ofNat n =>
    let whole := ds.take n ++ List.replicate (n - ds.length) '0'
    let part := ds.drop n
    (if whole.isEmpty then ['0'] else whole) ++ '.' :: (if part.isEmpty then ['0'] else part)
  | .negSucc n => '0' :: '.' :: List.replicate (n + 1) '0' ++ ds

/-- One digit, the others behind a point, and the exponent. -/
def scientific (l : Layout) (ds : List Char) (exponent : Int) : List Char :=
  let fraction := ds.drop 1
  let magnitude := padLeft l.exponentDigits (Nat.toDigits 10 exponent.natAbs)
  ds.take 1 ++ (if fraction.isEmpty then [] else '.' :: fraction) ++
    'e' :: (if exponent < 0 then '-' else '+') :: magnitude

/-- The text of a number. -/
def Layout.write (l : Layout) (x : Binary64) : String :=
  let sign := if x.isNegative then ['-'] else []
  if x.isNaN then l.notANumber
  else if x.isInfinite then String.ofList (sign ++ l.infinite.toList)
  else
    let d := shortest x
    let ds := d.digits.map digitChar
    let exponent := d.point - 1
    let body :=
      if l.leastPositional ≤ exponent && exponent < l.scientificFrom then positional ds d.point
      else scientific l ds exponent
    String.ofList (sign ++ body)

end Shorthand.Decimal
