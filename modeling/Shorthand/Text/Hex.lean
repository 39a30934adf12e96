/-!
Hexadecimal digits, read and written, and the percent encoding of paths, which is written with them:
characters that may not stand in the path of an address, or would end it, are written as their UTF-8
bytes, each a percent sign and two digits in capitals.
-/

namespace Shorthand.Text

/-- The value of a hexadecimal digit, in either case. -/
def hexValue? (c : Char) : Option Nat :=
  if '0' ≤ c && c ≤ '9' then some (c.toNat - '0'.toNat)
  else if 'a' ≤ c && c ≤ 'f' then some (c.toNat - 'a'.toNat + 10)
  else if 'A' ≤ c && c ≤ 'F' then some (c.toNat - 'A'.toNat + 10)
  else none

/-- The value of a run of hexadecimal digits, if it holds nothing else. -/
def hexNumber? (cs : List Char) : Option Nat :=
  cs.foldlM (fun n c => (hexValue? c).map (16 * n + ·)) 0

/-- A digit below sixteen; `ten` is the letter that stands for ten, in the case that is wanted. -/
def hexDigit (ten : Char) (n : Nat) : Char :=
  if n < 10 then Char.ofNat ('0'.toNat + n) else Char.ofNat (ten.toNat + (n - 10))

/-- The last `width` hexadecimal digits of a number, in lower case. -/
def hexDigits : (width : Nat) → (n : Nat) → List Char
  | 0, _ => []
  | width + 1, n => hexDigits width (n / 16) ++ [hexDigit 'a' (n % 16)]

/-- The characters that stand for themselves in a path: letters, digits, and marks, the percent sign
among them. A question mark or a number sign would end the path. -/
def isPathChar (c : Char) : Bool := c.isAlphanum || c ∈ "_.-~/:%@[]!$&'()*+,;=".toList

def percentByte (b : UInt8) : List Char :=
  ['%', hexDigit 'A' (b.toNat / 16), hexDigit 'A' (b.toNat % 16)]

/-- The path as it stands in an address. -/
def percentEncode (path : String) : String :=
  String.ofList (path.toList.flatMap fun c =>
    if isPathChar c then [c] else c.toString.toUTF8.toList.flatMap percentByte)

end Shorthand.Text
