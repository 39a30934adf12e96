import Shorthand.Text.Utf8

/-!
Strict reading of texts in units of two or four bytes, in either order of the bytes. Half a surrogate
pair is refused, and so is a number that is no code point.
-/

namespace Shorthand.Text.Wide

/-- The number that bytes write. -/
def number (bigEndian : Bool) (bytes : List UInt8) : Nat :=
  (if bigEndian then bytes else bytes.reverse).foldl (fun n b => n * 256 + b.toNat) 0

/-- The end of the name of a character set, which tells the order of the bytes. -/
def orderName (bigEndian : Bool) : String := if bigEndian then "be" else "le"

def isHighSurrogate (n : Nat) : Bool := 0xd800 ≤ n && n < 0xdc00

def isLowSurrogate (n : Nat) : Bool := 0xdc00 ≤ n && n < 0xe000

/-- Reads units of two bytes from a position on. -/
def read16 (bigEndian : Bool) (position : Nat) (done : String) :
    List UInt8 → Except Undecodable String
  | [] => .ok done
  | [a] => .error ⟨"utf-16-" ++ orderName bigEndian, "truncated data", position, a.toNat, 1⟩
  | a :: b :: bytes =>
    let flaw := fun reason length =>
      .error ⟨"utf-16-" ++ orderName bigEndian, reason, position, a.toNat, length⟩
    let high := number bigEndian [a, b]
    if isLowSurrogate high then flaw "illegal encoding" 2
    else if isHighSurrogate high then
      match bytes with
      | c :: d :: rest =>
        let low := number bigEndian [c, d]
        if isLowSurrogate low then
          read16 bigEndian (position + 4)
            (done.push (Char.ofNat (0x10000 + (high - 0xd800) * 0x400 + (low - 0xdc00)))) rest
        else flaw "illegal UTF-16 surrogate" 2
      | rest => flaw "unexpected end of data" (rest.length + 2)
    else read16 bigEndian (position + 2) (done.push (Char.ofNat high)) bytes

/-- Reads units of four bytes from a position on. -/
def read32 (bigEndian : Bool) (position : Nat) (done : String) :
    List UInt8 → Except Undecodable String
  | a :: b :: c :: d :: bytes =>
    let flaw := fun reason =>
      .error ⟨"utf-32-" ++ orderName bigEndian, reason, position, a.toNat, 4⟩
    let n := number bigEndian [a, b, c, d]
    if isHighSurrogate n || isLowSurrogate n then
      flaw "code point in surrogate code point range(0xd800, 0xe000)"
    else if n < 0x110000 then read32 bigEndian (position + 4) (done.push (Char.ofNat n)) bytes
    else flaw "code point not in range(0x110000)"
  | [] => .ok done
  | a :: bytes =>
    .error ⟨"utf-32-" ++ orderName bigEndian, "truncated data", position, a.toNat,
      bytes.length + 1⟩

end Shorthand.Text.Wide
