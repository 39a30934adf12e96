import Shorthand.Text.Utf8

/-!
Texts in an unknown Unicode encoding. The encoding shows in a byte order mark or, the first two
characters being ASCII, in where the first four bytes are zero. Half of a surrogate pair is no
character; where one is encoded by itself it is replaced.
-/

namespace Shorthand.Text

inductive Encoding where
  | utf8
  | utf16 (bigEndian : Bool)
  | utf32 (bigEndian : Bool)
deriving DecidableEq, Repr

namespace Encoding

/-- The byte order marks, the longer ones first. -/
def marks : List (List UInt8 × Encoding) :=
  [([0, 0, 0xfe, 0xff], .utf32 true), ([0xff, 0xfe, 0, 0], .utf32 false),
    ([0xfe, 0xff], .utf16 true), ([0xff, 0xfe], .utf16 false), ([0xef, 0xbb, 0xbf], .utf8)]

/-- The encoding that the zeros among the first bytes show, without a byte order mark. -/
def ofZeros (bytes : List UInt8) : Encoding :=
  match bytes with
  | a :: b :: c :: d :: _ =>
    if a = 0 then (if b = 0 then .utf32 true else .utf16 true)
    else if b = 0 then (if c = 0 && d = 0 then .utf32 false else .utf16 false)
    else .utf8
  | [a, b] => if a = 0 then .utf16 true else if b = 0 then .utf16 false else .utf8
  | _ => .utf8

/-- The encoding, and how many bytes its mark takes. -/
def detect (bytes : List UInt8) : Encoding × Nat :=
  match marks.find? fun m => m.1.isPrefixOf bytes with
  | some (mark, encoding) => (encoding, mark.length)
  | none => (ofZeros bytes, 0)

/-- Bytes in groups, as numbers; `none` if the last group is not full. -/
def units16? (bigEndian : Bool) (done : List Nat) : List UInt8 → Option (List Nat)
  | a :: b :: rest =>
    let n := if bigEndian then a.toNat * 256 + b.toNat else b.toNat * 256 + a.toNat
    units16? bigEndian (n :: done) rest
  | [] => some done.reverse
  | [_] => none

def units32? (bigEndian : Bool) (done : List Nat) : List UInt8 → Option (List Nat)
  | a :: b :: c :: d :: rest =>
    let n :=
      if bigEndian then ((a.toNat * 256 + b.toNat) * 256 + c.toNat) * 256 + d.toNat
      else ((d.toNat * 256 + c.toNat) * 256 + b.toNat) * 256 + a.toNat
    units32? bigEndian (n :: done) rest
  | [] => some done.reverse
  | _ => none

/-- Sixteen-bit units as code points, pairs joined. -/
def joinPairs (done : List Nat) : List Nat → List Nat
  | [] => done.reverse
  | [n] => (n :: done).reverse
  | high :: low :: rest =>
    if 0xd800 ≤ high && high < 0xdc00 && 0xdc00 ≤ low && low < 0xe000 then
      joinPairs ((0x10000 + (high - 0xd800) * 0x400 + (low - 0xdc00)) :: done) rest
    else joinPairs (high :: done) (low :: rest)

/-- Whether the number is that of half a surrogate pair. -/
def isHalf (n : Nat) : Bool := 0xd800 ≤ n && n < 0xe000

/-- Code points as a text; half a surrogate pair is replaced, and what is too large has no text. -/
def ofCodePoints? (ns : List Nat) : Option String :=
  if ns.all (· < 0x110000) then
    some (String.ofList (ns.map fun n => if isHalf n then Char.ofNat 0xfffd else Char.ofNat n))
  else none

/-- UTF-8 with the three bytes that half a surrogate pair would have replaced by those of a character.
No bytes of a text are changed. `done` is what has been read, the last byte first. -/
def replaceHalves (done : List UInt8) : List UInt8 → List UInt8
  | a :: b :: c :: rest =>
    if a = 0xed && 0xa0 ≤ b && b < 0xc0 && 0x80 ≤ c && c < 0xc0 then
      replaceHalves (0xbd :: 0xbf :: 0xef :: done) rest
    else replaceHalves (a :: done) (b :: c :: rest)
  | rest => done.reverse ++ rest

/-- The encoding of bytes, and the bytes behind its mark. -/
def unmark (bytes : ByteArray) : Encoding × ByteArray :=
  let (encoding, skip) := detect (bytes.extract 0 4).data.toList
  (encoding, bytes.extract skip bytes.size)

end Encoding

/-- The text of bytes whose encoding is detected; `none` if they are no text in it. -/
def decodeDetected? (bytes : ByteArray) : Option String :=
  let (encoding, body) := Encoding.unmark bytes
  match encoding with
  | .utf8 =>
    (String.fromUTF8? body).or
      (String.fromUTF8? ⟨(Encoding.replaceHalves [] body.data.toList).toArray⟩)
  | .utf16 bigEndian =>
    (Encoding.units16? bigEndian [] body.data.toList).bind fun ns =>
      Encoding.ofCodePoints? (Encoding.joinPairs [] ns)
  | .utf32 bigEndian =>
    (Encoding.units32? bigEndian [] body.data.toList).bind Encoding.ofCodePoints?

end Shorthand.Text
