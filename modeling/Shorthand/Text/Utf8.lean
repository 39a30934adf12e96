/-!
Bytes that are no text in a character set, and strict reading of UTF-8. Bytes that are no UTF-8 are
refused with the first place at which they fail and the reason: a byte that starts nothing, a byte that
cannot continue, or a sequence cut short.
-/

namespace Shorthand.Text

/-- What could not be read: where its first byte is, the value of that byte, and how many bytes it
is. -/
structure Undecodable where
  charset : String
  reason : String
  position : Nat
  byte : Nat
  length : Nat
deriving DecidableEq, Repr

/-- The message: the byte, or the first and the last place of several. -/
def Undecodable.message (u : Undecodable) : String :=
  let place :=
    if u.length = 1 then
      "byte 0x" ++ String.ofList (padTwo (Nat.toDigits 16 u.byte)) ++
        " in position " ++ toString u.position
    else
      "bytes in position " ++ toString u.position ++ "-" ++ toString (u.position + u.length - 1)
  "'" ++ u.charset ++ "' codec can't decode " ++ place ++ ": " ++ u.reason
where
  padTwo (ds : List Char) : List Char := List.replicate (2 - ds.length) '0' ++ ds

namespace Utf8

inductive Reason where
  | invalidStart
  | invalidContinuation
  | unexpectedEnd
deriving DecidableEq, Repr

def Reason.message : Reason → String
  | .invalidStart => "invalid start byte"
  | .invalidContinuation => "invalid continuation byte"
  | .unexpectedEnd => "unexpected end of data"

/-- The bytes that could not be read: where the first one is, its value, and how many they are. -/
structure Flaw where
  reason : Reason
  position : Nat
  byte : Nat
  length : Nat
deriving DecidableEq, Repr

/-- The least and the greatest value of every byte that has to follow a first byte. Second bytes that
would encode a short code point, half a surrogate pair or too large a number are left out. -/
def followers? (b : Nat) : Option (List (Nat × Nat)) :=
  let any := (0x80, 0xbf)
  if b < 0x80 then some []
  else if b < 0xc2 then none
  else if b < 0xe0 then some [any]
  else if b = 0xe0 then some [(0xa0, 0xbf), any]
  else if b = 0xed then some [(0x80, 0x9f), any]
  else if b < 0xf0 then some [any, any]
  else if b = 0xf0 then some [(0x90, 0xbf), any, any]
  else if b < 0xf4 then some [any, any, any]
  else if b = 0xf4 then some [(0x80, 0x8f), any, any]
  else none

/-- Reads the bytes that have to follow. A fault comes with the number of bytes read before it. -/
def takeFollowers : (ranges : List (Nat × Nat)) → (taken : Nat) → List UInt8 →
    Except (Reason × Nat) (List UInt8)
  | [], _, bytes => .ok bytes
  | _ :: _, taken, [] => .error (.unexpectedEnd, taken)
  | (low, high) :: ranges, taken, b :: bytes =>
    if low ≤ b.toNat && b.toNat ≤ high then takeFollowers ranges (taken + 1) bytes
    else .error (.invalidContinuation, taken)

theorem takeFollowers_length {ranges : List (Nat × Nat)} {taken : Nat} {bytes rest : List UInt8}
    (h : takeFollowers ranges taken bytes = .ok rest) : rest.length ≤ bytes.length := by
  fun_induction takeFollowers ranges taken bytes with
  | case1 => cases h; exact Nat.le_refl _
  | case2 => cases h
  | case3 _ _ _ _ _ _ _ ih =>
    have := ih h
    simp only [List.length_cons]
    omega
  | case4 => cases h

/-- The first fault from a position on. -/
def firstFlaw? (position : Nat) (bytes : List UInt8) : Option Flaw :=
  match bytes with
  | [] => none
  | b :: more =>
    match followers? b.toNat with
    | none => some ⟨.invalidStart, position, b.toNat, 1⟩
    | some ranges =>
      match h : takeFollowers ranges 1 more with
      | .error (reason, length) => some ⟨reason, position, b.toNat, length⟩
      | .ok rest =>
        have := takeFollowers_length h
        firstFlaw? (position + (more.length - rest.length) + 1) rest
termination_by bytes.length
decreasing_by simp only [List.length_cons]; omega

/-- The text of the bytes. -/
def decode (bytes : ByteArray) : Except Flaw String :=
  match String.fromUTF8? bytes with
  | some s => .ok s
  | none => .error ((firstFlaw? 0 bytes.toList).getD ⟨.unexpectedEnd, 0, 0, 0⟩)

/-- The fault as one of a character set. -/
def Flaw.undecodable (f : Flaw) : Undecodable :=
  ⟨"utf-8", f.reason.message, f.position, f.byte, f.length⟩

def Flaw.message (f : Flaw) : String := f.undecodable.message

end Utf8

end Shorthand.Text
