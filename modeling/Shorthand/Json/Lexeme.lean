import Shorthand.Json.Failure
import Shorthand.Numeral
import Shorthand.Text.Hex

/-!
The pieces of a JSON text: quoted texts with their escapes, and numbers. Each piece returns what
remains of the text, which is shorter, and a fault names the suffix at which it lies.
-/

namespace Shorthand.Json

/-- What stops a piece of the reader. -/
abbrev Stop := Reading.Stop Flaw

def isBlank (c : Char) : Bool := c = ' ' || c = '\n' || c = '\r' || c = '\t'

def skipBlanks (s : List Char) : List Char := s.dropWhile isBlank

/-- Four hexadecimal digits and what follows them. -/
def readFourHex (s : List Char) : Option (Nat × List Char) :=
  match s with
  | a :: b :: c :: d :: rest => (Text.hexNumber? [a, b, c, d]).map (·, rest)
  | _ => none

def isHighSurrogate (n : Nat) : Bool := 0xd800 ≤ n && n < 0xdc00

def isLowSurrogate (n : Nat) : Bool := 0xdc00 ≤ n && n < 0xe000

/-- The character of a surrogate pair. -/
def joinSurrogates (high low : Nat) : Char :=
  Char.ofNat (0x10000 + (high - 0xd800) * 0x400 + (low - 0xdc00))

/-- The character of a code unit that stands alone; half a surrogate pair has none and is replaced. -/
def unitChar (n : Nat) : Char :=
  if isHighSurrogate n || isLowSurrogate n then Char.ofNat 0xfffd else Char.ofNat n

/-- The text behind a second `\\u`, if it is there and at least five characters follow it. -/
def secondUnit? (s : List Char) : Option (List Char) :=
  match s with
  | a :: b :: rest => if a = '\\' && b = 'u' && !(rest.drop 4).isEmpty then some rest else none
  | _ => none

/-- Completes a high surrogate by the low one that is written behind it, if there is one. -/
def readLowHalf (high : Nat) (s : List Char) : Except Stop (Char × List Char) :=
  match secondUnit? s with
  | none => .ok (unitChar high, s)
  | some second =>
    match readFourHex second with
    | none => .error (.malformed .badUnicodeEscape ('u' :: second))
    | some (low, after) =>
      if isLowSurrogate low then .ok (joinSurrogates high low, after) else .ok (unitChar high, s)

/-- A code unit written with four digits, behind its `u`; `unitAt` is the text from that `u` on. The
text must go on after the digits. The second half of a pair is read with the first. -/
def readUnit (unitAt s : List Char) : Except Stop (Char × List Char) :=
  match readFourHex s with
  | none => .error (.malformed .badUnicodeEscape unitAt)
  | some (unit, rest) =>
    if rest.isEmpty then .error (.malformed .badUnicodeEscape unitAt)
    else if isHighSurrogate unit then readLowHalf unit rest
    else .ok (unitChar unit, rest)

/-- The character that a letter after a backslash stands for. -/
def simpleEscape? (c : Char) : Option Char :=
  match c with
  | '"' => some '"'
  | '\\' => some '\\'
  | '/' => some '/'
  | 'b' => some '\x08'
  | 'f' => some '\x0c'
  | 'n' => some '\n'
  | 'r' => some '\r'
  | 't' => some '\t'
  | _ => none

/-- An escape after its backslash: the character and what follows. `quoteAt` is the text from the
opening quote on, and `slashAt` from the backslash on. -/
def readEscape (quoteAt slashAt s : List Char) : Except Stop (Char × List Char) :=
  match s with
  | [] => .error (.malformed .unterminatedText quoteAt)
  | 'u' :: rest => readUnit s rest
  | c :: rest =>
    match simpleEscape? c with
    | some e => .ok (e, rest)
    | none => .error (.malformed .badEscape slashAt)

theorem readFourHex_length {s rest : List Char} {n : Nat} (h : readFourHex s = some (n, rest)) :
    rest.length < s.length := by
  unfold readFourHex at h
  split at h
  · simp only [Option.map_eq_some_iff] at h
    obtain ⟨_, _, h⟩ := h
    cases h
    simp only [List.length_cons]
    omega
  · cases h

theorem secondUnit?_length {s rest : List Char} (h : secondUnit? s = some rest) :
    rest.length < s.length := by
  unfold secondUnit? at h
  split at h
  · split at h
    · cases h
      simp only [List.length_cons]
      omega
    · cases h
  · cases h

theorem readLowHalf_length {s rest : List Char} {high : Nat} {c : Char}
    (h : readLowHalf high s = .ok (c, rest)) : rest.length ≤ s.length := by
  unfold readLowHalf at h
  split at h
  · cases h
    exact Nat.le_refl _
  · next second hSecond =>
    have hShort := secondUnit?_length hSecond
    split at h
    · cases h
    · next low after hAfter =>
      have := readFourHex_length hAfter
      split at h
      · simp only [Except.ok.injEq, Prod.mk.injEq] at h
        obtain ⟨_, rfl⟩ := h
        omega
      · simp only [Except.ok.injEq, Prod.mk.injEq] at h
        obtain ⟨_, rfl⟩ := h
        exact Nat.le_refl _

theorem readUnit_length {unitAt s rest : List Char} {c : Char}
    (h : readUnit unitAt s = .ok (c, rest)) : rest.length < s.length := by
  unfold readUnit at h
  split at h
  · cases h
  · next unit after hAfter =>
    have hShort := readFourHex_length hAfter
    split at h
    · cases h
    · split at h
      · have := readLowHalf_length h
        omega
      · cases h
        exact hShort

theorem readEscape_length {quoteAt slashAt s rest : List Char} {c : Char}
    (h : readEscape quoteAt slashAt s = .ok (c, rest)) : rest.length < s.length := by
  unfold readEscape at h
  split at h
  · cases h
  · have := readUnit_length h
    simp
    omega
  · split at h
    · cases h
      simp
    · cases h

/-- The rest of a quoted text, behind its opening quote: the text read so far goes into `done`. -/
def readText (quoteAt : List Char) (done : String) (s : List Char) :
    Except Stop (String × List Char) :=
  match s with
  | [] => .error (.malformed .unterminatedText quoteAt)
  | c :: rest =>
    if c = '"' then .ok (done, rest)
    else if c = '\\' then
      match h : readEscape quoteAt s rest with
      | .ok (e, after) =>
        have := readEscape_length h
        readText quoteAt (done.push e) after
      | .error stop => .error stop
    else if c.toNat < 0x20 then .error (.malformed .controlCharacter s)
    else readText quoteAt (done.push c) rest
termination_by s.length

theorem readText_length {quoteAt s rest : List Char} {done t : String}
    (h : readText quoteAt done s = .ok (t, rest)) : rest.length < s.length := by
  fun_induction readText quoteAt done s with
  | case1 => cases h
  | case2 => cases h; simp
  | case3 done rest' e after _ hEscape hShort ih =>
    split at h
    · next hAgain =>
      cases hEscape.symm.trans hAgain
      have := ih h
      simp only [List.length_cons]
      omega
    · cases h
  | case4 done rest' stop _ hEscape =>
    split at h
    · next hAgain => cases hEscape.symm.trans hAgain
    · cases h
  | case5 => cases h
  | case6 done c rest' _ _ _ ih =>
    have := ih h
    simp only [List.length_cons]
    omega

/-- A number has no plus and no underscores. -/
def numberFormat : Numeral.Format := ⟨false, false⟩

end Shorthand.Json
