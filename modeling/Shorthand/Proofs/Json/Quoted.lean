import Mathlib.Tactic.SplitIfs
import Shorthand.Json.Lexeme
import Shorthand.Json.Writer

/-! Quoted texts, written and read. Every character that is written in quotes is read back as itself, be
it as it stands, as an escape of two characters, or as one or two code units in hexadecimal digits. -/

namespace Shorthand

namespace Text

theorem hexValue?_hexDigit {n : Nat} (h : n < 16) : hexValue? (hexDigit 'a' n) = some n := by
  decide +revert

theorem hexNumber?_concat (cs : List Char) (c : Char) :
    hexNumber? (cs ++ [c]) = (hexNumber? cs).bind fun n => (hexValue? c).map (16 * n + ·) := by
  rw [hexNumber?, List.foldlM_append]
  simp [hexNumber?]

/-- The digits of a number are those of its value, if they are enough. -/
theorem hexNumber?_hexDigits {width n : Nat} (h : n < Nat.pow 16 width) :
    hexNumber? (hexDigits width n) = some n := by
  induction width generalizing n with
  | zero =>
      obtain rfl : n = 0 := Nat.lt_one_iff.1 h
      rfl
  | succ width ih =>
      have hFront : n / 16 < Nat.pow 16 width := Nat.div_lt_of_lt_mul (Nat.mul_comm .. ▸ h)
      rw [hexDigits, hexNumber?_concat, ih hFront, Option.bind_some,
        hexValue?_hexDigit (Nat.mod_lt n (by decide)), Option.map_some, Nat.div_add_mod]

end Text

namespace Json

open Text

/-! Code units. -/

variable {c : Char} {rest : List Char}

theorem readFourHex_hexDigits {n : Nat} (h : n < 0x10000) (rest : List Char) :
    readFourHex (hexDigits 4 n ++ rest) = some (n, rest) := by
  change (hexNumber? (hexDigits 4 n)).map (·, rest) = _
  rw [hexNumber?_hexDigits h, Option.map_some]

theorem readUnit_hexDigits {n : Nat} (h : n < 0x10000) (hRest : rest ≠ []) (unitAt : List Char) :
    readUnit unitAt (hexDigits 4 n ++ rest) =
      if isHighSurrogate n then readLowHalf n rest else .ok (unitChar n, rest) := by
  unfold readUnit
  rw [readFourHex_hexDigits h]
  simp only [List.isEmpty_iff, if_neg hRest]

theorem secondUnit?_unitEscape (hRest : rest ≠ []) (n : Nat) :
    secondUnit? (unitEscape n ++ rest) = some (hexDigits 4 n ++ rest) := by
  have hLater : (hexDigits 4 n ++ rest).drop 4 = rest := rfl
  change (if '\\' = '\\' && 'u' = 'u' && !((hexDigits 4 n ++ rest).drop 4).isEmpty then _ else _) = _
  rw [hLater]
  simp [hRest]

theorem readLowHalf_unitEscape {low : Nat} (hLow : isLowSurrogate low = true) (hRest : rest ≠ [])
    (high : Nat) :
    readLowHalf high (unitEscape low ++ rest) = .ok (joinSurrogates high low, rest) := by
  have hBound : low < 0x10000 := by
    simp only [isLowSurrogate, Bool.and_eq_true, decide_eq_true_eq] at hLow
    omega
  unfold readLowHalf
  rw [secondUnit?_unitEscape hRest]
  simp only [readFourHex_hexDigits hBound, hLow, if_true]

/-- A character is no half of a pair. -/
theorem not_surrogate (c : Char) :
    isHighSurrogate c.toNat = false ∧ isLowSurrogate c.toNat = false := by
  have hValid : c.toNat < 0xd800 ∨ 0xdfff < c.toNat ∧ c.toNat < 0x110000 := c.valid
  simp only [isHighSurrogate, isLowSurrogate, Bool.and_eq_false_iff, decide_eq_false_iff_not]
  omega

theorem unitChar_toNat (c : Char) : unitChar c.toNat = c := by
  rw [unitChar, (not_surrogate c).1, (not_surrogate c).2]
  exact c.ofNat_toNat

/-- A character outside the first plane, and the two halves it is written as. -/
theorem surrogates_of_le (h : 0x10000 ≤ c.toNat) :
    let high := 0xd800 + (c.toNat - 0x10000) / 0x400
    let low := 0xdc00 + (c.toNat - 0x10000) % 0x400
    isHighSurrogate high = true ∧ isLowSurrogate low = true ∧ joinSurrogates high low = c := by
  intro high low
  have hValid : c.toNat < 0xd800 ∨ 0xdfff < c.toNat ∧ c.toNat < 0x110000 := c.valid
  refine ⟨?_, ?_, ?_⟩
  · simp only [isHighSurrogate, Bool.and_eq_true, decide_eq_true_eq]
    omega
  · simp only [isLowSurrogate, Bool.and_eq_true, decide_eq_true_eq]
    omega
  · have hPoint : 0x10000 + (high - 0xd800) * 0x400 + (low - 0xdc00) = c.toNat := by omega
    rw [joinSurrogates, hPoint]
    exact c.ofNat_toNat

/-! Characters. -/

variable {quoteAt s : List Char} {done : String}

theorem readText_quote : readText quoteAt done ('"' :: rest) = .ok (done, rest) := by
  unfold readText
  rfl

theorem readText_plain (hQuote : c ≠ '"') (hSlash : c ≠ '\\') (hControl : ¬c.toNat < 0x20) :
    readText quoteAt done (c :: rest) = readText quoteAt (done.push c) rest := by
  rw [readText, if_neg hQuote, if_neg hSlash, if_neg hControl]

theorem readText_escape (h : readEscape quoteAt ('\\' :: s) s = .ok (c, rest)) :
    readText quoteAt done ('\\' :: s) = readText quoteAt (done.push c) rest := by
  rw [readText, if_neg (by decide), if_pos rfl]
  split
  · next hAgain =>
      cases h.symm.trans hAgain
      rfl
  · next hAgain => cases h.symm.trans hAgain

theorem readText_unitEscape {n : Nat}
    (h : ∀ unitAt, readUnit unitAt (hexDigits 4 n ++ s) = .ok (c, rest)) :
    readText quoteAt done (unitEscape n ++ s) = readText quoteAt (done.push c) rest :=
  readText_escape (h _)

theorem readText_charEscape (hRest : rest ≠ []) :
    readText quoteAt done (charEscape c ++ rest) = readText quoteAt (done.push c) rest := by
  by_cases hPlane : c.toNat < 0x10000
  · rw [charEscape, if_pos hPlane]
    refine readText_unitEscape fun unitAt => ?_
    rw [readUnit_hexDigits hPlane hRest, (not_surrogate c).1, unitChar_toNat]
    rfl
  · obtain ⟨hHigh, hLow, hJoin⟩ := surrogates_of_le (Nat.not_lt.1 hPlane)
    have hBound : 0xd800 + (c.toNat - 0x10000) / 0x400 < 0x10000 := by
      simp only [isHighSurrogate, Bool.and_eq_true, decide_eq_true_eq] at hHigh
      omega
    rw [charEscape, if_neg hPlane, List.append_assoc]
    refine readText_unitEscape fun unitAt => ?_
    rw [readUnit_hexDigits hBound (by simp [unitEscape]), hHigh, if_pos rfl,
      readLowHalf_unitEscape hLow hRest, hJoin]

/-- Whatever way a character is written, it is read as itself. The text has to go on behind it, as it
does inside quotes. -/
theorem readText_writeChar (ascii : Bool) (hRest : rest ≠ []) :
    readText quoteAt done (writeChar ascii c ++ rest) = readText quoteAt (done.push c) rest := by
  unfold writeChar
  split_ifs with hQuote hSlash _ _ _ _ _ hCoded
  iterate 7
    · subst c
      exact readText_escape rfl
  · exact readText_charEscape hRest
  · refine readText_plain hQuote hSlash fun hControl => hCoded ?_
    rw [decide_eq_true hControl, Bool.true_or]

/-! Texts. -/

/-- What stands between quotes is read as the text that was written. -/
theorem readText_flatMap (ascii : Bool) (cs : List Char) :
    readText quoteAt done (cs.flatMap (writeChar ascii) ++ '"' :: rest) =
      .ok (done ++ String.ofList cs, rest) := by
  induction cs generalizing done with
  | nil => simpa using readText_quote
  | cons c cs ih =>
      have hGoesOn : cs.flatMap (writeChar ascii) ++ '"' :: rest ≠ [] := by simp
      rw [List.flatMap_cons, List.append_assoc, readText_writeChar ascii hGoesOn, ih]
      simp [← String.toList_inj]

theorem readText_written (ascii : Bool) (s : String) :
    readText quoteAt "" (s.toList.flatMap (writeChar ascii) ++ ['"'] ++ rest) = .ok (s, rest) := by
  rw [List.append_assoc, List.singleton_append, readText_flatMap, String.ofList_toList,
    String.empty_append]

/-! What is written in quotes is free of control characters. -/

/-- A text without control characters. -/
abbrev IsPlain (s : List Char) : Prop := ∀ c ∈ s, 0x20 ≤ c.toNat

theorem isPlain_hexDigits (width n : Nat) : IsPlain (hexDigits width n) := by
  induction width generalizing n with
  | zero => exact List.forall_mem_nil _
  | succ width ih =>
      have hDigit : ∀ d < 16, 0x20 ≤ (hexDigit 'a' d).toNat := by decide
      refine List.forall_mem_append.2 ⟨ih (n / 16), List.forall_mem_singleton.2 ?_⟩
      exact hDigit _ (Nat.mod_lt n (by decide))

theorem isPlain_unitEscape (n : Nat) : IsPlain (unitEscape n) :=
  List.forall_mem_cons.2 ⟨by decide, List.forall_mem_cons.2 ⟨by decide, isPlain_hexDigits 4 n⟩⟩

theorem isPlain_writeChar (ascii : Bool) (c : Char) : IsPlain (writeChar ascii c) := by
  unfold writeChar
  split_ifs with _ _ _ _ _ _ _ hCoded
  iterate 7 simp [IsPlain]
  · unfold charEscape
    dsimp only
    split
    · exact isPlain_unitEscape _
    · exact List.forall_mem_append.2 ⟨isPlain_unitEscape _, isPlain_unitEscape _⟩
  · refine List.forall_mem_singleton.2 (Nat.not_lt.1 fun hControl => hCoded ?_)
    rw [decide_eq_true hControl, Bool.true_or]

theorem isPlain_writeText (ascii : Bool) (s : String) : IsPlain (writeText ascii s) := by
  have hInside : IsPlain (s.toList.flatMap (writeChar ascii)) := by
    intro c hMem
    obtain ⟨d, _, hChar⟩ := List.mem_flatMap.1 hMem
    exact isPlain_writeChar ascii d c hChar
  refine List.forall_mem_cons.2 ⟨by decide, List.forall_mem_append.2 ⟨hInside, ?_⟩⟩
  exact List.forall_mem_singleton.2 (by decide)

end Json

end Shorthand
