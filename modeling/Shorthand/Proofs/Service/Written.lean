import Shorthand.Proofs.Json.Written
import Shorthand.Proofs.Service.Routing

/-! Bodies that are written as JSON. Such a body has no zero among its bytes and begins with a character
of ASCII, so its encoding is detected as the one that it is in, and the service has the value in hand
that was written. -/

namespace Shorthand

/-! Detecting the encoding. -/

namespace Text

open Encoding

/-- A byte of a character is zero only in the zero. -/
theorem ne_zero_of_mem_utf8EncodeChar {c : Char} (hChar : c.toNat ≠ 0) {b : UInt8}
    (h : b ∈ String.utf8EncodeChar c) : b ≠ 0 := by
  have hVal : c.val.toNat ≠ 0 := hChar
  have hByte : ∃ n, n ≠ 0 ∧ n < 256 ∧ b = UInt8.ofNat n := by
    unfold String.utf8EncodeChar at h
    dsimp only at h
    split_ifs at h <;> simp only [List.mem_cons, List.not_mem_nil, or_false] at h
    · exact ⟨_, hVal, by omega, h⟩
    · rcases h with h | h <;> exact ⟨_, by omega, by omega, h⟩
    · rcases h with h | h | h <;> exact ⟨_, by omega, by omega, h⟩
    · rcases h with h | h | h | h <;> exact ⟨_, by omega, by omega, h⟩
  obtain ⟨n, hNonzero, hBound, rfl⟩ := hByte
  intro hZero
  have hNat : n % 256 = 0 := congrArg UInt8.toNat hZero
  omega

/-- Bytes without a zero are taken for UTF-8 if the first is one of ASCII. -/
theorem detect_of_ascii {b : UInt8} (hFirst : b < 0x80) {bytes : List UInt8}
    (hZero : ∀ x ∈ b :: bytes, x ≠ 0) : detect (b :: bytes) = (.utf8, 0) := by
  have hMark : marks.find? (fun m => m.1.isPrefixOf (b :: bytes)) = none := by
    have hZeroth := hZero b (List.mem_cons_self ..)
    have hOthers : ∀ x ≥ 0x80, x ≠ b := fun x hBeyond hSame =>
      absurd hFirst (UInt8.not_lt.2 (hSame ▸ hBeyond))
    simp [marks, Ne.symm hZeroth, hOthers]
  have hZeros : ofZeros (b :: bytes) = .utf8 := by
    unfold ofZeros
    split
    · next x y _ _ _ hBytes =>
        rw [hBytes] at hZero
        rw [if_neg (hZero x (by simp)), if_neg (hZero y (by simp))]
    · next x y hBytes =>
        rw [hBytes] at hZero
        rw [if_neg (hZero x (by simp)), if_neg (hZero y (by simp))]
    · rfl
  rw [detect, hMark, hZeros]

/-- A text without zeros that begins with a character of ASCII is read as it is. -/
theorem decodeDetected?_of_ascii {c : Char} {cs : List Char} (hFirst : c.toNat < 0x80)
    (hZero : ∀ x ∈ c :: cs, x.toNat ≠ 0) :
    decodeDetected? (String.ofList (c :: cs)).toUTF8 = some (String.ofList (c :: cs)) := by
  have hVal : c.val.toNat < 0x80 := hFirst
  have hSingle : String.utf8EncodeChar c = [c.val.toUInt8] :=
    String.utf8EncodeChar_eq_singleton
      (Char.utf8Size_eq_one_iff.2 (UInt32.le_iff_toNat_le.2 (Nat.le_of_lt_succ hVal)))
  have hBytes : (String.ofList (c :: cs)).toUTF8.data.toList =
      c.val.toUInt8 :: cs.flatMap String.utf8EncodeChar := by
    rw [String.toUTF8_eq_toByteArray, String.toByteArray_ofList, List.utf8Encode,
      List.toList_data_toByteArray, List.flatMap_cons, hSingle, List.singleton_append]
  have hNone : ∀ x ∈ (c :: cs).flatMap String.utf8EncodeChar, x ≠ 0 := by
    intro x hMem
    obtain ⟨d, hChar, hByte⟩ := List.mem_flatMap.1 hMem
    exact ne_zero_of_mem_utf8EncodeChar (hZero d hChar) hByte
  have hDetect :
      detect ((String.ofList (c :: cs)).toUTF8.extract 0 4).data.toList = (.utf8, 0) := by
    rw [ByteArray.data_extract, Array.toList_extract, hBytes]
    refine detect_of_ascii (UInt8.lt_iff_toNat_lt.2 ?_) fun x hMem => hNone x ?_
    · rw [UInt32.toNat_toUInt8]
      exact Nat.lt_of_le_of_lt (Nat.mod_le ..) hVal
    · rw [List.flatMap_cons, hSingle]
      exact List.mem_of_mem_take (i := 4) hMem
  have hRead : String.fromUTF8? (String.ofList (c :: cs)).toUTF8 = some (String.ofList (c :: cs)) :=
    dif_pos (String.isValidUTF8 _)
  rw [decodeDetected?, unmark, hDetect]
  dsimp only
  rw [ByteArray.extract_zero_size, hRead, Option.some_or]

end Text

/-! Bodies. -/

namespace Service

open Schema

/-- A request that posts a value, written as JSON. -/
def Request.posting (origin path : String) (v : Value) : Request :=
  ⟨"POST", origin, path, some "application/json", (String.ofList (Json.write true v)).toUTF8⟩

variable {depth : DepthLimit} {v : Value} {origin path : String}

theorem Request.isFor_posting : (Request.posting origin path v).IsFor "POST" path :=
  ⟨rfl, PathForm.match?_exact_iff.2 ⟨.inl rfl, rfl⟩⟩

/-- A value that was written is read from its bytes. -/
theorem readBody_write (ascii : Bool)
    (hCarried : v.everywhere (Json.isCarried (Value.readingLimits depth)) = true)
    (hDepth : (Value.readingLimits depth).Admits 0 v.depth) :
    readBody depth (String.ofList (Json.write ascii v)).toUTF8 = .value v := by
  obtain ⟨c, cs, hText, _, _, hAscii⟩ := Json.exists_write_eq ascii (Value.self_of_everywhere hCarried)
  have hPlain := Json.isPlain_write _ ascii v hCarried
  rw [hText] at hPlain ⊢
  rw [readBody, Text.decodeDetected?_of_ascii hAscii fun x hMem => by have := hPlain x hMem; omega]
  dsimp only
  rw [String.toList_ofList, ← hText, Json.read_write ascii hCarried hDepth]

theorem Request.body_posting
    (hCarried : v.everywhere (Json.isCarried (Value.readingLimits depth)) = true)
    (hDepth : (Value.readingLimits depth).Admits 0 v.depth) :
    (Request.posting origin path v).body depth = .value v := by
  obtain ⟨c, cs, hText, _⟩ := Json.exists_write_eq true (Value.self_of_everywhere hCarried)
  have hContent : (Request.posting origin path v).content.isEmpty = false := by
    rw [Request.posting, hText, ByteArray.isEmpty, beq_eq_false_iff_ne]
    intro hSize
    have hEmpty := String.utf8ByteSize_eq_zero_iff.1 hSize
    exact List.cons_ne_nil c cs (String.ofList_eq_empty_iff.1 hEmpty)
  have hJson : (some "application/json").any isJson = true := by decide +kernel
  rw [Request.body, hContent, if_neg Bool.false_ne_true]
  exact (if_pos hJson).trans (readBody_write true hCarried hDepth)

/-- Whatever a posted value has to pass, it is checked as it was written. -/
theorem Request.check_posting {α : Type} {host : Host} {otherwise : Fault} {check : Value → Checked α}
    (hCarried : v.everywhere (Json.isCarried (Value.readingLimits host.bodies)) = true)
    (hDepth : (Value.readingLimits host.bodies).Admits 0 v.depth) :
    (Request.posting origin path v).check host otherwise check =
      (check v).mapError (refusal host v) := by
  rw [Request.check, Request.body_posting hCarried hDepth, Body.check]

end Service

end Shorthand
