import Shorthand.Catalogue.File
import Shorthand.Proofs.Success

/-! The text of a file: what of its path remains when the path is read, which bytes are those of a text,
and when a file has a text. -/

namespace Shorthand

/-! Bytes that are read as text. -/

theorem Text.unifyNewlinesOnto_eq {done s : List Char} (h : '\r' ∉ s) :
    unifyNewlinesOnto done s = done.reverse ++ s := by
  induction s generalizing done with
  | nil => simp [unifyNewlinesOnto]
  | cons c s ih =>
      rw [List.mem_cons, not_or] at h
      unfold unifyNewlinesOnto
      rw [if_neg (Ne.symm h.1), ih h.2, List.reverse_cons, List.append_assoc]
      rfl

/-- A text without carriage returns has line feeds for line ends already. -/
theorem Text.unifyNewlines_eq {s : List Char} (h : '\r' ∉ s) : unifyNewlines s = s :=
  unifyNewlinesOnto_eq h

theorem Text.Utf8.decode_eq_ok_iff {bytes : ByteArray} {s : String} :
    decode bytes = .ok s ↔ s.toUTF8 = bytes := by
  unfold decode String.fromUTF8?
  by_cases hValid : bytes.IsValidUTF8
  · rw [dif_pos hValid]
    constructor
    · rintro ⟨⟩
      rfl
    · rintro rfl
      rfl
  · rw [dif_neg hValid]
    refine iff_of_false (fun h => by cases h) ?_
    rintro rfl
    exact hValid s.isValidUTF8

/-! The characters of a path. -/

namespace Path

variable {c : Char}

theorem exists_mem_splitSlashes_iff (hSlash : c ≠ '/') (current s : List Char) :
    (∃ p ∈ splitSlashes current s, c ∈ p.toList) ↔ c ∈ current ∨ c ∈ s := by
  induction s generalizing current with
  | nil => simp [splitSlashes]
  | cons d s ih =>
      rw [splitSlashes]
      split
      · next hd =>
          subst hd
          rw [List.exists_mem_cons_iff, ih]
          simp [hSlash]
      · rw [ih, List.mem_cons, List.mem_cons]
        tauto

theorem mem_intercalate_iff (hSlash : c ≠ '/') (parts : List String) :
    c ∈ ("/".intercalate parts).toList ↔ ∃ p ∈ parts, c ∈ p.toList := by
  rw [String.toList_intercalate]
  induction parts with
  | nil => simp [List.intercalate]
  | cons p parts ih =>
      cases parts with
      | nil => simp [List.intercalate]
      | cons q parts =>
          rw [List.exists_mem_cons_iff, ← ih]
          simp [List.intercalate, hSlash]

theorem not_mem_rootOf (hSlash : c ≠ '/') (s : List Char) : c ∉ (rootOf s).toList := by
  unfold rootOf
  split <;> simp [hSlash]

/-- Reading a path keeps all characters but slashes and dots. -/
theorem mem_text_ofText_iff (hSlash : c ≠ '/') (hDot : c ≠ '.') (s : String) :
    c ∈ (ofText s).text.toList ↔ c ∈ s.toList := by
  have hParts : (∃ p ∈ (ofText s).parts, c ∈ p.toList) ↔ c ∈ s.toList := by
    have hKept : ∀ p : String, c ∈ p.toList → (p ≠ "" && p ≠ ".") = true := by
      intro p hMem
      have hEmpty : p ≠ "" := by
        rintro rfl
        simp at hMem
      have hSingle : p ≠ "." := by
        rintro rfl
        simp [hDot] at hMem
      simp [hEmpty, hSingle]
    have hSplit := exists_mem_splitSlashes_iff hSlash [] s.toList
    rw [or_iff_right (List.not_mem_nil)] at hSplit
    rw [← hSplit]
    refine exists_congr fun p => ?_
    rw [ofText, List.mem_filter, and_assoc]
    exact and_congr_right fun _ => and_iff_right_of_imp (hKept p)
  rw [← hParts, text]
  split
  · next hBare =>
      simp only [Bool.and_eq_true, decide_eq_true_eq, List.isEmpty_iff] at hBare
      simp [hBare.2, hDot]
  · rw [String.toList_append, List.mem_append, mem_intercalate_iff hSlash]
    exact or_iff_right (not_mem_rootOf hSlash _)

/-- Looking for a zero in a path that was read is looking for one in its text. -/
theorem contains_zero_ofText (s : String) :
    (ofText s).text.contains '\x00' = decide ('\x00' ∈ s.toList) := by
  rw [String.contains_char_eq]
  exact decide_eq_decide.2 (mem_text_ofText_iff (by decide) (by decide) s)

end Path

namespace Catalogue

/-- The text of a file is the one that its bytes write, with line feeds for line ends. -/
theorem readText_eq_ok_iff {files : Files} {path : Path} {text : List Char} :
    readText files path = .ok text ↔
      ∃ s : String, files.read path = .ok s.toUTF8 ∧ text = Text.unifyNewlines s.toList := by
  rw [readText, bind_eq_ok_iff]
  constructor
  · rintro ⟨bytes, hBytes, h⟩
    obtain ⟨s, hText, h⟩ := bind_eq_ok_iff.1 h
    cases h
    obtain rfl := Text.Utf8.decode_eq_ok_iff.1 (mapError_eq_ok_iff.1 hText)
    exact ⟨s, mapError_eq_ok_iff.1 hBytes, rfl⟩
  · rintro ⟨s, hBytes, rfl⟩
    refine ⟨_, mapError_eq_ok_iff.2 hBytes, bind_eq_ok_iff.2 ⟨s, ?_, rfl⟩⟩
    exact mapError_eq_ok_iff.2 (Text.Utf8.decode_eq_ok_iff.2 rfl)

end Catalogue

end Shorthand
