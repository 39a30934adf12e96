import Shorthand.Numeral
import Shorthand.Proofs.Reading.Limits
import Shorthand.Text.Lead

/-! What the readers of both data formats take from the front of a text: leads, words and numbers. What
remains is a suffix, and the digits of a number are those of a run that stands in the text. -/

namespace Shorthand

namespace Text

theorem dropLead?_suffix {lead s rest : List Char} (h : dropLead? lead s = some rest) :
    rest <:+ s :=
  ⟨lead, (dropLead?_eq_some_iff.1 h).symm⟩

theorem leadingWord?_suffix {α : Type} {words : List (List Char × α)} {s rest : List Char}
    {entry : α} (h : leadingWord? words s = some (entry, rest)) : rest <:+ s := by
  obtain ⟨⟨word, a⟩, _, hFound⟩ := List.exists_of_findSome?_eq_some h
  obtain ⟨after, hDrop, hEq⟩ := Option.map_eq_some_iff.1 hFound
  cases hEq
  exact dropLead?_suffix hDrop

end Text

namespace Numeral

open Reading

/-! Runs of digits. -/

section

variable {underscores : Bool} {digit : Char → Bool} {s ds rest : List Char}

/-- A text begins with a run of digits, underscores among them: `ds` are its digits, and `rest` is
what follows. -/
def IsRun (digit : Char → Bool) (s ds rest : List Char) : Prop :=
  ∃ run, s = run ++ rest ∧ ds = run.filter digit ∧ ∀ c ∈ run, digit c = true ∨ c = '_'

namespace IsRun

theorem suffix (h : IsRun digit s ds rest) : rest <:+ s := by
  obtain ⟨run, hText, _⟩ := h
  exact ⟨run, hText.symm⟩

theorem nil : IsRun digit s [] s :=
  ⟨[], rfl, rfl, by simp⟩

theorem cons {c : Char} (h : IsRun digit s ds rest) (hDigit : digit c = true) :
    IsRun digit (c :: s) (c :: ds) rest := by
  obtain ⟨run, rfl, rfl, hOnly⟩ := h
  exact ⟨c :: run, rfl, by rw [List.filter_cons_of_pos hDigit], by simpa [hDigit] using hOnly⟩

theorem skip (h : IsRun digit s ds rest) (hNone : ¬digit '_' = true) :
    IsRun digit ('_' :: s) ds rest := by
  obtain ⟨run, rfl, rfl, hOnly⟩ := h
  exact ⟨'_' :: run, rfl, by rw [List.filter_cons_of_neg hNone], by simpa using hOnly⟩

end IsRun

theorem isRun_readRunOnto (done : List Char) :
    ∃ ds, (readRunOnto underscores digit done s).1 = done.reverse ++ ds ∧
      IsRun digit s ds (readRunOnto underscores digit done s).2 := by
  fun_induction readRunOnto underscores digit done s with
  | case1 done => exact ⟨[], by simp, .nil⟩
  | case2 done c hDigit => exact ⟨[c], by simp, .cons .nil hDigit⟩
  | case3 done c hDigit => exact ⟨[], by simp, .nil⟩
  | case4 done c d rest hDigit ih =>
      obtain ⟨ds, hFound, hRun⟩ := ih
      exact ⟨c :: ds, by simp [hFound], hRun.cons hDigit⟩
  | case5 done c d rest hNone hUnderscore ih =>
      obtain ⟨ds, hFound, hRun⟩ := ih
      simp only [Bool.and_eq_true, decide_eq_true_eq] at hUnderscore
      obtain ⟨⟨_, rfl⟩, hDigit⟩ := hUnderscore
      exact ⟨d :: ds, by simp [hFound], (hRun.cons hDigit).skip hNone⟩
  | case6 done c d rest _ _ => exact ⟨[], by simp, .nil⟩

theorem isRun_readRun (underscores : Bool) (digit : Char → Bool) (s : List Char) :
    IsRun digit s (readRun underscores digit s).1 (readRun underscores digit s).2 := by
  unfold readRun
  split
  · exact .nil
  · next c rest =>
      split
      · next hDigit =>
          obtain ⟨ds, hFound, hRun⟩ := @isRun_readRunOnto underscores digit rest [c]
          rw [hFound]
          exact hRun.cons hDigit
      · exact .nil

end

/-! Numbers. -/

variable {format : Format} {s rest : List Char} {n : Numeral}

theorem readSign_suffix (plus : Bool) (s : List Char) : (readSign plus s).2 <:+ s := by
  unfold readSign
  split
  · exact List.suffix_rfl
  · next c rest =>
      split
      · exact List.suffix_cons c rest
      · split
        · exact List.suffix_cons c rest
        · exact List.suffix_rfl

theorem isRun_readWhole (underscores : Bool) (s : List Char) :
    IsRun Char.isDigit s (readWhole underscores s).1 (readWhole underscores s).2 := by
  unfold readWhole
  split
  · exact .nil
  · next c rest =>
      split
      · next hZero =>
          subst hZero
          exact .cons .nil rfl
      · exact isRun_readRun ..

theorem readFraction_suffix (underscores : Bool) (s : List Char) :
    (readFraction underscores s).2 <:+ s := by
  unfold readFraction
  split
  · next rest =>
      dsimp only
      split
      · exact List.suffix_rfl
      · exact (isRun_readRun ..).suffix.trans (List.suffix_cons ..)
  · exact List.suffix_rfl

theorem readExponent_suffix (underscores : Bool) (s : List Char) :
    (readExponent underscores s).2 <:+ s := by
  unfold readExponent
  split
  · exact List.suffix_rfl
  · next e rest =>
      split
      · dsimp only
        split
        · exact List.suffix_rfl
        · exact ((isRun_readRun ..).suffix.trans (readSign_suffix ..)).trans (List.suffix_cons ..)
      · exact List.suffix_rfl

/-- The digits before the point are those of a run in the text. -/
theorem read_eq_some (h : read format s = some (n, rest)) :
    rest <:+ s ∧ ∃ unsigned after, unsigned <:+ s ∧ IsRun Char.isDigit unsigned n.whole after := by
  unfold read at h
  dsimp only at h
  split at h
  · cases h
  · cases h
    have hSign := readSign_suffix format.plus s
    have hWhole := isRun_readWhole format.underscores (readSign format.plus s).2
    refine ⟨?_, _, _, hSign, hWhole⟩
    exact (readExponent_suffix ..).trans <| (readFraction_suffix ..).trans <|
      hWhole.suffix.trans hSign

/-- A number that stands in the text is an integer with too many digits only if the text has a run of
that many. -/
theorem value_bounded {φ : Type} {limits : Limits} {text : List Char}
    (h : read format s = some (n, rest)) (hPlace : s <:+ text) :
    Bounded (φ := φ) limits text (fun _ => True) (n.value limits) (n.value {}) := by
  obtain ⟨_, unsigned, after, hUnsigned, run, rfl, hWhole, hOnly⟩ := read_eq_some h
  have hRun : run <:+: text :=
    (List.prefix_append run after).isInfix.trans (hUnsigned.trans hPlace).isInfix
  have hLength : n.whole.length = run.countP Char.isDigit := by
    rw [hWhole, List.countP_eq_length_filter]
  unfold value
  split
  · split
    · next hRefused =>
        rw [hLength] at hRefused ⊢
        exact .tooManyDigits hRefused hRun hOnly trivial
    · exact Yields.bounded trivial
  · exact Yields.bounded trivial

end Numeral

end Shorthand
