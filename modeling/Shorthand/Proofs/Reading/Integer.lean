import Mathlib.Data.List.Basic
import Shorthand.Numeral

/-! Integers, written in decimal digits and read. No needless zero stands in front of a number that is
written, and it is read up to its last digit if it does not go on behind that. -/

namespace Shorthand

namespace Text

theorem toList_toString (i : Int) :
    (toString i).toList =
      if i < 0 then '-' :: Nat.toDigits 10 i.natAbs else Nat.toDigits 10 i.natAbs := by
  cases i with
  | ofNat n => exact Nat.toList_repr.trans (if_neg (Int.not_lt.2 (Int.natCast_nonneg n))).symm
  | negSucc n =>
      rw [if_pos (Int.negSucc_lt_zero n)]
      change ("-" ++ (n + 1).repr).toList = _
      rw [String.toList_append, Nat.toList_repr]
      rfl

theorem decimal_toDigits (n : Nat) : decimal (Nat.toDigits 10 n) = n :=
  Nat.ofDigitChars_toDigits (by decide) (by decide)

theorem isDigit_of_mem_toDigits (n : Nat) : ∀ c ∈ Nat.toDigits 10 n, c.isDigit = true :=
  fun _ hMem => Nat.isDigit_of_mem_toDigits (by decide) (by decide) hMem

theorem exists_toDigits_eq (n : Nat) : ∃ c ds, Nat.toDigits 10 n = c :: ds ∧ c.isDigit = true := by
  obtain ⟨c, ds, hDigits⟩ := List.exists_cons_of_ne_nil (@Nat.toDigits_ne_nil n 10)
  exact ⟨c, ds, hDigits, isDigit_of_mem_toDigits n c (by rw [hDigits]; exact List.mem_cons_self ..)⟩

theorem ne_of_isDigit {c d : Char} (h : c.isDigit = true) (hOther : d.isDigit = false) : c ≠ d := by
  rintro rfl
  cases h.symm.trans hOther

/-- The digits of a number begin with a zero only if it is zero. -/
theorem head?_toDigits {n : Nat} (h : n ≠ 0) : (Nat.toDigits 10 n).head? ≠ some '0' := by
  induction n using Nat.strongRecOn with
  | ind n ih =>
      rw [Nat.toDigits_eq_if (by decide)]
      split
      · simpa using h
      · rw [List.head?_append_of_ne_nil _ Nat.toDigits_ne_nil]
        exact ih (n / 10) (by omega) (by omega)

end Text

namespace Numeral

open Text

/-- Whether a number that ends in a digit would go on with a character. -/
def continues (c : Char) : Bool := c.isDigit || c = '.' || c = 'e' || c = 'E'

/-- What follows a number does not go on with it. -/
def Ends (rest : List Char) : Prop := ∀ c ∈ rest.head?, continues c = false

theorem Ends.nil : Ends [] := nofun

theorem Ends.cons {c : Char} (h : continues c = false) (rest : List Char) : Ends (c :: rest) := by
  rintro _ ⟨⟩
  exact h

/-! Runs without underscores. -/

variable {digit : Char → Bool} {done ds rest : List Char} {c : Char}

theorem readRunOnto_cons {underscores : Bool} (h : digit c = true) :
    readRunOnto underscores digit done (c :: rest) =
      readRunOnto underscores digit (c :: done) rest := by
  cases rest <;> simp [readRunOnto, h]

theorem readRunOnto_of_ends (h : ∀ c ∈ rest.head?, digit c = false) :
    readRunOnto false digit done rest = (done.reverse, rest) := by
  match rest with
  | [] => rfl
  | [c] => simp [readRunOnto, h c rfl]
  | c :: d :: rest => simp [readRunOnto, h c rfl]

/-- A run takes all digits there are. -/
theorem readRunOnto_append (hDigits : ∀ c ∈ ds, digit c = true)
    (hRest : ∀ c ∈ rest.head?, digit c = false) :
    readRunOnto false digit done (ds ++ rest) = (done.reverse ++ ds, rest) := by
  induction ds generalizing done with
  | nil => rw [List.nil_append, readRunOnto_of_ends hRest, List.append_nil]
  | cons c ds ih =>
      rw [List.forall_mem_cons] at hDigits
      rw [List.cons_append, readRunOnto_cons hDigits.1, ih hDigits.2, List.reverse_cons,
        List.append_assoc, List.singleton_append]

theorem readRun_append (hDigits : ∀ c ∈ ds, digit c = true)
    (hRest : ∀ c ∈ rest.head?, digit c = false) : readRun false digit (ds ++ rest) = (ds, rest) := by
  cases ds with
  | nil =>
      cases rest with
      | nil => rfl
      | cons c rest => simp [readRun, hRest c rfl]
  | cons c ds =>
      rw [List.forall_mem_cons] at hDigits
      rw [List.cons_append, readRun, if_pos hDigits.1, readRunOnto_append hDigits.2 hRest]
      rfl

/-! Numbers. -/

theorem Ends.not_isDigit (h : Ends rest) : ∀ c ∈ rest.head?, c.isDigit = false := by
  intro c hHead
  have hEnd := h c hHead
  simp only [continues, Bool.or_eq_false_iff] at hEnd
  exact hEnd.1.1.1

theorem readWhole_toDigits (h : Ends rest) (n : Nat) :
    readWhole false (Nat.toDigits 10 n ++ rest) = (Nat.toDigits 10 n, rest) := by
  have hRun := readRun_append (isDigit_of_mem_toDigits n) h.not_isDigit
  obtain ⟨c, ds, hDigits, _⟩ := exists_toDigits_eq n
  rw [hDigits] at hRun ⊢
  rw [List.cons_append, readWhole]
  split
  · next hZero =>
      -- A zero in front takes no further digits, and there are none.
      have hNumber : n = 0 := by
        refine Decidable.byContradiction fun hPositive => head?_toDigits hPositive ?_
        rw [hDigits, hZero]
        rfl
      rw [hNumber, Nat.toDigits_zero] at hDigits
      cases hDigits
      rfl
  · exact hRun

theorem readFraction_of_ends {underscores : Bool} (h : Ends rest) :
    readFraction underscores rest = ([], rest) := by
  unfold readFraction
  split
  · exact absurd (h '.' rfl) (by decide)
  · rfl

theorem readExponent_of_ends {underscores : Bool} (h : Ends rest) :
    readExponent underscores rest = (none, rest) := by
  unfold readExponent
  split
  · rfl
  · next e rest =>
      refine if_neg fun hLetter => ?_
      have hEnd := h e rfl
      simp_all [continues]

theorem readSign_toString (plus : Bool) (i : Int) (rest : List Char) :
    readSign plus ((toString i).toList ++ rest) =
      (decide (i < 0), Nat.toDigits 10 i.natAbs ++ rest) := by
  rw [toList_toString]
  split
  · next hNegative =>
      rw [decide_eq_true hNegative]
      rfl
  · next hPositive =>
      rw [decide_eq_false hPositive]
      obtain ⟨c, ds, hDigits, hDigit⟩ := exists_toDigits_eq i.natAbs
      have hMinus : c ≠ '-' := ne_of_isDigit hDigit rfl
      have hPlus : c ≠ '+' := ne_of_isDigit hDigit rfl
      simp [hDigits, readSign, hMinus, hPlus]

/-- The text of an integer is read as its sign and its digits. -/
theorem read_toString (plus : Bool) (i : Int) (h : Ends rest) :
    read ⟨plus, false⟩ ((toString i).toList ++ rest) =
      some (⟨decide (i < 0), Nat.toDigits 10 i.natAbs, [], none⟩, rest) := by
  unfold read
  dsimp only
  simp only [readSign_toString, readWhole_toDigits h, readFraction_of_ends h, readExponent_of_ends h,
    List.isEmpty_iff, if_neg Nat.toDigits_ne_nil]

/-- The value is the integer again, if it does not have more digits than allowed. -/
theorem value_toString {φ : Type} {limits : Limits} {i : Int}
    (h : limits.refusesDigits (Nat.toDigits 10 i.natAbs).length = false) :
    value (φ := φ) limits ⟨decide (i < 0), Nat.toDigits 10 i.natAbs, [], none⟩ = .ok (.int i) := by
  have hValue : (if decide (i < 0) = true then -(i.natAbs : Int) else i.natAbs) = i := by
    simp only [decide_eq_true_eq]
    split <;> omega
  simp only [value, h, decimal_toDigits, hValue]
  rfl

end Numeral

end Shorthand
