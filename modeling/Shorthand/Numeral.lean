import Shorthand.Reading
import Shorthand.Value

/-!
Runs of decimal digits, and numbers as the data formats write them: a sign, digits, a fraction and an
exponent. The formats differ in whether a plus may stand in front and whether underscores may stand
between digits.
-/

namespace Shorthand

namespace Text

/-- The value of a run of decimal digits. -/
def decimal (ds : List Char) : Nat := ds.foldl (fun n d => 10 * n + (d.toNat - '0'.toNat)) 0

/-- The longest run of decimal digits and what follows it. -/
def spanDigits (s : List Char) : List Char × List Char :=
  (s.takeWhile Char.isDigit, s.dropWhile Char.isDigit)

theorem spanDigits_length (s : List Char) : (spanDigits s).2.length ≤ s.length :=
  (List.dropWhile_sublist _).length_le

end Text

open Text (decimal)

/-- What a format admits in a number besides digits, minus, point and exponent. -/
structure Numeral.Format where
  plus : Bool
  underscores : Bool
deriving DecidableEq, Repr

/-- The parts of a decimal number as they stand in the text, without underscores. -/
structure Numeral where
  negative : Bool
  whole : List Char
  fraction : List Char
  exponent : Option Int
deriving DecidableEq, Repr

namespace Numeral

/-- The rest of a run of digits; before each digit may stand one underscore, if they are admitted. -/
def readRunOnto (underscores : Bool) (digit : Char → Bool) (done s : List Char) :
    List Char × List Char :=
  match s with
  | [] => (done.reverse, s)
  | [c] => if digit c then ((c :: done).reverse, []) else (done.reverse, s)
  | c :: d :: rest =>
    if digit c then readRunOnto underscores digit (c :: done) (d :: rest)
    else if underscores && c = '_' && digit d then readRunOnto underscores digit (d :: done) rest
    else (done.reverse, s)

/-- A run of digits, without its underscores, and what follows it. -/
def readRun (underscores : Bool) (digit : Char → Bool) (s : List Char) : List Char × List Char :=
  match s with
  | [] => ([], s)
  | c :: rest => if digit c then readRunOnto underscores digit [c] rest else ([], s)

/-- A sign, if one stands here that is admitted: whether it is a minus, and what follows. -/
def readSign (plus : Bool) (s : List Char) : Bool × List Char :=
  match s with
  | [] => (false, s)
  | c :: rest =>
    if c = '-' then (true, rest) else if plus && c = '+' then (false, rest) else (false, s)

/-- The digits before a point: a zero alone, or a run that does not start with one. -/
def readWhole (underscores : Bool) (s : List Char) : List Char × List Char :=
  match s with
  | [] => ([], s)
  | c :: rest => if c = '0' then (['0'], rest) else readRun underscores Char.isDigit s

/-- A point and at least one digit, or nothing. -/
def readFraction (underscores : Bool) (s : List Char) : List Char × List Char :=
  match s with
  | '.' :: rest =>
    let (ds, after) := readRun underscores Char.isDigit rest
    if ds.isEmpty then ([], s) else (ds, after)
  | _ => ([], s)

/-- An exponent: the letter, perhaps a sign, and at least one digit. -/
def readExponent (underscores : Bool) (s : List Char) : Option Int × List Char :=
  match s with
  | [] => (none, s)
  | e :: rest =>
    if e = 'e' || e = 'E' then
      let (negative, unsigned) := readSign true rest
      let (ds, after) := readRun underscores Char.isDigit unsigned
      if ds.isEmpty then (none, s)
      else (some (if negative then -(decimal ds : Int) else decimal ds), after)
    else (none, s)

/-- A number and what follows it. A zero in front takes no further digits. -/
def read (format : Format) (s : List Char) : Option (Numeral × List Char) :=
  let (negative, unsigned) := readSign format.plus s
  let (whole, rest) := readWhole format.underscores unsigned
  if whole.isEmpty then none
  else
    let (fraction, rest) := readFraction format.underscores rest
    let (exponent, rest) := readExponent format.underscores rest
    some (⟨negative, whole, fraction, exponent⟩, rest)

/-- The value of a number: an integer if it has neither fraction nor exponent. -/
def value {φ : Type} (limits : Limits) (n : Numeral) : Except (Reading.Stop φ) Value :=
  if n.fraction.isEmpty && n.exponent.isNone then
    if limits.refusesDigits n.whole.length then .error (.tooManyDigits n.whole.length)
    else .ok (.int (if n.negative then -(decimal n.whole : Int) else decimal n.whole))
  else
    .ok (.float (Binary64.ofDecimal n.negative (decimal (n.whole ++ n.fraction))
      (n.exponent.getD 0 - n.fraction.length)))

theorem readRunOnto_length (underscores : Bool) (digit : Char → Bool) (done s : List Char) :
    (readRunOnto underscores digit done s).2.length ≤ s.length := by
  fun_induction readRunOnto underscores digit done s with
  | case1 => exact Nat.le_refl _
  | case2 => simp
  | case3 => exact Nat.le_refl _
  | case4 done c d rest _ ih =>
    simp only [List.length_cons] at ih ⊢
    omega
  | case5 done c d rest _ _ ih =>
    simp only [List.length_cons]
    omega
  | case6 => exact Nat.le_refl _

theorem readRun_length (underscores : Bool) (digit : Char → Bool) (s : List Char) :
    (readRun underscores digit s).2.length ≤ s.length := by
  unfold readRun
  split
  · exact Nat.le_refl _
  · next c rest =>
    split
    · have := readRunOnto_length underscores digit [c] rest
      simp only [List.length_cons]
      omega
    · exact Nat.le_refl _

/-- A run that has digits takes at least one character. -/
theorem readRun_length_lt {underscores : Bool} {digit : Char → Bool} {s : List Char}
    (h : (readRun underscores digit s).1 ≠ []) :
    (readRun underscores digit s).2.length < s.length := by
  unfold readRun at h ⊢
  split at h
  · simp at h
  · next c rest =>
    split at h
    · next hDigit =>
      have := readRunOnto_length underscores digit [c] rest
      simp only [hDigit, if_true, List.length_cons]
      omega
    · simp at h

theorem readSign_length (plus : Bool) (s : List Char) :
    (readSign plus s).2.length ≤ s.length := by
  unfold readSign
  split
  · exact Nat.le_refl _
  · split
    · simp
    · split <;> simp

theorem readWhole_length {underscores : Bool} {s : List Char}
    (h : (readWhole underscores s).1 ≠ []) :
    (readWhole underscores s).2.length < s.length := by
  unfold readWhole at h ⊢
  split at h
  · simp at h
  · next c rest =>
    split at h
    · next hc => simp [hc]
    · next hc =>
      simp only [if_neg hc]
      exact readRun_length_lt h

theorem readFraction_length (underscores : Bool) (s : List Char) :
    (readFraction underscores s).2.length ≤ s.length := by
  unfold readFraction
  split
  · next rest =>
    have := readRun_length underscores Char.isDigit rest
    dsimp only
    split
    · exact Nat.le_refl _
    · simp only [List.length_cons]
      omega
  · exact Nat.le_refl _

theorem readExponent_length (underscores : Bool) (s : List Char) :
    (readExponent underscores s).2.length ≤ s.length := by
  unfold readExponent
  split
  · exact Nat.le_refl _
  · next e rest =>
    split
    · have := readSign_length true rest
      have := readRun_length underscores Char.isDigit (readSign true rest).2
      dsimp only
      split
      · exact Nat.le_refl _
      · simp only [List.length_cons]
        omega
    · exact Nat.le_refl _

/-- A number has a digit, so it takes at least one character of the text. -/
theorem read_length {format : Format} {s rest : List Char} {n : Numeral}
    (h : read format s = some (n, rest)) : rest.length < s.length := by
  unfold read at h
  dsimp only at h
  split at h
  · cases h
  · next hWhole =>
    have h₁ := readSign_length format.plus s
    have h₂ := readWhole_length (s := (readSign format.plus s).2) (by simpa using hWhole)
    have h₃ := readFraction_length format.underscores
      (readWhole format.underscores (readSign format.plus s).2).2
    have h₄ := readExponent_length format.underscores (readFraction format.underscores
      (readWhole format.underscores (readSign format.plus s).2).2).2
    simp only [Option.some.injEq, Prod.mk.injEq] at h
    rw [← h.2]
    omega

end Numeral

end Shorthand
