import Shorthand.Numeral
import Shorthand.Toml.Lexeme

/-!
The TOML values without parts: texts, words, days, times and numbers.
-/

namespace Shorthand.Toml

open Text (decimal dropLead? dropLead?_length spanDigits spanDigits_length)

/-- Two digits, as a number below a bound. -/
def readPair (bound : Nat) (s : List Char) : Option (Nat × List Char) :=
  match s with
  | a :: b :: rest =>
    if a.isDigit && b.isDigit && decimal [a, b] < bound then some (decimal [a, b], rest) else none
  | _ => none

/-- A year of four digits, a month and a day, with hyphens between them. The month may be any, and
the day any that some month has. -/
def readDate (s : List Char) : Option (Date × List Char) := do
  let (century, s) ← readPair 100 s
  let (year, s) ← readPair 100 s
  let s ← dropLead? ['-'] s
  let (month, s) ← readPair 13 s
  let s ← dropLead? ['-'] s
  let (day, s) ← readPair 32 s
  if month = 0 || day = 0 then none else some (⟨100 * century + year, month, day⟩, s)

/-- A fraction of a second in microseconds; further digits are dropped. -/
def readMicroseconds (s : List Char) : Nat × List Char :=
  match s with
  | '.' :: rest =>
    let (ds, after) := spanDigits rest
    if ds.isEmpty then (0, s) else (decimal ((ds ++ List.replicate 6 '0').take 6), after)
  | _ => (0, s)

/-- Hours, minutes and seconds with colons between them, and perhaps a fraction. -/
def readTime (s : List Char) : Option (TimeOfDay × List Char) := do
  let (hour, s) ← readPair 24 s
  let s ← dropLead? [':'] s
  let (minute, s) ← readPair 60 s
  let s ← dropLead? [':'] s
  let (second, s) ← readPair 60 s
  let (microsecond, s) := readMicroseconds s
  some (⟨hour, minute, second, microsecond⟩, s)

/-- Hours and minutes as a number of minutes. -/
def readOffsetMinutes (s : List Char) : Option (Nat × List Char) := do
  let (hour, s) ← readPair 24 s
  let s ← dropLead? [':'] s
  let (minute, s) ← readPair 60 s
  some (60 * hour + minute, s)

/-- The distance from universal time, if it is given here. -/
def readOffset (s : List Char) : Option Int × List Char :=
  match s with
  | [] => (none, s)
  | c :: rest =>
    if c = 'Z' || c = 'z' then (some 0, rest)
    else if c = '+' || c = '-' then
      match readOffsetMinutes rest with
      | some (minutes, after) => (some (if c = '-' then -(minutes : Int) else minutes), after)
      | none => (none, s)
    else (none, s)

/-- The time behind a day, with the mark between them. -/
def readTimeOfDate (s : List Char) : Option (TimeOfDay × List Char) :=
  match s with
  | [] => none
  | c :: rest => if c = 'T' || c = 't' || c = ' ' then readTime rest else none

/-- A day, alone or with a time. -/
def readDay (s : List Char) : Option (Value × List Char) := do
  let (date, rest) ← readDate s
  match readTimeOfDate rest with
  | none => some (.date date, rest)
  | some (time, after) =>
    let (offset, after) := readOffset after
    some (.moment ⟨date, time, offset⟩, after)

/-- The day that a value names. -/
def dateOf? : Value → Option Date
  | .date date => some date
  | .moment moment => some moment.date
  | _ => none

/-- The bases that have a letter, behind a zero. -/
def baseOf? (c : Char) : Option Nat :=
  match c with
  | 'x' => some 16
  | 'o' => some 8
  | 'b' => some 2
  | _ => none

/-- Whether a character is a digit in a base up to sixteen. -/
def isDigitIn (base : Nat) (c : Char) : Bool := (Text.hexValue? c).any (· < base)

/-- The value of digits in a base up to sixteen. -/
def valueIn (base : Nat) (ds : List Char) : Nat :=
  ds.foldl (fun n d => base * n + (Text.hexValue? d).getD 0) 0

/-- An integer with a base: a zero, the base's letter and at least one digit. -/
def readBased (s : List Char) : Option (Nat × List Char) :=
  match s with
  | zero :: letter :: rest =>
    if zero = '0' then do
      let base ← baseOf? letter
      let (ds, after) := Numeral.readRun true (isDigitIn base) rest
      if ds.isEmpty then none else some (valueIn base ds, after)
    else none
  | _ => none

/-- A number may have a plus, and underscores between its digits. -/
def numberFormat : Numeral.Format := ⟨true, true⟩

/-- The words that are values. -/
def words : List (List Char × Value) :=
  [("true".toList, .bool true), ("false".toList, .bool false),
    ("inf".toList, .float (.infinity false)), ("+inf".toList, .float (.infinity false)),
    ("-inf".toList, .float (.infinity true)), ("nan".toList, .float .nan),
    ("+nan".toList, .float .nan), ("-nan".toList, .float .nan)]

/-- A time of day without a date. -/
def readLocalTime (s : List Char) : Option (Value × List Char) :=
  (readTime s).map fun (time, rest) => (.time time, rest)

/-- An integer with a base. No bound is set on its digits. -/
def readBasedInteger (s : List Char) : Option (Value × List Char) :=
  (readBased s).map fun (n, rest) => (.int n, rest)

/-- A time of day, an integer with a base, or a word. -/
def readSpecial (s : List Char) : Option (Value × List Char) :=
  match readLocalTime s with
  | some found => some found
  | none =>
    match readBasedInteger s with
    | some found => some found
    | none => Text.leadingWord? words s

/-- A value that has no quotes. What can be read as a day is one, even if it goes on like something
else, and then it must exist. -/
def readBareScalar (limits : Limits) (s : List Char) : Lexed Value :=
  match readDay s with
  | some (v, rest) =>
    if (dateOf? v).any Date.exists then .ok (v, rest) else flawed .invalidDate s
  | none =>
    match readSpecial s with
    | some found => .ok found
    | none =>
      match Numeral.read numberFormat s with
      | some (n, rest) => (n.value limits).map (·, rest)
      | none => flawed .invalidValue s

/-- A value without parts. -/
def readScalar (limits : Limits) (s : List Char) : Lexed Value :=
  match s with
  | [] => flawed .invalidValue s
  | c :: rest =>
    if c = '"' then (readQuoted rest).map fun (t, after) => (.text t, after)
    else if c = '\'' then (readApostrophed rest).map fun (t, after) => (.text t, after)
    else readBareScalar limits s

theorem readPair_length {bound n : Nat} {s rest : List Char}
    (h : readPair bound s = some (n, rest)) : rest.length + 2 = s.length := by
  unfold readPair at h
  split at h
  · split at h
    · cases h
      simp
    · cases h
  · cases h

theorem readDate_length {s rest : List Char} {date : Date} (h : readDate s = some (date, rest)) :
    rest.length < s.length := by
  simp only [readDate, Option.bind_eq_bind, Option.bind_eq_some_iff] at h
  obtain ⟨century, h₁, year, h₂, s₃, h₃, month, h₄, s₅, h₅, day, h₆, h⟩ := h
  have := readPair_length h₁
  have := readPair_length h₂
  have := dropLead?_length h₃
  have := readPair_length h₄
  have := dropLead?_length h₅
  have := readPair_length h₆
  split at h
  · cases h
  · simp only [Option.some.injEq, Prod.mk.injEq] at h
    rw [← h.2]
    omega

theorem readMicroseconds_length (s : List Char) : (readMicroseconds s).2.length ≤ s.length := by
  unfold readMicroseconds
  split
  · next rest =>
    have := spanDigits_length rest
    dsimp only
    split
    · exact Nat.le_refl _
    · simp only [List.length_cons]
      omega
  · exact Nat.le_refl _

theorem readTime_length {s rest : List Char} {time : TimeOfDay}
    (h : readTime s = some (time, rest)) : rest.length < s.length := by
  simp only [readTime, Option.bind_eq_bind, Option.bind_eq_some_iff] at h
  obtain ⟨hour, h₁, s₂, h₂, minute, h₃, s₄, h₄, second, h₅, h⟩ := h
  have := readPair_length h₁
  have := dropLead?_length h₂
  have := readPair_length h₃
  have := dropLead?_length h₄
  have := readPair_length h₅
  have := readMicroseconds_length second.2
  simp only [Option.some.injEq, Prod.mk.injEq] at h
  rw [← h.2]
  omega

theorem readOffset_length (s : List Char) : (readOffset s).2.length ≤ s.length := by
  unfold readOffset
  split
  · exact Nat.le_refl _
  · next c rest =>
    split
    · simp
    · split
      · split
        · next minutes after h =>
          simp only [readOffsetMinutes, Option.bind_eq_bind, Option.bind_eq_some_iff] at h
          obtain ⟨hour, h₁, s₂, h₂, minute, h₃, h⟩ := h
          have := readPair_length h₁
          have := dropLead?_length h₂
          have := readPair_length h₃
          cases h
          simp only [List.length_cons]
          omega
        · exact Nat.le_refl _
      · exact Nat.le_refl _

theorem readTimeOfDate_length {s rest : List Char} {time : TimeOfDay}
    (h : readTimeOfDate s = some (time, rest)) : rest.length < s.length := by
  unfold readTimeOfDate at h
  split at h
  · cases h
  · split at h
    · have := readTime_length h
      simp only [List.length_cons]
      omega
    · cases h

theorem readDay_length {s rest : List Char} {v : Value} (h : readDay s = some (v, rest)) :
    rest.length < s.length := by
  simp only [readDay, Option.bind_eq_bind, Option.bind_eq_some_iff] at h
  obtain ⟨date, hDate, h⟩ := h
  have := readDate_length hDate
  split at h
  · simp only [Option.some.injEq, Prod.mk.injEq] at h
    rw [← h.2]
    omega
  · next time after hTime =>
    have := readTimeOfDate_length hTime
    have := readOffset_length after
    simp only [Option.some.injEq, Prod.mk.injEq] at h
    rw [← h.2]
    omega

theorem readBased_length {s rest : List Char} {n : Nat} (h : readBased s = some (n, rest)) :
    rest.length < s.length := by
  unfold readBased at h
  split at h
  · next zero letter more =>
    split at h
    · simp only [Option.bind_eq_bind, Option.bind_eq_some_iff] at h
      obtain ⟨base, _, h⟩ := h
      have := Numeral.readRun_length true (isDigitIn base) more
      split at h
      · cases h
      · simp only [Option.some.injEq, Prod.mk.injEq] at h
        simp only [← h.2, List.length_cons]
        omega
    · cases h
  · cases h

theorem words_ne_nil : ∀ e ∈ words, e.1 ≠ [] := by
  simp [words]

theorem readSpecial_length {s rest : List Char} {v : Value}
    (h : readSpecial s = some (v, rest)) : rest.length < s.length := by
  unfold readSpecial at h
  split at h
  · next found hTime =>
    cases h
    simp only [readLocalTime, Option.map_eq_some_iff] at hTime
    obtain ⟨_, hTime, hEq⟩ := hTime
    cases hEq
    exact readTime_length hTime
  · split at h
    · next found hBased =>
      cases h
      simp only [readBasedInteger, Option.map_eq_some_iff] at hBased
      obtain ⟨_, hBased, hEq⟩ := hBased
      cases hEq
      exact readBased_length hBased
    · exact Text.leadingWord?_length words_ne_nil h

theorem readBareScalar_length {limits : Limits} {s rest : List Char} {v : Value}
    (h : readBareScalar limits s = .ok (v, rest)) : rest.length < s.length := by
  unfold readBareScalar at h
  split at h
  · next hDay =>
    split at h
    · cases h
      exact readDay_length hDay
    · cases h
  · split at h
    · next found hFound =>
      cases h
      exact readSpecial_length hFound
    · split at h
      · next n after hNumeral =>
        obtain ⟨w, _, hEq⟩ := map_eq_ok_iff.1 h
        cases hEq
        exact Numeral.read_length hNumeral
      · cases h

/-- A value takes at least one character. -/
theorem readScalar_length {limits : Limits} {s rest : List Char} {v : Value}
    (h : readScalar limits s = .ok (v, rest)) : rest.length < s.length := by
  unfold readScalar at h
  split at h
  · cases h
  · next c s =>
    split at h
    · obtain ⟨⟨t, after⟩, hText, hEq⟩ := map_eq_ok_iff.1 h
      cases hEq
      have := readQuoted_length hText
      simp only [List.length_cons]
      omega
    · split at h
      · obtain ⟨⟨t, after⟩, hText, hEq⟩ := map_eq_ok_iff.1 h
        cases hEq
        have := readApostrophed_length hText
        simp only [List.length_cons]
        omega
      · exact readBareScalar_length h

end Shorthand.Toml
