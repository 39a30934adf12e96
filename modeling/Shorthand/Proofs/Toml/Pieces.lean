import Shorthand.Proofs.Reading.Numeral
import Shorthand.Toml.Scalar

/-! The pieces of a TOML text that know of no limits: comments, keys, quoted texts, days and times. They
stop for flaws alone, and what remains behind them is a suffix. -/

namespace Shorthand.Toml

open Reading
open Text (dropLead? dropLead?_suffix)

variable {s rest : List Char}

/-! Blanks and comments. -/

theorem skipBlanks_suffix (s : List Char) : skipBlanks s <:+ s :=
  List.dropWhile_suffix _

theorem skipBlanksAndNewlines_suffix (s : List Char) : skipBlanksAndNewlines s <:+ s :=
  List.dropWhile_suffix _

theorem finishComment_yields (body : List Char) : Yields (· <:+ body) (finishComment body) := by
  unfold finishComment
  split
  · trivial
  · exact List.dropWhile_suffix _

theorem skipComment_yields (s : List Char) : Yields (· <:+ s) (skipComment s) := by
  unfold skipComment
  split
  · exact List.suffix_rfl
  · next c body =>
      split
      · exact (finishComment_yields body).mono fun _ hRest => hRest.trans (List.suffix_cons c body)
      · exact List.suffix_rfl

theorem skipFiller_yields (s : List Char) : Yields (· <:+ s) (skipFiller s) := by
  fun_induction skipFiller s with
  | case1 s => exact List.nil_suffix
  | case2 s body stop hComment hBlank => exact (finishComment_yields body).of_error hComment
  | case3 s body rest hComment hBlank _ ih =>
      have hBody : '#' :: body <:+ s := hBlank ▸ skipBlanksAndNewlines_suffix s
      have hRest : rest <:+ body := (finishComment_yields body).of_ok hComment
      exact ih.mono fun _ hMore => ((hMore.trans hRest).trans (List.suffix_cons ..)).trans hBody
  | case4 s c body hBlank _ => exact hBlank ▸ skipBlanksAndNewlines_suffix s

/-! Quoted texts. -/

theorem breakAt_suffix {delimiter done body : List Char}
    (h : breakAt delimiter done s = some (body, rest)) : rest <:+ s := by
  fun_induction breakAt delimiter done s with
  | case1 => cases h
  | case2 done c s after hLead =>
      cases h
      exact dropLead?_suffix hLead
  | case3 done c s _ ih => exact (ih h).trans (List.suffix_cons ..)

theorem leaves_readLiteral (delimiter : String) (refused : Char → Bool) (s : List Char) :
    Leaves s (readLiteral delimiter refused s) := by
  unfold readLiteral
  split
  · trivial
  · next body after hBreak =>
      split
      · trivial
      · exact breakAt_suffix hBreak

theorem leaves_readHexChar (count : Nat) (s : List Char) : Leaves s (readHexChar count s) := by
  unfold readHexChar
  dsimp only
  split
  · trivial
  · split
    · exact List.drop_suffix ..
    · trivial

theorem skipLineEnd_yields (c : Char) (s : List Char) : Yields (· <:+ s) (skipLineEnd c s) := by
  unfold skipLineEnd
  split
  · exact skipBlanksAndNewlines_suffix s
  · split
    · exact List.nil_suffix
    · next d after hAfter =>
        have hSuffix : d :: after <:+ s := hAfter ▸ skipBlanks_suffix s
        split
        · exact ((skipBlanksAndNewlines_suffix after).trans (List.suffix_cons ..)).trans hSuffix
        · trivial

theorem leaves_readEscape (multiline : Bool) (s : List Char) : Leaves s (readEscape multiline s) := by
  unfold readEscape
  split
  · trivial
  · next c rest =>
      refine Leaves.trans ?_ (List.suffix_cons c rest)
      split
      · exact (skipLineEnd_yields c rest).map fun _ hAfter => hAfter
      · split
        · exact (leaves_readHexChar 4 rest).map fun _ hAfter => hAfter
        · split
          · exact (leaves_readHexChar 8 rest).map fun _ hAfter => hAfter
          · split
            · exact List.suffix_rfl
            · trivial

theorem leaves_readBasic (multiline : Bool) (done : String) (s : List Char) :
    Leaves s (readBasic multiline done s) := by
  fun_induction readBasic multiline done s with
  | case1 => trivial
  | case2 done rest _ after hLead => exact (dropLead?_suffix hLead).trans (List.suffix_cons ..)
  | case3 done rest _ _ ih => exact ih.trans (List.suffix_cons ..)
  | case4 done rest _ => exact List.suffix_cons ..
  | case5 done rest cs after hEscape _ _ ih =>
      have hAfter : after <:+ rest := (leaves_readEscape ..).of_ok hEscape
      exact ih.trans (hAfter.trans (List.suffix_cons ..))
  | case6 done rest stop hEscape _ => exact (leaves_readEscape ..).of_error hEscape
  | case7 => trivial
  | case8 _ _ _ _ _ _ ih => exact ih.trans (List.suffix_cons ..)

theorem takeExtraQuotes_suffix (quote : Char) (t : String) (s : List Char) :
    (takeExtraQuotes quote t s).2 <:+ s := by
  unfold takeExtraQuotes
  split
  · next a b rest =>
      split
      · split
        · exact List.suffix_append [a, b] rest
        · exact List.suffix_cons ..
      · exact List.suffix_rfl
  · split
    · exact List.nil_suffix
    · exact List.suffix_rfl
  · exact List.suffix_rfl

theorem dropNewline_suffix (s : List Char) : dropNewline s <:+ s := by
  unfold dropNewline
  split
  · exact List.suffix_cons ..
  · exact List.suffix_rfl

theorem leaves_readQuoted (s : List Char) : Leaves s (readQuoted s) := by
  unfold readQuoted
  split
  · next body =>
      refine Leaves.trans ?_ (List.suffix_append ['"', '"'] body)
      refine (leaves_readBasic ..).map fun (t, after) hAfter => ?_
      exact ((takeExtraQuotes_suffix ..).trans hAfter).trans (dropNewline_suffix body)
  · exact leaves_readBasic ..

theorem leaves_readApostrophed (s : List Char) : Leaves s (readApostrophed s) := by
  unfold readApostrophed
  split
  · next body =>
      refine Leaves.trans ?_ (List.suffix_append ['\'', '\''] body)
      refine (leaves_readLiteral ..).map fun (t, after) hAfter => ?_
      exact ((takeExtraQuotes_suffix ..).trans hAfter).trans (dropNewline_suffix body)
  · exact leaves_readLiteral ..

/-! Keys. -/

theorem leaves_readKeyPart (s : List Char) : Leaves s (readKeyPart s) := by
  unfold readKeyPart
  split
  · trivial
  · next c rest =>
      split
      · exact List.dropWhile_suffix _
      · split
        · exact (leaves_readLiteral ..).trans (List.suffix_cons ..)
        · split
          · exact (leaves_readBasic ..).trans (List.suffix_cons ..)
          · trivial

theorem leaves_readKeyOnto (done : List String) (s : List Char) :
    Leaves s (readKeyOnto done s) := by
  fun_induction readKeyOnto done s with
  | case1 done s stop hPart => exact (leaves_readKeyPart s).of_error hPart
  | case2 done s part rest hPart more hRest _ ih =>
      have hPartSuffix : rest <:+ s := (leaves_readKeyPart s).of_ok hPart
      have hDot : '.' :: more <:+ rest := hRest ▸ skipBlanks_suffix rest
      refine ih.trans ?_
      calc skipBlanks more
        _ <:+ more := skipBlanks_suffix more
        _ <:+ '.' :: more := List.suffix_cons ..
        _ <:+ rest := hDot
        _ <:+ s := hPartSuffix
  | case3 done s part rest hPart _ =>
      have hPartSuffix : rest <:+ s := (leaves_readKeyPart s).of_ok hPart
      exact (skipBlanks_suffix rest).trans hPartSuffix

theorem leaves_readKey (s : List Char) : Leaves s (readKey s) :=
  leaves_readKeyOnto [] s

/-! Days and times. -/

theorem readPair_suffix {bound n : Nat} (h : readPair bound s = some (n, rest)) : rest <:+ s := by
  unfold readPair at h
  split at h
  · next a b _ =>
      split at h
      · cases h
        exact List.suffix_append [a, b] rest
      · cases h
  · cases h

theorem readDate_suffix {date : Date} (h : readDate s = some (date, rest)) : rest <:+ s := by
  simp only [readDate, Option.bind_eq_bind, Option.bind_eq_some_iff] at h
  obtain ⟨century, hCentury, year, hYear, s₃, hFirst, month, hMonth, s₅, hSecond, day, hDay, h⟩ := h
  split at h
  · cases h
  · cases h
    calc day.2
      _ <:+ s₅ := readPair_suffix hDay
      _ <:+ month.2 := dropLead?_suffix hSecond
      _ <:+ s₃ := readPair_suffix hMonth
      _ <:+ year.2 := dropLead?_suffix hFirst
      _ <:+ century.2 := readPair_suffix hYear
      _ <:+ s := readPair_suffix hCentury

theorem readMicroseconds_suffix (s : List Char) : (readMicroseconds s).2 <:+ s := by
  unfold readMicroseconds
  split
  · dsimp only
    split
    · exact List.suffix_rfl
    · exact (List.dropWhile_suffix _).trans (List.suffix_cons ..)
  · exact List.suffix_rfl

theorem readTime_suffix {time : TimeOfDay} (h : readTime s = some (time, rest)) : rest <:+ s := by
  simp only [readTime, Option.bind_eq_bind, Option.bind_eq_some_iff] at h
  obtain ⟨hour, hHour, s₂, hFirst, minute, hMinute, s₄, hSecond, second, hSeconds, h⟩ := h
  cases h
  calc (readMicroseconds second.2).2
    _ <:+ second.2 := readMicroseconds_suffix second.2
    _ <:+ s₄ := readPair_suffix hSeconds
    _ <:+ minute.2 := dropLead?_suffix hSecond
    _ <:+ s₂ := readPair_suffix hMinute
    _ <:+ hour.2 := dropLead?_suffix hFirst
    _ <:+ s := readPair_suffix hHour

theorem readOffsetMinutes_suffix {minutes : Nat}
    (h : readOffsetMinutes s = some (minutes, rest)) : rest <:+ s := by
  simp only [readOffsetMinutes, Option.bind_eq_bind, Option.bind_eq_some_iff] at h
  obtain ⟨hour, hHour, s₂, hColon, minute, hMinute, h⟩ := h
  cases h
  calc minute.2
    _ <:+ s₂ := readPair_suffix hMinute
    _ <:+ hour.2 := dropLead?_suffix hColon
    _ <:+ s := readPair_suffix hHour

theorem readOffset_suffix (s : List Char) : (readOffset s).2 <:+ s := by
  unfold readOffset
  split
  · exact List.suffix_rfl
  · split
    · exact List.suffix_cons ..
    · split
      · split
        · next hMinutes => exact (readOffsetMinutes_suffix hMinutes).trans (List.suffix_cons ..)
        · exact List.suffix_rfl
      · exact List.suffix_rfl

theorem readTimeOfDate_suffix {time : TimeOfDay} (h : readTimeOfDate s = some (time, rest)) :
    rest <:+ s := by
  unfold readTimeOfDate at h
  split at h
  · cases h
  · split at h
    · exact (readTime_suffix h).trans (List.suffix_cons ..)
    · cases h

theorem readDay_suffix {v : Value} (h : readDay s = some (v, rest)) : rest <:+ s := by
  simp only [readDay, Option.bind_eq_bind, Option.bind_eq_some_iff] at h
  obtain ⟨date, hDate, h⟩ := h
  split at h
  · cases h
    exact readDate_suffix hDate
  · next time after hTime =>
      cases h
      calc (readOffset after).2
        _ <:+ after := readOffset_suffix after
        _ <:+ date.2 := readTimeOfDate_suffix hTime
        _ <:+ s := readDate_suffix hDate

/-! Other values without parts. -/

theorem readBased_suffix {n : Nat} (h : readBased s = some (n, rest)) : rest <:+ s := by
  unfold readBased at h
  split at h
  · next zero letter more =>
      split at h
      · simp only [Option.bind_eq_bind, Option.bind_eq_some_iff] at h
        obtain ⟨base, _, h⟩ := h
        split at h
        · cases h
        · cases h
          exact (Numeral.isRun_readRun ..).suffix.trans (List.suffix_append [zero, letter] more)
      · cases h
  · cases h

theorem readSpecial_suffix {v : Value} (h : readSpecial s = some (v, rest)) : rest <:+ s := by
  unfold readSpecial at h
  split at h
  · next hLocal =>
      cases h
      obtain ⟨_, hTime, hEq⟩ := Option.map_eq_some_iff.1 hLocal
      cases hEq
      exact readTime_suffix hTime
  · split at h
    · next hInteger =>
        cases h
        obtain ⟨_, hBased, hEq⟩ := Option.map_eq_some_iff.1 hInteger
        cases hEq
        exact readBased_suffix hBased
    · exact Text.leadingWord?_suffix h

end Shorthand.Toml
