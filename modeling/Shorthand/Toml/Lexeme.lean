import Shorthand.Reading
import Shorthand.Text.Hex
import Shorthand.Text.Lead
import Shorthand.Toml.Flaw

/-!
The pieces of a TOML text: blanks and comments, keys, and the four kinds of quoted text. Each piece
returns what remains of the text, and a fault names the suffix at which it lies.
-/

namespace Shorthand.Toml

/-- What stops a piece of the reader. -/
abbrev Stop := Reading.Stop Flaw

/-- What a piece of the reader gives: a result and what remains of the text. -/
abbrev Lexed (α : Type) := Except Stop (α × List Char)

def flawed {α : Type} (flaw : Flaw) (rest : List Char) : Except Stop α :=
  .error (.malformed flaw rest)

def isBlank (c : Char) : Bool := c = ' ' || c = '\t'

def isBlankOrNewline (c : Char) : Bool := isBlank c || c = '\n'

/-- ASCII controls but the tab; none of them may stand in a comment or a text of one line. -/
def isControl (c : Char) : Bool := (c.toNat < 0x20 && c ≠ '\t') || c.toNat = 0x7f

/-- The controls that may not stand in a text of several lines. -/
def isControlButNewline (c : Char) : Bool := isControl c && c ≠ '\n'

def skipBlanks (s : List Char) : List Char := s.dropWhile isBlank

def skipBlanksAndNewlines (s : List Char) : List Char := s.dropWhile isBlankOrNewline

theorem skipBlanks_length (s : List Char) : (skipBlanks s).length ≤ s.length :=
  (List.dropWhile_sublist _).length_le

theorem skipBlanksAndNewlines_length (s : List Char) :
    (skipBlanksAndNewlines s).length ≤ s.length :=
  (List.dropWhile_sublist _).length_le

/-- The first of the first `count` characters that is refused, as the suffix it begins. -/
def firstRefused? (refused : Char → Bool) : (count : Nat) → List Char → Option (Char × List Char)
  | 0, _ | _, [] => none
  | count + 1, c :: s => if refused c then some (c, c :: s) else firstRefused? refused count s

/-- The text up to the end of the line. -/
def takeLine (s : List Char) : List Char := s.takeWhile (· ≠ '\n')

/-- The text from the end of the line on. -/
def dropLine (s : List Char) : List Char := s.dropWhile (· ≠ '\n')

theorem dropLine_length (s : List Char) : (dropLine s).length ≤ s.length :=
  (List.dropWhile_sublist _).length_le

/-- The rest of a comment, behind its mark. -/
def finishComment (body : List Char) : Except Stop (List Char) :=
  match firstRefused? isControl (takeLine body).length body with
  | some (bad, at') => flawed (.foundInvalid bad) at'
  | none => .ok (dropLine body)

theorem finishComment_length {body rest : List Char} (h : finishComment body = .ok rest) :
    rest.length ≤ body.length := by
  unfold finishComment at h
  split at h
  · cases h
  · cases h
    exact dropLine_length body

/-- Skips a comment, if one begins here. -/
def skipComment (s : List Char) : Except Stop (List Char) :=
  match s with
  | [] => .ok s
  | c :: body => if c = '#' then finishComment body else .ok s

theorem comment_length {s body rest : List Char} {c : Char}
    (h : skipBlanksAndNewlines s = c :: body) (hComment : finishComment body = .ok rest) :
    rest.length < s.length := by
  have h₁ := skipBlanksAndNewlines_length s
  have h₂ := finishComment_length hComment
  rw [h, List.length_cons] at h₁
  omega

/-- Skips blanks, newlines and comments, as many as there are. -/
def skipFiller (s : List Char) : Except Stop (List Char) :=
  match h : skipBlanksAndNewlines s with
  | [] => .ok []
  | c :: body =>
    if c = '#' then
      match hComment : finishComment body with
      | .error stop => .error stop
      | .ok rest =>
        have := comment_length h hComment
        skipFiller rest
    else .ok (c :: body)
termination_by s.length

theorem skipFiller_length {s rest : List Char} (h : skipFiller s = .ok rest) :
    rest.length ≤ s.length := by
  fun_induction skipFiller s with
  | case1 s => cases h; simp
  | case2 s c body => cases h
  | case3 s body after hAfter hShort _ ih =>
    have := ih h
    omega
  | case4 s c body hBlank _ =>
    cases h
    have := skipBlanksAndNewlines_length s
    rwa [hBlank] at this

/-- The characters of a key that needs no quotes. -/
def isBare (c : Char) : Bool := c.isAlphanum || c = '-' || c = '_'

/-- The text before a delimiter and what follows the delimiter. -/
def breakAt (delimiter : List Char) (done : List Char) : List Char →
    Option (List Char × List Char)
  | [] => none
  | c :: s =>
    match Text.dropLead? delimiter (c :: s) with
    | some rest => some (done.reverse, rest)
    | none => breakAt delimiter (c :: done) s

/-- The rest of a literal text, behind its opening delimiter. -/
def readLiteral (delimiter : String) (refused : Char → Bool) (s : List Char) : Lexed String :=
  match breakAt delimiter.toList [] s with
  | none => flawed (.expectedDelimiter delimiter) []
  | some (body, rest) =>
    match firstRefused? refused body.length s with
    | some (bad, at') => flawed (.foundInvalid bad) at'
    | none => .ok (String.ofList body, rest)

/-- The character that a letter after a backslash stands for. -/
def simpleEscape? (c : Char) : Option Char :=
  match c with
  | 'b' => some '\x08'
  | 't' => some '\t'
  | 'n' => some '\n'
  | 'f' => some '\x0c'
  | 'r' => some '\r'
  | '"' => some '"'
  | '\\' => some '\\'
  | _ => none

/-- A character written as so many hexadecimal digits. -/
def readHexChar (count : Nat) (s : List Char) : Lexed Char :=
  let ds := s.take count
  let rest := s.drop count
  match if ds.length = count then Text.hexNumber? ds else none with
  | none => flawed .invalidHex s
  | some n =>
    if n < 0xd800 || (0xe000 ≤ n && n < 0x110000) then .ok (Char.ofNat n, rest)
    else flawed .notAScalar rest

/-- A backslash at the end of a line: skips the line end and all blanks up to the next text. The
first of the skipped characters is `c`. -/
def skipLineEnd (c : Char) (s : List Char) : Except Stop (List Char) :=
  if c = '\n' then .ok (skipBlanksAndNewlines s)
  else
    match skipBlanks s with
    | [] => .ok []
    | d :: rest =>
      if d = '\n' then .ok (skipBlanksAndNewlines rest)
      else flawed .unescapedBackslash (d :: rest)

/-- An escape behind its backslash: the characters it stands for. -/
def readEscape (multiline : Bool) (s : List Char) : Lexed (List Char) :=
  match s with
  | [] => flawed .unescapedBackslash []
  | c :: rest =>
    if multiline && isBlankOrNewline c then (skipLineEnd c rest).map ([], ·)
    else if c = 'u' then (readHexChar 4 rest).map fun (e, after) => ([e], after)
    else if c = 'U' then (readHexChar 8 rest).map fun (e, after) => ([e], after)
    else
      match simpleEscape? c with
      | some e => .ok ([e], rest)
      | none => flawed .unescapedBackslash rest

theorem readHexChar_length {count : Nat} {s rest : List Char} {c : Char}
    (h : readHexChar count s = .ok (c, rest)) : rest.length ≤ s.length := by
  unfold readHexChar at h
  dsimp only at h
  split at h
  · cases h
  · split at h
    · simp only [Except.ok.injEq, Prod.mk.injEq] at h
      simp [← h.2]
    · cases h

theorem skipLineEnd_length {c : Char} {s rest : List Char} (h : skipLineEnd c s = .ok rest) :
    rest.length ≤ s.length := by
  unfold skipLineEnd at h
  split at h
  · cases h
    exact skipBlanksAndNewlines_length s
  · have hBlank := skipBlanks_length s
    split at h
    · cases h
      simp
    · next d after hAfter =>
      split at h
      · cases h
        have := skipBlanksAndNewlines_length after
        rw [hAfter, List.length_cons] at hBlank
        omega
      · cases h

theorem readEscape_length {multiline : Bool} {s rest cs : List Char}
    (h : readEscape multiline s = .ok (cs, rest)) : rest.length < s.length := by
  unfold readEscape at h
  split at h
  · cases h
  · rw [List.length_cons]
    split at h
    · obtain ⟨after, hSkip, hEq⟩ := map_eq_ok_iff.1 h
      cases hEq
      have := skipLineEnd_length hSkip
      omega
    · split at h
      · obtain ⟨⟨c, after⟩, hHex, hEq⟩ := map_eq_ok_iff.1 h
        cases hEq
        have := readHexChar_length hHex
        omega
      · split at h
        · obtain ⟨⟨c, after⟩, hHex, hEq⟩ := map_eq_ok_iff.1 h
          cases hEq
          have := readHexChar_length hHex
          omega
        · split at h
          · cases h
            omega
          · cases h

/-- The rest of a text with escapes, behind its opening quotes. In a text of several lines a quote
ends the text only if two more follow. -/
def readBasic (multiline : Bool) (done : String) (s : List Char) : Lexed String :=
  match s with
  | [] => flawed .unterminatedText []
  | c :: rest =>
    if c = '"' then
      if multiline then
        match Text.dropLead? ['"', '"'] rest with
        | some after => .ok (done, after)
        | none => readBasic multiline (done.push c) rest
      else .ok (done, rest)
    else if c = '\\' then
      match h : readEscape multiline rest with
      | .ok (cs, after) =>
        have := readEscape_length h
        readBasic multiline (cs.foldl String.push done) after
      | .error stop => .error stop
    else if (if multiline then isControlButNewline c else isControl c) then
      flawed (.illegalCharacter c) (c :: rest)
    else readBasic multiline (done.push c) rest
termination_by s.length

/-- Up to two more quotes behind the closing three belong to the text. -/
def takeExtraQuotes (quote : Char) (text : String) (s : List Char) : String × List Char :=
  match s with
  | a :: b :: rest =>
    if a = quote then
      if b = quote then ((text.push quote).push quote, rest) else (text.push quote, b :: rest)
    else (text, s)
  | [a] => if a = quote then (text.push quote, []) else (text, s)
  | [] => (text, s)

/-- Drops a newline directly behind the opening quotes. -/
def dropNewline (s : List Char) : List Char :=
  match s with
  | '\n' :: rest => rest
  | _ => s

/-- A text in double quotes, behind the first one. -/
def readQuoted (s : List Char) : Lexed String :=
  match s with
  | '"' :: '"' :: rest =>
    (readBasic true "" (dropNewline rest)).map fun (t, after) => takeExtraQuotes '"' t after
  | _ => readBasic false "" s

/-- A text in single quotes, behind the first one. -/
def readApostrophed (s : List Char) : Lexed String :=
  match s with
  | '\'' :: '\'' :: rest =>
    (readLiteral "'''" isControlButNewline (dropNewline rest)).map fun (t, after) =>
      takeExtraQuotes '\'' t after
  | _ => readLiteral "'" isControl s

/-- One part of a key. -/
def readKeyPart (s : List Char) : Lexed String :=
  match s with
  | [] => flawed .badKeyStart s
  | c :: rest =>
    if isBare c then .ok (String.ofList (s.takeWhile isBare), s.dropWhile isBare)
    else if c = '\'' then readLiteral "'" isControl rest
    else if c = '"' then readBasic false "" rest
    else flawed .badKeyStart s

theorem breakAt_length {delimiter done s body rest : List Char}
    (h : breakAt delimiter done s = some (body, rest)) : rest.length ≤ s.length := by
  fun_induction breakAt delimiter done s with
  | case1 => cases h
  | case2 done c s after hLead =>
    cases h
    have := Text.dropLead?_length hLead
    omega
  | case3 done c s _ ih =>
    have := ih h
    simp only [List.length_cons]
    omega

theorem readLiteral_length {delimiter : String} {refused : Char → Bool} {s rest : List Char}
    {t : String} (h : readLiteral delimiter refused s = .ok (t, rest)) :
    rest.length ≤ s.length := by
  unfold readLiteral at h
  split at h
  · cases h
  · next body after hBreak =>
    split at h
    · cases h
    · simp only [Except.ok.injEq, Prod.mk.injEq] at h
      rw [← h.2]
      exact breakAt_length hBreak

theorem readBasic_length {multiline : Bool} {done t : String} {s rest : List Char}
    (h : readBasic multiline done s = .ok (t, rest)) : rest.length < s.length := by
  fun_induction readBasic multiline done s with
  | case1 => cases h
  | case2 done rest' _ after hLead =>
    cases h
    have := Text.dropLead?_length hLead
    simp only [List.length_cons]
    omega
  | case3 done rest' _ _ ih =>
    have := ih h
    simp only [List.length_cons]
    omega
  | case4 => cases h; simp
  | case5 done rest' cs after _ hShort _ ih =>
    have := ih h
    simp only [List.length_cons]
    omega
  | case6 => cases h
  | case7 => cases h
  | case8 _ _ _ _ _ _ ih =>
    have := ih h
    simp only [List.length_cons]
    omega

theorem takeExtraQuotes_length (quote : Char) (t : String) (s : List Char) :
    (takeExtraQuotes quote t s).2.length ≤ s.length := by
  unfold takeExtraQuotes
  split
  · split
    · split
      · simp only [List.length_cons]
        omega
      · simp
    · exact Nat.le_refl _
  · split <;> simp
  · exact Nat.le_refl _

theorem dropNewline_length (s : List Char) : (dropNewline s).length ≤ s.length := by
  unfold dropNewline
  split
  · simp
  · exact Nat.le_refl _

theorem readQuoted_length {s rest : List Char} {t : String} (h : readQuoted s = .ok (t, rest)) :
    rest.length ≤ s.length := by
  unfold readQuoted at h
  split at h
  · next body =>
    obtain ⟨⟨t, after⟩, hBasic, hEq⟩ := map_eq_ok_iff.1 h
    have h₁ := readBasic_length hBasic
    have h₂ := takeExtraQuotes_length '"' t after
    have h₃ := dropNewline_length body
    dsimp only at hEq
    rw [hEq] at h₂
    simp only [List.length_cons] at h₂ ⊢
    omega
  · exact Nat.le_of_lt (readBasic_length h)

theorem readApostrophed_length {s rest : List Char} {t : String}
    (h : readApostrophed s = .ok (t, rest)) : rest.length ≤ s.length := by
  unfold readApostrophed at h
  split at h
  · next body =>
    obtain ⟨⟨t, after⟩, hLiteral, hEq⟩ := map_eq_ok_iff.1 h
    have h₁ := readLiteral_length hLiteral
    have h₂ := takeExtraQuotes_length '\'' t after
    have h₃ := dropNewline_length body
    dsimp only at hEq
    rw [hEq] at h₂
    simp only [List.length_cons] at h₂ ⊢
    omega
  · exact readLiteral_length h

theorem readKeyPart_length {s rest : List Char} {t : String} (h : readKeyPart s = .ok (t, rest)) :
    rest.length < s.length := by
  unfold readKeyPart at h
  split at h
  · cases h
  · next c s =>
    split at h
    · next hBare =>
      simp only [Except.ok.injEq, Prod.mk.injEq] at h
      rw [← h.2, List.dropWhile_cons, if_pos hBare, List.length_cons]
      have := (List.dropWhile_sublist isBare (l := s)).length_le
      omega
    · split at h
      · have := readLiteral_length h
        simp only [List.length_cons]
        omega
      · split at h
        · have := readBasic_length h
          simp only [List.length_cons]
          omega
        · cases h

theorem afterDot_length {s rest more : List Char} {part : String}
    (hPart : readKeyPart s = .ok (part, rest)) (hDot : skipBlanks rest = '.' :: more) :
    (skipBlanks more).length < s.length := by
  have h₁ := readKeyPart_length hPart
  have h₂ := skipBlanks_length rest
  have h₃ := skipBlanks_length more
  rw [hDot, List.length_cons] at h₂
  omega

/-- The parts of a key, of which some are read already, the latest first. -/
def readKeyOnto (done : List String) (s : List Char) : Lexed Key :=
  match h : readKeyPart s with
  | .error stop => .error stop
  | .ok (part, rest) =>
    match hRest : skipBlanks rest with
    | '.' :: more =>
      have := afterDot_length h hRest
      readKeyOnto (part :: done) (skipBlanks more)
    | other => .ok ((part :: done).reverse, other)
termination_by s.length

/-- A dotted key; blanks may stand around the dots and behind the key. -/
def readKey (s : List Char) : Lexed Key := readKeyOnto [] s

theorem readKeyOnto_length {done : List String} {s rest : List Char} {key : Key}
    (h : readKeyOnto done s = .ok (key, rest)) : rest.length < s.length := by
  fun_induction readKeyOnto done s with
  | case1 done s stop hPart => simp at h
  | case2 done s part after hPart more hAfter hShort ih =>
    have := ih h
    omega
  | case3 done s part after hPart hAfter =>
    have h₁ := readKeyPart_length hPart
    have h₂ := skipBlanks_length after
    simp only [Except.ok.injEq, Prod.mk.injEq] at h
    rw [← h.2]
    omega

theorem readKey_length {s rest : List Char} {key : Key} (h : readKey s = .ok (key, rest)) :
    rest.length < s.length :=
  readKeyOnto_length h

end Shorthand.Toml
