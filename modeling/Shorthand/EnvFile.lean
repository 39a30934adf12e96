import Shorthand.Text.Blank
import Shorthand.Text.Lead
import Shorthand.Variables

/-!
Files of variables: a name and perhaps an equals sign and a value on a line, with comments behind a
number sign. A value may be quoted, and then take several lines; it may refer to variables by
`$\x7bname\x7d`. A line that cannot be read is passed over.
-/

namespace Shorthand.EnvFile

open Text (isBlank isInlineBlank)

/-- A name and its value, if the line has one. -/
abbrev Assignment := String × Option String

/-- What a piece of the reader gives: a result and what remains of the text, or the text from the
fault on. -/
abbrev Lexed (α : Type) := Except (List Char) (α × List Char)

/-- Drops a word in front of a name that has no meaning here. -/
def skipExport (s : List Char) : List Char :=
  match Text.dropLead? "export".toList s with
  | some rest => if rest.head?.any isInlineBlank then rest.dropWhile isInlineBlank else s
  | none => s

/-- The characters of a name without quotes. -/
def isNameChar (c : Char) : Bool := c ≠ '=' && c ≠ '#' && !isBlank c

/-- The longest run of such characters, which has at least one, and what follows it. -/
def readRun (admitted : Char → Bool) (s : List Char) : Option (List Char × List Char) :=
  let run := s.takeWhile admitted
  if run.isEmpty then none else some (run, s.dropWhile admitted)

/-- A name in single quotes, behind the first of them. -/
def readQuotedName (s : List Char) : Option (List Char × List Char) :=
  match readRun (· ≠ '\'') s with
  | some (name, _ :: rest) => some (name, rest)
  | _ => none

/-- A name; a comment stands for none. -/
def readName (s : List Char) : Lexed (Option String) :=
  let found : Option (Option (List Char) × List Char) :=
    match s with
    | '#' :: _ => some (none, s)
    | '\'' :: rest => (readQuotedName rest).map fun (name, rest) => (some name, rest)
    | _ => (readRun isNameChar s).map fun (name, rest) => (some name, rest)
  match found with
  | some (name, rest) => .ok (name.map String.ofList, rest)
  | none => .error s

/-- Splits a text at its closing quote, the first that no backslash escapes; a backslash escapes the
character behind it, whatever that is. `done` is the text before, the last character first. -/
def splitAtQuote (quote : Char) (done : List Char) : List Char → Option (List Char × List Char)
  | [] => none
  | '\\' :: c :: s => splitAtQuote quote (c :: '\\' :: done) s
  | c :: s => if c = quote then some (done.reverse, s) else splitAtQuote quote (c :: done) s

/-- The escapes that single quotes leave a meaning. -/
def singleEscapes : List (Char × Char) := [('\\', '\\'), ('\'', '\'')]

/-- The escapes in double quotes. -/
def doubleEscapes : List (Char × Char) :=
  [('\\', '\\'), ('\'', '\''), ('"', '"'), ('a', '\x07'), ('b', '\x08'), ('f', '\x0c'),
    ('n', '\n'), ('r', '\r'), ('t', '\t'), ('v', '\x0b')]

/-- Replaces escapes; a backslash before any other character stays. -/
def unescape (escapes : List (Char × Char)) : List Char → List Char
  | [] => []
  | [c] => [c]
  | c :: d :: s =>
    match if c = '\\' then escapes.lookup d else none with
    | some e => e :: unescape escapes s
    | none => c :: unescape escapes (d :: s)

/-- A value in quotes; `s` begins with the first of them. -/
def readQuotedValue (quote : Char) (escapes : List (Char × Char)) (s : List Char) :
    Lexed (List Char) :=
  match splitAtQuote quote [] s.tail with
  | some (body, rest) => .ok (unescape escapes body, rest)
  | none => .error s

/-- Cuts a value without quotes off where white space and a number sign follow. -/
def cutComment : List Char → List Char
  | [] => []
  | c :: s =>
    if isBlank c && (s.dropWhile isBlank).head? = some '#' then [] else c :: cutComment s

/-- The value behind an equals sign, which white space may precede. What has no quotes ends with its
line or before a comment, and may be empty. -/
def readValue (s : List Char) : Lexed (List Char) :=
  match s.dropWhile isInlineBlank with
  | '\'' :: rest => readQuotedValue '\'' singleEscapes ('\'' :: rest)
  | '"' :: rest => readQuotedValue '"' doubleEscapes ('"' :: rest)
  | _ => .ok (Text.trim (cutComment (s.takeWhile (· ≠ '\n'))), s.dropWhile (· ≠ '\n'))

/-- The value behind a name, if an equals sign stands there. -/
def readAssigned (s : List Char) : Lexed (Option String) :=
  match s with
  | '=' :: rest => (readValue rest).map fun (value, rest) => (some (String.ofList value), rest)
  | _ => .ok (none, s)

/-- Skips a comment, if white space and a number sign stand here. -/
def skipComment (s : List Char) : List Char :=
  match s.dropWhile isInlineBlank with
  | '#' :: rest => rest.dropWhile (· ≠ '\n')
  | _ => s

/-- The end of a line, perhaps behind white space. -/
def endLine (s : List Char) : Except (List Char) (List Char) :=
  match s.dropWhile isInlineBlank with
  | [] => .ok []
  | c :: rest => if c = '\n' then .ok rest else .error s

/-- An assignment and what follows its line. -/
def readAssignment (s : List Char) : Except (List Char) (Option Assignment × List Char) := do
  let (name, rest) ← readName (skipExport s)
  let (value, rest) ← readAssigned (rest.dropWhile isInlineBlank)
  let rest ← endLine (skipComment rest)
  pure (name.map (·, value), rest)

/-- What follows the line. -/
def dropLine (s : List Char) : List Char := (s.dropWhile (· ≠ '\n')).tail

/-- All assignments of a text, in order. Every line takes at least one character. -/
def readAll (s : List Char) : List Assignment :=
  let start := s.dropWhile isBlank
  if start.isEmpty then []
  else
    let (found, rest) :=
      match readAssignment start with
      | .ok (found, rest) => (found, rest)
      | .error fault => (none, dropLine fault)
    if rest.length < s.length then found.toList ++ readAll rest else found.toList
termination_by s.length

/-- A reference to a variable. -/
structure Variable where
  name : String
  fallback : Option String
deriving DecidableEq, Repr

/-- The variable that is referred to at the start of a text, and what follows the reference. -/
def variableAt? (s : List Char) : Option (Variable × List Char) := do
  let body ← Text.dropLead? ['$', '\x7b'] s
  let isName := fun c : Char => c ≠ '\x7d' && c ≠ ':'
  let name := String.ofList (body.takeWhile isName)
  match body.dropWhile isName with
  | '\x7d' :: rest => some (⟨name, none⟩, rest)
  | ':' :: '-' :: more =>
    match more.dropWhile (· ≠ '\x7d') with
    | _ :: rest => some (⟨name, some (String.ofList (more.takeWhile (· ≠ '\x7d')))⟩, rest)
    | [] => none
  | _ => none

theorem variableAt?_length {s rest : List Char} {v : Variable}
    (h : variableAt? s = some (v, rest)) : rest.length < s.length := by
  simp only [variableAt?, Option.bind_eq_bind, Option.bind_eq_some_iff] at h
  obtain ⟨body, hLead, h⟩ := h
  have hBody := Text.dropLead?_length hLead
  have hRest := (List.dropWhile_sublist (fun c : Char => c ≠ '\x7d' && c ≠ ':')
    (l := body)).length_le
  simp only [List.length_cons, List.length_nil] at hBody
  split at h
  · next rest' hDrop =>
    rw [hDrop, List.length_cons] at hRest
    cases h
    omega
  · next more hDrop =>
    rw [hDrop, List.length_cons, List.length_cons] at hRest
    have hMore := (List.dropWhile_sublist (· ≠ '\x7d') (l := more)).length_le
    split at h
    · next hClose =>
      rw [hClose, List.length_cons] at hMore
      cases h
      omega
    · cases h
  · cases h

/-- Replaces references to variables by their values. -/
def substitute (value : Variable → String) (s : List Char) : List Char :=
  match s with
  | [] => []
  | c :: rest =>
    match h : variableAt? (c :: rest) with
    | some (v, after) =>
      have := variableAt?_length h
      (value v).toList ++ substitute value after
    | none => c :: substitute value rest
termination_by s.length
decreasing_by
  · simp only [List.length_cons] at *
    omega
  · simp

/-- The value of a variable: that which is assigned above or, if there is none, that of the
environment or else the fallback. An assignment without a value makes it empty. -/
def valueOf (environment : Variables String) (above : Variables (Option String)) (v : Variable) :
    String :=
  match above.get? v.name with
  | some value => value.getD ""
  | none => ((environment.get? v.name).orElse fun _ => v.fallback).getD ""

/-- The text without a byte order mark in front. -/
def dropMark : List Char → List Char
  | '\ufeff' :: s => s
  | s => s

/-- The variables of a file, references in the values replaced. -/
def read (environment : Variables String) (text : List Char) : Variables (Option String) :=
  (readAll (dropMark text)).foldl (fun above (name, value) =>
    above.set name (value.map fun raw =>
      String.ofList (substitute (valueOf environment above) raw.toList))) []

end Shorthand.EnvFile
