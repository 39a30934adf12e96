import Shorthand.Settings
import Shorthand.Text.Casing

/-!
Settings as words of a command line: the name of a setting behind two hyphens, and its value behind
an equals sign or as the next word. Case does not matter in the names.
-/

namespace Shorthand.Settings.CommandLine

/-- The word that stands for null. -/
def nullWord : String := "null"

/-- Whether a word is a number below zero: digits, perhaps with a point among or before them. -/
def isNegativeNumber (word : List Char) : Bool :=
  match word with
  | '-' :: s =>
    let rest := s.dropWhile Char.isDigit
    match rest with
    | [] => !s.isEmpty
    | '.' :: decimals => !decimals.isEmpty && decimals.all Char.isDigit
    | _ => false
  | _ => false

/-- Whether a word may be a value: it does not look like a name. -/
def isValue (word : String) : Bool :=
  let cs := word.toList
  cs.head? ≠ some '-' || word = "-" || cs.contains ' ' || isNegativeNumber cs

/-- The setting that a word names, and the value in the same word if there is one. -/
def readName? (word : String) : Option (String × Option String) :=
  match word.toList with
  | '-' :: '-' :: s =>
    let name := Text.lower (String.ofList (s.takeWhile (· ≠ '=')))
    if names.contains name then
      match s.dropWhile (· ≠ '=') with
      | _ :: value => some (name, some (String.ofList value))
      | [] => some (name, none)
    else none
  | _ => none

def value (word : String) : Value := if word = nullWord then .null else .text word

/-- The settings that the words give, the last of several first; `none` if a word has no meaning. -/
def readOnto (done : Entries) : List String → Option Entries
  | [] => some done
  | word :: words =>
    match readName? word with
    | some (name, some v) => readOnto ((name, value v) :: done) words
    | some (name, none) =>
      match words with
      | v :: rest => if isValue v then readOnto ((name, value v) :: done) rest else none
      | [] => none
    | none => none

/-- The settings that the words give. -/
def read (words : List String) : Option Entries := readOnto [] words

end Shorthand.Settings.CommandLine
