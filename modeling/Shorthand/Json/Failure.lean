import Shorthand.Reading

/-!
What can stop the reading of a JSON text, with the wording of each cause.
-/

namespace Shorthand.Json

/-- A fault of the text itself. -/
inductive Flaw where
  | expectingValue
  | expectingKey
  | expectingColon
  | expectingComma
  | extraData
  | unterminatedText
  | controlCharacter
  | badEscape
  | badUnicodeEscape
  | byteOrderMark
deriving DecidableEq, Repr

def Flaw.message : Flaw → String
  | .expectingValue => "Expecting value"
  | .expectingKey => "Expecting property name enclosed in double quotes"
  | .expectingColon => "Expecting ':' delimiter"
  | .expectingComma => "Expecting ',' delimiter"
  | .extraData => "Extra data"
  | .unterminatedText => "Unterminated string starting at"
  | .controlCharacter => "Invalid control character at"
  | .badEscape => "Invalid \\escape"
  | .badUnicodeEscape => "Invalid \\uXXXX escape"
  | .byteOrderMark => "Unexpected UTF-8 BOM (decode using utf-8-sig)"

abbrev Failure := Reading.Failure Flaw

/-- The message of a flaw with its place: line, column and position. -/
def Flaw.messageAt (flaw : Flaw) (text : List Char) (position : Nat) : String :=
  let (line, column) := Reading.lineAndColumn text position
  flaw.message ++ ": line " ++ toString line ++ " column " ++ toString column ++
    " (char " ++ toString position ++ ")"

end Shorthand.Json
