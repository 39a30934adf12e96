import Shorthand.Reading
import Shorthand.Text.Quoted

/-!
What can be wrong with a TOML text, with the wording of each cause and of its place.
-/

namespace Shorthand.Toml

/-- A dotted key. -/
abbrev Key := List String

/-- A fault of the text. -/
inductive Flaw where
  | invalidStatement
  | expectedNewline
  | badKeyStart
  | expectedEquals
  | invalidValue
  | invalidDate
  | expectedDelimiter (delimiter : String)
  | foundInvalid (c : Char)
  | illegalCharacter (c : Char)
  | unterminatedText
  | unescapedBackslash
  | invalidHex
  | notAScalar
  | unclosedArray
  | unclosedInlineTable
  | duplicateInlineKey (key : String)
  | cannotOverwrite
  | immutable (key : Key)
  | redefined (key : Key)
  | declaredTwice (key : Key)
  | expectedTableEnd
  | expectedArrayEnd
deriving DecidableEq, Repr

/-- A dotted key in a message: its parts, quoted, in parentheses; one part keeps a comma. -/
def keyText (key : Key) : String :=
  match key with
  | [part] => "(" ++ Text.quoted part ++ ",)"
  | parts => "(" ++ ", ".intercalate (parts.map Text.quoted) ++ ")"

def Flaw.message : Flaw → String
  | .invalidStatement => "Invalid statement"
  | .expectedNewline => "Expected newline or end of document after a statement"
  | .badKeyStart => "Invalid initial character for a key part"
  | .expectedEquals => "Expected '=' after a key in a key/value pair"
  | .invalidValue => "Invalid value"
  | .invalidDate => "Invalid date or datetime"
  | .expectedDelimiter delimiter => "Expected " ++ Text.quoted delimiter
  | .foundInvalid c => "Found invalid character " ++ Text.quoted c.toString
  | .illegalCharacter c => "Illegal character " ++ Text.quoted c.toString
  | .unterminatedText => "Unterminated string"
  | .unescapedBackslash => "Unescaped '\\' in a string"
  | .invalidHex => "Invalid hex value"
  | .notAScalar => "Escaped character is not a Unicode scalar value"
  | .unclosedArray => "Unclosed array"
  | .unclosedInlineTable => "Unclosed inline table"
  | .duplicateInlineKey key => "Duplicate inline table key " ++ Text.quoted key
  | .cannotOverwrite => "Cannot overwrite a value"
  | .immutable key => "Cannot mutate immutable namespace " ++ keyText key
  | .redefined key => "Cannot redefine namespace " ++ keyText key
  | .declaredTwice key => "Cannot declare " ++ keyText key ++ " twice"
  | .expectedTableEnd => "Expected ']' at the end of a table declaration"
  | .expectedArrayEnd => "Expected ']]' at the end of an array declaration"

/-- A place in a text: line and column, or its end. -/
def placeText (text : List Char) (position : Nat) : String :=
  if text.length ≤ position then "end of document"
  else
    let (line, column) := Reading.lineAndColumn text position
    "line " ++ toString line ++ ", column " ++ toString column

abbrev Failure := Reading.Failure Flaw

/-- The message of a flaw with its place. -/
def Flaw.messageAt (flaw : Flaw) (text : List Char) (position : Nat) : String :=
  flaw.message ++ " (at " ++ placeText text position ++ ")"

end Shorthand.Toml
