import Shorthand.Decimal.Layout
import Shorthand.Text.Hex
import Shorthand.Value

/-!
Writing JSON: a blank behind every comma and colon, an escape for what may not stand in a quoted
text, and, if wanted, for every character outside ASCII.
-/

namespace Shorthand.Json

/-- A code unit as an escape. -/
def unitEscape (n : Nat) : List Char := '\\' :: 'u' :: Text.hexDigits 4 n

/-- A character as one escape, or as two if its code point takes two units. -/
def charEscape (c : Char) : List Char :=
  let n := c.toNat
  if n < 0x10000 then unitEscape n
  else unitEscape (0xd800 + (n - 0x10000) / 0x400) ++ unitEscape (0xdc00 + (n - 0x10000) % 0x400)

/-- A character inside quotes. -/
def writeChar (ascii : Bool) (c : Char) : List Char :=
  if c = '"' then ['\\', '"']
  else if c = '\\' then ['\\', '\\']
  else if c = '\n' then ['\\', 'n']
  else if c = '\r' then ['\\', 'r']
  else if c = '\t' then ['\\', 't']
  else if c = '\x0c' then ['\\', 'f']
  else if c = '\x08' then ['\\', 'b']
  else if c.toNat < 0x20 || (ascii && 0x7e < c.toNat) then charEscape c
  else [c]

/-- A text in quotes. -/
def writeText (ascii : Bool) (s : String) : List Char :=
  '"' :: (s.toList.flatMap (writeChar ascii) ++ ['"'])

mutual

/-- The JSON text of a value; dates and times are written as texts. -/
def write (ascii : Bool) : Value → List Char
  | .null => ['n', 'u', 'l', 'l']
  | .bool true => ['t', 'r', 'u', 'e']
  | .bool false => ['f', 'a', 'l', 's', 'e']
  | .int i => (toString i).toList
  | .float x => (Decimal.dataFile.write x).toList
  | .text s => writeText ascii s
  | .date d => writeText ascii d.text
  | .time t => writeText ascii t.text
  | .moment m => writeText ascii m.text
  | .list items => '[' :: ([',', ' '].intercalate (writeItems ascii items) ++ [']'])
  | .table es => '\x7b' :: ([',', ' '].intercalate (writeEntries ascii es) ++ ['\x7d'])

/-- The texts of a list's elements. -/
def writeItems (ascii : Bool) : List Value → List (List Char)
  | [] => []
  | v :: vs => write ascii v :: writeItems ascii vs

/-- The texts of a table's entries. -/
def writeEntries (ascii : Bool) : List (String × Value) → List (List Char)
  | [] => []
  | (k, v) :: es => (writeText ascii k ++ ':' :: ' ' :: write ascii v) :: writeEntries ascii es

end

end Shorthand.Json
