import Shorthand.Path
import Shorthand.Schema.Detail

/-!
The rules for single values: texts of bounded length, flags, choices, paths, lists of texts. Nothing
but a text is accepted as a text; a flag may also be written as a number or a word.
-/

namespace Shorthand.Schema

/-- A text. -/
def text : Value → Checked String
  | .text s => .ok s
  | _ => fail .textType

/-- A text of at least and at most so many characters. -/
def boundedText (least most : Nat) (v : Value) : Checked String := do
  let s ← text v
  let n := s.length
  if most < n then fail (.textTooLong most)
  else if n < least then fail (.textTooShort least)
  else pure s

/-- The words that stand for a flag, in lower case. -/
def flagWords : List (String × Bool) :=
  [("0", false), ("off", false), ("f", false), ("false", false), ("n", false), ("no", false),
    ("1", true), ("on", true), ("t", true), ("true", true), ("y", true), ("yes", true)]

/-- The flag that a word stands for, in whatever case its ASCII letters are. -/
def flagOfWord (s : String) : Checked Bool :=
  match flagWords.find? (·.1.toList = s.toList.map Char.toLower) with
  | some (_, b) => .ok b
  | none => fail .flagParsing

/-- The integers of 64 bits are below this bound, and not below its negative. -/
def signedBound : Int := (Nat.pow 2 63 : Nat)

/-- The flag that a number stands for. Numbers that take more than 64 bits are not looked at. -/
def flagOfInt (i : Int) : Checked Bool :=
  if i = 0 then .ok false
  else if i = 1 then .ok true
  else if -signedBound ≤ i && i < signedBound then fail .flagParsing
  else fail .flagType

/-- The flag that a floating-point number stands for, if it is a whole number within 64 bits. -/
def flagOfFloat (x : Binary64) : Checked Bool :=
  match x.toInt? with
  | some i => if i = -signedBound then fail .flagType else flagOfInt i
  | none => fail .flagType

/-- A flag. -/
def flag : Value → Checked Bool
  | .bool b => .ok b
  | .int i => flagOfInt i
  | .float x => flagOfFloat x
  | .text s => flagOfWord s
  | _ => fail .flagType

/-- A list of texts. -/
def texts : Value → Checked (List String)
  | .list items => each text 0 items
  | _ => fail .listType

/-- One of some named things, its name exactly as it is written. -/
def choice {α : Type} (options : List (String × α)) (v : Value) : Checked α :=
  match v.text?.bind fun s => options.lookup s with
  | some a => .ok a
  | none => fail (.choice (options.map (·.1)))

/-- A path, written as a text. -/
def path : Value → Checked Path
  | .text s => .ok (Path.ofText s)
  | _ => fail .pathType

/-- What the rule admits, or null. -/
def optional {α : Type} (rule : Value → Checked α) : Value → Checked (Option α)
  | .null => .ok none
  | v => (rule v).map some

/-- The entries of a table; `otherwise` is the fault of a value that is none. -/
def table (otherwise : Fault) : Value → Checked Entries
  | .table es => .ok es
  | _ => fail otherwise

end Shorthand.Schema
