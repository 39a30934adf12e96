import Shorthand.Decimal.Layout
import Shorthand.Reading
import Shorthand.Text.Quoted
import Shorthand.Value

/-!
The text that stands for a value where a text is wanted: a text itself, a date or a time as it is
written, and for all else its literal, in which nested texts are quoted and nested dates and times are
written as the calls that make them. Integers of very many digits have no text.
-/

namespace Shorthand.Value

/-- The greatest number of decimal digits of an integer that has a text. -/
def maxIntegerDigits : Nat := 4300

/-- The limits under which values are read: as deep as the reader goes, and no integer that has no
text. -/
def readingLimits (depth : DepthLimit) : Limits := ⟨depth, some maxIntegerDigits⟩

/-- Whether the number has more decimal digits than `limit`. A number of `k` bits is compared with a
power of ten only when the estimate from its bits does not settle the answer. -/
def exceedsDigits (limit : Nat) (n : Nat) : Bool :=
  if n.log2 < 3 * limit then false else Nat.pow 10 limit ≤ n

mutual

/-- The literal of a value; `none` if it holds an integer that has no text. -/
def literal? : Value → Option String
  | .null => some "None"
  | .bool b => some (if b then "True" else "False")
  | .int i => if exceedsDigits maxIntegerDigits i.natAbs then none else some (toString i)
  | .float x => some (Decimal.plain.write x)
  | .text s => some (Text.quoted s)
  | .date d => some d.literal
  | .time t => some t.literal
  | .moment m => some m.literal
  | .list items => (itemLiterals? items).map fun ls => "[" ++ ", ".intercalate ls ++ "]"
  | .table es => (entryLiterals? es).map fun ls => "\x7b" ++ ", ".intercalate ls ++ "\x7d"

def itemLiterals? : List Value → Option (List String)
  | [] => some []
  | v :: vs => do
    let l ← literal? v
    let ls ← itemLiterals? vs
    pure (l :: ls)

def entryLiterals? : List (String × Value) → Option (List String)
  | [] => some []
  | (k, v) :: es => do
    let l ← literal? v
    let ls ← entryLiterals? es
    pure ((Text.quoted k ++ ": " ++ l) :: ls)

end

/-- The text of a value. -/
def asText? : Value → Option String
  | .text s => some s
  | .date d => some d.text
  | .time t => some t.text
  | .moment m => some m.spacedText
  | v => literal? v

end Shorthand.Value
