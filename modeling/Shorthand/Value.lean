import Shorthand.Binary64
import Shorthand.Calendar

/-!
Values as data files and requests hold them. A table keeps its entries in the order in which their
keys first came; writing to a key that is there keeps its place.
-/

namespace Shorthand

/-- A decoded value. Dates and times come from configuration files only. -/
inductive Value where
  | null
  | bool (b : Bool)
  | int (i : Int)
  | float (x : Binary64)
  | text (s : String)
  | date (d : Date)
  | time (t : TimeOfDay)
  | moment (m : Moment)
  | list (items : List Value)
  | table (entries : List (String × Value))
deriving Inhabited

/-- Keys and values in order; a well-formed table has no key twice. -/
abbrev Entries := List (String × Value)

namespace Entries

def keys (es : Entries) : List String := es.map (·.1)

/-- The value of the first entry with the key. -/
def get? (es : Entries) (key : String) : Option Value :=
  (es.find? fun e => e.1 = key).map (·.2)

/-- Sets the key: in its place if it is there, else at the end. -/
def put (es : Entries) (key : String) (v : Value) : Entries :=
  match es with
  | [] => [(key, v)]
  | e :: rest => if e.1 = key then (key, v) :: rest else e :: put rest key v

/-- The entries under any other key. -/
def without (es : Entries) (key : String) : Entries := es.filter fun e => e.1 ≠ key

/-- Entries set one after the other: the last value of a key, at the key's first place. -/
def ofPairs (pairs : List (String × Value)) : Entries :=
  pairs.foldl (fun es e => es.put e.1 e.2) []

end Entries

namespace Value

/-- The entries of a table. -/
def entries? : Value → Option Entries
  | .table es => some es
  | _ => none

/-- The elements of a list. -/
def items? : Value → Option (List Value)
  | .list items => some items
  | _ => none

def text? : Value → Option String
  | .text s => some s
  | _ => none

/-- Whether the value counts as true: all but null, false, zero and what is empty. -/
def isTruthy : Value → Bool
  | .null => false
  | .bool b => b
  | .int i => i ≠ 0
  | .float x => !x.isZero
  | .text s => s ≠ ""
  | .list items => !items.isEmpty
  | .table es => !es.isEmpty
  | .date _ | .time _ | .moment _ => true

/-- What iterating over the value gives: the elements of a list, the keys of a table, the characters
of a text. Nothing else can be iterated. -/
def elements? : Value → Option (List Value)
  | .list items => some items
  | .table es => some (es.map fun e => .text e.1)
  | .text s => some (s.toList.map fun c => .text c.toString)
  | _ => none

/-- Whether the value can be a key of a look-up: lists and tables cannot. -/
def isHashable : Value → Bool
  | .list _ | .table _ => false
  | _ => true

end Value

end Shorthand
