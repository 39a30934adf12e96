import Shorthand.Value.Agreement
import Shorthand.Value.Literal

/-!
Definitions, and the entries that stand for them. An entry is a definition already or a raw value;
a raw value is not checked but coerced: it is read as a table, a field that is missing or null
becomes empty, and any other field becomes its text.
-/

namespace Shorthand

/-- Which fields were given is recorded with a definition, and every later change of a field has to
extend that record. A raw entry may put a value of its own in its place, which cannot be extended. -/
inductive FieldRecord where
  | own
  | supplied (v : Value)

/-- A named piece of code. The extras are kept in their order and read by nothing. -/
structure Definition where
  name : String
  code : String
  extras : Entries
  record : FieldRecord

/-- A definition, or a raw value that stands for one. A definition has its name and its code, and both
are texts; what has been put together without them is no entry. -/
inductive Entry where
  | definition (d : Definition)
  | raw (v : Value)

/-- Why an entry does not become a definition. -/
inductive EntryError where
  /-- The value is no table and no list of pairs. -/
  | notATable
  /-- An element of the list has no elements of its own. -/
  | notAPair (index : Nat)
  /-- An element of the list has another number of elements than two. -/
  | pairLength (index length : Nat)
  /-- A key is a list or table. -/
  | keyNotHashable (index : Nat)
  /-- A key is no text. -/
  | keyNotText
  /-- The key is taken by the construction itself. -/
  | reservedKey
  /-- An integer has too many digits for a text. -/
  | integerWithoutText
  /-- The supplied record of fields cannot be extended. -/
  | recordNotExtensible
  /-- The supplied record of fields is a table, which would be extended by pairs. -/
  | recordIsTable
deriving DecidableEq, Repr

/-- The message about an element that is no pair. -/
def pairLengthMessage (index length : Nat) : String :=
  "dictionary update sequence element #" ++ toString index ++ " has length " ++ toString length ++
    "; 2 is required"

/-- The message of an error; some have none. -/
def EntryError.message? : EntryError → Option String
  | .pairLength index length => some (pairLengthMessage index length)
  | .recordIsTable => some (pairLengthMessage 0 4)
  | .integerWithoutText =>
    some ("Exceeds the limit (" ++ toString Value.maxIntegerDigits ++
      " digits) for integer string conversion; use sys.set_int_max_str_digits() to increase the limit")
  | _ => none

/-- The record after a change of a field. -/
def FieldRecord.extend : FieldRecord → Except EntryError FieldRecord
  | .own => .ok .own
  | .supplied (.table _) => .error .recordIsTable
  | .supplied _ => .error .recordNotExtensible

namespace Definition

/-- The definition under another name. -/
def rename (d : Definition) (name : String) : Except EntryError Definition :=
  d.record.extend.map fun record => { d with name, record }

/-- A field or extra of the definition. -/
def field? (d : Definition) (field : String) : Option Value :=
  if field = "name" then some (.text d.name)
  else if field = "code" then some (.text d.code)
  else d.extras.get? field

/-- Whether two definitions are equal as data; how their fields came about plays no part. -/
def agrees (d e : Definition) : Bool :=
  d.name = e.name && d.code = e.code && (Value.table d.extras).agrees (.table e.extras)

/-- The definition as a table: its two fields, then the extras. -/
def toEntries (d : Definition) : Entries :=
  ("name", .text d.name) :: ("code", .text d.code) :: d.extras

/-- The key under which a raw entry may supply the record of its fields. -/
def recordKey : String := "_fields_set"

/-- The key that no raw entry may have. -/
def reservedKey : String := "cls"

/-- The text of a field: empty if the field is missing or null. -/
def fieldText : Option Value → Except EntryError String
  | none | some .null => .ok ""
  | some v =>
    match v.asText? with
    | some s => .ok s
    | none => .error .integerWithoutText

/-- Whether the field has to be changed to become a text. -/
def needsText : Option Value → Bool
  | some (.text _) => false
  | _ => true

/-- The record that an entry begins with. -/
def recordOf : Option Value → FieldRecord
  | none | some .null => .own
  | some v => .supplied v

/-- The extras of a raw entry: all but the fields and the record. -/
def extrasOf (es : Entries) : Entries := ((es.without "name").without "code").without recordKey

/-- The definition that a table stands for. Coercing a field is a change of it. -/
def ofEntries (es : Entries) : Except EntryError Definition := do
  if (es.get? reservedKey).isSome then throw .reservedKey
  let name ← fieldText (es.get? "name")
  let code ← fieldText (es.get? "code")
  let given := recordOf (es.get? recordKey)
  let record ←
    if needsText (es.get? "name") || needsText (es.get? "code") then given.extend else pure given
  pure { name, code, extras := extrasOf es, record }

end Definition

namespace Entry

/-- An element of a list as a key and its value. -/
def readPair (index : Nat) (v : Value) : Except EntryError (Value × Value) :=
  match v.elements? with
  | none => .error (.notAPair index)
  | some [key, value] =>
    if key.isHashable then .ok (key, value) else .error (.keyNotHashable index)
  | some elements => .error (.pairLength index elements.length)

/-- The elements of a list as pairs; the first element that is none gives the error. -/
def readPairs (index : Nat) : List Value → Except EntryError (List (Value × Value))
  | [] => .ok []
  | v :: vs => do
    let pair ← readPair index v
    let pairs ← readPairs (index + 1) vs
    pure (pair :: pairs)

/-- Pairs all of whose keys are texts. -/
def textPairs? (pairs : List (Value × Value)) : Option (List (String × Value)) :=
  pairs.mapM fun (key, value) => key.text?.map (·, value)

/-- A raw value as a table: a table itself, or what is made of pairs. -/
def tableOf (v : Value) : Except EntryError Entries :=
  match v with
  | .table es => .ok es
  | v =>
    match v.elements? with
    | none => .error .notATable
    | some elements => do
      let pairs ← readPairs 0 elements
      match textPairs? pairs with
      | some pairs => .ok (Entries.ofPairs pairs)
      | none => .error .keyNotText

/-- The definition that an entry stands for; a definition stands for itself. -/
def coerce : Entry → Except EntryError Definition
  | .definition d => .ok d
  | .raw v => tableOf v >>= Definition.ofEntries

/-- Whether coercing gives back the very entry. -/
def isDefinition : Entry → Bool
  | .definition _ => true
  | .raw _ => false

end Entry

end Shorthand
