import Shorthand.Value

/-!
What is wrong with a value, as a list of details: each names the place and the fault.
-/

namespace Shorthand.Schema

/-- A step from a value to a part of it. -/
inductive Place where
  | field (name : String)
  | index (i : Nat)
deriving DecidableEq, Repr

/-- A rule that a value breaks. -/
inductive Fault where
  | missing
  | textType
  | textTooShort (least : Nat)
  | textTooLong (most : Nat)
  /-- The value is no table, where one of the given title is wanted. -/
  | tableType (title : String)
  /-- The value of a request body is no table. -/
  | objectType
  | listType
  | flagType
  | flagParsing
  | choice (options : List String)
  | pathType
  /-- The body of a request is no JSON; the reason is the reader's. -/
  | malformedBody (reason : String)
  | frozen
deriving DecidableEq, Repr

/-- The short name of a fault. -/
def Fault.tag : Fault → String
  | .missing => "missing"
  | .textType => "string_type"
  | .textTooShort _ => "string_too_short"
  | .textTooLong _ => "string_too_long"
  | .tableType _ => "model_type"
  | .objectType => "model_attributes_type"
  | .listType => "list_type"
  | .flagType => "bool_type"
  | .flagParsing => "bool_parsing"
  | .choice _ => "literal_error"
  | .pathType => "path_type"
  | .malformedBody _ => "json_invalid"
  | .frozen => "frozen_instance"

/-- Options in quotes, the last one behind an "or". -/
def listOptions : List String → String
  | [] => ""
  | [a] => "'" ++ a ++ "'"
  | [a, b] => "'" ++ a ++ "' or '" ++ b ++ "'"
  | a :: rest => "'" ++ a ++ "', " ++ listOptions rest

def Fault.message : Fault → String
  | .missing => "Field required"
  | .textType => "Input should be a valid string"
  | .textTooShort least =>
    "String should have at least " ++ toString least ++
      (if least = 1 then " character" else " characters")
  | .textTooLong most =>
    "String should have at most " ++ toString most ++
      (if most = 1 then " character" else " characters")
  | .tableType title => "Input should be a valid dictionary or instance of " ++ title
  | .objectType => "Input should be a valid dictionary or object to extract fields from"
  | .listType => "Input should be a valid list"
  | .flagType => "Input should be a valid boolean"
  | .flagParsing => "Input should be a valid boolean, unable to interpret input"
  | .choice options => "Input should be " ++ listOptions options
  | .pathType => "Input is not a valid path for <class 'pathlib.Path'>"
  | .malformedBody _ => "JSON decode error"
  | .frozen => "Instance is frozen"

/-- The parameters of the rule that was broken. -/
def Fault.context : Fault → Entries
  | .textTooShort least => [("min_length", .int least)]
  | .textTooLong most => [("max_length", .int most)]
  | .choice options => [("expected", .text (listOptions options))]
  | .malformedBody reason => [("error", .text reason)]
  | _ => []

/-- A fault and the way to it from the whole value. -/
structure Detail where
  fault : Fault
  place : List Place
deriving DecidableEq, Repr

/-- The detail as seen from outside the part it is about. -/
def Detail.inside (p : Place) (d : Detail) : Detail := { d with place := p :: d.place }

/-- The part of a value at the end of a way into it. -/
def partAt? : List Place → Value → Option Value
  | [], v => some v
  | .field name :: way, .table es => (Entries.get? es name).bind (partAt? way)
  | .index i :: way, .list items => items[i]?.bind (partAt? way)
  | _, _ => none

/-- What a detail on a value is about: the part at its place or, where a part is missing, that from
which it is missing. -/
def Detail.subject (d : Detail) (v : Value) : Value :=
  (partAt? (if d.fault = .missing then d.place.dropLast else d.place) v).getD .null

def Place.toValue : Place → Value
  | .field name => .text name
  | .index i => .int i

/-- The detail as a table: the kind of fault, the place and the message. -/
def Detail.toEntries (d : Detail) : Entries :=
  [("type", .text d.fault.tag), ("loc", .list (d.place.map Place.toValue)),
    ("msg", .text d.fault.message)]

/-- The same with the parameters of the rule, if it has any. -/
def Detail.toFullEntries (d : Detail) : Entries :=
  d.toEntries ++ (if d.fault.context.isEmpty then [] else [("ctx", .table d.fault.context)])

/-- A value that passed, or all that is wrong with it. -/
abbrev Checked (α : Type) := Except (List Detail) α

/-- A single fault at the value itself. -/
def fail {α : Type} (f : Fault) : Checked α := .error [⟨f, []⟩]

/-- Two checks side by side: the faults of both are told, those of the first one first. -/
def both {α β : Type} (a : Checked α) (b : Checked β) : Checked (α × β) :=
  match a, b with
  | .ok x, .ok y => .ok (x, y)
  | .error ds, .ok _ => .error ds
  | .ok _, .error ds => .error ds
  | .error ds, .error es => .error (ds ++ es)

/-- A check of a part of the value. -/
def inside {α : Type} (p : Place) (c : Checked α) : Checked α := c.mapError (·.map (·.inside p))

/-- Checks of all elements, in order; the faults of all of them are told. -/
def each {α : Type} (check : Value → Checked α) (start : Nat) : List Value → Checked (List α)
  | [] => .ok []
  | v :: vs =>
    (both (inside (.index start) (check v)) (each check (start + 1) vs)).map fun (x, xs) => x :: xs

/-- The check of a field; a field that is missing has its default, if there is one. -/
def field {α : Type} (es : Entries) (name : String) (default : Option α)
    (check : Value → Checked α) : Checked α :=
  inside (.field name)
    (match es.get? name with
    | some v => check v
    | none =>
      match default with
      | some x => .ok x
      | none => fail .missing)

end Shorthand.Schema
