import Shorthand.Schema.Model

/-!
Catalogues of definitions as data files hold them: a list of tables, or a table from names to code
or to tables. Either may stand alone under the key `macros`.
-/

namespace Shorthand.Catalogue

/-- Why a value is no catalogue. -/
inductive CatalogueError where
  /-- It is neither a list nor a table, but of this kind. -/
  | kind (name : String)
  /-- A definition is not valid; the details are those of the first such definition. -/
  | invalid (details : List Schema.Detail)
deriving DecidableEq, Repr

/-- The key that a whole catalogue may stand under. -/
def wrapper : String := "macros"

/-- What stands under the wrapper, if there is nothing but the wrapper. -/
def unwrap (v : Value) : Value :=
  match v with
  | .table [(key, inner)] =>
    if key = wrapper then
      match inner with
      | .table _ | .list _ => inner
      | _ => v
    else v
  | _ => v

/-- The name of a value's kind. -/
def kindName : Value → String
  | .null => "NoneType"
  | .bool _ => "bool"
  | .int _ => "int"
  | .float _ => "float"
  | .text _ => "str"
  | .date _ => "date"
  | .time _ => "time"
  | .moment _ => "datetime"
  | .list _ => "list"
  | .table _ => "dict"

/-- The definition under a name, as a table of its own: the key is the name, whatever name stands
inside; what is no table is the code. -/
def entry (name : String) (v : Value) : Value :=
  match v with
  | .table es => .table (Entries.put es "name" (.text name))
  | v => .table [("name", .text name), ("code", v)]

/-- The definitions of a catalogue, not yet checked. -/
def entries (v : Value) : Except CatalogueError (List Value) :=
  match unwrap v with
  | .table es => .ok (es.map fun e => entry e.1 e.2)
  | .list items => .ok items
  | other => .error (.kind (kindName other))

/-- The definitions of a catalogue. The first that is not valid gives the error. -/
def read (v : Value) : Except CatalogueError (List Definition) := do
  (← entries v).mapM fun e => (Definition.check e).mapError .invalid

/-- The message about a value that is neither list nor table. -/
def kindMessage (name : String) : String := "Expected a list or table of macros, got " ++ name

end Shorthand.Catalogue
