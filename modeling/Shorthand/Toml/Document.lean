import Shorthand.Toml.Flaw
import Shorthand.Value

/-!
The tree that a TOML text builds, statement by statement, and the rules on what a later statement
may still change. A value written in one piece is frozen with all that is in it; a table is opened
by its own statement, or by the dotted keys of one section, once.
-/

namespace Shorthand.Toml

/-- Changes the table at a path, whose missing parts are made. With `throughLists`, a list stands
for its last element. -/
def alterTable (throughLists : Bool) (change : Entries → Except Flaw Entries) :
    Key → Entries → Except Flaw Entries
  | [], es => change es
  | part :: path, es =>
    match es.get? part with
    | none =>
      (alterTable throughLists change path []).map fun inner => es.put part (.table inner)
    | some (.table inner) =>
      (alterTable throughLists change path inner).map fun inner => es.put part (.table inner)
    | some (.list items) =>
      match items.getLast? with
      | some (.table inner) =>
        if throughLists then
          (alterTable throughLists change path inner).map fun inner =>
            es.put part (.list (items.dropLast ++ [.table inner]))
        else .error .cannotOverwrite
      | _ => .error .cannotOverwrite
    | some _ => .error .cannotOverwrite

/-- Adds an entry whose key must be new. -/
def putNew (taken : Flaw) (key : String) (v : Value) (es : Entries) : Except Flaw Entries :=
  if (es.get? key).isSome then .error taken else .ok (es ++ [(key, v)])

/-- Adds an empty table to the list at a key, or a list of one to begin with. -/
def appendTable (key : String) (es : Entries) : Except Flaw Entries :=
  match es.get? key with
  | none => .ok (es ++ [(key, .list [.table []])])
  | some (.list items) => .ok (es.put key (.list (items ++ [.table []])))
  | some _ => .error .cannotOverwrite

/-- The path to the table that holds a key's value. -/
def Key.parent (key : Key) : Key := key.dropLast

/-- The last part of a key. -/
def Key.stem (key : Key) : String := key.getLastD ""

/-- The keys of the tables that a dotted key passes through. -/
def Key.ancestors (key : Key) : List Key :=
  (List.range (key.length - 1)).map fun i => key.take (i + 1)

/-- Whether a key lies at or below one of the keys. -/
def isBelow (keys : List Key) (key : Key) : Bool := keys.any (·.isPrefixOf key)

/-- Whether a value has parts. -/
def isComposite : Value → Bool
  | .list _ | .table _ => true
  | _ => false

/-- A table that is written in braces, while it is read. -/
structure InlineTable where
  entries : Entries
  /-- The keys whose values have parts; nothing more may be put below them. -/
  frozen : List Key

/-- Adds an entry to a table in braces. -/
def InlineTable.bind (table : InlineTable) (key : Key) (v : Value) :
    Except Flaw InlineTable :=
  if isBelow table.frozen key then .error (.immutable key)
  else
    (alterTable false (putNew (.duplicateInlineKey key.stem) key.stem v) key.parent
      table.entries).map fun entries =>
        ⟨entries, if isComposite v then key :: table.frozen else table.frozen⟩

/-- A document, while it is read. -/
structure Document where
  root : Entries
  /-- The path of the section that is open. -/
  header : Key
  /-- The tables that may not be opened by a statement of their own any more. -/
  opened : List Key
  /-- The tables that dotted keys of this section pass through; opened when the section ends. -/
  pending : List Key
  /-- The keys whose values were written in one piece. -/
  frozen : List Key

namespace Document

def empty : Document := ⟨[], [], [], [], []⟩

/-- Ends the section that is open. -/
def closeSection (doc : Document) : Document :=
  { doc with opened := doc.pending ++ doc.opened, pending := [] }

/-- The entry `key = v` in the section that is open. -/
def bind (doc : Document) (key : Key) (v : Value) : Except Flaw Document :=
  let passed := (Key.ancestors key).map (doc.header ++ ·)
  let parent := doc.header ++ key.parent
  match passed.find? (· ∈ doc.opened) with
  | some table => .error (.redefined table)
  | none =>
    if isBelow doc.frozen parent then .error (.immutable parent)
    else
      (alterTable true (putNew .cannotOverwrite key.stem v) parent doc.root).map fun root =>
        { doc with
          root
          pending := passed ++ doc.pending
          frozen := if isComposite v then (doc.header ++ key) :: doc.frozen else doc.frozen }

/-- Opens the section `[key]`. -/
def openTable (doc : Document) (key : Key) : Except Flaw Document :=
  let doc := doc.closeSection
  if key ∈ doc.opened || isBelow doc.frozen key then .error (.declaredTwice key)
  else
    (alterTable true .ok key doc.root).map fun root =>
      { doc with root, header := key, opened := key :: doc.opened }

/-- Opens the section `[[key]]`: one more table in a list. What was said of tables below the key was
said of the table before. -/
def openArray (doc : Document) (key : Key) : Except Flaw Document :=
  let doc := doc.closeSection
  if isBelow doc.frozen key then .error (.immutable key)
  else
    (alterTable true (appendTable key.stem) key.parent doc.root).map fun root =>
      { doc with
        root
        header := key
        opened := key :: doc.opened.filter fun k => !key.isPrefixOf k
        frozen := doc.frozen.filter fun k => !key.isPrefixOf k }

end Document

end Shorthand.Toml
