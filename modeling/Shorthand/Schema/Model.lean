import Shorthand.Definition
import Shorthand.Schema.Rule

/-!
The records that are checked: definitions, definitions as they are submitted, texts to work on, and
the answers. The faults of all fields are told, in the order in which the fields are declared.
-/

namespace Shorthand

open Schema

/-- The entries that are no fields of a definition. -/
def Schema.extras (es : Entries) : Entries := (es.without "name").without "code"

/-- A definition whose name and code are texts; everything else is kept as extras. -/
def Definition.check (v : Value) : Checked Definition := do
  let es ← table (.tableType "MacroDefinition") v
  let (name, code) ← both (field es "name" none text) (field es "code" none text)
  pure { name, code, extras := Schema.extras es, record := .own }

/-- A definition as it is submitted: the name is neither empty nor overlong, the code may be left
out. -/
structure Submission where
  name : String
  code : String
  extras : Entries

namespace Submission

def maxName : Nat := 256

def maxCode : Nat := 1000000

def check (otherwise : Fault) (v : Value) : Checked Submission := do
  let es ← table otherwise v
  let (name, code) ← both (field es "name" none (boundedText 1 maxName))
    (field es "code" (some "") (boundedText 0 maxCode))
  pure { name, code, extras := Schema.extras es }

def toEntries (s : Submission) : Entries :=
  ("name", .text s.name) :: ("code", .text s.code) :: s.extras

end Submission

/-- A text to detect or resolve references in. -/
structure Passage where
  text : String

namespace Passage

def maxText : Nat := 10000000

def check (otherwise : Fault) (v : Value) : Checked Passage := do
  let es ← table otherwise v
  let text ← field es "text" (some "") (boundedText 0 maxText)
  pure { text }

def toEntries (p : Passage) : Entries := [("text", .text p.text)]

end Passage

/-- The answer to a detection. -/
structure Detection where
  found : Bool
  tokens : List String

namespace Detection

def check (v : Value) : Checked Detection := do
  let es ← table (.tableType "DetectResponse") v
  let (found, tokens) ← both (field es "has_macros" none flag) (field es "tokens" none texts)
  pure { found, tokens }

def toEntries (d : Detection) : Entries :=
  [("has_macros", .bool d.found), ("tokens", .list (d.tokens.map .text))]

end Detection

/-- The answer to a resolution. -/
structure ResolvedText where
  text : String

namespace ResolvedText

def check (v : Value) : Checked ResolvedText := do
  let es ← table (.tableType "ResolveResponse") v
  let text ← field es "text" none Schema.text
  pure { text }

def toEntries (r : ResolvedText) : Entries := [("text", .text r.text)]

end ResolvedText

/-- The answer to a request that only succeeds or fails. -/
structure Acknowledgement where
  ok : Bool
  message : String

namespace Acknowledgement

def check (v : Value) : Checked Acknowledgement := do
  let es ← table (.tableType "OKResponse") v
  let (ok, message) ← both (field es "ok" (some true) flag) (field es "message" (some "success") text)
  pure { ok, message }

def toEntries (a : Acknowledgement) : Entries :=
  [("ok", .bool a.ok), ("message", .text a.message)]

end Acknowledgement

/-- A definition is checked as submitted and then, complete, as a definition. -/
def Submission.toDefinition (s : Submission) : Checked Definition :=
  Definition.check (.table s.toEntries)

end Shorthand
