import Shorthand.Schema.Model
import Shorthand.Text.Hex
import Shorthand.Value.Portable

/-!
The answers of the service, with their status and the values that are sent.
-/

namespace Shorthand.Service

open Schema

/-- What goes wrong in the service itself. -/
inductive Breakdown where
  /-- A refused value cannot be quoted in the answer. -/
  | unquotable
  /-- A refused body is no text. -/
  | undecodable
  /-- The registry does not take or hold a definition that was accepted. -/
  | registry
  /-- An answer that is to show definitions cannot be sent. -/
  | unsendable
deriving DecidableEq, Repr

inductive Answer where
  | about (name version : String)
  | health (count : Nat)
  | definitions (ds : List Definition)
  | names (ns : List String)
  | definition (d : Definition)
  | created (d : Definition)
  | acknowledged (a : Acknowledgement)
  | detected (d : Detection)
  | resolved (r : ResolvedText)
  | unknownName (name : String)
  | noRoute
  /-- The path is served, but by another method. -/
  | notAllowed (method : String)
  /-- The path is not served, but that one is. -/
  | moved (origin path : String)
  | invalid (details : List Detail)
  | unreadable
  | broken (cause : Breakdown)

/-- The status code. -/
def Answer.status : Answer → Nat
  | .created _ => 201
  | .moved _ _ => 307
  | .unreadable => 400
  | .unknownName _ | .noRoute => 404
  | .notAllowed _ => 405
  | .invalid _ => 422
  | .broken _ => 500
  | _ => 200

/-- The definitions that are shown. -/
def Answer.shown : Answer → List Definition
  | .definitions ds => ds
  | .definition d | .created d => [d]
  | _ => []

/-- The place of the documents that describe the service. -/
def documentsPath : String := "/api/docs"

/-- A single remark. -/
def remark (text : String) : Value := .table [("detail", .text text)]

/-- The value that is sent, if the answer has one. -/
def Answer.value? : Answer → Option Value
  | .about name version =>
    some (.table [("name", .text name), ("version", .text version),
      ("docs", .text documentsPath)])
  | .health count => some (.table [("status", .text "ok"), ("macros", .int count)])
  | .definitions ds => some (.list (ds.map fun d => .table d.toEntries))
  | .names ns => some (.list (ns.map .text))
  | .definition d | .created d => some (.table d.toEntries)
  | .acknowledged a => some (.table a.toEntries)
  | .detected d => some (.table d.toEntries)
  | .resolved r => some (.table r.toEntries)
  | .unknownName name => some (remark ("Macro '" ++ name ++ "' not found"))
  | .noRoute => some (remark "Not Found")
  | .notAllowed _ => some (remark "Method Not Allowed")
  | .unreadable => some (remark "There was an error parsing the body")
  | .invalid details =>
    some (.table [("detail", .list (details.map fun d => .table d.toFullEntries))])
  | .moved _ _ | .broken _ => none

/-- The body that is sent, if the answer has one. -/
def Answer.body? (a : Answer) : Option Value := a.value?.map Value.portable

/-- The text that is sent instead of a body. -/
def Answer.text : Answer → String
  | .broken _ => "Internal Server Error"
  | _ => ""

/-- The address to go to instead. -/
def Answer.location? : Answer → Option String
  | .moved origin path => some (origin ++ Text.percentEncode path)
  | _ => none

/-- The method by which the path is served. -/
def Answer.allow? : Answer → Option String
  | .notAllowed method => some method
  | _ => none

end Shorthand.Service
