import Shorthand.Json.Reader
import Shorthand.Text.Blank
import Shorthand.Text.Casing
import Shorthand.Text.Encoding

/-!
Requests and their bodies. A body is read as JSON only if its content type says so; its encoding is
detected.
-/

namespace Shorthand.Service

/-- A request; the path is decoded already. -/
structure Request where
  method : String
  /-- Scheme and host under which the service was addressed. -/
  origin : String
  path : String
  contentType : Option String
  content : ByteArray

/-- What the body of a request holds. -/
inductive Body where
  | absent
  | value (v : Value)
  /-- Content of another type, which is not read. -/
  | foreign (content : ByteArray)
  | malformed (flaw : Json.Flaw) (position : Nat)
  /-- JSON that cannot be read: in no encoding, nested too deep, or with too long an integer. -/
  | unreadable

/-- The type and subtype that a content type names, in lower case. -/
def essence (contentType : String) : List Char :=
  let named := contentType.toList.takeWhile (· ≠ ';')
  (Text.lower (String.ofList (Text.trimEnd (named.dropWhile Text.isBlank)))).toList

/-- Whether a content type is that of JSON, or of a format that is written in JSON. -/
def isJson (contentType : String) : Bool :=
  match Text.dropLead? "application/".toList (essence contentType) with
  | none => false
  | some subtype =>
    !subtype.contains '/' && (subtype = "json".toList || "+json".toList.isSuffixOf subtype)

/-- Reads bytes as JSON. -/
def readBody (depth : DepthLimit) (content : ByteArray) : Body :=
  match Text.decodeDetected? content with
  | none => .unreadable
  | some text =>
    match Json.read (Value.readingLimits depth) text.toList with
    | .ok v => .value v
    | .error (.malformed flaw position) => .malformed flaw position
    | .error _ => .unreadable

/-- The body of a request. -/
def Request.body (r : Request) (depth : DepthLimit) : Body :=
  if r.content.isEmpty then .absent
  else if r.contentType.any isJson then readBody depth r.content
  else .foreign r.content

end Shorthand.Service
