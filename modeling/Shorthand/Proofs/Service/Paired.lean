import Shorthand.Service.Request

/-! Bodies without halves of surrogate pairs. Half a pair is no character: where one stands alone a body
is read with another character in its place, and what the service makes of that says nothing of a body
that has the half. Halves come in two ways, encoded as bytes or written as escapes. -/

namespace Shorthand

namespace Text.Encoding

/-- Whether bytes encode half of a surrogate pair by itself. -/
def hasHalf (encoding : Encoding) (bytes : List UInt8) : Bool :=
  match encoding with
  | .utf8 => replaceHalves [] bytes ≠ bytes
  | .utf16 bigEndian => (units16? bigEndian [] bytes).any fun ns => (joinPairs [] ns).any isHalf
  | .utf32 bigEndian => (units32? bigEndian [] bytes).any fun ns => ns.any isHalf

end Text.Encoding

namespace Json

/-- The code units that the escapes of a text write, with a zero for everything else. -/
def escapedUnits : List Char → List Nat
  | '\\' :: 'u' :: a :: b :: c :: d :: rest =>
    (Text.hexNumber? [a, b, c, d]).getD 0 :: escapedUnits rest
  | '\\' :: _ :: rest => 0 :: escapedUnits rest
  | _ :: rest => 0 :: escapedUnits rest
  | [] => []

/-- Whether an escape of the text writes half of a surrogate pair by itself. -/
def hasHalf (text : List Char) : Bool :=
  (Text.Encoding.joinPairs [] (escapedUnits text)).any Text.Encoding.isHalf

example : hasHalf "\\ud83d\\ude00 \\\\ud83d".toList = false ∧ hasHalf "\\ude00\\ud83d".toList = true := by
  decide +kernel

end Json

namespace Service

/-- Whether no half of a surrogate pair stands alone in the body of a request. -/
def Request.isPaired (q : Request) : Bool :=
  let (encoding, body) := Text.Encoding.unmark q.content
  !encoding.hasHalf body.data.toList &&
    (Text.decodeDetected? q.content).all fun text => !Json.hasHalf text.toList

end Service

end Shorthand
