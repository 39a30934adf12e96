import Shorthand.Text.CodePage
import Shorthand.Text.Utf8
import Shorthand.Text.Wide

/-!
Character sets by name, and the text of bytes in one of them.
-/

namespace Shorthand.Text

inductive Charset where
  /-- A byte order mark in front may belong to the character set and not to the text. -/
  | utf8 (marked : Bool)
  | ascii
  /-- Every byte is the character with its number. -/
  | latin1
  | page (p : CodePage)
  /-- Units of two bytes; without an order of the bytes a mark in front tells it. -/
  | utf16 (bigEndian : Option Bool)
  /-- Units of four bytes. -/
  | utf32 (bigEndian : Option Bool)
deriving DecidableEq, Repr

/-- Why bytes are no text in a character set. -/
inductive CharsetFlaw where
  | undecodable (u : Undecodable)
  /-- Units of so many bits have no mark in front that tells their order. -/
  | unmarked (bits : Nat)
deriving DecidableEq, Repr

def CharsetFlaw.message : CharsetFlaw → String
  | .undecodable u => u.message
  | .unmarked bits => "UTF-" ++ toString bits ++ " stream does not start with BOM"

namespace Charset

/-- The character sets other than code pages, under each of their names. -/
def names : List (List String × Charset) :=
  [(["utf_8", "utf8", "u8", "utf", "cp65001", "utf8_ucs2", "utf8_ucs4", "locale"], .utf8 false),
    (["utf_8_sig"], .utf8 true),
    (["ascii", "646", "ansi_x3.4_1968", "ansi_x3.4_1986", "ansi_x3_4_1968", "cp367", "csascii",
      "ibm367", "iso646_us", "iso_646.irv_1991", "iso_ir_6", "us", "us_ascii"], .ascii),
    (["latin_1", "8859", "cp819", "csisolatin1", "ibm819", "iso8859", "iso8859_1", "iso_8859_1",
      "iso_8859_1_1987", "iso_ir_100", "l1", "latin", "latin1"], .latin1),
    (["utf_16", "u16", "utf16"], .utf16 none),
    (["utf_16_le", "utf_16le", "unicodelittleunmarked"], .utf16 (some false)),
    (["utf_16_be", "utf_16be", "unicodebigunmarked"], .utf16 (some true)),
    (["utf_32", "u32", "utf32"], .utf32 none),
    (["utf_32_le", "utf_32le"], .utf32 (some false)),
    (["utf_32_be", "utf_32be"], .utf32 (some true))]

/-- The words of a name in lower case, with an underscore between them. Signs other than dots divide
words. -/
def normalizeFrom (divided : Bool) (done : List Char) : List Char → List Char
  | [] => done.reverse
  | c :: s =>
    if c.isAlphanum || c = '.' then
      let before := if divided && !done.isEmpty then '_' :: done else done
      normalizeFrom false (c.toLower :: before) s
    else normalizeFrom true done s

/-- The character set with exactly this name. -/
def named? (name : String) : Option Charset :=
  match names.find? (·.1.contains name) with
  | some (_, c) => some c
  | none => (CodePage.all.find? (·.names.contains name)).map .page

/-- The character set of a name. Case and the signs between words play no part. -/
def ofName? (name : String) : Option Charset :=
  let words := normalizeFrom false [] name.toList
  (named? (String.ofList words)).orElse fun _ =>
    named? (String.ofList (words.map fun c => if c = '.' then '_' else c))

/-- Names of codings that make bytes of bytes, or texts of texts. -/
def otherCodings : List String :=
  ["base64", "base64_codec", "base_64", "bz2", "bz2_codec", "hex", "hex_codec", "quopri",
    "quopri_codec", "quoted_printable", "quotedprintable", "rot13", "rot_13", "uu", "uu_codec",
    "zip", "zlib", "zlib_codec"]

/-- Whether a name is that of a coding that is no character set. -/
def isOtherCoding (name : String) : Bool :=
  otherCodings.contains (String.ofList (normalizeFrom false [] name.toList))

/-- The byte order mark in UTF-8. -/
def mark8 : List UInt8 := [0xef, 0xbb, 0xbf]

/-- Reads units of two bytes whose order a mark tells. -/
def readMarked16 (bytes : List UInt8) : Except CharsetFlaw String :=
  match bytes with
  | 0xff :: 0xfe :: rest => (Wide.read16 false 2 "" rest).mapError .undecodable
  | 0xfe :: 0xff :: rest => (Wide.read16 true 2 "" rest).mapError .undecodable
  | _ => do
    let s ← (Wide.read16 false 0 "" bytes).mapError .undecodable
    if s.isEmpty then pure s else throw (.unmarked 16)

/-- Reads units of four bytes whose order a mark tells. -/
def readMarked32 (bytes : List UInt8) : Except CharsetFlaw String :=
  match bytes with
  | 0xff :: 0xfe :: 0 :: 0 :: rest => (Wide.read32 false 4 "" rest).mapError .undecodable
  | 0 :: 0 :: 0xfe :: 0xff :: rest => (Wide.read32 true 4 "" rest).mapError .undecodable
  | _ => do
    let s ← (Wide.read32 false 0 "" bytes).mapError .undecodable
    if s.isEmpty then pure s else throw (.unmarked 32)

/-- The text of bytes in which each stands alone. -/
def readBytes (charset reason : String) (known : UInt8 → Bool) (bytes : List UInt8) :
    Except CharsetFlaw String :=
  match bytes.zipIdx.find? fun b => !known b.1 with
  | some (b, position) => .error (.undecodable ⟨charset, reason, position, b.toNat, 1⟩)
  | none => .ok (String.ofList (bytes.map fun b => Char.ofNat b.toNat))

/-- The text of bytes. -/
def decode (charset : Charset) (bytes : ByteArray) : Except CharsetFlaw String :=
  match charset with
  | .utf8 marked =>
    let skip := if marked && mark8.isPrefixOf (bytes.extract 0 3).toList then 3 else 0
    (Utf8.decode (bytes.extract skip bytes.size)).mapError (.undecodable ·.undecodable)
  | .ascii => readBytes "ascii" "ordinal not in range(128)" (· < 0x80) bytes.toList
  | .latin1 => readBytes "latin-1" "" (fun _ => true) bytes.toList
  | .page p =>
    (p.read bytes).mapError fun (b, position) =>
      .undecodable ⟨"charmap", "character maps to <undefined>", position, b.toNat, 1⟩
  | .utf16 (some bigEndian) =>
    (Wide.read16 bigEndian 0 "" bytes.toList).mapError .undecodable
  | .utf16 none => readMarked16 bytes.toList
  | .utf32 (some bigEndian) =>
    (Wide.read32 bigEndian 0 "" bytes.toList).mapError .undecodable
  | .utf32 none => readMarked32 bytes.toList

end Charset

end Shorthand.Text
