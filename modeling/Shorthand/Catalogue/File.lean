import Shorthand.Catalogue
import Shorthand.Files
import Shorthand.Journal
import Shorthand.Json.Reader
import Shorthand.Text.Blank
import Shorthand.Text.Utf8
import Shorthand.Toml.Reader

/-!
Catalogues in files. The suffix of a path tells the format, the bytes are UTF-8 with line ends of any
kind, and the value that the text writes is read as a catalogue.
-/

namespace Shorthand.Catalogue

/-- The formats of catalogue files. -/
inductive Format where
  | json
  | toml
deriving DecidableEq, Repr

/-- The format that a suffix in lower case stands for. -/
def Format.ofSuffix? (suffix : String) : Option Format :=
  if suffix = ".json" then some .json else if suffix = ".toml" then some .toml else none

/-- How deep the reader of each format goes. -/
abbrev Depths := Format → DepthLimit

/-- The limits of a format. -/
def Depths.limits (depths : Depths) (format : Format) : Limits :=
  Value.readingLimits (depths format)

/-- Why a file holds no catalogue. Paths are given as text. -/
inductive LoadError where
  | unsupported (path suffix : String)
  | unreadable (path : String) (error : AccessError)
  | malformed (path reason : String)
  | content (error : CatalogueError)
deriving DecidableEq, Repr

/-- What keeps a file from being loaded: an error of the kind above, or an accident below the level
of catalogues, which is told as it is. -/
inductive LoadFailure where
  | reported (error : LoadError)
  | zeroInPath
  | undecodable (flaw : Text.Utf8.Flaw)
  | tooManyDigits (count : Nat)
  | tooDeep
deriving DecidableEq, Repr

/-- The message of a load error; that of definitions that are not valid goes before their details. -/
def LoadError.message : LoadError → String
  | .unsupported path suffix => path ++ ": unsupported macro file type '" ++ suffix ++ "'"
  | .unreadable path error => path ++ ": " ++ error.message
  | .malformed path reason => path ++ ": " ++ reason
  | .content (.kind name) => kindMessage name
  | .content (.invalid _) => "Invalid macro definition"

/-- The message about an integer that has too many digits. -/
def digitsMessage (count : Nat) : String :=
  "Exceeds the limit (" ++ toString Value.maxIntegerDigits ++
    " digits) for integer string conversion: value has " ++ toString count ++
    " digits; use sys.set_int_max_str_digits() to increase the limit"

/-- The message of a failure; nesting that is too deep has none. -/
def LoadFailure.message? : LoadFailure → Option String
  | .reported error => some error.message
  | .zeroInPath => some "embedded null byte"
  | .undecodable flaw => some flaw.message
  | .tooManyDigits count => some (digitsMessage count)
  | .tooDeep => none

/-- A reader's failure as a failure to load; `reason` tells a flaw at a position in words. -/
def readFailure {φ : Type} (path : Path) (reason : φ → Nat → String) :
    Reading.Failure φ → LoadFailure
  | .malformed flaw position => .reported (.malformed path.text (reason flaw position))
  | .tooManyDigits count => .tooManyDigits count
  | .tooDeep => .tooDeep

/-- The value that a text writes in a format. -/
def parse (depths : Depths) (format : Format) (path : Path) (text : List Char) :
    Except LoadFailure Value :=
  match format with
  | .json =>
    (Json.readUnmarked (depths.limits .json) text).mapError
      (readFailure path fun flaw position => flaw.messageAt text position)
  | .toml =>
    ((Toml.read (depths.limits .toml) text).map .table).mapError
      (readFailure path fun flaw position => flaw.messageAt text position)

/-- The text of a file, with line feeds for line ends. -/
def readText (files : Files) (path : Path) : Except LoadFailure (List Char) := do
  let bytes ← (files.read path).mapError fun e => .reported (.unreadable path.text e)
  let text ← (Text.Utf8.decode bytes).mapError .undecodable
  pure (Text.unifyNewlines text.toList)

/-- The definitions in the file at a path, and the event that tells of them. A path whose suffix
stands for no format is not looked at. -/
def load (depths : Depths) (files : Files) (path : Path) :
    Except LoadFailure (List Definition × Event) := do
  match Format.ofSuffix? path.format with
  | none => throw (.reported (.unsupported path.text path.format))
  | some format =>
    if path.text.contains '\x00' then throw .zeroInPath
    let text ← readText files path
    let v ← parse depths format path text
    let definitions ← (read v).mapError fun e => .reported (.content e)
    pure (definitions, .loaded definitions.length path.text)

end Shorthand.Catalogue
