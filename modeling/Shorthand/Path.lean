import Shorthand.Text.Casing

/-!
Paths: a root, if the path is absolute, and parts. Empty parts and single dots are dropped when a
path is read; double dots stay.
-/

namespace Shorthand

/-- A path; the root is empty, one slash or two. -/
structure Path where
  root : String
  parts : List String
deriving DecidableEq, Repr

namespace Path

/-- The pieces between slashes. -/
def splitSlashes (current : List Char) : List Char → List String
  | [] => [String.ofList current.reverse]
  | c :: s =>
    if c = '/' then String.ofList current.reverse :: splitSlashes [] s
    else splitSlashes (c :: current) s

/-- The root that a text begins with: exactly two slashes are a root of their own, any other number
of them counts as one. -/
def rootOf (s : List Char) : String :=
  match (s.takeWhile (· = '/')).length with
  | 0 => ""
  | 2 => "//"
  | _ => "/"

/-- Reads a path. -/
def ofText (s : String) : Path :=
  let cs := s.toList
  ⟨rootOf cs, (splitSlashes [] cs).filter fun p => p ≠ "" && p ≠ "."⟩

/-- The path as text; a path without root and parts is a dot. -/
def text (p : Path) : String :=
  if p.root = "" && p.parts.isEmpty then "." else p.root ++ "/".intercalate p.parts

/-- The last part. -/
def name (p : Path) : String := (p.parts.getLast?).getD ""

/-- The last part from its last dot on, unless that dot is its first or last character. -/
def suffix (p : Path) : String :=
  let cs := p.name.toList
  let stem := cs.reverse.dropWhile (· ≠ '.')
  let dot := stem.length - 1
  if 0 < dot && dot + 1 < cs.length then String.ofList (cs.drop dot) else ""

/-- The suffix in lower case, which tells the format of a file. -/
def format (p : Path) : String := Text.lower p.suffix

end Path

end Shorthand
