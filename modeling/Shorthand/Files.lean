import Shorthand.Path

/-!
Files and directories, by their places: the names from the root on. One of the directories is the
working directory, where paths without a root begin.
-/

namespace Shorthand

inductive Node where
  | file (content : ByteArray)
  | directory

/-- Why a file cannot be read. -/
inductive AccessError where
  | noSuchFile
  | notADirectory
  | isADirectory
  | nameTooLong
deriving DecidableEq, Repr

def AccessError.message : AccessError → String
  | .noSuchFile => "No such file or directory"
  | .notADirectory => "Not a directory"
  | .isADirectory => "Is a directory"
  | .nameTooLong => "File name too long"

/-- What there is, and the place of the working directory. -/
structure Files where
  nodes : List (List String × Node)
  location : List String := []

namespace Files

def none : Files := { nodes := [] }

/-- The node at a place. The working directory exists, and so does every directory above it or above
a node. -/
def nodeAt? (files : Files) (place : List String) : Option Node :=
  if place.isPrefixOf files.location then some .directory
  else
    match files.nodes.find? (·.1 = place) with
    | some (_, node) => some node
    | Option.none =>
      if files.nodes.any fun n => place.isPrefixOf n.1 then some .directory else Option.none

/-- The files that lie directly in a directory, by their names. -/
def filesIn (files : Files) (place : List String) : List (String × ByteArray) :=
  files.nodes.filterMap fun (path, node) =>
    match path.getLast?, node with
    | some name, .file content => if path.dropLast = place then some (name, content) else Option.none
    | _, _ => Option.none

/-- The greatest number of bytes in one part of a path. -/
def maxPartBytes : Nat := 255

/-- A path of this many bytes or more is too long as a whole. -/
def pathBytesLimit : Nat := 4096

/-- Follows the parts of a path from a place, whose own names are given last one first: the place
where they lead, and its node. Every part but the last has to be a directory. The root is above
itself. -/
def follow (files : Files) :
    (place parts : List String) → Except AccessError (List String × Node)
  | place, [] =>
    match files.nodeAt? place.reverse with
    | some node => .ok (place.reverse, node)
    | Option.none => .error .noSuchFile
  | place, part :: parts =>
    match files.nodeAt? place.reverse with
    | some (.file _) => .error .notADirectory
    | Option.none => .error .noSuchFile
    | some .directory =>
      if part = ".." then follow files place.tail parts
      else if maxPartBytes < part.utf8ByteSize then .error .nameTooLong
      else follow files (part :: place) parts

/-- Where a path leads, and the node there. -/
def find (files : Files) (path : Path) : Except AccessError (List String × Node) :=
  if pathBytesLimit ≤ path.text.utf8ByteSize then .error .nameTooLong
  else files.follow (if path.root = "" then files.location.reverse else []) path.parts

/-- The content of the file at a path. -/
def read (files : Files) (path : Path) : Except AccessError ByteArray :=
  match files.find path with
  | .ok (_, .file content) => .ok content
  | .ok (_, .directory) => .error .isADirectory
  | .error e => .error e

end Files

end Shorthand
