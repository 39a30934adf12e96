import Shorthand.Definition
import Shorthand.Journal
import Shorthand.Reference

/-!
Resolving a text: every reference gives way to the code of its definition. Code that is put in is
not looked at again. Of several definitions of a name the first counts.
-/

namespace Shorthand

/-- A resolved text, and the different names that were replaced, in the order of their first places. -/
structure Resolution where
  text : String
  replaced : List String
deriving DecidableEq, Repr

namespace Resolution

/-- The event that tells of the resolution; nothing is told if no reference was replaced. -/
def events (r : Resolution) : List Event :=
  if r.replaced.isEmpty then [] else [.resolved r.replaced.length]

/-- The code of the first definition of a name. -/
def codeOf? (ds : List Definition) (name : String) : Option String :=
  (ds.find? (·.name = name)).map (·.code)

/-- The text written so far, and the names replaced so far, the latest first. -/
structure Progress where
  written : String
  replaced : List (List Char)

/-- Puts in the code of a name; a reference without a definition stays. -/
def Progress.replace (ds : List Definition) (p : Progress) (n : List Char) : Progress :=
  match codeOf? ds (String.ofList n) with
  | some code => ⟨p.written ++ code, Reference.addNew p.replaced n⟩
  | none => { p with written := p.written ++ Reference.token n }

end Resolution

/-- Resolves a text by definitions. -/
def resolveDefinitions (ds : List Definition) (text : String) (bounded : Bool) : Resolution :=
  let p := (Reference.Pattern.build (ds.map (·.name)) bounded).fold
    (fun (p : Resolution.Progress) c => { p with written := p.written.push c })
    (Resolution.Progress.replace ds) ⟨"", []⟩ text.toList
  ⟨p.written, p.replaced.reverse.map String.ofList⟩

/-- Resolves a text by entries, which are coerced first; the first that cannot be gives the error.
Without entries the text is not looked at. -/
def resolve (entries : List Entry) (text : String) (bounded : Bool) :
    Except EntryError Resolution :=
  if entries.isEmpty then .ok ⟨text, []⟩
  else (entries.mapM Entry.coerce).map fun ds => resolveDefinitions ds text bounded

end Shorthand
