import Shorthand.Text.Lead
import Shorthand.Text.Word

/-!
References to names in a text: the marker followed by a name. A pattern holds the names that are
known, the longest first, so that of several names that stand at a place the longest is meant. With
the boundary rule a reference ends where a word ends.

A text is cut into pieces from left to right: references, which do not overlap, and the characters
between them.
-/

namespace Shorthand.Reference

/-- The character in front of a name that makes it a reference. -/
def marker : Char := '#'

/-- The known names in the order in which they are tried, and whether the boundary rule holds.
Patterns without a name are all the same: nothing is a reference. -/
structure Pattern where
  names : List (List Char)
  bounded : Bool
deriving DecidableEq, Repr

/-- The order of characters in two names of one length. -/
def charsPrecede : List Char → List Char → Bool
  | [], _ => true
  | _ :: _, [] => false
  | a :: s, b :: t => a < b || (a = b && charsPrecede s t)

/-- The order in which names are tried: longer ones first, names of one length by their characters. -/
def precedes (a b : List Char) : Bool :=
  b.length < a.length || (a.length = b.length && charsPrecede a b)

/-- The names of a list that can be referred to, each once, in the order in which they are tried. -/
def canonical (names : List String) : List (List Char) :=
  (((names.map String.toList).filter (· ≠ [])).eraseDups).mergeSort precedes

/-- The pattern of the given names. -/
def Pattern.build (names : List String) (bounded : Bool) : Pattern :=
  let known := canonical names
  ⟨known, bounded && !known.isEmpty⟩

/-- Whether a name may end before this text: with the boundary rule, no word goes on there. -/
def endsBefore (bounded : Bool) (rest : List Char) : Bool :=
  !bounded || !rest.head?.any Text.isWord

namespace Pattern

/-- The first of the names that the text begins with and that may end there, and what follows it. -/
def pick (bounded : Bool) : (names : List (List Char)) → List Char →
    Option (List Char × List Char)
  | [], _ => none
  | n :: names, s =>
    match Text.dropLead? n s with
    | some rest => if endsBefore bounded rest then some (n, rest) else pick bounded names s
    | none => pick bounded names s

/-- The reference at the start of the text: its name and what follows it. -/
def referenceAt? (p : Pattern) : List Char → Option (List Char × List Char)
  | [] => none
  | c :: rest => if c = marker then pick p.bounded p.names rest else none

theorem pick_length {bounded : Bool} {names : List (List Char)} {s n rest : List Char}
    (h : pick bounded names s = some (n, rest)) : n.length + rest.length = s.length := by
  fun_induction pick bounded names s with
  | case1 => cases h
  | case2 n names s after hDrop _ =>
    cases h
    exact Text.dropLead?_length hDrop
  | case3 _ _ _ _ _ _ ih => exact ih h
  | case4 _ _ _ _ ih => exact ih h

/-- A reference takes its marker and its name. -/
theorem referenceAt?_length {p : Pattern} {s n rest : List Char}
    (h : p.referenceAt? s = some (n, rest)) : n.length + rest.length + 1 = s.length := by
  unfold referenceAt? at h
  split at h
  · cases h
  · split at h
    · simp [pick_length h]
    · cases h

/-- Passes over a text from left to right: `plain` takes each character outside of references,
`reference` the name of each reference. -/
def fold {β : Type} (p : Pattern) (plain : β → Char → β) (reference : β → List Char → β) (b : β)
    (s : List Char) : β :=
  match s with
  | [] => b
  | c :: rest =>
    match h : p.referenceAt? (c :: rest) with
    | some (n, after) =>
      have := referenceAt?_length h
      p.fold plain reference (reference b n) after
    | none => p.fold plain reference (plain b c) rest
termination_by s.length
decreasing_by
  · simp only [List.length_cons] at *
    omega
  · simp

end Pattern

/-- A character outside of references, or a reference. -/
inductive Piece where
  | plain (c : Char)
  | reference (name : List Char)
deriving DecidableEq, Repr

/-- The characters of a piece as they stand in the text. -/
def Piece.text : Piece → List Char
  | .plain c => [c]
  | .reference n => marker :: n

/-- The pieces of a text. -/
def Pattern.pieces (p : Pattern) (s : List Char) : List Piece :=
  (p.fold (fun done c => .plain c :: done) (fun done n => .reference n :: done) []
    s).reverse

/-- A reference in a text: where its marker stands, and its name. -/
structure Match where
  start : Nat
  name : String
deriving DecidableEq, Repr

/-- The position behind a reference. -/
def Match.stop (m : Match) : Nat := m.start + 1 + m.name.length

/-- The position reached and the references found so far, the latest first. -/
structure Survey where
  position : Nat
  found : List Match

/-- All references in a text, from left to right. -/
def Pattern.matches (p : Pattern) (text : String) : List Match :=
  let survey := p.fold
    (fun (v : Survey) _ => { v with position := v.position + 1 })
    (fun v n => ⟨v.position + 1 + n.length, ⟨v.position, String.ofList n⟩ :: v.found⟩)
    ⟨0, []⟩ text.toList
  survey.found.reverse

/-- Adds a name that is not there yet. -/
def addNew (seen : List (List Char)) (n : List Char) : List (List Char) :=
  if seen.contains n then seen else n :: seen

/-- The reference to a name as it stands in a text. -/
def token (n : List Char) : String := String.ofList (marker :: n)

/-- The different references in a text, in the order of their first places. -/
def Pattern.tokens (p : Pattern) (text : String) : List String :=
  ((p.fold (fun seen _ => seen) addNew [] text.toList).reverse).map token

/-- Whether a text refers to any name. -/
def Pattern.occurs (p : Pattern) (text : String) : Bool :=
  p.fold (fun found _ => found) (fun _ _ => true) false text.toList

/-- Whether the text refers to one of the names. -/
def has (names : List String) (text : String) (bounded : Bool) : Bool :=
  (Pattern.build names bounded).occurs text

/-- The different references to these names, in the order of their first places. -/
def find (names : List String) (text : String) (bounded : Bool) : List String :=
  (Pattern.build names bounded).tokens text

end Shorthand.Reference
