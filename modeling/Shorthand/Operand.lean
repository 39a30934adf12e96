import Shorthand.Reference.Memo
import Shorthand.Registry
import Shorthand.Resolution

/-!
The operations on names, entries and texts for operands of any kind. Names and entries are what
iterating over the operand gives; what is no text among names is passed over.
-/

namespace Shorthand.Operand

inductive OperandError where
  /-- The operand has no elements. -/
  | notIterable
  /-- The operand should have been a text. -/
  | notText
  | entry (error : EntryError)
deriving DecidableEq, Repr

/-- Entries, or a value that is used in their place. -/
inductive Source where
  | entries (es : List Entry)
  | value (v : Value)

/-- Whether there is nothing to be had from the operand. -/
def Source.isEmpty : Source → Bool
  | .entries es => es.isEmpty
  | .value v => !v.isTruthy

/-- The entries that the operand stands for. -/
def Source.toList : Source → Except OperandError (List Entry)
  | .entries es => .ok es
  | .value v =>
    match v.elements? with
    | some elements => .ok (elements.map .raw)
    | none => .error .notIterable

/-- The names that an operand stands for. -/
def names (v : Value) : Except OperandError (List String) :=
  match v.elements? with
  | some elements => .ok (elements.filterMap Value.text?)
  | none => .error .notIterable

/-- The text that an operand has to be. -/
def text (v : Value) : Except OperandError String :=
  match v.text? with
  | some s => .ok s
  | none => .error .notText

def has (known searched : Value) (bounded : Bool) : Except OperandError Bool := do
  pure (Reference.has (← names known) (← text searched) bounded)

def find (known searched : Value) (bounded : Bool) : Except OperandError (List String) := do
  pure (Reference.find (← names known) (← text searched) bounded)

def pattern (known : Value) (bounded : Bool) : Except OperandError Reference.Pattern := do
  pure (Reference.Pattern.build (← names known) bounded)

/-- The pattern as it is kept, and the memo after that. -/
def keptPattern (memo : Reference.Memo) (known : Value) (bounded : Bool) :
    Except OperandError (Reference.Made × Reference.Memo) := do
  pure (memo.request (← names known) bounded)

/-- What resolving gives: the operand itself if there are no entries, else a resolved text. -/
inductive Resolved where
  | untouched (v : Value)
  | resolved (r : Resolution)

/-- Resolves an operand. Without entries it comes back whatever it is. -/
def resolve (source : Source) (searched : Value) (bounded : Bool) :
    Except OperandError Resolved :=
  if source.isEmpty then .ok (.untouched searched)
  else do
    let ds ← ((← source.toList).mapM Entry.coerce).mapError .entry
    pure (.resolved (resolveDefinitions ds (← text searched) bounded))

/-- Adds the entries of an operand. -/
def addMany (r : Registry) (source : Source) : Except OperandError Registry.Additions :=
  source.toList.map r.addMany

end Shorthand.Operand
