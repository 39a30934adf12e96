/-!
What the readers of the data formats share: their limits, what stops them, and where. A reader works
on the text as a list of characters; while it runs, a place is the suffix that begins there, and it
is counted from the front once, at the end.
-/

namespace Shorthand

section

variable {ε α β : Type}

theorem map_eq_ok_iff {x : Except ε α} {f : α → β} {b : β} :
    x.map f = .ok b ↔ ∃ a, x = .ok a ∧ f a = b := by
  cases x with
  | error e =>
    refine ⟨fun h => (by cases h), ?_⟩
    rintro ⟨_, h, _⟩
    cases h
  | ok a =>
    constructor
    · intro h
      exact ⟨a, rfl, Except.ok.inj h⟩
    · rintro ⟨_, hSame, rfl⟩
      cases hSame
      rfl

theorem bind_eq_ok_iff {x : Except ε α} {f : α → Except ε β} {b : β} :
    (x >>= f) = .ok b ↔ ∃ a, x = .ok a ∧ f a = .ok b := by
  cases x with
  | error e =>
    refine ⟨fun h => (by cases h), ?_⟩
    rintro ⟨_, h, _⟩
    cases h
  | ok a =>
    constructor
    · intro h
      exact ⟨a, rfl, h⟩
    · rintro ⟨_, hSame, h⟩
      cases hSame
      exact h

end

/-- The kinds of values that have parts. -/
inductive Container where
  | list
  | table
deriving DecidableEq, Repr

/-- How deep a reader goes. It is asked before a container is opened, with the containers that are
open already, the innermost first, and the text from the opening mark on. The answer depends on the
stack that the reader runs on, so it is not fixed here. -/
abbrev DepthLimit := (opened : List Container) → (text : List Char) → Bool

/-- Bounds on the containers inside one another and on the decimal digits of an integer; without a
bound everything is allowed. -/
structure Limits where
  tooDeep : DepthLimit := fun _ _ => false
  digits : Option Nat := none

/-- Whether an integer may not have so many digits. -/
def Limits.refusesDigits (limits : Limits) (count : Nat) : Bool := limits.digits.any (· < count)

namespace Reading

/-- What stops a reader: a flaw of the text, or one of the two limits. -/
inductive Stop (φ : Type) where
  | malformed (flaw : φ) (rest : List Char)
  | tooManyDigits (count : Nat)
  | tooDeep

/-- Why a text has no value: a flaw at a position, or one of the two limits. -/
inductive Failure (φ : Type) where
  | malformed (flaw : φ) (position : Nat)
  | tooManyDigits (count : Nat)
  | tooDeep
deriving DecidableEq, Repr

/-- A stop, its place counted from the start of the text. -/
def Stop.failure {φ : Type} (text : List Char) : Stop φ → Failure φ
  | .malformed flaw rest => .malformed flaw (text.length - rest.length)
  | .tooManyDigits count => .tooManyDigits count
  | .tooDeep => .tooDeep

/-- Line and column of a position, both counted from one. -/
def lineAndColumn (text : List Char) (position : Nat) : Nat × Nat :=
  let before := text.take position
  (before.count '\n' + 1, (before.reverse.takeWhile (· ≠ '\n')).length + 1)

end Reading

end Shorthand
