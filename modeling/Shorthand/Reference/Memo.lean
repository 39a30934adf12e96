import Shorthand.Reference

/-!
Patterns that were made are kept. Asking again for the pattern of the same names and the same rule
gives the very pattern that was made before, as long as it is among those used last. The pattern
without names is not kept among them; there is one of it, from the start.
-/

namespace Shorthand.Reference

/-- A pattern that was made; the number tells it from others that were made of the same names. -/
structure Made where
  pattern : Pattern
  number : Nat
deriving DecidableEq, Repr

/-- The one pattern without names. -/
def Made.unnamed : Made := ⟨⟨[], false⟩, 0⟩

/-- The patterns that are kept, the one used last first, and how many have been made so far. -/
structure Memo where
  kept : List Made
  count : Nat

namespace Memo

def empty : Memo := ⟨[], 0⟩

/-- How many patterns are kept. -/
def capacity : Nat := 256

/-- Puts a pattern in front. If that is one too many, the pattern goes that was not used for longest. -/
def use (memo : Memo) (made : Made) : Memo :=
  { memo with kept := (made :: memo.kept.erase made).take capacity }

/-- The pattern of the given names, made anew if none is kept, and the memo after that. -/
def request (memo : Memo) (names : List String) (bounded : Bool) : Made × Memo :=
  let p := Pattern.build names bounded
  if p.names.isEmpty then (.unnamed, memo)
  else
    match memo.kept.find? (·.pattern = p) with
    | some made => (made, memo.use made)
    | none =>
      let made : Made := ⟨p, memo.count + 1⟩
      (made, { memo.use made with count := memo.count + 1 })

end Memo

end Shorthand.Reference
