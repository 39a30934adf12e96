import Shorthand.Value

/-! Equality of values can be decided, so that what is read from a text can be compared with the value
that is expected. -/

namespace Shorthand.Value

mutual

/-- Whether two values are the same, the entries of tables in the same order. -/
def same : Value → Value → Bool
  | .null, .null => true
  | .bool a, .bool b => a = b
  | .int i, .int j => i = j
  | .float x, .float y => x = y
  | .text s, .text t => s = t
  | .date a, .date b => a = b
  | .time a, .time b => a = b
  | .moment a, .moment b => a = b
  | .list xs, .list ys => sameItems xs ys
  | .table es, .table fs => sameEntries es fs
  | _, _ => false

def sameItems : List Value → List Value → Bool
  | [], [] => true
  | x :: xs, y :: ys => same x y && sameItems xs ys
  | _, _ => false

def sameEntries : List (String × Value) → List (String × Value) → Bool
  | [], [] => true
  | (k, v) :: es, (j, w) :: fs => k = j && same v w && sameEntries es fs
  | _, _ => false

end

mutual

theorem same_iff : ∀ v w : Value, same v w = true ↔ v = w
  | .list xs, w => by cases w <;> simp [same, sameItems_iff xs]
  | .table es, w => by cases w <;> simp [same, sameEntries_iff es]
  | .null, w | .bool _, w | .int _, w | .float _, w | .text _, w | .date _, w | .time _, w
  | .moment _, w => by cases w <;> simp [same]

theorem sameItems_iff : ∀ xs ys : List Value, sameItems xs ys = true ↔ xs = ys
  | [], ys => by cases ys <;> simp [sameItems]
  | x :: xs, ys => by cases ys <;> simp [sameItems, same_iff x, sameItems_iff xs]

theorem sameEntries_iff : ∀ es fs : List (String × Value), sameEntries es fs = true ↔ es = fs
  | [], fs => by cases fs <;> simp [sameEntries]
  | (k, v) :: es, fs => by
      cases fs <;> simp [sameEntries, same_iff v, sameEntries_iff es, Prod.ext_iff]

end

instance : DecidableEq Value := fun v w => decidable_of_iff _ (same_iff v w)

end Shorthand.Value
