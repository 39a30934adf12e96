import Shorthand.Proofs.Value.Entries
import Shorthand.Value.Literal

/-! Which values have a text: those in which every integer has few enough digits. Nothing else in a
value can keep it from having one. -/

namespace Shorthand.Value

/-- The estimate from the bits of a number never decides otherwise than the power of ten. -/
theorem exceedsDigits_iff {limit n : Nat} : exceedsDigits limit n = true ↔ Nat.pow 10 limit ≤ n := by
  rw [exceedsDigits]
  split
  · next hBits =>
      have hBelow : n < Nat.pow 10 limit := by
        calc
          n < 2 ^ (n.log2 + 1) := Nat.lt_log2_self
          _ ≤ 2 ^ (3 * limit) := Nat.pow_le_pow_right (by omega) hBits
          _ = (2 ^ 3) ^ limit := Nat.pow_mul ..
          _ ≤ 10 ^ limit := Nat.pow_le_pow_left (by omega) limit
      exact ⟨fun h => (by cases h), fun h => absurd hBelow (Nat.not_lt.2 h)⟩
  · exact decide_eq_true_iff

mutual

/-- Whether every integer in the value has at most as many decimal digits as a text may have. -/
def withinDigits : Value → Bool
  | .int i => i.natAbs < Nat.pow 10 maxIntegerDigits
  | .list items => itemsWithinDigits items
  | .table es => entriesWithinDigits es
  | _ => true

def itemsWithinDigits : List Value → Bool
  | [] => true
  | v :: vs => withinDigits v && itemsWithinDigits vs

def entriesWithinDigits : List (String × Value) → Bool
  | [] => true
  | (_, v) :: es => withinDigits v && entriesWithinDigits es

end

mutual

theorem isSome_literal? : ∀ v : Value, v.literal?.isSome = v.withinDigits
  | .null | .bool _ | .float _ | .text _ | .date _ | .time _ | .moment _ => rfl
  | .int i => by
      have hDigits : (i.natAbs < Nat.pow 10 maxIntegerDigits) ↔
          ¬exceedsDigits maxIntegerDigits i.natAbs = true := by
        rw [exceedsDigits_iff, Nat.not_le]
      rw [literal?, withinDigits]
      split <;> simp_all
  | .list items => by rw [literal?, withinDigits, Option.isSome_map, isSome_itemLiterals? items]
  | .table es => by rw [literal?, withinDigits, Option.isSome_map, isSome_entryLiterals? es]

theorem isSome_itemLiterals? :
    ∀ items : List Value, (itemLiterals? items).isSome = itemsWithinDigits items
  | [] => rfl
  | v :: vs => by
      rw [itemLiterals?, itemsWithinDigits, ← isSome_literal? v, ← isSome_itemLiterals? vs]
      cases literal? v <;> cases itemLiterals? vs <;> rfl

theorem isSome_entryLiterals? :
    ∀ es : List (String × Value), (entryLiterals? es).isSome = entriesWithinDigits es
  | [] => rfl
  | (k, v) :: es => by
      rw [entryLiterals?, entriesWithinDigits, ← isSome_literal? v, ← isSome_entryLiterals? es]
      cases literal? v <;> cases entryLiterals? es <;> rfl

end

/-- A value whose integers are short enough has a text. -/
theorem exists_asText? {v : Value} (h : v.withinDigits = true) : ∃ s, v.asText? = some s := by
  rw [← isSome_literal?, Option.isSome_iff_exists] at h
  cases v with
  | text s => exact ⟨s, rfl⟩
  | date d => exact ⟨d.text, rfl⟩
  | time t => exact ⟨t.text, rfl⟩
  | moment m => exact ⟨m.spacedText, rfl⟩
  | _ => exact h

theorem entriesWithinDigits_eq_all (es : Entries) :
    entriesWithinDigits es = es.all fun e => e.2.withinDigits := by
  induction es with
  | nil => rfl
  | cons e es ih => rw [entriesWithinDigits, List.all_cons, ih]

/-- The integers in a table are those in the values of its entries. -/
theorem withinDigits_of_get? {es : Entries} (h : (Value.table es).withinDigits = true) {key : String}
    {v : Value} (hGet : es.get? key = some v) : v.withinDigits = true := by
  rw [withinDigits, entriesWithinDigits_eq_all, List.all_eq_true] at h
  exact h _ (Entries.mem_of_get? hGet)

end Shorthand.Value
