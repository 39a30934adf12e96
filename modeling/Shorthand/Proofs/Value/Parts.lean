import Shorthand.Proofs.Value.Entries
import Shorthand.Value.Portable

/-! Properties of a value and of everything in it. A value without dates and times in which every number
is finite is sent as it is. -/

namespace Shorthand.Value

mutual

/-- Whether a property holds of a value and of all its parts. -/
def everywhere (p : Value → Bool) : Value → Bool
  | .list items => p (.list items) && itemsEverywhere p items
  | .table es => p (.table es) && entriesEverywhere p es
  | v => p v

def itemsEverywhere (p : Value → Bool) : List Value → Bool
  | [] => true
  | v :: vs => everywhere p v && itemsEverywhere p vs

def entriesEverywhere (p : Value → Bool) : List (String × Value) → Bool
  | [] => true
  | (_, v) :: es => everywhere p v && entriesEverywhere p es

end

mutual

/-- How many lists and tables are in one another, counted where they are most. -/
def depth : Value → Nat
  | .list items => itemsDepth items + 1
  | .table es => entriesDepth es + 1
  | _ => 0

def itemsDepth : List Value → Nat
  | [] => 0
  | v :: vs => max (depth v) (itemsDepth vs)

def entriesDepth : List (String × Value) → Nat
  | [] => 0
  | (_, v) :: es => max (depth v) (entriesDepth es)

end

/-- A list with so many lists in one another inside it; with itself it is one level more. -/
def nested : Nat → Value
  | 0 => .list []
  | n + 1 => .list [nested n]

section

variable (p q : Value → Bool)

theorem itemsEverywhere_eq_all (items : List Value) :
    itemsEverywhere p items = items.all (everywhere p) := by
  induction items with
  | nil => rfl
  | cons v items ih => rw [itemsEverywhere, List.all_cons, ih]

theorem entriesEverywhere_eq_all (es : Entries) :
    entriesEverywhere p es = es.all fun e => e.2.everywhere p := by
  induction es with
  | nil => rfl
  | cons e es ih => rw [entriesEverywhere, List.all_cons, ih]

variable {p q}

theorem self_of_everywhere {v : Value} (h : v.everywhere p = true) : p v = true := by
  cases v with
  | list items | table es => exact (Bool.and_eq_true_iff.1 h).1
  | _ => exact h

theorem everywhere_list_iff {items : List Value} :
    (Value.list items).everywhere p = true ↔
      p (.list items) = true ∧ ∀ v ∈ items, v.everywhere p = true := by
  rw [everywhere, Bool.and_eq_true, itemsEverywhere_eq_all, List.all_eq_true]

theorem everywhere_table_iff {es : Entries} :
    (Value.table es).everywhere p = true ↔
      p (.table es) = true ∧ ∀ e ∈ es, e.2.everywhere p = true := by
  rw [everywhere, Bool.and_eq_true, entriesEverywhere_eq_all, List.all_eq_true]

end

/-- A number that is not finite is no part of a portable value. -/
def isFiniteNumber : Value → Bool
  | .float x => x.isFinite
  | _ => true

/-- Nor is a date or a time. -/
def isUndated : Value → Bool
  | .date _ | .time _ | .moment _ => false
  | _ => true

mutual

/-- What is portable as it stands is not changed to be sent. -/
theorem portable_eq : ∀ v : Value, v.everywhere isFiniteNumber = true →
    v.everywhere isUndated = true → v.portable = v
  | .float x, hFinite, _ => if_pos hFinite
  | .list items, hFinite, hUndated => by
      rw [everywhere, Bool.and_eq_true] at hFinite hUndated
      rw [portable, portableItems_eq items hFinite.2 hUndated.2]
  | .table es, hFinite, hUndated => by
      rw [everywhere, Bool.and_eq_true] at hFinite hUndated
      rw [portable, portableEntries_eq es hFinite.2 hUndated.2]
  | .null, _, _ | .bool _, _, _ | .int _, _, _ | .text _, _, _ => rfl
  | .date _, _, hUndated | .time _, _, hUndated | .moment _, _, hUndated => by cases hUndated

theorem portableItems_eq : ∀ items : List Value, itemsEverywhere isFiniteNumber items = true →
    itemsEverywhere isUndated items = true → portableItems items = items
  | [], _, _ => rfl
  | v :: vs, hFinite, hUndated => by
      rw [itemsEverywhere, Bool.and_eq_true] at hFinite hUndated
      rw [portableItems, portable_eq v hFinite.1 hUndated.1,
        portableItems_eq vs hFinite.2 hUndated.2]

theorem portableEntries_eq : ∀ es : List (String × Value),
    entriesEverywhere isFiniteNumber es = true → entriesEverywhere isUndated es = true →
      portableEntries es = es
  | [], _, _ => rfl
  | (k, v) :: es, hFinite, hUndated => by
      rw [entriesEverywhere, Bool.and_eq_true] at hFinite hUndated
      rw [portableEntries, portable_eq v hFinite.1 hUndated.1,
        portableEntries_eq es hFinite.2 hUndated.2]

end

end Shorthand.Value
