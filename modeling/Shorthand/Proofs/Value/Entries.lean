import Mathlib.Data.List.Induction
import Shorthand.Value

/-! Looking up entries, and setting them. -/

namespace Shorthand.Entries

variable {es : Entries} {key : String}

theorem mem_of_get? {v : Value} (h : es.get? key = some v) : (key, v) ∈ es := by
  obtain ⟨e, hFound, rfl⟩ := Option.map_eq_some_iff.1 h
  obtain rfl : e.1 = key := by simpa using List.find?_some hFound
  exact List.mem_of_find?_eq_some hFound

theorem get?_eq_none_iff : es.get? key = none ↔ key ∉ es.keys := by
  rw [get?, Option.map_eq_none_iff, List.find?_eq_none, keys, List.mem_map]
  constructor
  · rintro hNone ⟨e, hMem, hKey⟩
    exact hNone e hMem (by simpa using hKey)
  · intro hNotKey e hMem hKey
    exact hNotKey ⟨e, hMem, by simpa using hKey⟩

theorem get?_isSome_iff : (es.get? key).isSome = true ↔ key ∈ es.keys := by
  rw [Option.isSome_iff_ne_none, ne_eq, get?_eq_none_iff, Decidable.not_not]

/-! Setting an entry. -/

theorem get?_cons (e : String × Value) (es : Entries) (key : String) :
    get? (e :: es) key = if e.1 = key then some e.2 else es.get? key := by
  by_cases h : e.1 = key <;> simp [get?, h]

theorem get?_put (es : Entries) (key other : String) (v : Value) :
    (es.put key v).get? other = if key = other then some v else es.get? other := by
  induction es with
  | nil => exact get?_cons (key, v) [] other
  | cons e es ih =>
      rw [put]
      by_cases hPlace : e.1 = key
      · rw [if_pos hPlace, get?_cons, get?_cons, hPlace]
        split <;> rfl
      · rw [if_neg hPlace, get?_cons, ih, get?_cons]
        by_cases hOther : key = other
        · subst hOther
          rw [if_neg hPlace, if_pos rfl, if_pos rfl]
        · simp only [if_neg hOther]

/-- Setting a key leaves all other entries as they are, in their order. -/
theorem without_put (es : Entries) (key : String) (v : Value) :
    (es.put key v).without key = es.without key := by
  induction es with
  | nil => simp [put, without]
  | cons e es ih =>
      rw [put]
      split
      · next h => simp [without, h]
      · next h => simpa [without, h] using ih

theorem put_of_not_mem {v : Value} (h : key ∉ es.keys) : es.put key v = es ++ [(key, v)] := by
  induction es with
  | nil => rfl
  | cons e es ih =>
      rw [keys, List.map_cons, List.mem_cons, not_or] at h
      rw [put, if_neg (Ne.symm h.1), ih h.2, List.cons_append]

/-- Nothing gets into a table but what is set. -/
theorem mem_of_mem_put {e : String × Value} {v : Value} (h : e ∈ es.put key v) :
    e = (key, v) ∨ e ∈ es := by
  induction es with
  | nil => exact Or.inl (List.mem_singleton.1 h)
  | cons first es ih =>
      rw [put] at h
      split at h
      · exact (List.mem_cons.1 h).imp_right (List.mem_cons_of_mem _)
      · rcases List.mem_cons.1 h with rfl | h
        · exact Or.inr (List.mem_cons_self ..)
        · exact (ih h).imp_right (List.mem_cons_of_mem _)

theorem mem_of_mem_ofPairs {pairs : List (String × Value)} {e : String × Value}
    (h : e ∈ ofPairs pairs) : e ∈ pairs := by
  induction pairs using List.reverseRecOn with
  | nil => cases h
  | append_singleton pairs p ih =>
      rw [ofPairs, List.foldl_append] at h
      rw [List.mem_append, List.mem_singleton]
      exact (mem_of_mem_put h).symm.imp_left ih

/-- Pairs with different keys are the entries of a table as they are. -/
theorem ofPairs_eq {pairs : List (String × Value)} (h : (pairs.map (·.1)).Nodup) :
    ofPairs pairs = pairs := by
  induction pairs using List.reverseRecOn with
  | nil => rfl
  | append_singleton pairs p ih =>
      rw [List.map_append, List.map_singleton, List.nodup_append] at h
      have hNew : p.1 ∉ keys pairs := fun hMem => h.2.2 _ hMem _ (List.mem_singleton_self _) rfl
      rw [ofPairs, List.foldl_append]
      change (ofPairs pairs).put p.1 p.2 = _
      rw [ih h.1, put_of_not_mem hNew]

end Shorthand.Entries
