import Shorthand.Proofs.FirstOccurrences
import Shorthand.Registry

/-! What setting one definition does to a registry, as seen through its names and its look-ups. The
name of a definition is kept twice, as the key and in the definition; `Keyed` says that the two are
the same. -/

namespace Shorthand.Registry

/-- Every definition is stored under its own name. -/
def Keyed (r : Registry) : Prop := ∀ e ∈ r.table, e.2.name = e.1

theorem keyed_empty : Keyed empty := fun _ h => by cases h

/-- Sets definitions one after the other. -/
def putAll (r : Registry) (ps : List (String × Definition)) : Registry :=
  ps.foldl (fun r p => r.put p.1 p.2) r

theorem names_putIn (k : String) (d : Definition) (es : List (String × Definition)) :
    (putIn k d es).map (·.1) =
      if (es.map (·.1)).contains k then es.map (·.1) else es.map (·.1) ++ [k] := by
  induction es with
  | nil => rfl
  | cons e es ih =>
      rw [putIn]
      by_cases h : e.1 = k
      · simp [h]
      · have hNotHead : (k == e.1) = false := by simp [Ne.symm h]
        rw [if_neg h, List.map_cons, ih, List.map_cons, List.contains_cons, hNotHead, Bool.false_or]
        split <;> rfl

theorem find?_putIn (k j : String) (d : Definition) (es : List (String × Definition)) :
    (putIn k d es).find? (·.1 = j) = if k = j then some (k, d) else es.find? (·.1 = j) := by
  induction es with
  | nil => by_cases h : k = j <;> simp [putIn, h]
  | cons e es ih =>
      rw [putIn]
      by_cases hPlace : e.1 = k
      · rw [if_pos hPlace, List.find?_cons, List.find?_cons]
        by_cases h : k = j <;> simp [hPlace, h]
      · rw [if_neg hPlace, List.find?_cons, ih, List.find?_cons]
        by_cases h : k = j
        · subst h
          simp [hPlace]
        · simp [h]

theorem mem_putIn {k : String} {d : Definition} {es : List (String × Definition)}
    {e : String × Definition} (h : e ∈ putIn k d es) : e = (k, d) ∨ e ∈ es := by
  induction es with
  | nil => exact Or.inl (List.mem_singleton.1 h)
  | cons first rest ih =>
      rw [putIn] at h
      split at h
      · exact (List.mem_cons.1 h).imp_right (List.mem_cons_of_mem _)
      · rcases List.mem_cons.1 h with rfl | h
        · exact Or.inr (List.mem_cons_self ..)
        · exact (ih h).imp_right (List.mem_cons_of_mem _)

/-- Setting a name leaves all others as they are, in their order. -/
theorem others_putIn (k : String) (d : Definition) (es : List (String × Definition)) :
    (putIn k d es).filter (·.1 ≠ k) = es.filter (·.1 ≠ k) := by
  induction es with
  | nil => simp [putIn]
  | cons e es ih =>
      rw [putIn]
      split
      · next h => simp [h]
      · next h => rw [List.filter_cons, List.filter_cons, ih]

/-- A known name keeps its place and a new one comes last. -/
theorem names_put (r : Registry) (k : String) (d : Definition) :
    (r.put k d).names = if r.names.contains k then r.names else r.names ++ [k] :=
  names_putIn k d r.table

theorem names_put_of_mem {r : Registry} {k : String} (h : k ∈ r.names) (d : Definition) :
    (r.put k d).names = r.names := by
  rw [names_put, if_pos (List.contains_iff_mem.2 h)]

theorem names_put_of_not_mem {r : Registry} {k : String} (h : k ∉ r.names) (d : Definition) :
    (r.put k d).names = r.names ++ [k] := by
  rw [names_put, if_neg (mt List.contains_iff_mem.1 h)]

theorem get?_put (r : Registry) (k j : String) (d : Definition) :
    (r.put k d).get? j = if k = j then some d else r.get? j := by
  rw [get?, put, find?_putIn]
  split <;> rfl

theorem Keyed.put {r : Registry} (h : r.Keyed) {k : String} {d : Definition} (hName : d.name = k) :
    (r.put k d).Keyed := by
  intro e hMem
  rcases mem_putIn hMem with rfl | hMem
  · exact hName
  · exact h e hMem

theorem putAll_concat (r : Registry) (ps : List (String × Definition)) (p : String × Definition) :
    r.putAll (ps ++ [p]) = (r.putAll ps).put p.1 p.2 := by
  rw [putAll, List.foldl_append]
  rfl

theorem putAll_append (r : Registry) (ps qs : List (String × Definition)) :
    r.putAll (ps ++ qs) = (r.putAll ps).putAll qs :=
  List.foldl_append ..

/-- The names stand in the order in which they first came. -/
theorem names_putAll (r : Registry) (ps : List (String × Definition)) :
    (r.putAll ps).names = (r.names ++ ps.map (·.1)).eraseDups := by
  induction ps using List.reverseRecOn with
  | nil =>
      rw [List.map_nil, List.append_nil]
      exact (eraseDups_of_nodup r.distinct).symm
  | append_singleton ps p ih =>
      have hContains : (r.putAll ps).names.contains p.1 = (r.names ++ ps.map (·.1)).contains p.1 := by
        rw [Bool.eq_iff_iff, List.contains_iff_mem, List.contains_iff_mem, ih, List.mem_eraseDups]
      rw [putAll_concat, names_put, hContains, ih, List.map_append, List.map_singleton,
        ← List.append_assoc, eraseDups_concat]

/-- The definition of a name is the last one that was set, or else the one from before. -/
theorem get?_putAll (r : Registry) (ps : List (String × Definition)) (k : String) :
    (r.putAll ps).get? k = ((ps.reverse.find? (·.1 = k)).map (·.2)).or (r.get? k) := by
  induction ps using List.reverseRecOn with
  | nil => rfl
  | append_singleton ps p ih =>
      rw [putAll_concat, get?_put, ih, List.reverse_append, List.reverse_singleton,
        List.singleton_append, List.find?_cons]
      by_cases h : p.1 = k <;> simp [h]

/-- Nothing gets into a registry but what is set. -/
theorem mem_putAll {r : Registry} {ps : List (String × Definition)} {e : String × Definition}
    (h : e ∈ (r.putAll ps).table) : e ∈ ps ∨ e ∈ r.table := by
  induction ps using List.reverseRecOn with
  | nil => exact Or.inr h
  | append_singleton ps p ih =>
      rw [putAll_concat] at h
      rcases mem_putIn h with rfl | h
      · exact Or.inl (List.mem_append_right ps (List.mem_singleton_self _))
      · exact (ih h).imp_left (List.mem_append_left _)

theorem Keyed.putAll {r : Registry} (h : r.Keyed) {ps : List (String × Definition)}
    (hNames : ∀ p ∈ ps, p.2.name = p.1) : (r.putAll ps).Keyed := by
  intro e hMem
  rcases mem_putAll hMem with hMem | hMem
  · exact hNames e hMem
  · exact h e hMem

theorem putIn_of_not_mem {k : String} {d : Definition} {es : List (String × Definition)}
    (h : k ∉ es.map (·.1)) : putIn k d es = es ++ [(k, d)] := by
  induction es with
  | nil => rfl
  | cons e es ih =>
      rw [List.map_cons, List.mem_cons, not_or] at h
      rw [putIn, if_neg (Ne.symm h.1), ih h.2, List.cons_append]

/-- Definitions under different names are kept as they are set. -/
theorem table_putAll {ps : List (String × Definition)} (h : (ps.map (·.1)).Nodup) :
    (empty.putAll ps).table = ps := by
  induction ps using List.reverseRecOn with
  | nil => rfl
  | append_singleton ps p ih =>
      rw [List.map_append, List.map_singleton, List.nodup_append] at h
      have hNew : p.1 ∉ ps.map (·.1) := fun hMem =>
        h.2.2 _ hMem _ (List.mem_singleton_self _) rfl
      rw [putAll_concat]
      change putIn p.1 p.2 (empty.putAll ps).table = _
      rw [ih h.1, putIn_of_not_mem hNew]

/-! The views of a registry agree. -/

theorem contains_iff (r : Registry) (k : String) : r.contains k = true ↔ k ∈ r.names := by
  simp [contains, names]

theorem size_eq_length_names (r : Registry) : r.size = r.names.length :=
  (List.length_map ..).symm

/-- A name leads to the definition beside it, as no other entry has the name. -/
theorem get?_eq_some_of_mem {r : Registry} {e : String × Definition} (h : e ∈ r.table) :
    r.get? e.1 = some e.2 := by
  have hFind : ∀ {es : List (String × Definition)}, (es.map (·.1)).Nodup → e ∈ es →
      es.find? (·.1 = e.1) = some e := by
    intro es hDistinct hMem
    induction es with
    | nil => cases hMem
    | cons first rest ih =>
        rw [List.map_cons, List.nodup_cons] at hDistinct
        rw [List.find?_cons]
        rcases List.mem_cons.1 hMem with rfl | hMem
        · simp
        · have hOther : first.1 ≠ e.1 := fun hEq =>
            hDistinct.1 (hEq ▸ List.mem_map_of_mem hMem)
          simpa [hOther] using ih hDistinct.2 hMem
  rw [get?, hFind r.distinct h]
  rfl

theorem get?_isSome_iff (r : Registry) (k : String) : (r.get? k).isSome = true ↔ k ∈ r.names := by
  simp [get?, names]

/-- The definitions are those that the names lead to, in order. -/
theorem map_get?_names (r : Registry) : r.names.map r.get? = r.definitions.map some := by
  rw [names, definitions, List.map_map, List.map_map]
  exact List.map_congr_left fun e hMem => get?_eq_some_of_mem hMem

theorem Keyed.map_name {r : Registry} (h : r.Keyed) : r.definitions.map (·.name) = r.names := by
  rw [names, definitions, List.map_map]
  exact List.map_congr_left h

/-- The definition of a name is the only one of that name. -/
theorem Keyed.filter_name {r : Registry} (h : r.Keyed) {k : String} {d : Definition}
    (hGet : r.get? k = some d) : r.definitions.filter (·.name = k) = [d] := by
  obtain ⟨e, hFind, rfl⟩ := Option.map_eq_some_iff.1 hGet
  obtain rfl : e.1 = k := by simpa using List.find?_some hFind
  have hOnly : ∀ {es : List (String × Definition)}, (es.map (·.1)).Nodup → e ∈ es →
      es.filter (·.1 = e.1) = [e] := by
    intro es hDistinct hMem
    induction es with
    | nil => cases hMem
    | cons first rest ih =>
        rw [List.map_cons, List.nodup_cons] at hDistinct
        rcases List.mem_cons.1 hMem with rfl | hMem
        · have hNone : rest.filter (·.1 = e.1) = [] := by
            rw [List.filter_eq_nil_iff]
            intro e' hMem' hSame
            have hKey : e'.1 = e.1 := by simpa using hSame
            exact hDistinct.1 (hKey ▸ List.mem_map_of_mem hMem')
          rw [List.filter_cons_of_pos (by simp), hNone]
        · have hOther : first.1 ≠ e.1 := fun hSame =>
            hDistinct.1 (hSame ▸ List.mem_map_of_mem hMem)
          rw [List.filter_cons_of_neg (by simpa using hOther), ih hDistinct.2 hMem]
  have hTable : r.table.filter (fun e' => e'.2.name = e.1) = r.table.filter (·.1 = e.1) :=
    List.filter_congr fun e' hMem => by rw [h e' hMem]
  rw [definitions, List.filter_map]
  change (r.table.filter fun e' => decide (e'.2.name = e.1)).map (·.2) = [e.2]
  rw [hTable, hOnly r.distinct (List.mem_of_find?_eq_some hFind), List.map_singleton]

end Shorthand.Registry
