import Shorthand.Proofs.Success
import Shorthand.Proofs.Registry.Put

/-! A registry is the history of its additions. However the additions are grouped into calls, the
names stand in the order in which they were first added, and each name has the definition that was
added last. Calls that fail leave what they had stored before the entry that failed. -/

namespace Shorthand.Registry

/-- A call that adds to a registry. Giving entries to a new registry is a batch on the empty one. -/
inductive Addition where
  | single (e : Entry)
  | batch (es : List Entry)

/-- The entries that a call is given. -/
def Addition.entries : Addition → List Entry
  | .single e => [e]
  | .batch es => es

/-- What a call leads to. -/
def perform (r : Registry) : Addition → Additions
  | .single e =>
    match r.add e with
    | .ok (next, event) => ⟨next, [event], none⟩
    | .error err => ⟨r, [], some err⟩
  | .batch es => r.addMany es

/-- The registry after a run of calls, failed ones among them, and what was told meanwhile. -/
def performAll (r : Registry) : List Addition → Registry × List Event
  | [] => (r, [])
  | a :: calls =>
    let done := r.perform a
    let (last, events) := done.registry.performAll calls
    (last, done.events ++ events)

/-- The registries that some run of calls leads to, the first of them on the empty registry. -/
def Reachable (r : Registry) : Prop := ∃ calls, (empty.performAll calls).1 = r

/-- A definition under its name without one marker. -/
def stripped (d : Definition) : Definition := { d with name := stripMarker d.name }

/-- The last of the definitions whose name without one marker is `k`, under that name. -/
def last? (ds : List Definition) (k : String) : Option Definition :=
  (ds.reverse.find? fun d => stripMarker d.name = k).map fun d => { d with name := k }

/-- What is stored for entries, up to the first that fails. -/
def stored : List Entry → List (String × Definition)
  | [] => []
  | e :: es =>
    match prepare e with
    | .ok p => p :: stored es
    | .error _ => []

/-- What is stored for an entry is its definition without the marker. To take the marker away, the
record of the fields must be the definition's own. -/
theorem prepare_eq_ok {e : Entry} {p : String × Definition} (h : prepare e = .ok p) :
    ∃ d, e.coerce = .ok d ∧ p = (stripMarker d.name, stripped d) := by
  rw [prepare] at h
  cases hCoerce : e.coerce with
  | error err =>
      rw [hCoerce] at h
      cases h
  | ok d =>
      refine ⟨d, rfl, ?_⟩
      rw [hCoerce] at h
      change (if stripMarker d.name = d.name then _ else _) = _ at h
      split at h
      · next hSame =>
          cases h
          rw [stripped, hSame]
      · cases hRecord : d.record with
        | own =>
            simp only [Definition.rename, hRecord, FieldRecord.extend] at h
            cases h
            rw [stripped, hRecord]
        | supplied v =>
            cases v <;> simp only [Definition.rename, hRecord, FieldRecord.extend] at h <;> cases h

/-- What is stored for an entry is what is stored for the definition that it stands for. -/
theorem prepare_of_coerce {e : Entry} {d : Definition} (h : e.coerce = .ok d) :
    prepare e = prepare (.definition d) := by
  rw [prepare, h]
  rfl

/-- Changing the name of a definition with a record of its own never fails. -/
theorem prepare_definition {d : Definition} (h : d.record = .own) :
    prepare (.definition d) = .ok (stripMarker d.name, stripped d) := by
  have hRename : d.rename (stripMarker d.name) = .ok (stripped d) := by
    rw [Definition.rename, h, stripped, h]
    rfl
  change (if stripMarker d.name = d.name then _ else _) = _
  split
  · next hSame =>
      rw [stripped, hSame]
      rfl
  · rw [hRename]
    rfl

theorem isSome_last?_iff {ds : List Definition} {k : String} :
    (last? ds k).isSome = true ↔ k ∈ ds.map fun d => stripMarker d.name := by
  simp [last?]

/-- Of the definitions that are set without their markers, the last one of a name stays. -/
theorem get?_putAll_stripped (r : Registry) (ds : List Definition) (k : String) :
    (r.putAll (ds.map fun d => (stripMarker d.name, stripped d))).get? k =
      (last? ds k).or (r.get? k) := by
  rw [get?_putAll, ← List.map_reverse, List.find?_map, last?]
  change (((ds.reverse.find? fun d => stripMarker d.name = k).map _).map _).or _ = _
  cases hLast : ds.reverse.find? fun d => stripMarker d.name = k with
  | none => rfl
  | some d =>
      obtain rfl : stripMarker d.name = k := by simpa using List.find?_some hLast
      rfl

theorem exists_of_mem_stored {es : List Entry} {p : String × Definition} (h : p ∈ stored es) :
    ∃ e ∈ es, prepare e = .ok p := by
  induction es with
  | nil => cases h
  | cons e es ih =>
      rw [stored] at h
      split at h
      · next q hPrepare =>
          rcases List.mem_cons.1 h with rfl | h
          · exact ⟨e, List.mem_cons_self .., hPrepare⟩
          · obtain ⟨e', hMem, hStored⟩ := ih h
            exact ⟨e', List.mem_cons_of_mem _ hMem, hStored⟩
      · cases h

theorem name_of_mem_stored {es : List Entry} {p : String × Definition} (h : p ∈ stored es) :
    p.2.name = p.1 := by
  obtain ⟨e, _, hPrepare⟩ := exists_of_mem_stored h
  obtain ⟨d, _, rfl⟩ := prepare_eq_ok hPrepare
  rfl

/-! One call. -/

theorem add_of_ok {r : Registry} {e : Entry} {p : String × Definition} (h : prepare e = .ok p) :
    ∃ event, r.add e = .ok (r.put p.1 p.2, event) := by
  rw [add, h]
  exact ⟨_, rfl⟩

theorem add_of_error {r : Registry} {e : Entry} {err : EntryError} (h : prepare e = .error err) :
    r.add e = .error err := by
  rw [add, h]
  rfl

/-- An addition that succeeds sets the definition that the entry stands for. -/
theorem coerce_of_add {r after : Registry} {e : Entry} {event : Event}
    (h : r.add e = .ok (after, event)) :
    ∃ d, e.coerce = .ok d ∧ after = r.put (stripMarker d.name) (stripped d) := by
  obtain ⟨p, hPrepare, hResult⟩ := map_eq_ok_iff.1 h
  obtain ⟨d, hCoerce, rfl⟩ := prepare_eq_ok hPrepare
  cases hResult
  exact ⟨d, hCoerce, rfl⟩

/-- Adding many sets what is stored for them. -/
theorem addMany_registry (r : Registry) (es : List Entry) :
    (r.addMany es).registry = r.putAll (stored es) := by
  induction es generalizing r with
  | nil => rfl
  | cons e es ih =>
      rw [addMany, stored]
      cases hPrepare : prepare e with
      | error err =>
          rw [add_of_error hPrepare]
          rfl
      | ok p =>
          obtain ⟨event, hAdd⟩ := @add_of_ok r e p hPrepare
          rw [hAdd]
          exact ih (r.put p.1 p.2)

theorem Keyed.addMany {r : Registry} (h : r.Keyed) (es : List Entry) :
    (r.addMany es).registry.Keyed := by
  rw [addMany_registry]
  exact h.putAll fun _ hMem => name_of_mem_stored hMem

/-- A single addition is a batch of one. -/
theorem perform_eq_addMany (r : Registry) (a : Addition) : r.perform a = r.addMany a.entries := by
  cases a with
  | batch es => rfl
  | single e =>
      rw [perform, Addition.entries, addMany]
      cases r.add e <;> rfl

/-- Adding many does not fail if each entry can be stored. -/
theorem addMany_error {es : List Entry} (h : ∀ e ∈ es, ∃ p, prepare e = .ok p) (r : Registry) :
    (r.addMany es).error = none := by
  induction es generalizing r with
  | nil => rfl
  | cons e es ih =>
      obtain ⟨p, hPrepare⟩ := h e (List.mem_cons_self ..)
      obtain ⟨event, hAdd⟩ := @add_of_ok r e p hPrepare
      rw [addMany, hAdd]
      exact ih (fun e' hMem => h e' (List.mem_cons_of_mem _ hMem)) (r.put p.1 p.2)

/-- If adding many does not fail, each entry can be stored. -/
theorem exists_prepare_of_addMany {r : Registry} {es : List Entry}
    (h : (r.addMany es).error = none) : ∀ e ∈ es, ∃ p, prepare e = .ok p := by
  induction es generalizing r with
  | nil => exact fun _ hMem => by cases hMem
  | cons e es ih =>
      rw [addMany] at h
      cases hPrepare : prepare e with
      | error err =>
          rw [add_of_error hPrepare] at h
          cases h
      | ok p =>
          obtain ⟨event, hAdd⟩ := @add_of_ok r e p hPrepare
          rw [hAdd] at h
          exact List.forall_mem_cons.2 ⟨⟨p, hPrepare⟩, ih h⟩

theorem stored_append {es : List Entry} (h : ∀ e ∈ es, ∃ p, prepare e = .ok p) (fs : List Entry) :
    stored (es ++ fs) = stored es ++ stored fs := by
  induction es with
  | nil => rfl
  | cons e es ih =>
      obtain ⟨p, hPrepare⟩ := h e (List.mem_cons_self ..)
      rw [List.cons_append, stored, hPrepare, stored, hPrepare,
        ih fun e' hMem => h e' (List.mem_cons_of_mem _ hMem)]
      rfl

/-- Entries that can be stored are stored in order, each as it is coerced and without its marker. -/
theorem stored_eq_map {es : List Entry} {ds : List Definition}
    (hCoerced : List.Forall₂ (fun e d => e.coerce = .ok d) es ds)
    (hStored : ∀ e ∈ es, ∃ p, prepare e = .ok p) :
    stored es = ds.map fun d => (stripMarker d.name, stripped d) := by
  induction hCoerced with
  | nil => rfl
  | @cons e d es ds hHead hTail ih =>
      obtain ⟨p, hPrepare⟩ := hStored e (List.mem_cons_self ..)
      obtain ⟨d', hCoerce, rfl⟩ := prepare_eq_ok hPrepare
      rw [hHead] at hCoerce
      cases hCoerce
      rw [stored, hPrepare, List.map_cons, ih fun e' hMem => hStored e' (List.mem_cons_of_mem _ hMem)]

/-- Definitions with records of their own are added one after the other, and none of them fails. -/
theorem foldlM_add {ds : List Definition} (h : ∀ d ∈ ds, d.record = .own) (r : Registry) :
    ds.foldlM (fun r d => (r.add (.definition d)).map (·.1)) r =
      .ok (r.putAll (ds.map fun d => (stripMarker d.name, stripped d))) := by
  induction ds generalizing r with
  | nil => rfl
  | cons d ds ih =>
      obtain ⟨event, hAdd⟩ := @add_of_ok r _ _ (prepare_definition (h d (List.mem_cons_self ..)))
      rw [List.foldlM_cons, hAdd]
      exact ih (fun d' hMem => h d' (List.mem_cons_of_mem _ hMem)) _

/-- Adding definitions at once, if it does not fail, sets them without their markers. -/
theorem addMany_definitions_registry {ds : List Definition} {r : Registry}
    (h : (r.addMany (ds.map .definition)).error = none) :
    (r.addMany (ds.map .definition)).registry =
      r.putAll (ds.map fun d => (stripMarker d.name, stripped d)) := by
  have hCoerced : List.Forall₂ (fun e d => e.coerce = .ok d) (ds.map Entry.definition) ds :=
    List.forall₂_map_left_iff.2 (List.forall₂_same.2 fun _ _ => rfl)
  rw [addMany_registry, stored_eq_map hCoerced (exists_prepare_of_addMany h)]

/-- Definitions with records of their own are added at once without fail. -/
theorem addMany_definitions {ds : List Definition} (h : ∀ d ∈ ds, d.record = .own) (r : Registry) :
    (r.addMany (ds.map .definition)).error = none ∧
      (r.addMany (ds.map .definition)).registry =
        r.putAll (ds.map fun d => (stripMarker d.name, stripped d)) := by
  have hStored : ∀ e ∈ ds.map Entry.definition, ∃ p, prepare e = .ok p := by
    intro e hMem
    obtain ⟨d, hDefinition, rfl⟩ := List.mem_map.1 hMem
    exact ⟨_, prepare_definition (h d hDefinition)⟩
  have hError := addMany_error hStored r
  exact ⟨hError, addMany_definitions_registry hError⟩

/-! Runs of calls. -/

theorem performAll_registry (r : Registry) (calls : List Addition) :
    (r.performAll calls).1 = r.putAll (calls.flatMap fun a => stored a.entries) := by
  induction calls generalizing r with
  | nil => rfl
  | cons a calls ih =>
      rw [performAll, List.flatMap_cons, putAll_append]
      change ((r.perform a).registry.performAll calls).1 = _
      rw [ih, perform_eq_addMany, addMany_registry]

/-- However a registry came about, its definitions stand under their own names. -/
theorem Reachable.keyed {r : Registry} (h : r.Reachable) : r.Keyed := by
  obtain ⟨calls, rfl⟩ := h
  rw [performAll_registry]
  apply keyed_empty.putAll
  intro p hMem
  obtain ⟨a, _, hStored⟩ := List.mem_flatMap.1 hMem
  exact name_of_mem_stored hStored

/-- The grouping into calls does not matter if each entry can be stored. -/
theorem flatMap_stored {calls : List Addition}
    (h : ∀ e ∈ calls.flatMap Addition.entries, ∃ p, prepare e = .ok p) :
    (calls.flatMap fun a => stored a.entries) = stored (calls.flatMap Addition.entries) := by
  induction calls with
  | nil => rfl
  | cons a calls ih =>
      rw [List.flatMap_cons] at h
      rw [List.flatMap_cons, List.flatMap_cons,
        stored_append fun e hMem => h e (List.mem_append_left _ hMem),
        ih fun e hMem => h e (List.mem_append_right _ hMem)]

/-- The history of a registry: entries that can be coerced and stored are added, in calls of any
kind, to an empty registry. -/
theorem history_of_additions (calls : List Addition) {ds : List Definition}
    (hCoerced : List.Forall₂ (fun e d => e.coerce = .ok d) (calls.flatMap Addition.entries) ds)
    (hStored : ∀ e ∈ calls.flatMap Addition.entries, ∃ p, prepare e = .ok p) :
    let r := (empty.performAll calls).1
    (∀ a ∈ calls, ∀ before : Registry, (before.perform a).error = none) ∧
      r.names = (ds.map fun d => stripMarker d.name).eraseDups ∧
      (∀ k, r.get? k = (ds.reverse.find? fun d => stripMarker d.name = k).map
        fun d => { d with name := k }) ∧
      r.definitions.map some = r.names.map r.get? ∧
      r.definitions.map (·.name) = r.names ∧
      r.size = r.names.length ∧
      ∀ k, r.contains k = true ↔ k ∈ r.names := by
  intro r
  have hRun : r = empty.putAll (ds.map fun d => (stripMarker d.name, stripped d)) := by
    rw [← stored_eq_map hCoerced hStored, ← flatMap_stored hStored, ← performAll_registry]
  refine ⟨?_, ?_, ?_, r.map_get?_names.symm, ?_, ?_, r.contains_iff⟩
  · intro a hCall before
    rw [perform_eq_addMany]
    exact addMany_error (fun e hMem => hStored e (List.mem_flatMap.2 ⟨a, hCall, hMem⟩)) before
  · rw [hRun, names_putAll, List.map_map]
    rfl
  · intro k
    rw [hRun, get?_putAll, ← List.map_reverse, List.find?_map]
    change (((ds.reverse.find? fun d => stripMarker d.name = k).map _).map _).or none = _
    cases hLast : ds.reverse.find? fun d => stripMarker d.name = k with
    | none => rfl
    | some d =>
        obtain rfl : stripMarker d.name = k := by simpa using List.find?_some hLast
        rfl
  · exact Keyed.map_name (Reachable.keyed ⟨calls, rfl⟩)
  · exact (List.length_map ..).symm

/-- A seed and two calls; the second call overwrites the first name of the seed, and the last entry
keeps the second of its two markers. -/
theorem history_of_three_calls :
    let calls : List Addition :=
      [.batch [.raw (.table [("name", .text "#a"), ("code", .text "1")]),
          .raw (.table [("name", .int 7), ("owner", .null)])],
        .single (.definition ⟨"a", "2", [("tags", .list [])], .own⟩),
        .batch [.raw (.table [("code", .text "3"), ("name", .text "##a")])]]
    let r := (empty.performAll calls).1
    (∀ e ∈ calls.flatMap Addition.entries, ∃ p, prepare e = .ok p) ∧
      r.names = ["a", "7", "#a"] ∧
      r.get? "a" = some ⟨"a", "2", [("tags", .list [])], .own⟩ ∧
      r.get? "##a" = none := by
  intro calls r
  have hCoerced : List.Forall₂ (fun e d => e.coerce = .ok d) (calls.flatMap Addition.entries)
      [⟨"#a", "1", [], .own⟩, ⟨"7", "", [("owner", .null)], .own⟩,
        ⟨"a", "2", [("tags", .list [])], .own⟩, ⟨"##a", "3", [], .own⟩] :=
    .cons rfl (.cons rfl (.cons rfl (.cons rfl .nil)))
  have hStored : ∀ e ∈ calls.flatMap Addition.entries, ∃ p, prepare e = .ok p := by
    intro e hMem
    simp only [calls, List.flatMap_cons, List.flatMap_nil, Addition.entries, List.append_nil,
      List.cons_append, List.nil_append, List.mem_cons, List.not_mem_nil, or_false] at hMem
    rcases hMem with rfl | rfl | rfl | rfl <;> exact ⟨_, rfl⟩
  obtain ⟨_, hNames, hGet, _⟩ := history_of_additions calls hCoerced hStored
  refine ⟨hStored, hNames.trans ?_, (hGet "a").trans ?_, (hGet "##a").trans ?_⟩
  · decide +kernel
  · cbv
  · cbv

end Shorthand.Registry
