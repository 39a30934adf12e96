import Shorthand.Proofs.Registry.History
import Shorthand.Proofs.Resolution.Pieces
import Shorthand.Proofs.Schema.Checks
import Shorthand.Proofs.Value.Literal

/-! Raw tables as entries. A table is not checked, so whatever its keys and values are it can be added
and resolved by, and no extra of it is lost; but two keys are not free. One is taken by the
construction of a definition, which fails on it, and the other by the record of the fields, which
swallows it. -/

namespace Shorthand

namespace Definition

variable {es : Entries}

/-- The record that a table becomes a definition with: a coerced field is a change of it. -/
def recordFor (es : Entries) : Except EntryError FieldRecord :=
  if needsText (es.get? "name") || needsText (es.get? "code") then
    (recordOf (es.get? recordKey)).extend
  else .ok (recordOf (es.get? recordKey))

theorem ofEntries_of_reservedKey (h : reservedKey ∈ es.keys) :
    ofEntries es = .error .reservedKey := by
  rw [ofEntries, if_pos (Entries.get?_isSome_iff.2 h)]
  rfl

theorem ofEntries_of_unreserved (h : reservedKey ∉ es.keys) :
    ofEntries es = (do
      let name ← fieldText (es.get? "name")
      let code ← fieldText (es.get? "code")
      (recordFor es).map fun record => ⟨name, code, extrasOf es, record⟩) := by
  rw [ofEntries, if_neg (Entries.get?_isSome_iff.not.2 h)]
  refine bind_congr fun name => bind_congr fun code => ?_
  rw [recordFor]
  split
  · rfl
  · rfl

/-- All that it takes for a table to become a definition, and all that becomes of it. -/
theorem ofEntries_eq_ok_iff {d : Definition} :
    ofEntries es = .ok d ↔
      reservedKey ∉ es.keys ∧ fieldText (es.get? "name") = .ok d.name ∧
        fieldText (es.get? "code") = .ok d.code ∧ recordFor es = .ok d.record ∧
        d.extras = extrasOf es := by
  by_cases hReserved : reservedKey ∈ es.keys
  · rw [ofEntries_of_reservedKey hReserved]
    exact ⟨fun h => (by cases h), fun h => (h.1 hReserved).elim⟩
  · rw [ofEntries_of_unreserved hReserved, bind_eq_ok_iff]
    constructor
    · rintro ⟨name, hName, h⟩
      obtain ⟨code, hCode, h⟩ := bind_eq_ok_iff.1 h
      obtain ⟨record, hRecord, rfl⟩ := map_eq_ok_iff.1 h
      exact ⟨hReserved, hName, hCode, hRecord, rfl⟩
    · rintro ⟨_, hName, hCode, hRecord, hExtras⟩
      refine ⟨d.name, hName, bind_eq_ok_iff.2 ⟨d.code, hCode, map_eq_ok_iff.2 ⟨d.record, hRecord, ?_⟩⟩⟩
      rw [← hExtras]

theorem exists_fieldText {v? : Option Value} (h : ∀ v ∈ v?, v.withinDigits = true) :
    ∃ s, fieldText v? = .ok s := by
  cases v? with
  | none => exact ⟨"", rfl⟩
  | some v =>
      obtain ⟨s, hText⟩ := Value.exists_asText? (h v rfl)
      cases v with
      | null => exact ⟨"", rfl⟩
      | _ => exact ⟨s, by rw [fieldText, hText]; simp⟩

theorem extrasOf_eq (h : recordKey ∉ es.keys) : extrasOf es = Schema.extras es := by
  refine List.filter_eq_self.2 fun e hMem => ?_
  have hEntry : e ∈ es := (Schema.mem_extras_iff.1 hMem).1.1
  have hKey : e.1 ≠ recordKey := fun hSame => h (hSame ▸ List.mem_map_of_mem hEntry)
  simpa using hKey

/-- A table without the two keys becomes a definition with a record of its own. -/
theorem ofEntries_eq_ok (hReserved : reservedKey ∉ es.keys)
    (hRecord : recordKey ∉ es.keys) {name code : String}
    (hName : fieldText (es.get? "name") = .ok name) (hCode : fieldText (es.get? "code") = .ok code) :
    ofEntries es = .ok ⟨name, code, Schema.extras es, .own⟩ := by
  refine ofEntries_eq_ok_iff.2 ⟨hReserved, hName, hCode, ?_, (extrasOf_eq hRecord).symm⟩
  rw [recordFor, Entries.get?_eq_none_iff.2 hRecord]
  split <;> rfl

end Definition

/-- A text can be resolved if every entry can be coerced. -/
theorem exists_resolve_iff {entries : List Entry} {text : String} {bounded : Bool} :
    (∃ done, resolve entries text bounded = .ok done) ↔ ∀ e ∈ entries, ∃ d, e.coerce = .ok d := by
  rw [← exists_forall₂_iff]
  constructor
  · rintro ⟨done, h⟩
    cases entries with
    | nil => exact ⟨[], .nil⟩
    | cons e entries =>
        obtain ⟨ds, hCoerced, _⟩ := map_eq_ok_iff.1 h
        exact ⟨ds, mapM_eq_ok_iff.1 hCoerced⟩
  · rintro ⟨ds, hCoerced⟩
    exact ⟨_, Resolution.resolve_of_coerced ds text bounded hCoerced⟩

namespace Registry

variable {r : Registry} {es : Entries}

/-- The table is stored, under the text of its name without one marker, with the text of its code and
with all its other entries. -/
def StoresWhole (r : Registry) (es : Entries) : Prop :=
  ∃ name code after event d,
    Definition.fieldText (es.get? "name") = .ok name ∧
      Definition.fieldText (es.get? "code") = .ok code ∧
      r.add (.raw (.table es)) = .ok (after, event) ∧ after.get? (stripMarker name) = some d ∧
      d.name = stripMarker name ∧ d.code = code ∧
      d.extras = es.filter fun e => e.1 ≠ "name" ∧ e.1 ≠ "code"

/-- Among whatever other entries, the table is never why a text cannot be resolved. -/
def NeverHinders (es : Entries) : Prop :=
  ∀ before after text bounded,
    (∃ done, resolve (before ++ .raw (.table es) :: after) text bounded = .ok done) ↔
      ∀ e ∈ before ++ after, ∃ d, e.coerce = .ok d

theorem extras_eq_filter : Schema.extras es = es.filter fun e => e.1 ≠ "name" ∧ e.1 ≠ "code" := by
  simp only [Schema.extras, Entries.without, List.filter_filter, Bool.decide_and, Bool.and_comm]

theorem storesWhole_of_ofEntries {name code : String}
    (hName : Definition.fieldText (es.get? "name") = .ok name)
    (hCode : Definition.fieldText (es.get? "code") = .ok code)
    (hDefinition : Definition.ofEntries es = .ok ⟨name, code, Schema.extras es, .own⟩) :
    r.StoresWhole es := by
  have hCoerce : (Entry.raw (.table es)).coerce = .ok ⟨name, code, Schema.extras es, .own⟩ :=
    hDefinition
  obtain ⟨event, hAdd⟩ := @add_of_ok r _ _ ((prepare_of_coerce hCoerce).trans (prepare_definition rfl))
  refine ⟨name, code, _, event, stripped ⟨name, code, Schema.extras es, .own⟩, hName, hCode, hAdd, ?_,
    rfl, rfl, extras_eq_filter⟩
  rw [get?_put, if_pos rfl]

/-- A table with one of the two keys is not stored, or not with all its entries. -/
theorem StoresWhole.keys (h : r.StoresWhole es) :
    Definition.reservedKey ∉ es.keys ∧ Definition.recordKey ∉ es.keys := by
  obtain ⟨name, code, after, event, d, hName, _, hAdd, hGet, _, _, hExtras⟩ := h
  obtain ⟨d', hCoerce, rfl⟩ := coerce_of_add hAdd
  obtain ⟨hReserved, hName', _, _, hKept⟩ := Definition.ofEntries_eq_ok_iff.1 hCoerce
  refine ⟨hReserved, fun hRecord => ?_⟩
  obtain rfl : name = d'.name := Except.ok.inj (hName.symm.trans hName')
  rw [get?_put, if_pos rfl] at hGet
  obtain rfl := Option.some.inj hGet
  obtain ⟨e, hMem, hKey⟩ := List.mem_map.1 hRecord
  have hExtra : e ∈ es.filter fun e => e.1 ≠ "name" ∧ e.1 ≠ "code" := by
    rw [List.mem_filter]
    exact ⟨hMem, by rw [hKey]; decide⟩
  rw [← hExtras] at hExtra
  change e ∈ d'.extras at hExtra
  rw [hKept, Definition.extrasOf, Entries.without, List.mem_filter] at hExtra
  simp [hKey] at hExtra

theorem neverHinders_of_coerce {d : Definition} (h : (Entry.raw (.table es)).coerce = .ok d) :
    NeverHinders es := by
  intro before after text bounded
  rw [exists_resolve_iff, List.forall_mem_append, List.forall_mem_append, List.forall_mem_cons]
  constructor
  · rintro ⟨hBefore, _, hAfter⟩
    exact ⟨hBefore, hAfter⟩
  · rintro ⟨hBefore, hAfter⟩
    exact ⟨hBefore, ⟨d, h⟩, hAfter⟩

/-- Of the tables whose integers are short enough, exactly those without the two keys are stored whole
by every registry and never keep a text from being resolved. -/
theorem storesWhole_iff (r : Registry) {es : Entries}
    (hDigits : (Value.table es).withinDigits = true) :
    r.StoresWhole es ∧ NeverHinders es ↔
      Definition.reservedKey ∉ es.keys ∧ Definition.recordKey ∉ es.keys := by
  refine ⟨fun h => h.1.keys, fun ⟨hReserved, hRecord⟩ => ?_⟩
  obtain ⟨name, hName⟩ := Definition.exists_fieldText fun _ (hGet : es.get? "name" = some _) =>
    Value.withinDigits_of_get? hDigits hGet
  obtain ⟨code, hCode⟩ := Definition.exists_fieldText fun _ (hGet : es.get? "code" = some _) =>
    Value.withinDigits_of_get? hDigits hGet
  have hDefinition := Definition.ofEntries_eq_ok hReserved hRecord hName hCode
  exact ⟨storesWhole_of_ofEntries hName hCode hDefinition, neverHinders_of_coerce hDefinition⟩

/-- A table with two markers in its name, with code that is a list, and with extras that are called
like parts of a definition, added where its name is known. -/
theorem storesWhole_iff_nested :
    let es : Entries :=
      [("self", .bool true), ("code", .list [.int (-12), .table [("k", .null)]]), ("extras", .null),
        ("name", .text "##a"), ("record", .text "own")]
    let r := (empty.addMany [.raw (.table [("name", .text "##a")])]).registry
    (Value.table es).withinDigits = true ∧ r.StoresWhole es ∧ NeverHinders es := by
  intro es r
  have hDigits : (Value.table es).withinDigits = true := by decide +kernel
  exact ⟨hDigits, (storesWhole_iff r hDigits).2 ⟨by decide, by decide⟩⟩

/-- What the two keys do: a table is refused, also when a text is resolved; an extra is lost; and a
marker cannot be taken away. -/
theorem add_of_taken_keys :
    let refused : Entries := [("name", .text "a"), ("cls", .int 1)]
    let swallowed : Entries := [("name", .text "b"), ("_fields_set", .null), ("owner", .text "me")]
    let unchangeable : Entries := [("name", .text "#c"), ("code", .text ""), ("_fields_set", .list [])]
    (∀ es ∈ [refused, swallowed, unchangeable],
        (Value.table es).withinDigits = true ∧ ¬empty.StoresWhole es) ∧
      empty.add (.raw (.table refused)) = .error .reservedKey ∧
      resolve [.raw (.table refused)] "#a" false = .error .reservedKey ∧
      (∃ after event, empty.add (.raw (.table swallowed)) = .ok (after, event) ∧
        after.get? "b" = some ⟨"b", "", [("owner", .text "me")], .own⟩) ∧
      empty.add (.raw (.table unchangeable)) = .error .recordNotExtensible := by
  intro refused swallowed unchangeable
  refine ⟨fun es hMem => ?_, rfl, rfl, ?_, ?_⟩
  · simp only [List.mem_cons, List.not_mem_nil, or_false] at hMem
    rcases hMem with rfl | rfl | rfl
    · exact ⟨by decide +kernel, fun h => h.keys.1 (by decide)⟩
    · exact ⟨by decide +kernel, fun h => h.keys.2 (by decide)⟩
    · exact ⟨by decide +kernel, fun h => h.keys.2 (by decide)⟩
  · unfold swallowed
    exact ⟨_, _, rfl, rfl⟩
  · unfold unchangeable
    exact add_of_error rfl

end Registry

end Shorthand
