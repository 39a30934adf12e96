import Shorthand.Proofs.Registry.RawTable
import Shorthand.Proofs.Registry.Session

/-! Coercion made once and for all. An entry is taken as a draft, whose fields are whatever was given
and whose record is the one it has been made with. Settling a draft gives a text to each field that is
none, all in one change, and the change has to extend the record; a draft that needs no change is left
alone, so what was settled is settled already. The record goes along with the definition, so it does not
matter to a later change, such as taking the marker away, when the entry was coerced. -/

namespace Shorthand

/-- A definition before its fields are texts. -/
structure Draft where
  name? : Option Value
  code? : Option Value
  extras : Entries
  record : FieldRecord

namespace Draft

/-- A definition as a draft. -/
def ofDefinition (d : Definition) : Draft :=
  ⟨some (.text d.name), some (.text d.code), d.extras, d.record⟩

/-- The draft that a table stands for. -/
def ofEntries (es : Entries) : Except EntryError Draft :=
  if (es.get? Definition.reservedKey).isSome then .error .reservedKey
  else .ok ⟨es.get? "name", es.get? "code", Definition.extrasOf es,
    Definition.recordOf (es.get? Definition.recordKey)⟩

/-- The draft that an entry stands for. -/
def ofEntry : Entry → Except EntryError Draft
  | .definition d => .ok (ofDefinition d)
  | .raw v => Entry.tableOf v >>= ofEntries

/-- The text that a field has to be changed to, if it is none. -/
def change (field : String) (v? : Option Value) : Except EntryError (List (String × String)) :=
  if Definition.needsText v? then (Definition.fieldText v?).map fun s => [(field, s)] else .ok []

/-- The fields that have to be changed, with their texts. -/
def changes (x : Draft) : Except EntryError (List (String × String)) := do
  let name ← change "name" x.name?
  let code ← change "code" x.code?
  pure (name ++ code)

/-- A field after changes. -/
def changed (texts : List (String × String)) (field : String) (v? : Option Value) : Option Value :=
  ((texts.lookup field).map .text).or v?

/-- Makes the changes that a draft needs. Without any, the draft stays the very same. -/
def settle (x : Draft) : Except EntryError Draft := do
  let texts ← x.changes
  if texts.isEmpty then pure x
  else
    let record ← x.record.extend
    pure { x with
      name? := changed texts "name" x.name?
      code? := changed texts "code" x.code?
      record }

theorem change_of_text (field s : String) : change field (some (.text s)) = .ok [] := rfl

theorem change_of_needsText (field : String) {v? : Option Value}
    (h : Definition.needsText v? = true) :
    change field v? = (Definition.fieldText v?).map fun s => [(field, s)] := if_pos h

theorem text_or_needsText (v? : Option Value) :
    (∃ s, v? = some (.text s)) ∨ Definition.needsText v? = true := by
  cases v? with
  | none => exact Or.inr rfl
  | some v =>
      cases v with
      | text s => exact Or.inl ⟨s, rfl⟩
      | _ => exact Or.inr rfl

/-- A definition needs no change. -/
theorem changes_ofDefinition (d : Definition) : (ofDefinition d).changes = .ok [] := rfl

theorem settle_ofDefinition (d : Definition) :
    (ofDefinition d).settle = .ok (ofDefinition d) := rfl

/-- Coercing a table is settling its draft. -/
theorem settle_ofEntries (es : Entries) :
    (ofEntries es >>= settle) = (Definition.ofEntries es).map ofDefinition := by
  by_cases hReserved : Definition.reservedKey ∈ es.keys
  · rw [ofEntries, if_pos (Entries.get?_isSome_iff.2 hReserved),
      Definition.ofEntries_of_reservedKey hReserved]
    rfl
  rw [ofEntries, if_neg (Entries.get?_isSome_iff.not.2 hReserved),
    Definition.ofEntries_of_unreserved hReserved, Definition.recordFor]
  generalize Definition.recordOf (es.get? Definition.recordKey) = record
  generalize es.get? "name" = name?
  generalize es.get? "code" = code?
  change settle _ = _
  rw [settle, changes]
  dsimp only
  obtain ⟨name, rfl⟩ | hName := text_or_needsText name?
  · obtain ⟨code, rfl⟩ | hCode := text_or_needsText code?
    · rfl
    · rw [change_of_needsText _ hCode, change_of_text, hCode]
      cases Definition.fieldText code? with
      | error e => rfl
      | ok code => cases record.extend <;> rfl
  · rw [change_of_needsText _ hName, hName]
    cases Definition.fieldText name? with
    | error e => rfl
    | ok name =>
        obtain ⟨code, rfl⟩ | hCode := text_or_needsText code?
        · cases record.extend <;> rfl
        · rw [change_of_needsText _ hCode]
          cases Definition.fieldText code? with
          | error e => rfl
          | ok code => cases record.extend <;> rfl

/-- Coercing an entry is settling its draft. -/
theorem settle_ofEntry (e : Entry) : (ofEntry e >>= settle) = e.coerce.map ofDefinition := by
  cases e with
  | definition d => exact settle_ofDefinition d
  | raw v =>
      rw [ofEntry, Entry.coerce, bind_assoc]
      cases Entry.tableOf v with
      | error e => rfl
      | ok es => exact settle_ofEntries es

theorem lookup_of_change {field other : String} {v? : Option Value} {texts : List (String × String)}
    (h : change field v? = .ok texts) (hKept : field = other → ∃ s, v? = some (.text s)) :
    texts.lookup other = none := by
  by_cases hField : field = other
  · obtain ⟨s, rfl⟩ := hKept hField
    cases h
    rfl
  · obtain ⟨s, rfl⟩ | hNeeds := text_or_needsText v?
    · cases h
      rfl
    · rw [change_of_needsText _ hNeeds] at h
      obtain ⟨s, _, rfl⟩ := map_eq_ok_iff.1 h
      have hOther : (other == field) = false := by simpa using Ne.symm hField
      rw [List.lookup_cons, hOther]
      rfl

/-- A field that is a text already is in no change. -/
theorem lookup_of_changes {x : Draft} {texts : List (String × String)} (h : x.changes = .ok texts) :
    (∀ s, x.name? = some (.text s) → texts.lookup "name" = none) ∧
      ∀ s, x.code? = some (.text s) → texts.lookup "code" = none := by
  obtain ⟨names, hName, h⟩ := bind_eq_ok_iff.1 h
  obtain ⟨codes, hCode, h⟩ := bind_eq_ok_iff.1 h
  obtain rfl : names ++ codes = texts := Except.ok.inj h
  simp only [List.lookup_append, Option.or_eq_none_iff]
  constructor
  · intro s hText
    exact ⟨lookup_of_change hName fun _ => ⟨s, hText⟩,
      lookup_of_change hCode fun hSame => absurd hSame (by decide)⟩
  · intro s hText
    exact ⟨lookup_of_change hName fun hSame => absurd hSame (by decide),
      lookup_of_change hCode fun _ => ⟨s, hText⟩⟩

/-- What settling makes of the two fields, whether it changes any or none. -/
theorem exists_changes_of_settle {x y : Draft} (h : x.settle = .ok y) :
    ∃ texts, x.changes = .ok texts ∧ y.name? = changed texts "name" x.name? ∧
      y.code? = changed texts "code" x.code? := by
  obtain ⟨texts, hChanges, h⟩ := bind_eq_ok_iff.1 h
  refine ⟨texts, hChanges, ?_⟩
  split at h
  · next hNone =>
      cases List.isEmpty_iff.1 hNone
      cases h
      exact ⟨rfl, rfl⟩
  · obtain ⟨record, _, h⟩ := bind_eq_ok_iff.1 h
    cases h
    exact ⟨rfl, rfl⟩

/-- Fields that are texts stay as they are. -/
theorem text_of_settle {x : Draft} {d : Definition} (h : x.settle = .ok (ofDefinition d)) :
    (∀ s, x.name? = some (.text s) → d.name = s) ∧
      ∀ s, x.code? = some (.text s) → d.code = s := by
  obtain ⟨texts, hChanges, hName, hCode⟩ := exists_changes_of_settle h
  obtain ⟨hNameKept, hCodeKept⟩ := lookup_of_changes hChanges
  constructor
  · intro s hText
    rw [changed, hNameKept s hText, hText] at hName
    cases hName
    rfl
  · intro s hText
    rw [changed, hCodeKept s hText, hText] at hCode
    cases hCode
    rfl

end Draft

/-- What an entry is coerced to is its draft with all changes made. -/
theorem Entry.coerce_eq_ok_iff {e : Entry} {d : Definition} :
    e.coerce = .ok d ↔
      ∃ x, Draft.ofEntry e = .ok x ∧ x.settle = .ok (Draft.ofDefinition d) := by
  rw [← bind_eq_ok_iff, Draft.settle_ofEntry, map_eq_ok_iff]
  constructor
  · intro h
    exact ⟨d, h, rfl⟩
  · rintro ⟨d', h, hSame⟩
    cases d
    cases d'
    cases hSame
    exact h

/-- Entries that are coerced to the same resolve a text to the same. -/
theorem resolve_congr_coerce {entries entries' : List Entry}
    (h : List.Forall₂ (fun e e' => e.coerce = e'.coerce) entries entries') (text : String)
    (bounded : Bool) : resolve entries text bounded = resolve entries' text bounded := by
  have hMapped : entries.mapM Entry.coerce = entries'.mapM Entry.coerce := by
    induction h with
    | nil => rfl
    | cons hHead _ ih => rw [List.mapM_cons, List.mapM_cons, hHead, ih]
  have hEmpty : entries.isEmpty = entries'.isEmpty := by
    cases h <;> rfl
  rw [resolve, resolve, hMapped, hEmpty]

/-- The definition that an entry is coerced to keeps the fields that are texts, needs no further change,
and stands in for the entry: adding it does the same to registry and journal, or fails the same, and a
text is resolved to the same, with the same to tell, whichever of the two is among the entries. -/
theorem Entry.coerced_stands_in {e : Entry} {d : Definition} (h : e.coerce = .ok d) :
    (∃ x, Draft.ofEntry e = .ok x ∧ x.settle = .ok (Draft.ofDefinition d) ∧
        (∀ s, x.name? = some (.text s) → d.name = s) ∧ ∀ s, x.code? = some (.text s) → d.code = s) ∧
      (Entry.definition d).coerce = .ok d ∧ (Draft.ofDefinition d).changes = .ok [] ∧
      (∀ r : Registry, r.add e = r.add (.definition d)) ∧
      (∀ s : Registry.Session, Registry.Work.add e s = Registry.Work.add (.definition d) s) ∧
      ∀ entries entries' text bounded,
        List.Forall₂ (fun x y => y = x ∨ x = e ∧ y = .definition d) entries entries' →
          resolve entries text bounded = resolve entries' text bounded := by
  have hAdd : ∀ r : Registry, r.add e = r.add (.definition d) := by
    intro r
    rw [Registry.add, Registry.add, Registry.prepare_of_coerce h]
  refine ⟨?_, rfl, Draft.changes_ofDefinition d, hAdd, fun s => ?_,
    fun entries entries' text bounded hReplaced => resolve_congr_coerce (hReplaced.imp ?_) text bounded⟩
  · obtain ⟨x, hDraft, hSettled⟩ := Entry.coerce_eq_ok_iff.1 h
    exact ⟨x, hDraft, hSettled, Draft.text_of_settle hSettled⟩
  · rw [Registry.Work.add_eq, Registry.Work.add_eq, hAdd]
  · rintro x y (rfl | ⟨rfl, rfl⟩)
    · rfl
    · exact h

/-- A list of pairs with a record of its own, which keeps the marker from being taken away. The other
definition of the name has a number for code, and comes too late to count. -/
theorem Entry.coerced_stands_in_unchangeable :
    let e : Entry := .raw (.list [.list [.text "name", .text "#c"], .list [.text "code", .text "1"],
      .list [.text "_fields_set", .list []], .list [.text "n", .int 2]])
    let d : Definition := ⟨"#c", "1", [("n", .int 2)], .supplied (.list [])⟩
    let other : Entry := .raw (.table [("name", .text "#c"), ("code", .int 7)])
    e.coerce = .ok d ∧ (Entry.definition d).coerce = .ok d ∧
      (∀ r : Registry, r.add (.definition d) = .error .recordNotExtensible) ∧
      resolve [e, other, e] "##c" true = resolve [.definition d, other, e] "##c" true := by
  intro e d other
  have hCoerce : e.coerce = .ok d := rfl
  obtain ⟨_, hSelf, _, hAdd, _, hResolve⟩ := Entry.coerced_stands_in hCoerce
  refine ⟨hCoerce, hSelf, fun r => ?_, hResolve _ _ _ _ ?_⟩
  · rw [← hAdd]
    exact Registry.add_of_error rfl
  · exact .cons (Or.inr ⟨rfl, rfl⟩) (.cons (Or.inl rfl) (.cons (Or.inl rfl) .nil))

end Shorthand
