import Shorthand.Proofs.Schema.Checks
import Shorthand.Proofs.Value.Parts

/-! What the faults of a refused value are about. Those of a list are those of its elements, seen from
outside, and each is about the same part of the list as it is of the element alone. -/

namespace Shorthand

namespace Value

theorem entriesQuotable_eq_all (es : Entries) :
    entriesQuotable es =
      es.all fun e => unquotedLead.toList.isPrefixOf e.1.toList || e.2.isQuotable := by
  induction es with
  | nil => rfl
  | cons e es ih => rw [entriesQuotable, List.all_cons, ih]

/-- A field whose key is quoted is quotable where the table is. -/
theorem isQuotable_of_get? {es : Entries} (h : (Value.table es).isQuotable = true) {key : String}
    (hKey : unquotedLead.toList.isPrefixOf key.toList = false) {v : Value}
    (hGet : es.get? key = some v) : v.isQuotable = true := by
  rw [isQuotable, entriesQuotable_eq_all, List.all_eq_true] at h
  simpa [hKey] using h _ (Entries.mem_of_get? hGet)

end Value

namespace Schema

variable {α β : Type} {d : Detail}

/-- All that a check finds wrong. -/
def faults : Checked α → List Detail
  | .ok _ => []
  | .error ds => ds

theorem faults_map (f : α → β) (c : Checked α) : faults (c.map f) = faults c := by
  cases c <;> rfl

theorem faults_both (a : Checked α) (b : Checked β) : faults (both a b) = faults a ++ faults b := by
  cases a <;> cases b <;> simp [both, faults]

theorem faults_inside (p : Place) (c : Checked α) :
    faults (inside p c) = (faults c).map (·.inside p) := by
  cases c <;> rfl

/-- What is made of a checked value adds no fault. -/
theorem faults_bind_of_ok {c : Checked α} {f : α → Checked β} (h : ∀ x, ∃ y, f x = .ok y) :
    faults (c >>= f) = faults c := by
  cases c with
  | error ds => rfl
  | ok x =>
      obtain ⟨y, hMade⟩ := h x
      change faults (f x) = []
      rw [hMade, faults]

/-- What is wrong with a list is what is wrong with its elements. -/
theorem mem_faults_each {check : Value → Checked α} {start : Nat} {items : List Value} :
    d ∈ faults (each check start items) ↔
      ∃ i v, items[i]? = some v ∧ ∃ e ∈ faults (check v), e.inside (.index (start + i)) = d := by
  induction items generalizing start with
  | nil => simp [each, faults]
  | cons v items ih =>
      rw [each, faults_map, faults_both, List.mem_append, faults_inside, List.mem_map, ih]
      constructor
      · rintro (h | ⟨i, w, hItem, h⟩)
        · exact ⟨0, v, rfl, h⟩
        · exact ⟨i + 1, w, hItem, by rwa [← Nat.add_assoc, Nat.add_right_comm]⟩
      · rintro ⟨_ | i, w, hItem, h⟩
        · cases hItem
          exact Or.inl h
        · exact Or.inr ⟨i, w, hItem, by rwa [Nat.add_right_comm, Nat.add_assoc]⟩

theorem mem_faults_field {es : Entries} {name : String} {default : Option α}
    {check : Value → Checked α} (h : d ∈ faults (field es name default check)) :
    (∃ v, es.get? name = some v ∧ ∃ e ∈ faults (check v), e.inside (.field name) = d) ∨
      d = ⟨.missing, [.field name]⟩ := by
  unfold field at h
  rw [faults_inside, List.mem_map] at h
  obtain ⟨e, hMem, rfl⟩ := h
  split at hMem
  · next v hGet => exact Or.inl ⟨v, hGet, e, hMem, rfl⟩
  · cases default with
    | some x => cases hMem
    | none =>
        obtain rfl := List.mem_singleton.1 hMem
        exact Or.inr rfl

/-- A text is wrong as a whole. -/
theorem mem_faults_boundedText {least most : Nat} {v : Value}
    (h : d ∈ faults (boundedText least most v)) : d.fault ≠ .missing ∧ d.place = [] := by
  cases v with
  | text s =>
      change d ∈ faults (if most < s.length then _ else if s.length < least then _ else _) at h
      split at h
      · obtain rfl := List.mem_singleton.1 h
        simp
      · split at h
        · obtain rfl := List.mem_singleton.1 h
          simp
        · cases h
  | _ =>
      obtain rfl := List.mem_singleton.1 h
      simp

/-- A part of an element is the same part of the list. -/
theorem subject_inside_index {items : List Value} {i : Nat} {v : Value} (hItem : items[i]? = some v)
    (h : d.fault = .missing → d.place ≠ []) :
    (d.inside (.index i)).subject (.list items) = d.subject v := by
  have hPart : ∀ way, partAt? (.index i :: way) (.list items) = partAt? way v := fun way => by
    rw [partAt?, hItem, Option.bind_some]
  rw [Detail.subject, Detail.subject, Detail.inside]
  by_cases hMissing : d.fault = .missing
  · rw [if_pos hMissing, if_pos hMissing, List.dropLast_cons_of_ne_nil (h hMissing), hPart]
  · rw [if_neg hMissing, if_neg hMissing, hPart]

end Schema

open Schema

namespace Submission

variable {otherwise : Fault} {v : Value} {d : Detail}

/-- A submission is refused for being no table, for a field that is missing, or for a field that is
no text of the right length. -/
theorem mem_faults_check (h : d ∈ faults (check otherwise v)) :
    d = ⟨otherwise, []⟩ ∨ ∃ es : Entries, v = .table es ∧ ∃ key ∈ ["name", "code"],
      d = ⟨.missing, [.field key]⟩ ∨
        ∃ w, es.get? key = some w ∧ d.fault ≠ .missing ∧ d.place = [.field key] := by
  have hField : ∀ {es : Entries} {key : String} {default : Option String} {least most : Nat},
      d ∈ faults (field es key default (boundedText least most)) →
        d = ⟨.missing, [.field key]⟩ ∨
          ∃ w, es.get? key = some w ∧ d.fault ≠ .missing ∧ d.place = [.field key] := by
    intro es key default least most h
    rcases mem_faults_field h with ⟨w, hGet, e, hMem, rfl⟩ | hMissing
    · obtain ⟨hFault, hPlace⟩ := mem_faults_boundedText hMem
      exact Or.inr ⟨w, hGet, hFault, by rw [Detail.inside, hPlace]⟩
    · exact Or.inl hMissing
  cases v with
  | table es =>
      have hBoth : faults (check otherwise (.table es)) =
          faults (field es "name" none (boundedText 1 maxName)) ++
            faults (field es "code" (some "") (boundedText 0 maxCode)) := by
        rw [← faults_both]
        exact faults_bind_of_ok fun _ => ⟨_, rfl⟩
      rw [hBoth, List.mem_append] at h
      rcases h with h | h
      · exact Or.inr ⟨es, rfl, "name", by simp, hField h⟩
      · exact Or.inr ⟨es, rfl, "code", by simp, hField h⟩
  | _ => exact Or.inl (List.mem_singleton.1 h)

/-- In a list an element is refused for the same parts of it as alone. -/
theorem subject_inside_of_mem_faults {items : List Value} {i : Nat} (hItem : items[i]? = some v)
    (hOtherwise : otherwise ≠ .missing) (h : d ∈ faults (check otherwise v)) :
    (d.inside (.index i)).subject (.list items) = d.subject v := by
  refine subject_inside_index hItem fun hMissing => ?_
  obtain rfl | ⟨_, _, _, _, rfl | ⟨_, _, hFault, _⟩⟩ := mem_faults_check h
  · exact (hOtherwise hMissing).elim
  · simp
  · exact (hFault hMissing).elim

/-- A submission is refused for itself or for one of its two fields. -/
theorem subject_cases (h : d ∈ faults (check otherwise v)) :
    d.subject v = v ∨
      ∃ es : Entries, v = .table es ∧ ∃ key ∈ ["name", "code"], es.get? key = some (d.subject v) := by
  obtain rfl | ⟨es, rfl, key, hKey, rfl | ⟨w, hGet, hFault, hPlace⟩⟩ := mem_faults_check h
  · simp [Detail.subject, partAt?]
  · simp [Detail.subject, partAt?]
  · refine Or.inr ⟨es, rfl, key, hKey, ?_⟩
    rw [hGet, Detail.subject, if_neg hFault, hPlace, partAt?, hGet]
    rfl

/-- A submission that can be quoted can be quoted in all that it is refused for. -/
theorem isQuotable_subject (hQuotable : v.isQuotable = true)
    (h : d ∈ faults (check otherwise v)) : (d.subject v).isQuotable = true := by
  obtain hSelf | ⟨es, rfl, key, hKey, hGet⟩ := subject_cases h
  · rwa [hSelf]
  · have hKeys : ∀ key ∈ ["name", "code"],
        Value.unquotedLead.toList.isPrefixOf key.toList = false := by decide +kernel
    exact Value.isQuotable_of_get? hQuotable (hKeys key hKey) hGet

/-- What holds of a submission and all its parts holds of what it is refused for. -/
theorem of_subject {p : Value → Bool} (hAll : v.everywhere p = true)
    (h : d ∈ faults (check otherwise v)) : p (d.subject v) = true := by
  obtain hSelf | ⟨es, rfl, key, _, hGet⟩ := subject_cases h
  · rw [hSelf]
    exact Value.self_of_everywhere hAll
  · have hParts := (Value.everywhere_table_iff.1 hAll).2
    exact Value.self_of_everywhere (hParts _ (Entries.mem_of_get? hGet))

end Submission

end Shorthand
