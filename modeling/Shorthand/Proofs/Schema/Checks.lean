import Shorthand.Proofs.Success
import Shorthand.Schema.Model

/-! When checks pass. Two checks side by side, and those of the elements of a list, go on behind a
fault to tell of all faults; they pass if each check does. Submissions that pass keep fields and
extras apart, so that turning one into a definition loses nothing. -/

namespace Shorthand

namespace Schema

variable {α β : Type}

theorem both_eq_ok_iff {a : Checked α} {b : Checked β} {x : α} {y : β} :
    both a b = .ok (x, y) ↔ a = .ok x ∧ b = .ok y := by
  cases a <;> cases b <;> simp [both]

theorem inside_eq_ok_iff {p : Place} {c : Checked α} {x : α} : inside p c = .ok x ↔ c = .ok x := by
  cases c <;> simp [inside, Except.mapError]

/-- Checks of all elements pass with what the elements, one by one, pass with. -/
theorem each_eq_ok_iff {check : Value → Checked α} {start : Nat} {items : List Value}
    {xs : List α} :
    each check start items = .ok xs ↔ List.Forall₂ (fun v x => check v = .ok x) items xs := by
  induction items generalizing start xs with
  | nil =>
      rw [List.forall₂_nil_left_iff]
      exact ⟨fun h => by cases h; rfl, fun h => by rw [h]; rfl⟩
  | cons v items ih =>
      rw [each, List.forall₂_cons_left_iff, map_eq_ok_iff]
      constructor
      · rintro ⟨⟨x, rest⟩, hBoth, rfl⟩
        obtain ⟨hHead, hTail⟩ := both_eq_ok_iff.1 hBoth
        exact ⟨x, rest, inside_eq_ok_iff.1 hHead, ih.1 hTail, rfl⟩
      · rintro ⟨x, rest, hHead, hTail, rfl⟩
        exact ⟨(x, rest), both_eq_ok_iff.2 ⟨inside_eq_ok_iff.2 hHead, ih.2 hTail⟩, rfl⟩

/-- A field passes with what it holds or, if it is missing, with its default. -/
theorem field_eq_ok_iff {es : Entries} {name : String} {default : Option α}
    {check : Value → Checked α} {x : α} :
    field es name default check = .ok x ↔
      (∃ v, es.get? name = some v ∧ check v = .ok x) ∨ es.get? name = none ∧ default = some x := by
  unfold field
  rw [inside_eq_ok_iff]
  cases es.get? name with
  | some v => simp
  | none => cases default <;> simp [fail]

theorem boundedText_eq_ok_iff {least most : Nat} {v : Value} {s : String} :
    boundedText least most v = .ok s ↔ v = .text s ∧ least ≤ s.length ∧ s.length ≤ most := by
  rw [boundedText, bind_eq_ok_iff]
  constructor
  · rintro ⟨t, hText, h⟩
    cases v <;> cases hText
    dsimp only at h
    split at h
    · cases h
    · split at h <;> cases h
      exact ⟨rfl, by omega, by omega⟩
  · rintro ⟨rfl, hLeast, hMost⟩
    refine ⟨s, rfl, ?_⟩
    rw [if_neg (Nat.not_lt.2 hMost), if_neg (Nat.not_lt.2 hLeast)]
    rfl

theorem mem_extras_iff {es : Entries} {e : String × Value} :
    e ∈ extras es ↔ (e ∈ es ∧ e.1 ≠ "name") ∧ e.1 ≠ "code" := by
  simp only [extras, Entries.without, List.mem_filter, decide_eq_true_eq]

/-- The extras of a table are what is left when the fields are taken away from it. -/
theorem extras_cons_fields (name code : Value) (es : Entries) :
    extras (("name", name) :: ("code", code) :: extras es) = extras es := by
  have hFields : ∀ rest, extras (("name", name) :: ("code", code) :: rest) = extras rest :=
    fun rest => by simp [extras, Entries.without]
  have hName : (extras es).without "name" = extras es :=
    List.filter_eq_self.2 fun e hMem => by simp [(mem_extras_iff.1 hMem).1.2]
  have hCode : (extras es).without "code" = extras es :=
    List.filter_eq_self.2 fun e hMem => by simp [(mem_extras_iff.1 hMem).2]
  rw [hFields, extras, hName, hCode]

end Schema

open Schema

namespace Submission

/-- A submission as a definition, with all that it holds. -/
def definition (s : Submission) : Definition := ⟨s.name, s.code, s.extras, .own⟩

theorem extras_of_check {otherwise : Fault} {v : Value} {s : Submission}
    (h : check otherwise v = .ok s) : ∃ es, s.extras = Schema.extras es := by
  obtain ⟨es, _, h⟩ := bind_eq_ok_iff.1 h
  obtain ⟨_, _, h⟩ := bind_eq_ok_iff.1 h
  cases h
  exact ⟨es, rfl⟩

/-- What a submission that passes is, and what it takes to pass: a table with a name of the right length,
and perhaps with code of the right length. -/
theorem check_eq_ok_iff {otherwise : Fault} {v : Value} {s : Submission} :
    check otherwise v = .ok s ↔
      ∃ es : Entries, v = .table es ∧
        (es.get? "name" = some (.text s.name) ∧ 1 ≤ s.name.length ∧ s.name.length ≤ maxName) ∧
        (es.get? "code" = some (.text s.code) ∧ s.code.length ≤ maxCode ∨
          es.get? "code" = none ∧ s.code = "") ∧
        s.extras = Schema.extras es := by
  have hFields : ∀ es : Entries, check otherwise (.table es) = .ok s ↔
      both (field es "name" none (boundedText 1 maxName))
        (field es "code" (some "") (boundedText 0 maxCode)) = .ok (s.name, s.code) ∧
        s.extras = Schema.extras es := by
    intro es
    change (both _ _ >>= _) = _ ↔ _
    rw [bind_eq_ok_iff]
    constructor
    · rintro ⟨⟨name, code⟩, hBoth, h⟩
      cases h
      exact ⟨hBoth, rfl⟩
    · rintro ⟨hBoth, hExtras⟩
      exact ⟨_, hBoth, by rw [← hExtras]; rfl⟩
  cases v with
  | table es =>
      rw [hFields, both_eq_ok_iff, field_eq_ok_iff, field_eq_ok_iff, and_assoc]
      simp only [boundedText_eq_ok_iff]
      constructor
      · rintro ⟨⟨v, hName, rfl, hLength⟩ | ⟨_, h⟩, hCode, hExtras⟩
        · refine ⟨es, rfl, ⟨hName, hLength⟩, ?_, hExtras⟩
          obtain ⟨v, hCode, rfl, _, hMost⟩ | ⟨hNone, hDefault⟩ := hCode
          · exact Or.inl ⟨hCode, hMost⟩
          · exact Or.inr ⟨hNone, (Option.some.inj hDefault).symm⟩
        · cases h
      · rintro ⟨_, hSame, ⟨hName, hLength⟩, hCode, hExtras⟩
        cases hSame
        refine ⟨Or.inl ⟨_, hName, rfl, hLength⟩, ?_, hExtras⟩
        rcases hCode with ⟨hCode, hMost⟩ | ⟨hNone, hEmpty⟩
        · exact Or.inl ⟨_, hCode, rfl, Nat.zero_le _, hMost⟩
        · exact Or.inr ⟨hNone, by rw [hEmpty]⟩
  | _ =>
      refine iff_of_false (fun h => ?_) fun h => ?_
      · cases h
      · obtain ⟨_, hSame, _⟩ := h
        cases hSame

/-- A submission that passed becomes a definition as it is. -/
theorem toDefinition_of_check {otherwise : Fault} {v : Value} {s : Submission}
    (h : check otherwise v = .ok s) : s.toDefinition = .ok s.definition := by
  obtain ⟨es, hExtras⟩ := extras_of_check h
  have hSame : Schema.extras s.toEntries = s.extras := by
    rw [toEntries, hExtras, extras_cons_fields]
  rw [definition, ← hSame]
  rfl

end Submission

end Shorthand
