import Mathlib.Data.List.Forall2
import Shorthand.Reading

/-! When computations that can fail succeed: a chain of them if each link does, and going through a
list if all elements do. -/

namespace Shorthand

variable {ε α β : Type}

theorem mapError_eq_ok_iff {δ : Type} {x : Except ε α} {f : ε → δ} {a : α} :
    x.mapError f = .ok a ↔ x = .ok a := by
  cases x <;> simp [Except.mapError]

/-- Going through a list succeeds with what its elements, one by one, succeed with. -/
theorem mapM_eq_ok_iff {f : α → Except ε β} {l : List α} {bs : List β} :
    l.mapM f = .ok bs ↔ List.Forall₂ (fun a b => f a = .ok b) l bs := by
  induction l generalizing bs with
  | nil =>
      rw [List.forall₂_nil_left_iff]
      exact ⟨fun h => by cases h; rfl, fun h => by rw [h]; rfl⟩
  | cons a l ih =>
      rw [List.mapM_cons, List.forall₂_cons_left_iff, bind_eq_ok_iff]
      constructor
      · rintro ⟨b, hHead, h⟩
        obtain ⟨rest, hTail, hSame⟩ := bind_eq_ok_iff.1 h
        cases hSame
        exact ⟨b, rest, hHead, ih.1 hTail, rfl⟩
      · rintro ⟨b, rest, hHead, hTail, rfl⟩
        exact ⟨b, hHead, bind_eq_ok_iff.2 ⟨rest, ih.2 hTail, rfl⟩⟩

/-- Each element has a result if results can be chosen for all of them at once. -/
theorem exists_forall₂_iff {R : α → β → Prop} {l : List α} :
    (∃ bs, List.Forall₂ R l bs) ↔ ∀ a ∈ l, ∃ b, R a b := by
  induction l with
  | nil => simp
  | cons a l ih =>
      rw [List.forall_mem_cons, ← ih]
      constructor
      · rintro ⟨_, hAll⟩
        cases hAll with
        | cons hHead hTail => exact ⟨⟨_, hHead⟩, _, hTail⟩
      · rintro ⟨⟨b, hHead⟩, bs, hTail⟩
        exact ⟨b :: bs, .cons hHead hTail⟩

/-- A property of all elements is one of all that they are related to. -/
theorem forall_mem_iff_of_forall₂ {R : α → β → Prop} {P : α → Prop} {Q : β → Prop} {l : List α}
    {bs : List β} (h : List.Forall₂ R l bs) (hSame : ∀ {a b}, R a b → (P a ↔ Q b)) :
    (∀ a ∈ l, P a) ↔ ∀ b ∈ bs, Q b := by
  induction h with
  | nil => simp
  | cons hHead _ ih => rw [List.forall_mem_cons, List.forall_mem_cons, hSame hHead, ih]

/-- Every result comes of an element. -/
theorem exists_of_mem_right {R : α → β → Prop} {l : List α} {bs : List β}
    (h : List.Forall₂ R l bs) {b : β} (hMem : b ∈ bs) : ∃ a ∈ l, R a b := by
  induction h with
  | nil => cases hMem
  | cons hHead _ ih =>
      rcases List.mem_cons.1 hMem with rfl | hMem
      · exact ⟨_, List.mem_cons_self .., hHead⟩
      · obtain ⟨a, hElement, hRelated⟩ := ih hMem
        exact ⟨a, List.mem_cons_of_mem _ hElement, hRelated⟩

end Shorthand
