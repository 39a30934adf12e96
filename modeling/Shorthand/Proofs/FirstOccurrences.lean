import Mathlib.Data.List.Basic
import Mathlib.Data.List.Induction

/-! Lists in which each element is kept at its first place only: the order in which names are
registered and in which references are told. -/

namespace Shorthand

variable {α : Type} [BEq α] [LawfulBEq α]

/-- An element at the end is kept if it has not come before. -/
theorem eraseDups_concat (l : List α) (a : α) :
    (l ++ [a]).eraseDups = if l.contains a then l.eraseDups else l.eraseDups ++ [a] := by
  have hLast : [a].removeAll l = if l.contains a then [] else [a] := by
    rw [List.removeAll, List.filter_singleton, List.elem_eq_contains]
    cases l.contains a <;> rfl
  rw [List.eraseDups_append, hLast]
  split <;> simp [List.eraseDups_cons]

theorem eraseDups_eq_nil_iff {l : List α} : l.eraseDups = [] ↔ l = [] := by
  simp only [List.eq_nil_iff_forall_not_mem, List.mem_eraseDups]

theorem nodup_eraseDups (l : List α) : l.eraseDups.Nodup := by
  induction l using List.reverseRecOn with
  | nil => exact List.nodup_nil
  | append_singleton l a ih =>
      rw [eraseDups_concat]
      split
      · exact ih
      · next hNew =>
          rw [List.contains_iff_mem, ← List.mem_eraseDups] at hNew
          exact (List.perm_append_singleton a _).nodup_iff.2 (List.nodup_cons.2 ⟨hNew, ih⟩)

/-- A list without repetition stays as it is. -/
theorem eraseDups_of_nodup {l : List α} (h : l.Nodup) : l.eraseDups = l := by
  induction l using List.reverseRecOn with
  | nil => rfl
  | append_singleton l a ih =>
      obtain ⟨hInit, _, hApart⟩ := List.nodup_append.1 h
      have hNew : ¬l.contains a = true := fun hMem =>
        hApart a (List.contains_iff_mem.1 hMem) a (List.mem_singleton_self a) rfl
      rw [eraseDups_concat, if_neg hNew, ih hInit]

/-- Telling elements by another name, each by one of its own, keeps the first places. -/
theorem eraseDups_map {β : Type} [BEq β] [LawfulBEq β] {f : α → β} (hInjective : Function.Injective f)
    (l : List α) : (l.map f).eraseDups = l.eraseDups.map f := by
  induction l using List.reverseRecOn with
  | nil => rfl
  | append_singleton l a ih =>
      have hContains : (l.map f).contains (f a) = l.contains a := by
        rw [Bool.eq_iff_iff, List.contains_iff_mem, List.contains_iff_mem,
          List.mem_map_of_injective hInjective]
      rw [List.map_append, List.map_singleton, eraseDups_concat, eraseDups_concat, hContains, ih]
      split <;> simp

/-- Repetitions within two parts of a list go either way. -/
theorem eraseDups_append_eraseDups (l l' : List α) :
    (l.eraseDups ++ l'.eraseDups).eraseDups = (l ++ l').eraseDups := by
  induction l' using List.reverseRecOn with
  | nil =>
      rw [List.eraseDups_nil, List.append_nil, List.append_nil]
      exact eraseDups_of_nodup (nodup_eraseDups l)
  | append_singleton l' a ih =>
      rw [← List.append_assoc, eraseDups_concat, eraseDups_concat]
      by_cases hSeen : l'.contains a = true
      · have hBefore : (l ++ l').contains a = true := by
          rw [List.contains_iff_mem] at hSeen ⊢
          exact List.mem_append_right l hSeen
        rw [if_pos hSeen, if_pos hBefore, ih]
      · have hSame : (l.eraseDups ++ l'.eraseDups).contains a = (l ++ l').contains a := by
          rw [Bool.eq_iff_iff, List.contains_iff_mem, List.contains_iff_mem, List.mem_append,
            List.mem_append, List.mem_eraseDups, List.mem_eraseDups]
        rw [if_neg hSeen, ← List.append_assoc, eraseDups_concat, hSame, ih]

end Shorthand
