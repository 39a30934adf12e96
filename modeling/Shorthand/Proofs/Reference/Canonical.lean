import Mathlib.Data.List.Perm.Basic
import Shorthand.Proofs.FirstOccurrences
import Shorthand.Proofs.Reference.Longest

/-! The names of a pattern in the order in which they are tried depend on which names are known and on
nothing else: neither their order nor how often each is given matters, and the empty name does not
count. -/

namespace Shorthand.Reference

theorem charsPrecede_antisymm {a b : List Char} (hab : charsPrecede a b = true)
    (hba : charsPrecede b a = true) : a = b := by
  induction a generalizing b with
  | nil =>
      cases b with
      | nil => rfl
      | cons y t => simp [charsPrecede] at hba
  | cons x s ih =>
      cases b with
      | nil => simp [charsPrecede] at hab
      | cons y t =>
          simp only [charsPrecede, Bool.or_eq_true, Bool.and_eq_true, decide_eq_true_eq] at hab hba
          rcases hab with hxy | ⟨rfl, hst⟩
          · rcases hba with hyx | ⟨rfl, _⟩
            · exact (lt_asymm hxy hyx).elim
            · exact (lt_irrefl _ hxy).elim
          · rcases hba with hxx | ⟨_, hts⟩
            · exact (lt_irrefl _ hxx).elim
            · rw [ih hst hts]

theorem precedes_antisymm {a b : List Char} (hab : precedes a b = true) (hba : precedes b a = true) :
    a = b := by
  rw [precedes_iff] at hab hba
  rcases hab with hLess | ⟨hLength, hChars⟩
  · rcases hba with hGreater | ⟨hLength, _⟩ <;> omega
  · rcases hba with hLess | ⟨_, hBack⟩
    · omega
    · exact charsPrecede_antisymm hChars hBack

theorem nodup_canonical (names : List String) : (canonical names).Nodup :=
  (List.mergeSort_perm _ _).nodup_iff.2 (nodup_eraseDups _)

/-- The same names are tried in the same order. -/
theorem canonical_congr {names names' : List String}
    (h : ∀ n, n ≠ "" → (n ∈ names ↔ n ∈ names')) : canonical names = canonical names' := by
  have hMem : ∀ n, n ∈ canonical names ↔ n ∈ canonical names' := by
    intro n
    rw [mem_canonical_iff, mem_canonical_iff]
    refine and_congr_right fun hNonempty => h _ ?_
    simpa using hNonempty
  have hPerm : (canonical names).Perm (canonical names') :=
    (List.perm_ext_iff_of_nodup (nodup_canonical _) (nodup_canonical _)).2 hMem
  refine hPerm.eq_of_pairwise (fun a b _ _ => precedes_antisymm) ?_ ?_ <;>
    exact List.pairwise_mergeSort precedes_trans precedes_total _

/-- The same names make the same pattern. -/
theorem Pattern.build_congr {names names' : List String}
    (h : ∀ n, n ≠ "" → (n ∈ names ↔ n ∈ names')) (bounded : Bool) :
    Pattern.build names bounded = Pattern.build names' bounded := by
  rw [Pattern.build, Pattern.build, canonical_congr h]

end Shorthand.Reference
