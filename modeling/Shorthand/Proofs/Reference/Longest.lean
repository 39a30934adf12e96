import Mathlib.Data.Char
import Mathlib.Data.List.Basic
import Shorthand.Reference

/-! Which name is meant where a reference begins. The names of a pattern are tried in a fixed order,
and the first that fits is taken; since longer names come first, that is the longest name that
stands there. The boundary rule may turn down the longest name and leave a shorter one. -/

namespace Shorthand.Reference

/-- A name stands at a place where the text goes on with it and, under the boundary rule, no word
character follows. The empty name stands nowhere. -/
def StandsAt (bounded : Bool) (s n : List Char) : Prop :=
  n ≠ [] ∧ n <+: s ∧ (bounded = true → ∀ c ∈ (s.drop n.length).head?, Text.isWord c = false)

/-- No other known name that stands at the place is longer. -/
structure IsLongest (names : List String) (bounded : Bool) (s n : List Char) : Prop where
  known : String.ofList n ∈ names
  stands : StandsAt bounded s n
  longest : ∀ m, String.ofList m ∈ names → StandsAt bounded s m → m.length ≤ n.length

theorem endsBefore_iff {bounded : Bool} {rest : List Char} :
    endsBefore bounded rest = true ↔
      (bounded = true → ∀ c ∈ rest.head?, Text.isWord c = false) := by
  cases bounded <;> cases rest <;> simp [endsBefore]

instance (bounded : Bool) (s n : List Char) : Decidable (StandsAt bounded s n) :=
  decidable_of_iff (n ≠ [] ∧ n <+: s ∧ endsBefore bounded (s.drop n.length) = true)
    (by rw [endsBefore_iff, StandsAt])

theorem standsAt_append_iff {bounded : Bool} {n rest : List Char} :
    StandsAt bounded (n ++ rest) n ↔ n ≠ [] ∧ endsBefore bounded rest = true := by
  rw [endsBefore_iff]
  simp [StandsAt]

/-- Two names of one length that stand at a place are the same. -/
theorem StandsAt.eq_of_length {bounded : Bool} {s m n : List Char} (hm : StandsAt bounded s m)
    (hn : StandsAt bounded s n) (hLength : m.length = n.length) : m = n :=
  (List.prefix_of_prefix_length_le hm.2.1 hn.2.1 (Nat.le_of_eq hLength)).eq_of_length hLength

theorem IsLongest.unique {names : List String} {bounded : Bool} {s m n : List Char}
    (hm : IsLongest names bounded s m) (hn : IsLongest names bounded s n) : m = n :=
  hm.stands.eq_of_length hn.stands
    (Nat.le_antisymm (hn.longest m hm.known hm.stands) (hm.longest n hn.known hn.stands))

/-! The order in which names are tried. -/

theorem charsPrecede_total (a b : List Char) :
    charsPrecede a b = true ∨ charsPrecede b a = true := by
  induction a generalizing b with
  | nil => exact Or.inl (by simp [charsPrecede])
  | cons x s ih =>
      cases b with
      | nil => exact Or.inr (by simp [charsPrecede])
      | cons y t =>
          rcases lt_trichotomy x y with hLess | rfl | hGreater
          · exact Or.inl (by simp [charsPrecede, hLess])
          · simpa [charsPrecede] using ih t
          · exact Or.inr (by simp [charsPrecede, hGreater])

theorem charsPrecede_trans {a b c : List Char} (hab : charsPrecede a b = true)
    (hbc : charsPrecede b c = true) : charsPrecede a c = true := by
  induction a generalizing b c with
  | nil => simp [charsPrecede]
  | cons x s ih =>
      cases b with
      | nil => simp [charsPrecede] at hab
      | cons y t =>
          cases c with
          | nil => simp [charsPrecede] at hbc
          | cons z u =>
              simp only [charsPrecede, Bool.or_eq_true, Bool.and_eq_true, decide_eq_true_eq] at *
              rcases hab with hxy | ⟨rfl, hst⟩
              · rcases hbc with hyz | ⟨rfl, _⟩
                · exact Or.inl (Char.lt_trans hxy hyz)
                · exact Or.inl hxy
              · rcases hbc with hyz | ⟨rfl, htu⟩
                · exact Or.inl hyz
                · exact Or.inr ⟨rfl, ih hst htu⟩

theorem precedes_iff {a b : List Char} :
    precedes a b = true ↔
      b.length < a.length ∨ (a.length = b.length ∧ charsPrecede a b = true) := by
  simp [precedes]

theorem precedes_total (a b : List Char) : (precedes a b || precedes b a) = true := by
  rw [Bool.or_eq_true, precedes_iff, precedes_iff]
  rcases lt_trichotomy a.length b.length with hLess | hEq | hGreater
  · exact Or.inr (Or.inl hLess)
  · rcases charsPrecede_total a b with h | h
    · exact Or.inl (Or.inr ⟨hEq, h⟩)
    · exact Or.inr (Or.inr ⟨hEq.symm, h⟩)
  · exact Or.inl (Or.inl hGreater)

theorem precedes_trans (a b c : List Char) (hab : precedes a b = true)
    (hbc : precedes b c = true) : precedes a c = true := by
  rw [precedes_iff] at *
  rcases hab with hab | ⟨hab, hChars⟩
  · exact Or.inl (by omega)
  · rcases hbc with hbc | ⟨hbc, hMore⟩
    · exact Or.inl (by omega)
    · exact Or.inr ⟨hab.trans hbc, charsPrecede_trans hChars hMore⟩

/-- The names that are tried are the known ones but for the empty name. -/
theorem mem_canonical_iff {names : List String} {n : List Char} :
    n ∈ canonical names ↔ n ≠ [] ∧ String.ofList n ∈ names := by
  simp only [canonical, List.mem_mergeSort, List.mem_eraseDups, List.mem_filter, List.mem_map,
    decide_eq_true_eq]
  constructor
  · rintro ⟨⟨name, hMem, rfl⟩, hNonempty⟩
    exact ⟨hNonempty, by simpa using hMem⟩
  · rintro ⟨hNonempty, hMem⟩
    exact ⟨⟨String.ofList n, hMem, by simp⟩, hNonempty⟩

/-- No name is tried before a longer one. -/
theorem canonical_descending (names : List String) :
    (canonical names).Pairwise fun a b => b.length ≤ a.length := by
  have hSorted := List.pairwise_mergeSort precedes_trans precedes_total
    ((names.map String.toList).filter (· ≠ [])).eraseDups
  refine hSorted.imp fun {a b} h => ?_
  rcases precedes_iff.1 h with hLess | ⟨hEq, _⟩ <;> omega

/-- The first of the names in their order that stands at a place is the longest one. -/
theorem find?_canonical_eq_some_iff {names : List String} {bounded : Bool} {s n : List Char} :
    (canonical names).find? (fun m => StandsAt bounded s m) = some n ↔
      IsLongest names bounded s n := by
  have hFound : ∀ {m}, (canonical names).find? (fun m => StandsAt bounded s m) = some m →
      IsLongest names bounded s m := by
    intro m h
    obtain ⟨hStands, before, after, hSplit, hBefore⟩ := List.find?_eq_some_iff_append.1 h
    have hDescending := canonical_descending names
    rw [hSplit, List.pairwise_append, List.pairwise_cons] at hDescending
    refine ⟨(mem_canonical_iff.1 (List.mem_of_find?_eq_some h)).2, by simpa using hStands, ?_⟩
    intro other hKnown hOther
    have hMem := mem_canonical_iff.2 ⟨hOther.1, hKnown⟩
    rw [hSplit, List.mem_append, List.mem_cons] at hMem
    rcases hMem with hMem | rfl | hMem
    · simpa [hOther] using hBefore other hMem
    · exact Nat.le_refl _
    · exact hDescending.2.1.1 other hMem
  refine ⟨hFound, fun h => ?_⟩
  cases hResult : (canonical names).find? (fun m => StandsAt bounded s m) with
  | none =>
      have hNone := List.find?_eq_none.1 hResult n (mem_canonical_iff.2 ⟨h.stands.1, h.known⟩)
      simp [h.stands] at hNone
  | some m => rw [(hFound hResult).unique h]

namespace Pattern

theorem pick_eq_find? {bounded : Bool} {names : List (List Char)} {s : List Char}
    (hNames : ∀ n ∈ names, n ≠ []) :
    pick bounded names s =
      (names.find? fun n => StandsAt bounded s n).map fun n => (n, s.drop n.length) := by
  induction names with
  | nil => rfl
  | cons n names ih =>
      have hRest := ih fun m hm => hNames m (List.mem_cons_of_mem _ hm)
      rw [pick, List.find?_cons]
      cases hDrop : Text.dropLead? n s with
      | none =>
          have hNot : ¬StandsAt bounded s n := by
            rintro ⟨_, ⟨rest, hLead⟩, _⟩
            rw [Text.dropLead?_eq_some_iff.2 hLead.symm] at hDrop
            cases hDrop
          simp [hNot, hRest]
      | some rest =>
          obtain rfl := Text.dropLead?_eq_some_iff.1 hDrop
          have hStands : StandsAt bounded (n ++ rest) n ↔ n ≠ [] ∧ endsBefore bounded rest = true :=
            standsAt_append_iff
          cases hEnds : endsBefore bounded rest with
          | false => simp [hStands, hEnds, hRest]
          | true => simp [hStands, hEnds, hNames n (List.mem_cons_self ..)]

/-- A pattern finds a reference where the marker stands before a name, and it finds the longest. -/
theorem referenceAt?_build_iff {names : List String} {bounded : Bool} {c : Char}
    {s n after : List Char} :
    (build names bounded).referenceAt? (c :: s) = some (n, after) ↔
      c = marker ∧ IsLongest names bounded s n ∧ after = s.drop n.length := by
  have hNames : ∀ m ∈ canonical names, m ≠ [] := fun m hm => (mem_canonical_iff.1 hm).1
  have hFlag : pick (bounded && !(canonical names).isEmpty) (canonical names) s =
      pick bounded (canonical names) s := by
    cases canonical names with
    | nil => rfl
    | cons m rest => simp
  simp only [referenceAt?, build, hFlag, pick_eq_find? hNames]
  by_cases hMarker : c = marker
  · rw [if_pos hMarker, Option.map_eq_some_iff]
    simp only [find?_canonical_eq_some_iff, Prod.mk.injEq]
    constructor
    · rintro ⟨m, hLongest, rfl, rfl⟩
      exact ⟨hMarker, hLongest, rfl⟩
    · rintro ⟨_, hLongest, rfl⟩
      exact ⟨n, hLongest, rfl, rfl⟩
  · simp [hMarker]

theorem referenceAt?_build_eq_none_iff {names : List String} {bounded : Bool} {c : Char}
    {s : List Char} :
    (build names bounded).referenceAt? (c :: s) = none ↔
      (c = marker → ∀ n, ¬IsLongest names bounded s n) := by
  rw [Option.eq_none_iff_forall_ne_some]
  constructor
  · intro hNone hMarker n hLongest
    exact hNone (n, s.drop n.length) (referenceAt?_build_iff.2 ⟨hMarker, hLongest, rfl⟩)
  · rintro hNone ⟨n, after⟩ hFound
    obtain ⟨hMarker, hLongest, _⟩ := referenceAt?_build_iff.1 hFound
    exact hNone hMarker n hLongest

end Pattern

end Shorthand.Reference
