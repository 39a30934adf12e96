import Mathlib.Data.List.Nodup
import Mathlib.Tactic.TFAE
import Shorthand.Proofs.Reference.Admissible
import Shorthand.Proofs.Reference.Canonical

/-! Two requests for a pattern, one after the other, are answered with one and the same pattern exactly
if nothing that is done with it could tell the two apart. The memo looks for a pattern of the same
names in the order in which they are tried, so how the names were given plays no part; and any two
patterns that differ find something else in some text. That patterns are the same is told by their
numbers, of which no two patterns share one in any run of requests. -/

namespace Shorthand.Reference

variable {names names' : List String} {bounded bounded' : Bool}

/-- Without names the boundary rule plays no part. -/
theorem Pattern.build_of_empty (h : canonical names = []) :
    build names bounded = Made.unnamed.pattern := by
  rw [build, h, List.isEmpty_nil, Bool.not_true, Bool.and_false]
  rfl

/-! What is kept. -/

namespace Memo

variable (memo : Memo)

theorem request_of_empty (h : (Pattern.build names bounded).names = []) :
    memo.request names bounded = (.unnamed, memo) := by
  rw [request, if_pos (List.isEmpty_iff.2 h)]

section

variable (h : (Pattern.build names bounded).names ≠ [])
include h

theorem request_of_kept {made : Made}
    (hKept : memo.kept.find? (·.pattern = Pattern.build names bounded) = some made) :
    memo.request names bounded = (made, memo.use made) := by
  rw [request, if_neg fun hEmpty => h (List.isEmpty_iff.1 hEmpty), hKept]

theorem request_of_not_kept
    (hKept : memo.kept.find? (·.pattern = Pattern.build names bounded) = none) :
    let made : Made := ⟨Pattern.build names bounded, memo.count + 1⟩
    memo.request names bounded = (made, { memo.use made with count := memo.count + 1 }) := by
  rw [request, if_neg fun hEmpty => h (List.isEmpty_iff.1 hEmpty), hKept]

/-- A pattern that was asked for is of the names that were given, and it is the first one kept. -/
theorem request_of_nonempty :
    (memo.request names bounded).1.pattern = Pattern.build names bounded ∧
      (memo.request names bounded).2.kept.head? = some (memo.request names bounded).1 := by
  cases hKept : memo.kept.find? (·.pattern = Pattern.build names bounded) with
  | none =>
      rw [request_of_not_kept memo h hKept]
      exact ⟨rfl, rfl⟩
  | some made =>
      rw [request_of_kept memo h hKept]
      exact ⟨by simpa using List.find?_some hKept, rfl⟩

end

theorem pattern_request : (memo.request names bounded).1.pattern = Pattern.build names bounded := by
  by_cases h : (Pattern.build names bounded).names = []
  · rw [request_of_empty memo h, Pattern.build_of_empty h]
  · exact (request_of_nonempty memo h).1

/-- Of two requests, the second is answered as the first if both are for one pattern: the first one is
kept, whether it was made or found, and the second finds it. -/
theorem request_request_iff :
    (memo.request names bounded).1 =
        ((memo.request names bounded).2.request names' bounded').1 ↔
      Pattern.build names bounded = Pattern.build names' bounded' := by
  constructor
  · intro hSame
    have hPattern := congrArg Made.pattern hSame
    rwa [pattern_request, pattern_request] at hPattern
  · intro hBuild
    by_cases h : (Pattern.build names bounded).names = []
    · rw [request_of_empty memo h, request_of_empty memo (hBuild ▸ h)]
    · obtain ⟨hPattern, hFirst⟩ := request_of_nonempty memo h
      obtain ⟨rest, hKept⟩ := List.head?_eq_some_iff.1 hFirst
      have hFound : (memo.request names bounded).2.kept.find?
          (·.pattern = Pattern.build names' bounded') = some (memo.request names bounded).1 := by
        rw [hKept, List.find?_cons_of_pos]
        rw [decide_eq_true_eq, hPattern, hBuild]
      rw [request_of_kept _ (hBuild ▸ h) hFound]

/-! A pattern and its number. -/

/-- What holds of a memo and of all patterns that were made, those among them that are no longer kept:
none has the number of another, and not too many are kept. -/
structure Sound (past : List Made) (memo : Memo) : Prop where
  unnamed : .unnamed ∈ past
  made : memo.kept ⊆ past
  issued : ∀ m ∈ past, m.number ≤ memo.count
  distinct : (past.map (·.number)).Nodup
  few : memo.kept.length ≤ capacity

theorem sound_empty : Sound [.unnamed] empty where
  unnamed := List.mem_singleton_self _
  made := List.nil_subset _
  issued := by
    rintro m hMem
    obtain rfl := List.mem_singleton.1 hMem
    exact Nat.le_refl 0
  distinct := List.nodup_singleton _
  few := Nat.zero_le _

variable {memo} {past : List Made}

theorem kept_use_subset (made : Made) : (memo.use made).kept ⊆ made :: memo.kept := by
  intro m hMem
  rcases List.mem_cons.1 (List.mem_of_mem_take hMem) with rfl | hRest
  · exact List.mem_cons_self ..
  · exact List.mem_cons_of_mem _ (List.mem_of_mem_erase hRest)

theorem Sound.use (h : Sound past memo) {made : Made} (hMade : made ∈ past) :
    Sound past (memo.use made) where
  unnamed := h.unnamed
  made := fun m hMem => by
    rcases List.mem_cons.1 (kept_use_subset made hMem) with rfl | hBefore
    · exact hMade
    · exact h.made hBefore
  issued := h.issued
  distinct := h.distinct
  few := List.length_take_le _ _

/-- A pattern that is made is not mistaken for one that was made before. -/
theorem Sound.make (h : Sound past memo) (p : Pattern) :
    let made : Made := ⟨p, memo.count + 1⟩
    Sound (made :: past) { memo with count := memo.count + 1 } where
  unnamed := List.mem_cons_of_mem _ h.unnamed
  made := List.Subset.trans h.made (List.subset_cons_self _ _)
  issued := by
    rw [List.forall_mem_cons]
    exact ⟨Nat.le_refl _, fun m hMem => Nat.le_succ_of_le (h.issued m hMem)⟩
  distinct := by
    rw [List.map_cons, List.nodup_cons]
    refine ⟨fun hTaken => ?_, h.distinct⟩
    obtain ⟨m, hMem, hNumber⟩ := List.mem_map.1 hTaken
    exact Nat.not_succ_le_self _ (hNumber ▸ h.issued m hMem)
  few := h.few

/-- A request is answered by a pattern that was made before, or by one that is made for it. -/
theorem Sound.request (h : Sound past memo) (names : List String) (bounded : Bool) :
    ∃ past', past ⊆ past' ∧ (memo.request names bounded).1 ∈ past' ∧
      Sound past' (memo.request names bounded).2 := by
  by_cases hNames : (Pattern.build names bounded).names = []
  · rw [request_of_empty memo hNames]
    exact ⟨past, List.Subset.refl _, h.unnamed, h⟩
  · cases hKept : memo.kept.find? (·.pattern = Pattern.build names bounded) with
    | some made =>
        rw [request_of_kept memo hNames hKept]
        have hMade : made ∈ past := h.made (List.mem_of_find?_eq_some hKept)
        exact ⟨past, List.Subset.refl _, hMade, h.use hMade⟩
    | none =>
        rw [request_of_not_kept memo hNames hKept]
        exact ⟨_, List.subset_cons_self _ _, List.mem_cons_self ..,
          (h.make _).use (List.mem_cons_self ..)⟩

/-- Requests one after the other: the answers, and the memo after the last. -/
def requestAll (memo : Memo) : List (List String × Bool) → List Made × Memo
  | [] => ([], memo)
  | (names, bounded) :: more =>
    let (made, between) := memo.request names bounded
    let (others, after) := between.requestAll more
    (made :: others, after)

theorem Sound.requestAll (h : Sound past memo) (requests : List (List String × Bool)) :
    ∃ past', past ⊆ past' ∧ (memo.requestAll requests).1 ⊆ past' ∧
      Sound past' (memo.requestAll requests).2 := by
  induction requests generalizing memo past with
  | nil => exact ⟨past, List.Subset.refl _, List.nil_subset _, h⟩
  | cons request more ih =>
      obtain ⟨names, bounded⟩ := request
      obtain ⟨between, hPast, hMade, hSound⟩ := h.request names bounded
      obtain ⟨past', hBetween, hAnswers, hAfter⟩ := ih hSound
      exact ⟨past', List.Subset.trans hPast hBetween,
        List.cons_subset.2 ⟨hBetween hMade, hAnswers⟩, hAfter⟩

/-- Whatever is asked for, patterns that have one number are one. -/
theorem eq_of_number_eq (requests : List (List String × Bool)) {made made' : Made}
    (hMade : made ∈ (empty.requestAll requests).1) (hMade' : made' ∈ (empty.requestAll requests).1)
    (hNumber : made.number = made'.number) : made = made' := by
  obtain ⟨past, _, hAnswers, hSound⟩ := sound_empty.requestAll requests
  exact List.inj_on_of_nodup_map hSound.distinct (hAnswers hMade) (hAnswers hMade') hNumber

end Memo

/-! What tells patterns apart. -/

namespace Pattern

/-- A reference at the start of a text is its first match. -/
theorem mem_matches_of_reference {p : Pattern} {n after : List Char}
    (h : p.referenceAt? (marker :: n ++ after) = some (n, after)) :
    ⟨0, String.ofList n⟩ ∈ p.matches (String.ofList (marker :: n ++ after)) := by
  rw [matches_eq, String.toList_ofList, pieces_of_reference h, matchesFrom]
  exact List.mem_cons_self ..

theorem isLongest_of_mem_matches {m : Match} {text : String}
    (h : m ∈ (build names bounded).matches text) :
    IsLongest names bounded (text.toList.drop (m.start + 1)) m.name.toList := by
  rw [matches_eq] at h
  exact (@isLongest_of_mem_matchesFrom bounded names [] text.toList m h).2

/-- The text that is a marker and a known name tells that the name is known. -/
theorem mem_of_matches_eq (h : ∀ text, (build names bounded).matches text =
    (build names' bounded').matches text) {n : String} (hKnown : n ∈ names) (hNonempty : n ≠ "") :
    n ∈ names' := by
  have hStands : StandsAt bounded n.toList n.toList :=
    ⟨by simpa using hNonempty, List.prefix_refl _, by simp⟩
  have hLongest : IsLongest names bounded n.toList n.toList :=
    ⟨by simpa using hKnown, hStands, fun m _ hm => hm.2.1.length_le⟩
  have hFound : (build names bounded).referenceAt? (marker :: n.toList ++ []) =
      some (n.toList, []) := by
    rw [List.append_nil]
    exact referenceAt?_build_iff.2 ⟨rfl, hLongest, by simp⟩
  have hMatch := mem_matches_of_reference hFound
  rw [h] at hMatch
  simpa using (isLongest_of_mem_matches hMatch).known

/-- A word character behind the longest name of all tells whether the boundary rule holds. -/
theorem matches_ne_of_known {n : String} (hKnown : n ∈ names) (hNonempty : n ≠ "") :
    ∃ text, (build names false).matches text ≠ (build names true).matches text := by
  have hMem : n.toList ∈ canonical names :=
    mem_canonical_iff.2 ⟨by simpa using hNonempty, by simpa using hKnown⟩
  obtain ⟨longest, rest, hCanonical⟩ := List.exists_cons_of_ne_nil (List.ne_nil_of_mem hMem)
  have hAll : ∀ m ∈ canonical names, m.length ≤ longest.length := by
    have hDescending := canonical_descending names
    rw [hCanonical, List.pairwise_cons] at hDescending
    rw [hCanonical, List.forall_mem_cons]
    exact ⟨Nat.le_refl _, hDescending.1⟩
  obtain ⟨hLetters, hFirst⟩ := mem_canonical_iff.1 (hCanonical ▸ List.mem_cons_self ..)
  have hLongest : IsLongest names false (longest ++ ['0']) longest := by
    refine ⟨hFirst, ⟨hLetters, List.prefix_append _ _, fun h => by cases h⟩, fun m hm hStands => ?_⟩
    exact hAll m (mem_canonical_iff.2 ⟨hStands.1, hm⟩)
  refine ⟨String.ofList (marker :: longest ++ ['0']), fun hSame => ?_⟩
  have hMatch := mem_matches_of_reference (referenceAt?_build_iff.2 ⟨rfl, hLongest, by simp⟩)
  rw [hSame] at hMatch
  have hStands : StandsAt true (longest ++ ['0']) longest := by
    simpa using (isLongest_of_mem_matches hMatch).stands
  have hEnds : endsBefore true ['0'] = true := (standsAt_append_iff.1 hStands).2
  exact absurd hEnds (by decide)

theorem bounded_eq_of_matches_eq {n : String} (hKnown : n ∈ names) (hNonempty : n ≠ "")
    (h : ∀ text, (build names bounded).matches text = (build names bounded').matches text) :
    bounded = bounded' := by
  obtain ⟨text, hDiffer⟩ := matches_ne_of_known hKnown hNonempty
  cases bounded <;> cases bounded'
  · rfl
  · exact (hDiffer (h text)).elim
  · exact (hDiffer (h text).symm).elim
  · rfl

end Pattern

/-- The same names, however they are given, and the same rule, unless there are no names. -/
def SameNames (elements elements' : List Value) (bounded bounded' : Bool) : Prop :=
  (∀ n, n ≠ "" → (Value.text n ∈ elements ↔ Value.text n ∈ elements')) ∧
    (bounded = bounded' ∨ ∀ n, n ≠ "" → Value.text n ∉ elements)

section

variable {elements elements' : List Value}

theorem SameNames.build_eq (h : SameNames elements elements' bounded bounded') :
    Pattern.build (elements.filterMap Value.text?) bounded =
      Pattern.build (elements'.filterMap Value.text?) bounded' := by
  obtain ⟨hNames, hRule⟩ := h
  have hSame : ∀ n, n ≠ "" →
      (n ∈ elements.filterMap Value.text? ↔ n ∈ elements'.filterMap Value.text?) := by
    intro n hNonempty
    rw [mem_names_iff, mem_names_iff, hNames n hNonempty]
  rcases hRule with rfl | hNone
  · exact Pattern.build_congr hSame bounded
  · have hEmpty : canonical (elements.filterMap Value.text?) = [] := by
      rw [List.eq_nil_iff_forall_not_mem]
      intro n hMem
      obtain ⟨hLetters, hKnown⟩ := mem_canonical_iff.1 hMem
      exact hNone _ (by simpa using hLetters) (mem_names_iff.1 hKnown)
    rw [Pattern.build_of_empty hEmpty, Pattern.build_of_empty (canonical_congr hSame ▸ hEmpty)]

theorem sameNames_of_matches_eq
    (h : ∀ text, (Pattern.build (elements.filterMap Value.text?) bounded).matches text =
      (Pattern.build (elements'.filterMap Value.text?) bounded').matches text) :
    SameNames elements elements' bounded bounded' := by
  have hNames : ∀ n, n ≠ "" →
      (n ∈ elements.filterMap Value.text? ↔ n ∈ elements'.filterMap Value.text?) := by
    intro n hNonempty
    constructor
    · intro hKnown
      exact Pattern.mem_of_matches_eq h hKnown hNonempty
    · intro hKnown
      exact Pattern.mem_of_matches_eq (fun text => (h text).symm) hKnown hNonempty
  refine ⟨fun n hNonempty => ?_, ?_⟩
  · rw [← mem_names_iff, ← mem_names_iff, hNames n hNonempty]
  · by_cases hSome : ∃ n, n ≠ "" ∧ Value.text n ∈ elements
    · obtain ⟨n, hNonempty, hKnown⟩ := hSome
      left
      apply Pattern.bounded_eq_of_matches_eq (mem_names_iff.2 hKnown) hNonempty
      intro text
      rw [h text, Pattern.build_congr hNames bounded']
    · right
      intro n hNonempty hKnown
      exact hSome ⟨n, hNonempty, hKnown⟩

theorem keptPattern_eq {known : Value} (hElements : known.elements? = some elements) (bounded : Bool)
    (memo : Memo) : Operand.keptPattern memo known bounded =
      .ok (memo.request (elements.filterMap Value.text?) bounded) := by
  rw [Operand.keptPattern, Operand.names, hElements]
  rfl

end

/-- Two requests in a row, by operands of any kind and whatever was asked for before, are answered with
the same pattern exactly if the answers find the same in every text, and exactly if the operands hold
the same names and the same rule is asked for. -/
theorem keptPattern_tfae {known known' : Value} {elements elements' : List Value}
    (hElements : known.elements? = some elements) (hElements' : known'.elements? = some elements')
    (bounded bounded' : Bool) (memo : Memo) :
    ∃ first between second after,
      Operand.keptPattern memo known bounded = .ok (first, between) ∧
        Operand.keptPattern between known' bounded' = .ok (second, after) ∧
        [first = second,
          ∀ text, first.pattern.matches text = second.pattern.matches text,
          SameNames elements elements' bounded bounded'].TFAE := by
  let names := elements.filterMap Value.text?
  let names' := elements'.filterMap Value.text?
  let between := (memo.request names bounded).2
  refine ⟨(memo.request names bounded).1, between, (between.request names' bounded').1,
    (between.request names' bounded').2, keptPattern_eq hElements bounded memo,
    keptPattern_eq hElements' bounded' between, ?_⟩
  tfae_have 1 → 2 := by
    intro hSame text
    rw [hSame]
  tfae_have 2 → 3 := by
    intro hMatches
    rw [Memo.pattern_request, Memo.pattern_request] at hMatches
    exact sameNames_of_matches_eq hMatches
  tfae_have 3 → 1 := fun hNames => memo.request_request_iff.2 hNames.build_eq
  tfae_finish

/-- Names in another order, given twice and among others that are no names, are asked for when the memo
is full, so that one pattern has to go; asking with the other rule gives another pattern. -/
theorem keptPattern_tfae_full :
    let known : Value := .list [.text "a", .int 7, .text "ab", .text "", .text "a"]
    let known' : Value := .table [("ab", .null), ("a", .null)]
    let memo : Memo := ⟨(List.range 256).map fun i => ⟨⟨[[Char.ofNat (i + 300)]], false⟩, i + 1⟩, 256⟩
    memo.kept.length = Memo.capacity ∧
      (∃ made between after, Operand.keptPattern memo known true = .ok (made, between) ∧
        Operand.keptPattern between known' true = .ok (made, after)) ∧
      ∃ first between second after, Operand.keptPattern memo known true = .ok (first, between) ∧
        Operand.keptPattern between known' false = .ok (second, after) ∧ first ≠ second ∧
        ∃ text, first.pattern.matches text ≠ second.pattern.matches text := by
  intro known known' memo
  have hElements : known.elements? =
      some [.text "a", .int 7, .text "ab", .text "", .text "a"] := rfl
  have hElements' : known'.elements? = some [.text "ab", .text "a"] := rfl
  have hNames : ∀ n, n ≠ "" → (Value.text n ∈ [Value.text "a", .int 7, .text "ab", .text "", .text "a"] ↔
      Value.text n ∈ [Value.text "ab", .text "a"]) := by
    intro n hNonempty
    simp [hNonempty]
    tauto
  refine ⟨by decide +kernel, ?_, ?_⟩
  · obtain ⟨first, between, second, after, hFirst, hSecond, hSame⟩ :=
      keptPattern_tfae hElements hElements' true true memo
    obtain rfl : first = second := (hSame.out 0 2 rfl rfl).2 ⟨hNames, Or.inl rfl⟩
    exact ⟨first, between, after, hFirst, hSecond⟩
  · obtain ⟨first, between, second, after, hFirst, hSecond, hSame⟩ :=
      keptPattern_tfae hElements hElements' true false memo
    have hOther : ¬SameNames [.text "a", .int 7, .text "ab", .text "", .text "a"]
        [.text "ab", .text "a"] true false := by
      rintro ⟨_, hRule | hNone⟩
      · cases hRule
      · exact hNone "a" (by decide) (List.mem_cons_self ..)
    refine ⟨first, between, second, after, hFirst, hSecond, fun h => hOther ?_, ?_⟩
    · exact (hSame.out 0 2 rfl rfl).1 h
    · by_contra hNone
      rw [not_exists_not] at hNone
      exact hOther ((hSame.out 1 2 rfl rfl).1 hNone)

end Shorthand.Reference
