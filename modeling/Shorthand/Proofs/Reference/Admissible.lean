import Mathlib.Data.List.Perm.Basic
import Shorthand.Operand
import Shorthand.Proofs.Reference.Longest
import Shorthand.Proofs.Reference.Splice

/-! What the references in a text are, told by conditions on places in the text alone. None overlaps
another, each is to the longest name that is admissible where it begins, and no name is admissible
outside of them. Only one list of matches meets these conditions, and it is the list that a pattern
finds. -/

namespace Shorthand.Reference

/-- A name is admissible at a position that holds a marker if the text goes on with the name there
and, under the boundary rule, no word character follows. Known is what an operand holds: values that
are no texts are no names, and neither is the empty text. -/
structure Admissible (elements : List Value) (bounded : Bool) (text : String) (position : Nat)
    (name : String) : Prop where
  known : Value.text name ∈ elements
  nonempty : name ≠ ""
  marked : text.toList[position]? = some marker
  occurs : name.toList <+: text.toList.drop (position + 1)
  ends : bounded = true → ∀ c ∈ text.toList[position + 1 + name.length]?, Text.isWord c = false

/-- Matches from left to right, apart from each other, each of the longest name that is admissible at
its start, and none missing. -/
structure IsMatchList (elements : List Value) (bounded : Bool) (text : String)
    (ms : List Match) : Prop where
  ordered : ms.Pairwise fun a b => a.start < b.start ∧ a.stop ≤ b.start
  admissible : ∀ m ∈ ms, Admissible elements bounded text m.start m.name
  longest : ∀ m ∈ ms, ∀ n, Admissible elements bounded text m.start n → n.length ≤ m.name.length
  covering : ∀ position n, Admissible elements bounded text position n →
    ∃ m ∈ ms, m.start ≤ position ∧ position < m.stop

section

variable {elements : List Value} {bounded : Bool} {text : String}

theorem mem_names_iff {name : String} :
    name ∈ elements.filterMap Value.text? ↔ Value.text name ∈ elements := by
  rw [List.mem_filterMap]
  constructor
  · rintro ⟨v, hMem, hText⟩
    cases v <;> cases hText
    exact hMem
  · intro hMem
    exact ⟨_, hMem, rfl⟩

theorem admissible_iff {position : Nat} {name : String} :
    Admissible elements bounded text position name ↔
      text.toList[position]? = some marker ∧ name ∈ elements.filterMap Value.text? ∧
        StandsAt bounded (text.toList.drop (position + 1)) name.toList := by
  have hNext : ((text.toList.drop (position + 1)).drop name.toList.length).head? =
      text.toList[position + 1 + name.length]? := by
    rw [List.drop_drop, List.head?_drop, String.length_toList]
  have hNonempty : name.toList ≠ [] ↔ name ≠ "" := by simp
  rw [StandsAt, hNext, hNonempty, mem_names_iff]
  constructor
  · intro h
    exact ⟨h.marked, h.known, h.nonempty, h.occurs, h.ends⟩
  · rintro ⟨hMarked, hKnown, hName, hOccurs, hEnds⟩
    exact ⟨hKnown, hName, hMarked, hOccurs, hEnds⟩

/-! There is at most one such list. -/

/-- Two longest names that are admissible at one position are the same. -/
theorem Admissible.eq_of_length {position : Nat} {m n : String}
    (hm : Admissible elements bounded text position m)
    (hn : Admissible elements bounded text position n) (hLength : m.length = n.length) : m = n := by
  apply String.toList_inj.1
  apply (admissible_iff.1 hm).2.2.eq_of_length (admissible_iff.1 hn).2.2
  rw [String.length_toList, String.length_toList, hLength]

namespace IsMatchList

variable {ms ms' : List Match}

/-- Of two matches in a list, the one that begins first ends before the other begins. -/
theorem stop_le_start (h : IsMatchList elements bounded text ms) {a b : Match} (ha : a ∈ ms)
    (hb : b ∈ ms) (hStart : a.start < b.start) : a.stop ≤ b.start := by
  have hAll : ∀ a ∈ ms, ∀ b ∈ ms, a.start < b.start → a.stop ≤ b.start := by
    apply List.Pairwise.forall_of_forall_of_flip
    · intro m _ hSelf
      exact (Nat.lt_irrefl _ hSelf).elim
    · exact h.ordered.imp fun hab _ => hab.2
    · exact h.ordered.imp fun hab hba => (Nat.lt_asymm hab.1 hba).elim
  exact hAll a ha b hb hStart

theorem nodup (h : IsMatchList elements bounded text ms) : ms.Nodup := by
  refine h.ordered.imp fun {a b} hab hSame => ?_
  rw [hSame] at hab
  exact Nat.lt_irrefl _ hab.1

/-- What one list has, any other has. The other list covers the start of a match; a match of the
other list that began earlier would be in this list too, where it would overlap the match. -/
theorem mem_of_mem (h : IsMatchList elements bounded text ms)
    (h' : IsMatchList elements bounded text ms') {m : Match} (hMem : m ∈ ms) : m ∈ ms' := by
  induction hStart : m.start using Nat.strongRecOn generalizing ms ms' m with
  | ind start ih =>
      subst hStart
      obtain ⟨m', hMem', hLe, hStop⟩ := h'.covering m.start m.name (h.admissible m hMem)
      rcases Nat.lt_or_eq_of_le hLe with hEarlier | hSame
      · have hBoth : m' ∈ ms := ih m'.start hEarlier h' h hMem' rfl
        have hApart := h.stop_le_start hBoth hMem hEarlier
        omega
      · have hHere := h.admissible m hMem
        have hThere := h'.admissible m' hMem'
        rw [hSame] at hThere
        have hLength : m.name.length = m'.name.length := by
          apply Nat.le_antisymm
          · exact h'.longest m' hMem' m.name (hSame ▸ hHere)
          · exact h.longest m hMem m'.name hThere
        have hName := hHere.eq_of_length hThere hLength
        cases m
        cases m'
        cases hSame
        cases hName
        exact hMem'

theorem unique (h : IsMatchList elements bounded text ms)
    (h' : IsMatchList elements bounded text ms') : ms = ms' := by
  have hPerm : ms.Perm ms' := (List.perm_ext_iff_of_nodup h.nodup h'.nodup).2 fun _ =>
    ⟨h.mem_of_mem h', h'.mem_of_mem h⟩
  refine hPerm.eq_of_pairwise (fun a b _ _ hab hba => ?_) h.ordered h'.ordered
  exact (Nat.lt_asymm hab.1 hba.1).elim

end IsMatchList

/-! A pattern finds such a list. -/

variable {names : List String}

/-- Where a known name stands, one of the names that stand there is the longest. -/
theorem exists_isLongest {s n : List Char} (hKnown : String.ofList n ∈ names)
    (hStands : StandsAt bounded s n) : ∃ m, IsLongest names bounded s m := by
  cases hFound : (canonical names).find? (fun m => StandsAt bounded s m) with
  | some m => exact ⟨m, find?_canonical_eq_some_iff.1 hFound⟩
  | none =>
      have hNone := List.find?_eq_none.1 hFound n (mem_canonical_iff.2 ⟨hStands.1, hKnown⟩)
      simp [hStands] at hNone

/-- Matches begin no earlier than the pieces, and each ends before the next one begins. -/
theorem ordered_matchesFrom (ps : List Piece) (position : Nat) :
    (∀ m ∈ matchesFrom position ps, position ≤ m.start) ∧
      (matchesFrom position ps).Pairwise fun a b => a.start < b.start ∧ a.stop ≤ b.start := by
  induction ps generalizing position with
  | nil => exact ⟨fun _ h => (by cases h), .nil⟩
  | cons piece ps ih =>
      cases piece with
      | plain c =>
          obtain ⟨hStart, hOrdered⟩ := ih (position + 1)
          refine ⟨fun m hMem => ?_, hOrdered⟩
          have := hStart m hMem
          omega
      | reference n =>
          obtain ⟨hStart, hOrdered⟩ := ih (position + 1 + n.length)
          rw [matchesFrom, List.pairwise_cons]
          refine ⟨fun m hMem => ?_, fun m hMem => ?_, hOrdered⟩
          · rcases List.mem_cons.1 hMem with rfl | hMem
            · exact Nat.le_refl _
            · have := hStart m hMem
              omega
          · have := hStart m hMem
            rw [Match.stop, String.length_ofList]
            dsimp only
            omega

/-- A match begins at a marker, and its name is the longest one that stands behind it. -/
theorem isLongest_of_mem_matchesFrom {passed s : List Char} {m : Match}
    (h : m ∈ matchesFrom passed.length ((Pattern.build names bounded).pieces s)) :
    (passed ++ s)[m.start]? = some marker ∧
      IsLongest names bounded ((passed ++ s).drop (m.start + 1)) m.name.toList := by
  induction s using Pattern.text_induction (Pattern.build names bounded) generalizing passed with
  | nil =>
      rw [Pattern.pieces_nil] at h
      cases h
  | reference n after hFound ih =>
      rw [Pattern.pieces_of_reference hFound, matchesFrom_reference, List.mem_cons] at h
      rcases h with rfl | h
      · obtain ⟨_, hLongest, _⟩ := Pattern.referenceAt?_build_iff.1 hFound
        have hBehind : (passed ++ (marker :: n ++ after)).drop (passed.length + 1) = n ++ after := by
          simp [List.drop_append]
        rw [hBehind, String.toList_ofList]
        exact ⟨by simp, hLongest⟩
      · have hRest := ih h
        rwa [List.append_assoc] at hRest
  | plain c rest hFound ih =>
      rw [Pattern.pieces_of_plain hFound, matchesFrom_plain] at h
      have hRest := ih h
      rwa [List.append_assoc] at hRest

/-- No marker with a known name behind it is left outside of the matches. -/
theorem covered_by_matchesFrom {passed s : List Char} {position : Nat} {n : List Char}
    (hPassed : passed.length ≤ position) (hMarked : (passed ++ s)[position]? = some marker)
    (hLongest : IsLongest names bounded ((passed ++ s).drop (position + 1)) n) :
    ∃ m ∈ matchesFrom passed.length ((Pattern.build names bounded).pieces s),
      m.start ≤ position ∧ position < m.stop := by
  induction s using Pattern.text_induction (Pattern.build names bounded) generalizing passed with
  | nil =>
      rw [List.append_nil, List.getElem?_eq_none hPassed] at hMarked
      cases hMarked
  | reference name after hFound ih =>
      rw [Pattern.pieces_of_reference hFound, matchesFrom_reference]
      by_cases hInside : position < (passed ++ marker :: name).length
      · exact ⟨_, List.mem_cons_self .., hPassed, by rwa [stop_eq]⟩
      · rw [← List.append_assoc] at hMarked hLongest
        obtain ⟨m, hMem, hCovers⟩ := ih (Nat.le_of_not_lt hInside) hMarked hLongest
        exact ⟨m, List.mem_cons_of_mem _ hMem, hCovers⟩
  | plain c rest hFound ih =>
      rw [Pattern.pieces_of_plain hFound, matchesFrom_plain]
      rcases Nat.lt_or_eq_of_le hPassed with hLater | rfl
      · rw [← List.singleton_append, ← List.append_assoc] at hMarked hLongest
        refine ih ?_ hMarked hLongest
        rw [List.length_append, List.length_singleton]
        exact hLater
      · have hMarker : c = marker := by simpa using hMarked
        have hBehind : (passed ++ c :: rest).drop (passed.length + 1) = rest := by
          simp [List.drop_append]
        rw [hBehind] at hLongest
        exact (Pattern.referenceAt?_build_eq_none_iff.1 hFound hMarker n hLongest).elim

theorem isMatchList_matches (elements : List Value) (bounded : Bool) (text : String) :
    IsMatchList elements bounded text
      ((Pattern.build (elements.filterMap Value.text?) bounded).matches text) := by
  rw [Pattern.matches_eq]
  have hMeant := fun m => @isLongest_of_mem_matchesFrom bounded (elements.filterMap Value.text?)
    [] text.toList m
  refine ⟨(ordered_matchesFrom _ 0).2, fun m hMem => ?_, fun m hMem n hAdmissible => ?_,
    fun position n hAdmissible => ?_⟩
  · obtain ⟨hMarked, hLongest⟩ := hMeant m hMem
    have hKnown := hLongest.known
    rw [String.ofList_toList] at hKnown
    exact admissible_iff.2 ⟨hMarked, hKnown, hLongest.stands⟩
  · obtain ⟨_, hLongest⟩ := hMeant m hMem
    obtain ⟨_, hKnown, hStands⟩ := admissible_iff.1 hAdmissible
    have hLength := hLongest.longest n.toList (by rwa [String.ofList_toList]) hStands
    rwa [String.length_toList, String.length_toList] at hLength
  · obtain ⟨hMarked, hKnown, hStands⟩ := admissible_iff.1 hAdmissible
    obtain ⟨longest, hLongest⟩ := exists_isLongest (by rwa [String.ofList_toList]) hStands
    exact @covered_by_matchesFrom bounded (elements.filterMap Value.text?) [] text.toList position
      longest (Nat.zero_le _) hMarked hLongest

/-- The matches of a text by the names that an operand stands for are the one list that the
conditions allow. -/
theorem matches_eq_iff_isMatchList {known : Value} {elements : List Value}
    (hElements : known.elements? = some elements) (bounded : Bool) (text : String) :
    ∃ p, Operand.pattern known bounded = .ok p ∧
      ∀ ms, p.matches text = ms ↔ IsMatchList elements bounded text ms := by
  refine ⟨Pattern.build (elements.filterMap Value.text?) bounded, ?_, fun ms => ⟨?_, fun h => ?_⟩⟩
  · rw [Operand.pattern, Operand.names, hElements]
    rfl
  · rintro rfl
    exact isMatchList_matches elements bounded text
  · exact (isMatchList_matches elements bounded text).unique h

/-- The boundary rule leaves the shorter of two names at the first marker. The name at the second one
begins with a marker of its own, which hides the name that is admissible there. -/
theorem matches_eq_iff_isMatchList_nested :
    let elements : List Value :=
      [.text "a-b", .int 3, .text "", .text "#a", .null, .text "a", .text "a-b"]
    (Value.list elements).elements? = some elements ∧
      Admissible elements true "#a-bc ##a #a-b" 7 "a" ∧
      IsMatchList elements true "#a-bc ##a #a-b" [⟨0, "a"⟩, ⟨6, "#a"⟩, ⟨10, "a-b"⟩] := by
  intro elements
  obtain ⟨p, hPattern, hMatches⟩ :=
    @matches_eq_iff_isMatchList (.list elements) elements rfl true "#a-bc ##a #a-b"
  obtain rfl : Pattern.build ["a-b", "", "#a", "a", "a-b"] true = p := Except.ok.inj hPattern
  have hCanonical : canonical ["a-b", "", "#a", "a", "a-b"] =
      ["a-b".toList, "#a".toList, "a".toList] := List.mergeSort_of_pairwise (by decide)
  have hNext : "#a-bc ##a #a-b".toList[7 + 1 + "a".length]? = some ' ' := by decide +kernel
  refine ⟨rfl, ⟨by simp [elements], by decide, ?_, ?_, fun _ c hMem => ?_⟩, (hMatches _).1 ?_⟩
  · decide +kernel
  · decide +kernel
  · rw [hNext] at hMem
    obtain rfl : ' ' = c := Option.some.inj hMem
    decide +kernel
  · rw [Pattern.build, hCanonical]
    decide +kernel

end

end Shorthand.Reference
