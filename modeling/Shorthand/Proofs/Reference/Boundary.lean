import Shorthand.Proofs.Resolution.Occurrence

/-! What the boundary rule can change. It does not only drop references: where the longest name is
turned down a shorter one may take its place, and the search then goes on earlier. If no name holds a
marker, a reference takes in no marker but its own, so one begins at every marker with an admissible
name behind it, whatever was found before. A name that is admissible under the boundary rule is so
without it, and that ties the two searches together, place by place. -/

namespace Shorthand.Reference

section

variable {elements : List Value} {bounded : Bool} {text : String} {position : Nat} {n : String}

/-- Without the boundary rule, more is admissible. -/
theorem Admissible.unbounded (h : Admissible elements true text position n) :
    Admissible elements false text position n :=
  ⟨h.known, h.nonempty, h.marked, h.occurs, fun hRule => by cases hRule⟩

/-- What stands behind the marker of a match is its name. -/
theorem Admissible.getElem?_eq (h : Admissible elements bounded text position n) {i : Nat}
    (hInside : i < n.length) : text.toList[position + 1 + i]? = n.toList[i]? := by
  obtain ⟨rest, hRest⟩ := h.occurs
  rw [← List.getElem?_drop, ← hRest, List.getElem?_append_left]
  rwa [String.length_toList]

/-- If no name holds a marker, a match begins wherever a name is admissible. -/
theorem IsMatchList.exists_start {ms : List Match} (h : IsMatchList elements bounded text ms)
    (hNames : ∀ name, .text name ∈ elements → marker ∉ name.toList)
    (hAdmissible : Admissible elements bounded text position n) : ∃ m ∈ ms, m.start = position := by
  obtain ⟨m, hMem, hStart, hStop⟩ := h.covering position n hAdmissible
  refine ⟨m, hMem, hStart.eq_of_not_lt fun hBefore => ?_⟩
  -- A match that began earlier would have the marker of this place in its name.
  obtain ⟨i, rfl⟩ := Nat.exists_eq_add_of_lt hBefore
  have hMatch := h.admissible m hMem
  have hInside : i < m.name.length := by
    rw [Match.stop] at hStop
    omega
  have hMarker : m.name.toList[i]? = some marker := by
    rw [← hMatch.getElem?_eq hInside, ← hAdmissible.marked]
    congr 1
    omega
  exact hNames m.name hMatch.known (List.mem_of_getElem? hMarker)

end

/-- How a match under the boundary rule stands to one without the rule: they begin at one place, and
the token of the first leads that of the second; it is the whole of it unless a word goes on there. -/
structure Shortens (text : String) (m m' : Match) : Prop where
  start : m.start = m'.start
  leads : (token m.name.toList).toList <+: (token m'.name.toList).toList
  whole_iff : token m.name.toList = token m'.name.toList ↔
    ∀ c ∈ text.toList[m'.stop]?, Text.isWord c = false

theorem token_eq_iff {m n : String} : token m.toList = token n.toList ↔ m = n := by
  rw [token_injective.eq_iff, String.toList_inj]

/-- The longest names that are admissible at one place with and without the boundary rule. -/
theorem Admissible.shortens {elements : List Value} {text : String} {m m' : Match}
    (hStart : m.start = m'.start) (h : Admissible elements true text m.start m.name)
    (h' : Admissible elements false text m'.start m'.name)
    (hLongest : ∀ n, Admissible elements true text m.start n → n.length ≤ m.name.length)
    (hLongest' : ∀ n, Admissible elements false text m'.start n → n.length ≤ m'.name.length) :
    Shortens text m m' := by
  have hLength : m.name.length ≤ m'.name.length := hLongest' m.name (hStart ▸ h.unbounded)
  have hLeads : m.name.toList <+: m'.name.toList := by
    refine List.prefix_of_prefix_length_le h.occurs (hStart ▸ h'.occurs) ?_
    rwa [String.length_toList, String.length_toList]
  refine ⟨hStart, ?_, ?_⟩
  · rw [token, token, String.toList_ofList, String.toList_ofList]
    exact List.cons_prefix_cons.2 ⟨rfl, hLeads⟩
  · rw [token_eq_iff]
    constructor
    · intro hSame
      have hEnds := h.ends rfl
      rwa [hSame, hStart] at hEnds
    · intro hEnds
      have hBounded : Admissible elements true text m.start m'.name :=
        hStart ▸ ⟨h'.known, h'.nonempty, h'.marked, h'.occurs, fun _ => hEnds⟩
      exact h.eq_of_length hBounded (Nat.le_antisymm hLength (hLongest m'.name hBounded))

theorem isMatchList_build (names : List String) (bounded : Bool) (text : String) :
    IsMatchList (names.map .text) bounded text ((Pattern.build names bounded).matches text) := by
  have h := isMatchList_matches (names.map .text) bounded text
  rwa [filterMap_text] at h

/-- If no name holds a marker, every match under the boundary rule shortens one without the rule. A
text with a reference under the rule has one without it, whatever the names hold. -/
theorem boundary_shortens (names : List String) (text : String) :
    ((∀ n ∈ names, marker ∉ n.toList) → ∀ m ∈ (Pattern.build names true).matches text,
        ∃ m' ∈ (Pattern.build names false).matches text, Shortens text m m') ∧
      (has names text true = true → has names text false = true) := by
  have hWith := isMatchList_build names true text
  have hWithout := isMatchList_build names false text
  constructor
  · intro hNames m hMem
    have hElements : ∀ name, .text name ∈ names.map Value.text → marker ∉ name.toList := by
      intro name hName
      obtain ⟨n, hKnown, hSame⟩ := List.mem_map.1 hName
      cases hSame
      exact hNames name hKnown
    have hAdmissible := hWith.admissible m hMem
    obtain ⟨m', hMem', hStart⟩ := hWithout.exists_start hElements hAdmissible.unbounded
    exact ⟨m', hMem', hAdmissible.shortens hStart.symm (hWithout.admissible m' hMem')
      (hWith.longest m hMem) (hWithout.longest m' hMem')⟩
  · rw [has_iff, has_iff]
    rintro ⟨position, n, hAdmissible⟩
    exact ⟨position, n, hAdmissible.unbounded⟩

/-- The rule shortens the first reference, keeps the second and drops the third. -/
theorem boundary_shortens_first :
    let names := ["a-b", "a", "c"]
    let text := "#a-bc#a-b #cd"
    (∀ n ∈ names, marker ∉ n.toList) ∧
      (Pattern.build names true).matches text = [⟨0, "a"⟩, ⟨5, "a-b"⟩] ∧
      (Pattern.build names false).matches text = [⟨0, "a-b"⟩, ⟨5, "a-b"⟩, ⟨10, "c"⟩] ∧
      Shortens text ⟨0, "a"⟩ ⟨0, "a-b"⟩ ∧ has names text true = true ∧ has names text false = true := by
  intro names text
  have hNames : ∀ n ∈ names, marker ∉ n.toList := by decide +kernel
  have hCanonical : canonical ["a-b", "a", "c"] = ["a-b".toList, "a".toList, "c".toList] :=
    List.mergeSort_of_pairwise (by decide)
  have hWith : (Pattern.build names true).matches text = [⟨0, "a"⟩, ⟨5, "a-b"⟩] := by
    rw [Pattern.build, hCanonical]
    decide +kernel
  have hWithout : (Pattern.build names false).matches text =
      [⟨0, "a-b"⟩, ⟨5, "a-b"⟩, ⟨10, "c"⟩] := by
    rw [Pattern.build, hCanonical]
    decide +kernel
  have hHas : has names text true = true := by
    rw [has, Pattern.build, hCanonical]
    decide +kernel
  obtain ⟨hShorter, hFound⟩ := boundary_shortens names text
  obtain ⟨m', hMem, hShortens⟩ := hShorter hNames ⟨0, "a"⟩ (by rw [hWith]; decide)
  rw [hWithout] at hMem
  obtain rfl : m' = ⟨0, "a-b"⟩ := by
    have hStart := hShortens.start
    simp only [List.mem_cons, List.not_mem_nil, or_false] at hMem
    rcases hMem with rfl | rfl | rfl
    · rfl
    · cases hStart
    · cases hStart
  exact ⟨hNames, hWith, hWithout, hShortens, hHas, hFound hHas⟩

end Shorthand.Reference
