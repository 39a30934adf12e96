import Mathlib.Tactic.TFAE
import Shorthand.Proofs.Reference.Admissible
import Shorthand.Proofs.Resolution.Pieces

/-! Whether a text has a reference at all is asked in three ways: by the search for a first one, by
gathering the different ones, and by resolving the text, which tells how many were replaced. All three
miss nothing: a name that is admissible anywhere in the text makes each of them find something, even
where the name itself lies inside a reference to another one. -/

namespace Shorthand

namespace Reference

variable {elements : List Value} {bounded : Bool} {text : String}

/-- A name is admissible somewhere exactly if there is a match, which need not be of that name. -/
theorem exists_admissible_iff :
    (∃ position name, Admissible elements bounded text position name) ↔
      (Pattern.build (elements.filterMap Value.text?) bounded).matches text ≠ [] := by
  have hList := isMatchList_matches elements bounded text
  constructor
  · rintro ⟨position, name, hAdmissible⟩
    obtain ⟨m, hMem, _⟩ := hList.covering position name hAdmissible
    exact List.ne_nil_of_mem hMem
  · intro hFound
    obtain ⟨m, hMem⟩ := List.exists_mem_of_ne_nil _ hFound
    exact ⟨m.start, m.name, hList.admissible m hMem⟩

namespace Pattern

variable (p : Pattern) (text : String)

theorem matches_eq_nil_iff :
    p.matches text = [] ↔ (p.pieces text.toList).filterMap Piece.name? = [] := by
  rw [← List.map_eq_nil_iff, matches_eq, map_name_matchesFrom, List.map_eq_nil_iff]

theorem occurs_iff : p.occurs text = true ↔ p.matches text ≠ [] := by
  rw [occurs_eq, ne_eq, matches_eq_nil_iff]
  simp

theorem tokens_ne_nil_iff : p.tokens text ≠ [] ↔ p.matches text ≠ [] := by
  rw [tokens_eq_matches, ne_eq, eraseDups_eq_nil_iff, List.map_eq_nil_iff]

end Pattern

theorem filterMap_text (names : List String) :
    (names.map Value.text).filterMap Value.text? = names := by
  rw [List.filterMap_map]
  exact List.filterMap_some

/-- A text has references exactly if a name occurs in it. -/
theorem has_iff (names : List String) (text : String) (bounded : Bool) :
    has names text bounded = true ↔
      ∃ position n, Admissible (names.map .text) bounded text position n := by
  rw [exists_admissible_iff, filterMap_text, has, Pattern.occurs_iff]

end Reference

namespace Resolution

open Reference

variable (ds : List Definition) (text : String) (bounded : Bool)

/-- As many names are replaced as there are different references. -/
theorem length_replaced :
    (resolveDefinitions ds text bounded).replaced.length =
      (find (ds.map (·.name)) text bounded).length := by
  rw [resolveDefinitions_replaced, find, Pattern.tokens_eq, List.length_map, List.length_map]
  rfl

/-- A resolution tells of the number of different references, unless there are none. -/
theorem events_resolveDefinitions :
    (resolveDefinitions ds text bounded).events =
      if find (ds.map (·.name)) text bounded = [] then []
      else [.resolved (find (ds.map (·.name)) text bounded).length] := by
  have hEmpty : (resolveDefinitions ds text bounded).replaced.isEmpty = true ↔
      find (ds.map (·.name)) text bounded = [] := by
    rw [List.isEmpty_iff_length_eq_zero, length_replaced, List.length_eq_zero_iff]
  simp only [events, hEmpty, length_replaced]

/-- What a resolution tells is told at the lowest threshold there is for events. -/
theorem reported_events (r : Resolution) : reported .debug r.events = r.events := by
  rw [events]
  split <;> rfl

/-- Search, gathering and resolution agree on whether there is a reference, which is whether any name
is admissible anywhere. They agree on how many different ones there are, and a text without any is its
own resolution. -/
theorem occurrence_tfae {entries : List Entry} {ds : List Definition}
    (hCoerced : List.Forall₂ (fun e d => e.coerce = .ok d) entries ds) (text : String)
    (bounded : Bool) :
    let names := ds.map (·.name)
    ∃ r, resolve entries text bounded = .ok r ∧
      [∃ position name, Admissible (names.map .text) bounded text position name,
        has names text bounded = true,
        find names text bounded ≠ [],
        reported .debug r.events ≠ []].TFAE ∧
      (find names text bounded ≠ [] →
        reported .debug r.events = [.resolved (find names text bounded).length]) ∧
      (find names text bounded = [] → r.text = text) := by
  intro names
  have hEvents : (resolveDefinitions ds text bounded).events =
      if find names text bounded = [] then []
      else [.resolved (find names text bounded).length] :=
    events_resolveDefinitions ds text bounded
  refine ⟨_, resolve_of_coerced ds text bounded hCoerced, ?_, ?_, ?_⟩
  · tfae_have 1 ↔ 2 := (has_iff names text bounded).symm
    tfae_have 2 ↔ 3 := by
      rw [has, find, Pattern.occurs_iff, Pattern.tokens_ne_nil_iff]
    tfae_have 3 ↔ 4 := by
      rw [reported_events, hEvents]
      by_cases hNone : find names text bounded = [] <;> simp [hNone]
    tfae_finish
  · intro hFound
    rw [reported_events, hEvents, if_neg hFound]
  · intro hNone
    rw [find, Pattern.tokens_eq, List.map_eq_nil_iff, eraseDups_eq_nil_iff] at hNone
    rw [resolveDefinitions_of_no_reference ds text bounded hNone]

/-- Names that are coerced, and one that stands in the text only inside references to another. -/
theorem occurrence_tfae_hidden :
    let entries : List Entry :=
      [.raw (.table [("name", .text "#a"), ("code", .text "#7")]), .raw (.table [("name", .int 7)]),
        .definition ⟨"a", "1", [], .own⟩]
    let ds : List Definition := [⟨"#a", "#7", [], .own⟩, ⟨"7", "", [], .own⟩, ⟨"a", "1", [], .own⟩]
    List.Forall₂ (fun e d => e.coerce = .ok d) entries ds ∧
      (∃ r, resolve entries "##a #7 ##a" true = .ok r ∧ reported .debug r.events = [.resolved 2]) ∧
      ∃ r, resolve entries "#b #7a #" true = .ok r ∧ reported .debug r.events = [] ∧
        r.text = "#b #7a #" := by
  intro entries ds
  have hCoerced : List.Forall₂ (fun e d => e.coerce = .ok d) entries ds :=
    .cons rfl (.cons rfl (.cons rfl .nil))
  have hCanonical : canonical ["#a", "7", "a"] = ["#a".toList, "7".toList, "a".toList] :=
    List.mergeSort_of_pairwise (by decide)
  have hFound : find (ds.map (·.name)) "##a #7 ##a" true = ["##a", "#7"] := by
    change (Pattern.build ["#a", "7", "a"] true).tokens _ = _
    rw [Pattern.build, hCanonical]
    decide +kernel
  have hNone : find (ds.map (·.name)) "#b #7a #" true = [] := by
    change (Pattern.build ["#a", "7", "a"] true).tokens _ = _
    rw [Pattern.build, hCanonical]
    decide +kernel
  obtain ⟨r, hResolve, _, hCount, _⟩ := occurrence_tfae hCoerced "##a #7 ##a" true
  obtain ⟨r', hResolve', hSame, _, hText⟩ := occurrence_tfae hCoerced "#b #7a #" true
  refine ⟨hCoerced, ⟨r, hResolve, ?_⟩, r', hResolve', ?_, hText hNone⟩
  · rw [hCount (by rw [hFound]; decide), hFound]
    rfl
  · by_contra hTold
    exact (hSame.out 2 3 rfl rfl).2 hTold hNone

end Resolution

end Shorthand
