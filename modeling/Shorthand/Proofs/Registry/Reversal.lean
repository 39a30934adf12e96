import Shorthand.Proofs.Registry.History
import Shorthand.Proofs.Resolution.Agreement

/-! Of several definitions of a name, resolving by a list takes the first and a registry keeps the last.
The two are dual: a registry to which the list was added from its end resolves a text as the list
does. Names that begin with a marker are left out, for a registry takes the marker away. -/

namespace Shorthand

namespace Registry

variable {d : Definition} {ds : List Definition}

/-- A name without a marker in front is kept as it is. -/
theorem stripMarker_of_unmarked {name : String} (h : name.toList.head? ≠ some Reference.marker) :
    stripMarker name = name := by
  rw [stripMarker]
  split
  · next c rest hName =>
      refine if_neg fun hMarker => h ?_
      rw [hName, hMarker]
      rfl
  · rfl

/-- An entry without a marker in its name is stored whatever the record of its fields is, as there is
nothing to change. -/
theorem prepare_of_unmarked {e : Entry} (hCoerce : e.coerce = .ok d)
    (h : d.name.toList.head? ≠ some Reference.marker) : prepare e = .ok (d.name, d) := by
  have hName := stripMarker_of_unmarked h
  rw [prepare, hCoerce]
  change (if stripMarker d.name = d.name then _ else _) = _
  rw [if_pos hName, hName]
  rfl

/-- The last definition of a name in the reversed list is the first one in the list. -/
theorem last?_reverse (h : ∀ d ∈ ds, d.name.toList.head? ≠ some Reference.marker) (k : String) :
    last? ds.reverse k = ds.find? (·.name = k) := by
  have hSame : (ds.find? fun d => stripMarker d.name = k) = ds.find? (·.name = k) :=
    List.find?_congr fun d hMem => by rw [stripMarker_of_unmarked (h d hMem)]
  rw [last?, List.reverse_reverse, hSame]
  cases hFirst : ds.find? (·.name = k) with
  | none => rfl
  | some d =>
      obtain rfl : d.name = k := by simpa using List.find?_some hFirst
      rfl

section

variable {entries : List Entry} (hCoerced : List.Forall₂ (fun e d => e.coerce = .ok d) entries ds)
  (hUnmarked : ∀ d ∈ ds, d.name.toList.head? ≠ some Reference.marker)
include hCoerced hUnmarked

theorem exists_prepare_of_mem_reverse : ∀ e ∈ entries.reverse, ∃ p, prepare e = .ok p := by
  intro e hMem
  obtain ⟨d, hDefinition, hCoerce⟩ := exists_of_mem_right hCoerced.flip (List.mem_reverse.1 hMem)
  exact ⟨_, prepare_of_unmarked hCoerce (hUnmarked d hDefinition)⟩

theorem addMany_reverse_error : (empty.addMany entries.reverse).error = none :=
  addMany_error (exists_prepare_of_mem_reverse hCoerced hUnmarked) empty

/-- A registry that was given entries from the last to the first has, under each name, what the first
entry of that name stands for. -/
theorem get?_addMany_reverse (k : String) :
    (empty.addMany entries.reverse).registry.get? k = ds.find? (·.name = k) := by
  have hReversed : List.Forall₂ (fun e d => e.coerce = .ok d) entries.reverse ds.reverse :=
    List.forall₂_reverse_iff.2 hCoerced
  have hStored := exists_prepare_of_mem_reverse hCoerced hUnmarked
  rw [addMany_registry, stored_eq_map hReversed hStored, get?_putAll_stripped, last?_reverse hUnmarked]
  exact Option.or_none

end

end Registry

namespace Resolution

open Reference

/-- A text is resolved alike by a list of entries and by a registry to which they were added from the
last to the first. None of these additions fails. -/
theorem resolve_eq_of_reversed {entries : List Entry} {ds : List Definition}
    (hCoerced : List.Forall₂ (fun e d => e.coerce = .ok d) entries ds)
    (hUnmarked : ∀ d ∈ ds, d.name.toList.head? ≠ some marker) (text : String) (bounded : Bool) :
    let made := Registry.empty.addMany entries.reverse
    made.error = none ∧
      ∃ r, resolve entries text bounded = .ok r ∧
        resolve (made.registry.definitions.map .definition) text bounded = .ok r := by
  intro made
  have hKeyed : made.registry.Keyed := Registry.keyed_empty.addMany entries.reverse
  have hCode : ∀ name, codeOf? made.registry.definitions name = codeOf? ds name := by
    intro name
    rw [hKeyed.codeOf?, Registry.get?_addMany_reverse hCoerced hUnmarked]
    rfl
  refine ⟨Registry.addMany_reverse_error hCoerced hUnmarked, _,
    resolve_of_coerced ds text bounded hCoerced, ?_⟩
  rw [resolve_of_definitions, resolveDefinitions_congr _ text bounded fun n _ => hCode (String.ofList n)]

/-- A number and a text give one name, and an entry whose record of fields cannot be extended comes
before a definition of the same name. -/
theorem resolve_eq_of_reversed_twice :
    let entries : List Entry :=
      [.raw (.table [("name", .int 7), ("code", .text "1")]), .definition ⟨"7", "2", [], .own⟩,
        .raw (.table [("name", .text "a"), ("code", .text "3"), ("_fields_set", .list [])]),
        .definition ⟨"a", "4", [], .own⟩]
    let made := Registry.empty.addMany entries.reverse
    made.error = none ∧ made.registry.names = ["a", "7"] ∧
      (resolve entries "#7a #ab" false).map (·.text) = .ok "1a 3b" ∧
      (resolve (made.registry.definitions.map .definition) "#7a #ab" false).map (·.text) =
        .ok "1a 3b" := by
  intro entries made
  let ds : List Definition :=
    [⟨"7", "1", [], .own⟩, ⟨"7", "2", [], .own⟩, ⟨"a", "3", [], .supplied (.list [])⟩,
      ⟨"a", "4", [], .own⟩]
  have hCoerced : List.Forall₂ (fun e d => e.coerce = .ok d) entries ds :=
    .cons rfl (.cons rfl (.cons rfl (.cons rfl .nil)))
  have hUnmarked : ∀ d ∈ ds, d.name.toList.head? ≠ some marker := by decide +kernel
  have hCanonical : canonical ["7", "7", "a", "a"] = ["7".toList, "a".toList] :=
    List.mergeSort_of_pairwise (by decide)
  have hText : (resolveDefinitions ds "#7a #ab" false).text = "1a 3b" := by
    rw [resolveDefinitions_text, piecesOf]
    change String.ofList (((Pattern.build ["7", "7", "a", "a"] false).pieces _).flatMap _) = _
    rw [Pattern.build, hCanonical]
    decide +kernel
  obtain ⟨hError, r, hList, hRegistry⟩ := resolve_eq_of_reversed hCoerced hUnmarked "#7a #ab" false
  have hResolved : r.text = "1a 3b" := by
    rw [resolve_of_coerced ds _ _ hCoerced] at hList
    obtain rfl := Except.ok.inj hList
    exact hText
  refine ⟨hError, by decide +kernel, ?_, ?_⟩
  · rw [hList, ← hResolved]
    rfl
  · rw [hRegistry, ← hResolved]
    rfl

end Resolution

end Shorthand
