import Mathlib.Data.Finset.Max
import Mathlib.Data.Finset.Filter
import Mathlib.Tactic.TFAE
import Shorthand.Proofs.Registry.RawTable
import Shorthand.Proofs.Registry.Reversal

/-! A registry that is made again of the definitions of another one. Every addition takes a marker away,
so names that still have one are changed. However they collide, the names can then not be the same
ones: some marked name is longer than all the others, and nothing could have become it. -/

namespace Shorthand

open Reference

/-- An entry that supplies no record of its fields: a definition with a record of its own, as checked
ones are, or a table without the key for a record. -/
def Entry.LeavesRecord : Entry → Prop
  | .definition d => d.record = .own
  | .raw v => ∀ es, Entry.tableOf v = .ok es → Definition.recordKey ∉ es.keys

theorem Entry.LeavesRecord.record_eq {e : Entry} {d : Definition} (h : e.LeavesRecord)
    (hCoerce : e.coerce = .ok d) : d.record = .own := by
  cases e with
  | definition d' =>
      cases hCoerce
      exact h
  | raw v =>
      obtain ⟨es, hTable, hDefinition⟩ := bind_eq_ok_iff.1 hCoerce
      obtain ⟨_, _, _, hRecord, _⟩ := Definition.ofEntries_eq_ok_iff.1 hDefinition
      have hNone : es.get? Definition.recordKey = none := Entries.get?_eq_none_iff.2 (h es hTable)
      rw [Definition.recordFor, hNone] at hRecord
      split at hRecord <;> exact (Except.ok.inj hRecord).symm

namespace Registry

variable {r : Registry} {d : Definition}

/-- A name has no marker in front, or the marker is what is taken away from it. -/
theorem stripMarker_cases (name : String) :
    (name.toList.head? ≠ some marker ∧ stripMarker name = name) ∨
      name.toList = marker :: (stripMarker name).toList := by
  by_cases h : name.toList.head? = some marker
  · obtain ⟨rest, hName⟩ := List.head?_eq_some_iff.1 h
    right
    simp [stripMarker, hName]
  · exact Or.inl ⟨h, stripMarker_of_unmarked h⟩

/-- Names that stay the same ones without a marker have none. -/
theorem unmarked_of_mem_map_iff {names : List String}
    (h : ∀ k, k ∈ names.map stripMarker ↔ k ∈ names) :
    ∀ k ∈ names, k.toList.head? ≠ some marker := by
  intro k hMem hMarked
  let marked := names.toFinset.filter fun n => n.toList.head? = some marker
  have hMarkedIff : ∀ n, n ∈ marked ↔ n ∈ names ∧ n.toList.head? = some marker := fun n => by
    rw [Finset.mem_filter, List.mem_toFinset]
  obtain ⟨longest, hLongest, hMax⟩ := marked.exists_max_image (fun n => n.toList.length)
    ⟨k, (hMarkedIff k).2 ⟨hMem, hMarked⟩⟩
  rw [hMarkedIff] at hLongest
  obtain ⟨n, hn, hStrip⟩ := List.mem_map.1 ((h longest).2 hLongest.1)
  rcases stripMarker_cases n with ⟨hUnmarked, hSame⟩ | hName
  · rw [← hSame, hStrip] at hUnmarked
    exact hUnmarked hLongest.2
  · -- one more marker in front of the longest name gives a longer one
    rw [hStrip] at hName
    have hLonger := hMax n ((hMarkedIff n).2 ⟨hn, by rw [hName]; rfl⟩)
    simp only [hName, List.length_cons] at hLonger
    omega

theorem eq_of_table_eq {r' : Registry} (h : r.table = r'.table) : r = r' := by
  cases r
  cases r'
  cases h
  rfl

/-- Without markers there is nothing to take away from what a registry has under its names. -/
theorem Keyed.map_stripped (h : r.Keyed) (hUnmarked : ∀ k ∈ r.names, k.toList.head? ≠ some marker) :
    (r.definitions.map fun d => (stripMarker d.name, stripped d)) = r.table := by
  have hSame : ∀ e ∈ r.table, (stripMarker e.2.name, stripped e.2) = e := by
    rintro ⟨k, d⟩ hMem
    obtain rfl : d.name = k := h _ hMem
    have hName := stripMarker_of_unmarked (hUnmarked _ (List.mem_map_of_mem hMem))
    exact Prod.ext hName (by rw [stripped, hName])
  rw [definitions, List.map_map]
  exact (List.map_congr_left hSame).trans (List.map_id _)

/-- Definitions without markers are added without fail, whatever the records of their fields are. -/
theorem Keyed.reseeded_error (h : r.Keyed)
    (hUnmarked : ∀ k ∈ r.names, k.toList.head? ≠ some marker) :
    (empty.addMany (r.definitions.map .definition)).error = none := by
  refine addMany_error (fun e hMem => ?_) empty
  obtain ⟨d, hDefinition, rfl⟩ := List.mem_map.1 hMem
  have hName : d.name ∈ r.names := h.map_name ▸ List.mem_map_of_mem hDefinition
  exact ⟨_, prepare_of_unmarked rfl (hUnmarked _ hName)⟩

theorem Keyed.mem_names_reseeded_iff (h : r.Keyed)
    (hError : (empty.addMany (r.definitions.map .definition)).error = none) (k : String) :
    k ∈ (empty.addMany (r.definitions.map .definition)).registry.names ↔
      k ∈ r.names.map stripMarker := by
  rw [addMany_definitions_registry hError, names_putAll, List.mem_eraseDups, ← h.map_name,
    List.map_map, List.map_map]
  exact Iff.rfl

/-- A registry that is made again of its definitions is the same one if and only if no name in it begins
with a marker; else not even the names are the same, in whatever order. Making it again never fails
if the definitions came of entries that supply no record. -/
theorem reseeded_tfae (hReachable : r.Reachable) :
    let made := empty.addMany (r.definitions.map .definition)
    [made.error = none ∧ made.registry = r,
      made.error = none ∧ made.registry.names = r.names ∧ made.registry.definitions = r.definitions,
      made.error = none ∧ ∀ k, k ∈ made.registry.names ↔ k ∈ r.names,
      ∀ k ∈ r.names, k.toList.head? ≠ some marker].TFAE ∧
    ((∀ d ∈ r.definitions, ∃ e d', Entry.LeavesRecord e ∧ e.coerce = .ok d' ∧ d = stripped d') →
      made.error = none) := by
  intro made
  have hKeyed := hReachable.keyed
  constructor
  · tfae_have 1 → 2 := by
      rintro ⟨hError, hSame⟩
      rw [hSame]
      exact ⟨hError, rfl, rfl⟩
    tfae_have 2 → 3 := by
      rintro ⟨hError, hNames, _⟩
      rw [hNames]
      exact ⟨hError, fun _ => Iff.rfl⟩
    tfae_have 3 → 4 := by
      rintro ⟨hError, hNames⟩
      refine unmarked_of_mem_map_iff fun k => ?_
      rw [← hKeyed.mem_names_reseeded_iff hError, hNames]
    tfae_have 4 → 1 := by
      intro hUnmarked
      have hError := hKeyed.reseeded_error hUnmarked
      refine ⟨hError, eq_of_table_eq ?_⟩
      rw [addMany_definitions_registry hError, hKeyed.map_stripped hUnmarked]
      exact table_putAll r.distinct
    tfae_finish
  · intro hOrigins
    refine (addMany_definitions (fun d hMem => ?_) empty).1
    obtain ⟨e, d', hLeaves, hCoerce, rfl⟩ := hOrigins d hMem
    have hOwn : d'.record = .own := hLeaves.record_eq hCoerce
    exact hOwn

/-- The marker that one name still has is taken away when the registry is made again, and the name is
then that of another definition. Under a name of its own the definition stays. -/
theorem reseeded_tfae_colliding :
    let first : Entry := .raw (.table [("name", .text "##a"), ("code", .int 1)])
    let second : Entry := .definition ⟨"a", "2", [("x", .null)], .own⟩
    let r := (empty.performAll [.batch [first, second]]).1
    let made := empty.addMany (r.definitions.map .definition)
    let plain := (empty.performAll [.single second]).1
    r.names = ["#a", "a"] ∧ made.error = none ∧ made.registry.names = ["a"] ∧
      (∃ k, ¬(k ∈ made.registry.names ↔ k ∈ r.names)) ∧
      (empty.addMany (plain.definitions.map .definition)).registry = plain := by
  intro first second r made plain
  have hOrigins : ∀ d ∈ r.definitions, ∃ e d', Entry.LeavesRecord e ∧ e.coerce = .ok d' ∧
      d = stripped d' := by
    have hFirst : first.LeavesRecord := by
      rintro es ⟨⟩
      decide
    change ∀ d ∈ [_, _], _
    rw [List.forall_mem_cons, List.forall_mem_singleton]
    exact ⟨⟨first, _, hFirst, rfl, rfl⟩, ⟨second, _, rfl, rfl, rfl⟩⟩
  obtain ⟨hSame, hNone⟩ := reseeded_tfae (r := r) ⟨_, rfl⟩
  obtain ⟨hPlain, _⟩ := reseeded_tfae (r := plain) ⟨_, rfl⟩
  have hError := hNone hOrigins
  refine ⟨rfl, hError, by decide +kernel, ?_, ((hPlain.out 3 0 rfl rfl).1 (by decide +kernel)).2⟩
  by_contra hAll
  rw [not_exists_not] at hAll
  exact absurd ((hSame.out 2 3 rfl rfl).1 ⟨hError, hAll⟩) (by decide +kernel)

end Registry

end Shorthand
