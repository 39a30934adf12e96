import Shorthand.Proofs.Reference.Canonical
import Shorthand.Proofs.Registry.History
import Shorthand.Proofs.Resolution.Agreement

/-! The order of additions plays no part in what a registry answers. Two runs of calls may add under the
same names in any order, with definitions that are replaced later or with markers in front; if they
end with equal definitions, the registries differ only in the order of enumeration. -/

namespace Shorthand.Registry

open Reference Resolution

/-- Calls whose entries stand for these definitions, all of which can be stored. -/
structure Builds (calls : List Addition) (ds : List Definition) : Prop where
  coerced : List.Forall₂ (fun e d => e.coerce = .ok d) (calls.flatMap Addition.entries) ds
  stored : ∀ e ∈ calls.flatMap Addition.entries, ∃ p, prepare e = .ok p

/-- Equal as data, or both missing. -/
abbrev Agree : Option Definition → Option Definition → Prop :=
  Option.Rel fun d e => d.agrees e = true

namespace Builds

variable {calls : List Addition} {ds : List Definition}

theorem performAll_eq (h : Builds calls ds) :
    (empty.performAll calls).1 = empty.putAll (ds.map fun d => (stripMarker d.name, stripped d)) := by
  rw [performAll_registry, flatMap_stored h.stored, stored_eq_map h.coerced h.stored]

theorem get?_eq (h : Builds calls ds) (k : String) :
    (empty.performAll calls).1.get? k = last? ds k := by
  rw [h.performAll_eq, get?_putAll_stripped]
  exact Option.or_none

theorem mem_names_iff (h : Builds calls ds) {k : String} :
    k ∈ (empty.performAll calls).1.names ↔ k ∈ ds.map fun d => stripMarker d.name := by
  rw [← get?_isSome_iff, h.get?_eq, isSome_last?_iff]

end Builds

/-! Two registries with the same names. -/

variable {r r' : Registry}

theorem names_perm (h : ∀ k, k ∈ r.names ↔ k ∈ r'.names) : r.names.Perm r'.names :=
  (List.perm_ext_iff_of_nodup r.distinct r'.distinct).2 h

theorem contains_congr (h : ∀ k, k ∈ r.names ↔ k ∈ r'.names) (k : String) :
    r.contains k = r'.contains k := by
  rw [Bool.eq_iff_iff, contains_iff, contains_iff, h]

/-- Equal definitions have one code. -/
theorem Agree.code_eq {d e : Option Definition} (h : Agree d e) :
    d.map (·.code) = e.map (·.code) := by
  cases h with
  | none => rfl
  | some hAgrees =>
      simp only [Definition.agrees, Bool.and_eq_true, decide_eq_true_eq] at hAgrees
      exact congrArg some hAgrees.1.2

/-- What a registry makes of a text depends on the code of each name. -/
theorem resolve_congr (hKeyed : r.Keyed) (hKeyed' : r'.Keyed)
    (h : ∀ k, (r.get? k).map (·.code) = (r'.get? k).map (·.code)) (text : String) (bounded : Bool) :
    resolve (r.definitions.map .definition) text bounded =
      resolve (r'.definitions.map .definition) text bounded := by
  rw [resolve_of_definitions, resolve_of_definitions]
  refine congrArg Except.ok (resolveDefinitions_congr _ text bounded fun n _ => ?_)
  rw [hKeyed.codeOf?, hKeyed'.codeOf?, h]

/-- Registries that were added to under the same names and ended with equal definitions answer alike:
look-ups, detection and resolution, all but the order in which names and definitions are listed. -/
theorem answers_eq_of_same_last {calls calls' : List Addition} {ds ds' : List Definition}
    (hBuilds : Builds calls ds) (hBuilds' : Builds calls' ds')
    (hNames : ∀ k, (k ∈ ds.map fun d => stripMarker d.name) ↔ k ∈ ds'.map fun d => stripMarker d.name)
    (hLast : ∀ k, ∀ d ∈ last? ds k, ∀ e ∈ last? ds' k, d.agrees e = true) :
    let r := (empty.performAll calls).1
    let r' := (empty.performAll calls').1
    (∀ k, Agree (r.get? k) (r'.get? k)) ∧
      (∀ k, last? ds k = last? ds' k → r.get? k = r'.get? k) ∧
      (∀ k, r.contains k = r'.contains k) ∧
      r.size = r'.size ∧
      r.names.Perm r'.names ∧
      ∀ text bounded,
        has r.names text bounded = has r'.names text bounded ∧
          find r.names text bounded = find r'.names text bounded ∧
          resolve (r.definitions.map .definition) text bounded =
            resolve (r'.definitions.map .definition) text bounded := by
  intro r r'
  have hSame : ∀ k, k ∈ r.names ↔ k ∈ r'.names := fun k => by
    rw [hBuilds.mem_names_iff, hBuilds'.mem_names_iff, hNames]
  have hAgree : ∀ k, Agree (r.get? k) (r'.get? k) := by
    intro k
    rw [hBuilds.get?_eq, hBuilds'.get?_eq]
    have hBoth : (last? ds k).isSome = true ↔ (last? ds' k).isSome = true := by
      rw [isSome_last?_iff, isSome_last?_iff, hNames]
    cases hFirst : last? ds k with
    | none =>
        rw [hFirst] at hBoth
        cases hSecond : last? ds' k with
        | none => exact .none
        | some e => simp [hSecond] at hBoth
    | some d =>
        rw [hFirst] at hBoth
        cases hSecond : last? ds' k with
        | none => simp [hSecond] at hBoth
        | some e => exact .some (hLast k d hFirst e hSecond)
  have hPattern : ∀ bounded, Pattern.build r.names bounded = Pattern.build r'.names bounded :=
    Pattern.build_congr fun k _ => hSame k
  refine ⟨hAgree, fun k hEqual => ?_, contains_congr hSame, ?_, names_perm hSame,
    fun text bounded => ⟨?_, ?_, ?_⟩⟩
  · rw [hBuilds.get?_eq, hBuilds'.get?_eq, hEqual]
  · rw [size_eq_length_names, size_eq_length_names, (names_perm hSame).length_eq]
  · rw [has, has, hPattern]
  · rw [find, find, hPattern]
  · exact resolve_congr (Reachable.keyed ⟨calls, rfl⟩) (Reachable.keyed ⟨calls', rfl⟩)
      (fun k => (hAgree k).code_eq) text bounded

/-- The first run replaces a definition and strips a marker from the other; the second adds both in the
other order, with an extra that is equal as a number. -/
theorem answers_eq_of_same_last_swapped :
    let calls : List Addition :=
      [.batch [.raw (.table [("name", .text "a"), ("code", .text "0")]),
          .raw (.table [("name", .text "#ab"), ("code", .text "2"), ("x", .int 1)])],
        .single (.definition ⟨"a", "1", [], .own⟩)]
    let calls' : List Addition :=
      [.single (.definition ⟨"ab", "2", [("x", .bool true)], .own⟩),
        .batch [.raw (.table [("code", .text "1"), ("name", .text "#a")])]]
    let ds : List Definition :=
      [⟨"a", "0", [], .own⟩, ⟨"#ab", "2", [("x", .int 1)], .own⟩, ⟨"a", "1", [], .own⟩]
    let ds' : List Definition := [⟨"ab", "2", [("x", .bool true)], .own⟩, ⟨"#a", "1", [], .own⟩]
    let r := (empty.performAll calls).1
    let r' := (empty.performAll calls').1
    Builds calls ds ∧ Builds calls' ds' ∧ r.names = ["a", "ab"] ∧ r'.names = ["ab", "a"] ∧
      Agree (r.get? "ab") (r'.get? "ab") ∧
      resolve (r.definitions.map .definition) "#ab #abc" true =
        resolve (r'.definitions.map .definition) "#ab #abc" true := by
  intro calls calls' ds ds' r r'
  have hBuilds : Builds calls ds :=
    ⟨.cons rfl (.cons rfl (.cons rfl .nil)), by
      simp only [calls, List.flatMap_cons, List.flatMap_nil, Addition.entries, List.append_nil,
        List.cons_append, List.nil_append, List.forall_mem_cons]
      exact ⟨⟨_, rfl⟩, ⟨_, rfl⟩, ⟨_, rfl⟩, by simp⟩⟩
  have hBuilds' : Builds calls' ds' :=
    ⟨.cons rfl (.cons rfl .nil), by
      simp only [calls', List.flatMap_cons, List.flatMap_nil, Addition.entries, List.append_nil,
        List.cons_append, List.nil_append, List.forall_mem_cons]
      exact ⟨⟨_, rfl⟩, ⟨_, rfl⟩, by simp⟩⟩
  have hStripped : (ds.map fun d => stripMarker d.name) = ["a", "ab", "a"] := by decide +kernel
  have hStripped' : (ds'.map fun d => stripMarker d.name) = ["ab", "a"] := by decide +kernel
  have hAll : ∀ k ∈ ["a", "ab", "a"],
      ((last? ds k).any fun d => (last? ds' k).any fun e => d.agrees e) = true := by decide +kernel
  obtain ⟨hAgree, _, _, _, _, hText⟩ := answers_eq_of_same_last hBuilds hBuilds'
    (fun k => by rw [hStripped, hStripped']; simp; tauto)
    (fun k d hd e he => by
      have hKnown := isSome_last?_iff.1 (Option.isSome_iff_exists.2 ⟨d, hd⟩)
      rw [hStripped] at hKnown
      simpa [Option.mem_def.1 hd, Option.mem_def.1 he] using hAll k hKnown)
  exact ⟨hBuilds, hBuilds', by decide +kernel, by decide +kernel, hAgree "ab",
    (hText "#ab #abc" true).2.2⟩

end Shorthand.Registry
