import Shorthand.Proofs.Registry.History
import Shorthand.Proofs.Resolution.Agreement

/-! What an addition leaves alone. A text that does not mention a name has the same references, and the
same resolution, before and after a definition of that name is added or replaced, however the name is
related to those that the text does mention. -/

namespace Shorthand.Registry

open Reference Resolution

section

variable {r : Registry} {k : String} {d : Definition} {text : String}
  (hUnmentioned : ¬Mentions text.toList k.toList)
include hUnmentioned

/-- The names that the text mentions lead to the same definitions. -/
theorem get?_put_of_mentions {n : List Char} (hMentioned : Mentions text.toList n) :
    (r.put k d).get? (String.ofList n) = r.get? (String.ofList n) := by
  have hOther : k ≠ String.ofList n := by
    rintro rfl
    rw [String.toList_ofList] at hUnmentioned
    exact hUnmentioned hMentioned
  rw [get?_put, if_neg hOther]

theorem mem_names_put_of_mentions {n : List Char} (hMentioned : Mentions text.toList n) :
    String.ofList n ∈ (r.put k d).names ↔ String.ofList n ∈ r.names := by
  rw [← get?_isSome_iff, ← get?_isSome_iff, get?_put_of_mentions hUnmentioned hMentioned]

theorem Keyed.resolveDefinitions_put (h : r.Keyed) (hName : d.name = k) (bounded : Bool) :
    resolveDefinitions (r.put k d).definitions text bounded =
      resolveDefinitions r.definitions text bounded := by
  apply resolveDefinitions_congr
  intro n hMentioned
  rw [(h.put hName).codeOf?, h.codeOf?, get?_put_of_mentions hUnmentioned hMentioned]

end

/-- An addition under a name that the text does not mention shows in nothing that is made of the text.
The registry may be empty, and the name may be known to it already. -/
theorem text_unaffected_by_add {r after : Registry} (hReachable : r.Reachable) {e : Entry}
    {d : Definition} {event : Event} (hCoerce : e.coerce = .ok d)
    (hAdd : r.add e = .ok (after, event)) {text : String}
    (hAbsent : stripMarker d.name = "" ∨ ¬marker :: (stripMarker d.name).toList <:+: text.toList)
    (bounded : Bool) :
    has after.names text bounded = has r.names text bounded ∧
      find after.names text bounded = find r.names text bounded ∧
      ∃ done, resolve (r.definitions.map .definition) text bounded = .ok done ∧
        resolve (after.definitions.map .definition) text bounded = .ok done := by
  obtain ⟨d', hSame, rfl⟩ := coerce_of_add hAdd
  rw [hCoerce] at hSame
  obtain rfl := Except.ok.inj hSame
  have hUnmentioned : ¬Mentions text.toList (stripMarker d.name).toList := by
    rintro ⟨hNonempty, hOccurs⟩
    rcases hAbsent with hEmpty | hAbsent
    · rw [hEmpty] at hNonempty
      exact hNonempty rfl
    · exact hAbsent hOccurs
  refine ⟨?_, ?_, _, resolve_of_definitions _ text bounded, ?_⟩
  · exact has_congr fun n => mem_names_put_of_mentions hUnmentioned
  · exact find_congr fun n => mem_names_put_of_mentions hUnmentioned
  · rw [resolve_of_definitions,
      hReachable.keyed.resolveDefinitions_put hUnmentioned rfl bounded]

/-- A name that goes on from one that the text mentions is replaced, and one is added to a registry
without any. -/
theorem text_unaffected_by_add_longer :
    let calls : List Addition :=
      [.batch [.raw (.table [("name", .text "#a"), ("code", .text "1")]),
        .definition ⟨"ab", "2", [], .own⟩], .single (.raw .null)]
    let e : Entry := .raw (.table [("name", .text "#ab"), ("code", .text "3")])
    let r := (empty.performAll calls).1
    let after := r.put "ab" ⟨"ab", "3", [], .own⟩
    r.add e = .ok (after, .overwriting "ab") ∧
      find after.names "#a #ac ab" true = find r.names "#a #ac ab" true ∧
      (∃ done, resolve (r.definitions.map .definition) "#a #ac ab" true = .ok done ∧
        resolve (after.definitions.map .definition) "#a #ac ab" true = .ok done) ∧
      has (empty.put "ab" ⟨"ab", "3", [], .own⟩).names "#a #ac ab" false =
        has empty.names "#a #ac ab" false := by
  intro calls e r after
  have hCoerce : e.coerce = .ok ⟨"#ab", "3", [], .own⟩ := rfl
  have hAdd : r.add e = .ok (after, .overwriting "ab") := rfl
  have hAddNew : empty.add e = .ok (empty.put "ab" ⟨"ab", "3", [], .own⟩, .registered "ab") := rfl
  have hAbsent : stripMarker "#ab" = "" ∨
      ¬marker :: (stripMarker "#ab").toList <:+: "#a #ac ab".toList := by decide +kernel
  obtain ⟨_, hFind, hResolve⟩ := text_unaffected_by_add ⟨calls, rfl⟩ hCoerce hAdd hAbsent true
  exact ⟨hAdd, hFind, hResolve, (text_unaffected_by_add ⟨[], rfl⟩ hCoerce hAddNew hAbsent false).1⟩

end Shorthand.Registry
