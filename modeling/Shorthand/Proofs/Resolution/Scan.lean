import Mathlib.Data.List.MinMax
import Shorthand.Operand
import Shorthand.Proofs.Resolution.Pieces

/-! Resolving is a single scan of the text from left to right. Where a marker stands before known
names, the longest of them is meant and the code of its first definition is written; the scan goes
on behind the name in the text, so code that was written is never looked at. Every other character
is copied. Nothing here refers to patterns or their order of names. -/

namespace Shorthand.Resolution

open Reference

/-- The longest of the names that stand at a place. -/
def longest? (names : List String) (bounded : Bool) (s : List Char) : Option String :=
  (names.filter fun n => StandsAt bounded s n.toList).argmax String.length

/-- The definition that is meant where the text goes on with `s` behind a marker: the first one of
the longest name that stands there. -/
def meant? (ds : List Definition) (bounded : Bool) (s : List Char) : Option Definition :=
  (longest? (ds.map (·.name)) bounded s).bind fun n => ds.find? (·.name = n)

theorem longest?_eq_some_iff {names : List String} {bounded : Bool} {s : List Char} {n : String} :
    longest? names bounded s = some n ↔ IsLongest names bounded s n.toList := by
  have hFound : ∀ {m}, longest? names bounded s = some m → IsLongest names bounded s m.toList := by
    intro m h
    have hMem := List.argmax_mem h
    rw [List.mem_filter, decide_eq_true_eq] at hMem
    refine ⟨by simpa using hMem.1, hMem.2, fun other hKnown hStands => ?_⟩
    have hOther : String.ofList other ∈ names.filter fun n => StandsAt bounded s n.toList := by
      simpa using ⟨hKnown, hStands⟩
    have hLength : (String.ofList other).length ≤ m.length := List.le_of_mem_argmax hOther h
    simpa [String.length_toList] using hLength
  refine ⟨hFound, fun h => ?_⟩
  cases hResult : longest? names bounded s with
  | none =>
      have hNone := List.argmax_eq_none.1 hResult
      rw [List.filter_eq_nil_iff] at hNone
      have hKnown : n ∈ names := by simpa using h.known
      simpa [h.stands] using hNone n hKnown
  | some m => rw [String.toList_inj.1 ((hFound hResult).unique h)]

/-- The definition that is meant has the longest name that stands there, and there is no earlier one
of that name. -/
theorem meant?_eq_some_iff {ds : List Definition} {bounded : Bool} {s : List Char}
    {d : Definition} :
    meant? ds bounded s = some d ↔
      IsLongest (ds.map (·.name)) bounded s d.name.toList ∧
        ds.find? (·.name = d.name) = some d := by
  rw [meant?, Option.bind_eq_some_iff]
  simp only [longest?_eq_some_iff]
  constructor
  · rintro ⟨n, hLongest, hFirst⟩
    obtain rfl : d.name = n := by simpa using List.find?_some hFirst
    exact ⟨hLongest, hFirst⟩
  · rintro ⟨hLongest, hFirst⟩
    exact ⟨d.name, hLongest, hFirst⟩

/-- No definition is meant only where no known name stands. -/
theorem meant?_eq_none_iff {ds : List Definition} {bounded : Bool} {s : List Char} :
    meant? ds bounded s = none ↔ ∀ n, ¬IsLongest (ds.map (·.name)) bounded s n := by
  constructor
  · intro hNone n hLongest
    obtain ⟨d, hMem, hName⟩ := List.mem_map.1 hLongest.known
    obtain ⟨first, hFirst⟩ : ∃ first, ds.find? (·.name = String.ofList n) = some first :=
      Option.isSome_iff_exists.1 (List.find?_isSome.2 ⟨d, hMem, by simpa using hName⟩)
    have hName : first.name = String.ofList n := by simpa using List.find?_some hFirst
    have hMeant : meant? ds bounded s = some first :=
      meant?_eq_some_iff.2 ⟨by simpa [hName] using hLongest, by rw [hName, hFirst]⟩
    rw [hNone] at hMeant
    cases hMeant
  · intro h
    rw [Option.eq_none_iff_forall_ne_some]
    intro d hMeant
    exact h _ (meant?_eq_some_iff.1 hMeant).1

/-- The text that a scan writes for `s`. -/
def scan (ds : List Definition) (bounded : Bool) (s : List Char) : List Char :=
  match s with
  | [] => []
  | c :: rest =>
    if c = marker then
      match meant? ds bounded rest with
      | some d => d.code.toList ++ scan ds bounded (rest.drop d.name.length)
      | none => c :: scan ds bounded rest
    else c :: scan ds bounded rest
termination_by s.length
decreasing_by
  all_goals
    simp only [List.length_cons, List.length_drop]
    omega

variable (ds : List Definition) (bounded : Bool)

/-- The scan and the pattern stop at the same references and agree on what they are. -/
theorem flatMap_pieceText (s : List Char) :
    ((Pattern.build (ds.map (·.name)) bounded).pieces s).flatMap (pieceText ds) =
      scan ds bounded s := by
  induction s using Pattern.text_induction (Pattern.build (ds.map (·.name)) bounded) with
  | nil => rw [Pattern.pieces_nil, scan, List.flatMap_nil]
  | reference n after h ih =>
      obtain ⟨_, hLongest, _⟩ := Pattern.referenceAt?_build_iff.1 h
      rw [Pattern.pieces_of_reference h, List.flatMap_cons, ih, List.cons_append, scan, if_pos rfl]
      cases hMeant : meant? ds bounded (n ++ after) with
      | none => exact (meant?_eq_none_iff.1 hMeant n hLongest).elim
      | some d =>
          obtain ⟨hNamed, hFirst⟩ := meant?_eq_some_iff.1 hMeant
          obtain rfl : n = d.name.toList := hLongest.unique hNamed
          have hRest : (d.name.toList ++ after).drop d.name.length = after := by
            rw [← String.length_toList, List.drop_left]
          simp [pieceText, codeOf?, hFirst, hRest]
  | plain c rest h ih =>
      rw [Pattern.pieces_of_plain h, List.flatMap_cons, ih, scan]
      split
      · next hMarker =>
          have hNone : meant? ds bounded rest = none :=
            meant?_eq_none_iff.2 (Pattern.referenceAt?_build_eq_none_iff.1 h hMarker)
          rw [hNone]
          rfl
      · rfl

/-- The value that resolving an operand gives. -/
def resolvedValue : Operand.Resolved → Value
  | .untouched v => v
  | .resolved r => .text r.text

variable {ds} {bounded}

/-- An operand that is a text is resolved as the text is. -/
theorem resolve_operand {entries : List Entry}
    (hCoerced : List.Forall₂ (fun e d => e.coerce = .ok d) entries ds) (text : String) :
    (Operand.resolve (.entries entries) (.text text) bounded).map resolvedValue =
      .ok (.text (resolveDefinitions ds text bounded).text) := by
  cases hCoerced with
  | nil =>
      rw [resolveDefinitions_nil]
      rfl
  | cons hHead hTail =>
      rw [Operand.resolve, if_neg (by simp [Operand.Source.isEmpty]), Operand.Source.toList]
      change ((((_ : List Entry).mapM Entry.coerce).mapError _ >>= _).map _ : Except _ _) = _
      rw [mapM_eq_ok_iff.2 (hTail.cons hHead)]
      rfl

/-- Resolving by entries is the scan by the definitions that they stand for, with or without
entries, and so is resolving an operand that is a text. -/
theorem resolve_eq_scan {entries : List Entry}
    (hCoerced : List.Forall₂ (fun e d => e.coerce = .ok d) entries ds) (text : String) :
    (resolve entries text bounded).map (·.text) =
        .ok (String.ofList (scan ds bounded text.toList)) ∧
      (Operand.resolve (.entries entries) (.text text) bounded).map resolvedValue =
        .ok (.text (String.ofList (scan ds bounded text.toList))) := by
  have hScan : (resolveDefinitions ds text bounded).text =
      String.ofList (scan ds bounded text.toList) := by
    rw [resolveDefinitions_text, piecesOf, flatMap_pieceText]
  rw [resolve_operand hCoerced, resolve_of_coerced ds text bounded hCoerced, ← hScan]
  exact ⟨rfl, rfl⟩

/-- Entries of all kinds: two of one name, the first a definition, one that is named by a number and
has no code, and one without a name. -/
def mixedEntries : List Entry :=
  [.raw (.table [("name", .text "a-b"), ("code", .text "#a\\1")]),
    .definition ⟨"a", "1", [], .own⟩, .raw (.table [("name", .text "a"), ("code", .text "2")]),
    .raw (.table [("name", .int 7), ("code", .null)]), .raw (.table [("code", .text "3")])]

def mixedDefinitions : List Definition :=
  [⟨"a-b", "#a\\1", [], .own⟩, ⟨"a", "1", [], .own⟩, ⟨"a", "2", [], .own⟩, ⟨"7", "", [], .own⟩,
    ⟨"", "3", [], .own⟩]

/-- The boundary rule turns down the longer name at the first marker only. -/
theorem resolve_eq_scan_mixed :
    List.Forall₂ (fun e d => e.coerce = .ok d) mixedEntries mixedDefinitions ∧
      (resolve mixedEntries "#a-bc #a-b #7#" true).map (·.text) = .ok "1-bc #a\\1 #" := by
  have hCoerced : List.Forall₂ (fun e d => e.coerce = .ok d) mixedEntries mixedDefinitions :=
    .cons rfl (.cons rfl (.cons rfl (.cons rfl (.cons rfl .nil))))
  have hScan : String.ofList (scan mixedDefinitions true "#a-bc #a-b #7#".toList) =
      "1-bc #a\\1 #" := by decide +kernel
  exact ⟨hCoerced, hScan ▸ (resolve_eq_scan hCoerced "#a-bc #a-b #7#").1⟩

end Shorthand.Resolution
