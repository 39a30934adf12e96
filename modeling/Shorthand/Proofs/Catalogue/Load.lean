import Shorthand.Catalogue.File
import Shorthand.Proofs.Success

/-! When a catalogue is loaded: the steps on the way from a path to definitions, each of which has to
succeed. The definitions that come out keep the record of their fields themselves. -/

namespace Shorthand

/-- A definition that was checked has a record of its own. -/
theorem Definition.record_of_check {v : Value} {d : Definition} (h : check v = .ok d) :
    d.record = .own := by
  obtain ⟨es, _, h⟩ := bind_eq_ok_iff.1 h
  obtain ⟨fields, _, h⟩ := bind_eq_ok_iff.1 h
  cases h
  rfl

namespace Catalogue

variable {depths : Depths} {files : Files} {path : Path} {format : Format}

theorem load_of_unsupported (h : Format.ofSuffix? path.format = none) :
    load depths files path = .error (.reported (.unsupported path.text path.format)) := by
  unfold load
  rw [h]
  rfl

theorem load_of_zero (hFormat : Format.ofSuffix? path.format = some format)
    (hZero : path.text.contains '\x00' = true) : load depths files path = .error .zeroInPath := by
  unfold load
  rw [hFormat]
  simp only [hZero]
  rfl

/-- A path that may be looked at is read, parsed and checked. -/
theorem load_of_format (hFormat : Format.ofSuffix? path.format = some format)
    (hZero : path.text.contains '\x00' = false) :
    load depths files path = (do
      let text ← readText files path
      let v ← parse depths format path text
      let definitions ← (read v).mapError fun e => .reported (.content e)
      pure (definitions, .loaded definitions.length path.text)) := by
  unfold load
  rw [hFormat]
  simp only [hZero]
  rfl

theorem read_eq_ok_iff {v : Value} {ds : List Definition} :
    read v = .ok ds ↔
      ∃ vs, entries v = .ok vs ∧ List.Forall₂ (fun v d => Definition.check v = .ok d) vs ds := by
  simp only [read, bind_eq_ok_iff, mapM_eq_ok_iff, mapError_eq_ok_iff]

theorem load_eq_ok_iff {ds : List Definition} {event : Event} :
    load depths files path = .ok (ds, event) ↔
      ∃ format text v, Format.ofSuffix? path.format = some format ∧
        path.text.contains '\x00' = false ∧ readText files path = .ok text ∧
        parse depths format path text = .ok v ∧ read v = .ok ds ∧
        event = .loaded ds.length path.text := by
  constructor
  · intro h
    cases hFormat : Format.ofSuffix? path.format with
    | none =>
        rw [load_of_unsupported hFormat] at h
        cases h
    | some format =>
        cases hZero : path.text.contains '\x00' with
        | true =>
            rw [load_of_zero hFormat hZero] at h
            cases h
        | false =>
            rw [load_of_format hFormat hZero] at h
            obtain ⟨text, hText, h⟩ := bind_eq_ok_iff.1 h
            obtain ⟨v, hParse, h⟩ := bind_eq_ok_iff.1 h
            obtain ⟨_, hRead, h⟩ := bind_eq_ok_iff.1 h
            cases h
            exact ⟨format, text, v, rfl, rfl, hText, hParse, mapError_eq_ok_iff.1 hRead, rfl⟩
  · rintro ⟨format, text, v, hFormat, hZero, hText, hParse, hRead, rfl⟩
    rw [load_of_format hFormat hZero, hText]
    refine bind_eq_ok_iff.2 ⟨text, rfl, bind_eq_ok_iff.2 ⟨v, hParse, bind_eq_ok_iff.2 ⟨ds, ?_, rfl⟩⟩⟩
    exact mapError_eq_ok_iff.2 hRead

/-- What is loaded can be added without fail, as each definition keeps its own record. -/
theorem record_of_load {ds : List Definition} {event : Event}
    (h : load depths files path = .ok (ds, event)) : ∀ d ∈ ds, d.record = .own := by
  obtain ⟨_, _, v, _, _, _, _, hRead, _⟩ := load_eq_ok_iff.1 h
  obtain ⟨vs, _, hChecked⟩ := read_eq_ok_iff.1 hRead
  intro d hMem
  obtain ⟨v, _, hCheck⟩ := exists_of_mem_right hChecked hMem
  exact Definition.record_of_check hCheck

end Catalogue

end Shorthand
