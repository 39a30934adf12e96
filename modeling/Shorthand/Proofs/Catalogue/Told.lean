import Shorthand.Proofs.Catalogue.Load
import Shorthand.Proofs.Catalogue.Text
import Shorthand.Proofs.Json.Limits
import Shorthand.Proofs.Toml.Limits
import Shorthand.Proofs.Value.Equality

/-! When a failure to load tells of the file. It does unless the path holds a zero, the bytes are no text,
or a limit stops the reader; a limit stops no text that has few brackets and short runs of digits. -/

namespace Shorthand.Catalogue

open Reading

variable {α β : Type} {depths : Depths} {files : Files} {path : Path}

/-- An answer that tells of the file: what it holds, or an error about it. -/
def Told : Except LoadFailure α → Prop
  | .ok _ | .error (.reported _) => True
  | .error _ => False

theorem told_bind_iff {x : Except LoadFailure α} {f : α → Except LoadFailure β} :
    Told (x >>= f) ↔ Told x ∧ ∀ a, x = .ok a → Told (f a) := by
  cases x with
  | ok a =>
      refine ⟨fun h => ⟨trivial, fun b hSame => ?_⟩, fun h => h.2 a rfl⟩
      cases hSame
      exact h
  | error failure =>
      cases failure <;> exact ⟨fun h => ⟨h, fun _ hSame => by cases hSame⟩, And.left⟩

theorem told_mapError {ε : Type} (x : Except ε α) (cause : ε → LoadError) :
    Told (x.mapError fun e => .reported (cause e)) := by
  cases x <;> trivial

/-! The text of the file. -/

/-- A file that can be read is told of if its bytes are those of a text. -/
theorem told_readText_iff :
    Told (readText files path) ↔
      ∀ bytes, files.read path = .ok bytes → ∃ s : String, s.toUTF8 = bytes := by
  rw [readText, told_bind_iff, and_iff_right (told_mapError ..)]
  refine forall_congr' fun bytes => imp_congr mapError_eq_ok_iff ?_
  cases hText : Text.Utf8.decode bytes with
  | ok s => exact iff_of_true trivial ⟨s, Text.Utf8.decode_eq_ok_iff.1 hText⟩
  | error flaw =>
      refine iff_of_false id ?_
      rintro ⟨s, hBytes⟩
      cases hText.symm.trans (Text.Utf8.decode_eq_ok_iff.2 hBytes)

/-- The bytes of a file are those of one text at most. -/
theorem told_readText_and_iff {P : List Char → Prop} :
    (Told (readText files path) ∧ ∀ text, readText files path = .ok text → P text) ↔
      ∀ bytes, files.read path = .ok bytes →
        ∃ s : String, s.toUTF8 = bytes ∧ P (Text.unifyNewlines s.toList) := by
  rw [told_readText_iff]
  constructor
  · rintro ⟨hTexts, hAll⟩ bytes hBytes
    obtain ⟨s, rfl⟩ := hTexts bytes hBytes
    exact ⟨s, rfl, hAll _ (readText_eq_ok_iff.2 ⟨s, hBytes, rfl⟩)⟩
  · intro h
    refine ⟨fun bytes hBytes => (h bytes hBytes).imp fun _ => And.left, fun text hText => ?_⟩
    obtain ⟨s, hBytes, rfl⟩ := readText_eq_ok_iff.1 hText
    obtain ⟨t, hSame, hHolds⟩ := h _ hBytes
    have hDecoded := Text.Utf8.decode_eq_ok_iff.2 hSame
    rw [Text.Utf8.decode_eq_ok_iff.2 rfl] at hDecoded
    cases hDecoded
    exact hHolds

/-! Its value. -/

/-- The limits of a format play no part in what a text says. -/
def Depths.Spare (depths : Depths) (format : Format) (text : List Char) : Prop :=
  match format with
  | .json => Json.readUnmarked (depths.limits .json) text = Json.readUnmarked {} text
  | .toml => Toml.read (depths.limits .toml) text = Toml.read {} text

theorem spare_of_suffice {format : Format} {text : List Char}
    (h : (depths.limits format).Suffice text) : depths.Spare format text := by
  cases format with
  | json => exact (Json.readUnmarked_faithful _ text).eq_of_suffice h
  | toml => exact (Toml.read_faithful _ text).eq_of_suffice h

theorem told_readFailure_iff {φ : Type} {reason : φ → Nat → String}
    {x : Except (Failure φ) α} : Told (x.mapError (readFailure path reason)) ↔ Settled x := by
  cases x with
  | ok a => exact Iff.rfl
  | error failure => cases failure <;> exact Iff.rfl

theorem settled_map_iff {φ : Type} {x : Except (Failure φ) α} {f : α → β} :
    Settled (x.map f) ↔ Settled x := by
  cases x with
  | ok a => exact Iff.rfl
  | error failure => cases failure <;> exact Iff.rfl

/-- A text is told of if the limits play no part in what it says. -/
theorem told_parse_iff {format : Format} {text : List Char} :
    Told (parse depths format path text) ↔ depths.Spare format text := by
  cases format with
  | json => exact told_readFailure_iff.trans (Json.readUnmarked_faithful _ text).settled_iff
  | toml =>
      refine told_readFailure_iff.trans (settled_map_iff.trans ?_)
      exact (Toml.read_faithful _ text).settled_iff

/-- A path that may be looked at is told of if its file is one of text that bears the limits. -/
theorem told_load_of_format {format : Format}
    (hFormat : Format.ofSuffix? path.format = some format)
    (hZero : path.text.contains '\x00' = false) :
    Told (load depths files path) ↔
      Told (readText files path) ∧ ∀ text, readText files path = .ok text → depths.Spare format text := by
  rw [load_of_format hFormat hZero, told_bind_iff]
  refine and_congr_right fun _ => forall_congr' fun text => imp_congr_right fun _ => ?_
  rw [told_bind_iff, told_parse_iff]
  exact and_iff_left fun v _ => told_bind_iff.2 ⟨told_mapError .., fun _ _ => trivial⟩

theorem told_load_of_text {format : Format} {s : String}
    (hFormat : Format.ofSuffix? path.format = some format)
    (hZero : path.text.contains '\x00' = false) (hBytes : files.read path = .ok s.toUTF8) :
    Told (load depths files path) ↔ depths.Spare format (Text.unifyNewlines s.toList) := by
  have hText : readText files path = .ok (Text.unifyNewlines s.toList) :=
    readText_eq_ok_iff.2 ⟨s, hBytes, rfl⟩
  rw [told_load_of_format hFormat hZero, hText]
  refine ⟨fun h => h.2 _ rfl, fun h => ⟨trivial, ?_⟩⟩
  rintro _ ⟨⟩
  exact h

/-- Bytes that are those of no text are not told of. -/
theorem not_told_of_invalid {format : Format} {bytes : ByteArray}
    (hFormat : Format.ofSuffix? path.format = some format)
    (hZero : path.text.contains '\x00' = false) (hBytes : files.read path = .ok bytes)
    (hInvalid : ¬bytes.IsValidUTF8) : ¬Told (load depths files path) := by
  rw [told_load_of_format hFormat hZero, told_readText_iff]
  rintro ⟨hTexts, _⟩
  obtain ⟨s, rfl⟩ := hTexts bytes hBytes
  exact hInvalid s.isValidUTF8

/-- Nor is a text over which a limit stops the reader. -/
theorem not_told_of_stopped {s : String} {failure : Json.Failure}
    (hFormat : Format.ofSuffix? path.format = some .json)
    (hZero : path.text.contains '\x00' = false) (hBytes : files.read path = .ok s.toUTF8)
    (hFailure : Json.readUnmarked (depths.limits .json) (Text.unifyNewlines s.toList) =
      .error failure)
    (hStopped : ¬Settled (.error failure : Except Json.Failure Value)) :
    ¬Told (load depths files path) := by
  rw [told_load_of_text hFormat hZero hBytes]
  intro hSpare
  have hSettled := (Json.readUnmarked_faithful _ (Text.unifyNewlines s.toList)).settled_iff.2 hSpare
  rw [hFailure] at hSettled
  exact hStopped hSettled

/-- Loading ends in definitions or in an error about the file, for every path and whatever is there,
with these exceptions: the path holds a zero, the bytes are not those of a text, or a limit of the
format changes what the text says. Wherever the reader gives up, it does not over a text that has no
more brackets than it goes deep and no longer runs of digits than it takes. -/
theorem told_load_iff (depths : Depths) (files : Files) (path : String) :
    (Told (load depths files (Path.ofText path)) ↔
      ∀ format, Format.ofSuffix? (Path.ofText path).format = some format →
        '\x00' ∉ path.toList ∧
          ∀ bytes, files.read (Path.ofText path) = .ok bytes →
            ∃ text : String, text.toUTF8 = bytes ∧
              depths.Spare format (Text.unifyNewlines text.toList)) ∧
      ∀ (format : Format) (text : List Char), (depths.limits format).Suffice text →
        depths.Spare format text := by
  refine ⟨?_, fun _ _ => spare_of_suffice⟩
  have hZeroIff : (Path.ofText path).text.contains '\x00' = true ↔ '\x00' ∈ path.toList := by
    rw [Path.contains_zero_ofText, decide_eq_true_iff]
  cases hFormat : Format.ofSuffix? (Path.ofText path).format with
  | none =>
      rw [load_of_unsupported hFormat]
      exact iff_of_true trivial fun _ h => by cases h
  | some format =>
      cases hZero : (Path.ofText path).text.contains '\x00' with
      | true =>
          rw [load_of_zero hFormat hZero]
          exact iff_of_false id fun h => (h format rfl).1 (hZeroIff.1 hZero)
      | false =>
          have hNone : '\x00' ∉ path.toList := by
            rw [← hZeroIff, hZero]
            exact Bool.false_ne_true
          rw [told_load_of_format hFormat hZero, told_readText_and_iff]
          constructor
          · rintro h _ ⟨⟩
            exact ⟨hNone, h⟩
          · exact fun h => (h format rfl).2

/-- A list that is not closed, beside the working directory, keeps within the limits, so that the failure
to load it is told. -/
theorem told_load_iff_unclosed :
    let depths : Depths := fun _ opened _ => 1000 ≤ opened.length
    let files : Files := ⟨[(["a", "m.json"], .file "[[1, 23], [4]".toUTF8)], ["a", "b"]⟩
    (depths.limits .json).Suffice "[[1, 23], [4]".toList ∧
      Told (load depths files (Path.ofText "./../m.json")) := by
  intro depths files
  have hSuffice : (depths.limits .json).Suffice "[[1, 23], [4]".toList := by
    constructor
    · intro opened rest hRefused
      exact Nat.le_trans (by decide +kernel) (of_decide_eq_true hRefused)
    · rintro _ ⟨⟩ run hRun _
      exact hRun.sublist.countP_le.trans (by decide +kernel)
  have hJson : Format.ofSuffix? (Path.ofText "./../m.json").format = some .json := by rfl
  have hRead : files.read (Path.ofText "./../m.json") = .ok "[[1, 23], [4]".toUTF8 := by
    decide +kernel
  have hText : Text.unifyNewlines "[[1, 23], [4]".toList = "[[1, 23], [4]".toList :=
    Text.unifyNewlines_eq (by decide)
  obtain ⟨hTold, hSpare⟩ := told_load_iff depths files "./../m.json"
  refine ⟨hSuffice, hTold.2 fun format hFormat => ⟨by decide, fun bytes hBytes => ?_⟩⟩
  obtain rfl := Option.some.inj (hJson.symm.trans hFormat)
  obtain rfl := Except.ok.inj (hRead.symm.trans hBytes)
  refine ⟨"[[1, 23], [4]", rfl, ?_⟩
  rw [hText]
  exact hSpare .json _ hSuffice

/-- Loading does not tell of the file if the path holds a zero, a byte begins no character, by whatever
path the file is found, brackets are nested deeper than the reader goes or an integer is too long. -/
theorem load_untold :
    let files : ByteArray → Files := fun content => ⟨[(["w", "m.json"], .file content)], ["w"]⟩
    let depths : Depths := fun _ opened _ => 1000 ≤ opened.length
    let repeated := fun count c => (String.ofList (List.replicate count c)).toUTF8
    let untold := fun content path => ¬Told (load depths (files content) (Path.ofText path))
    untold ByteArray.empty "\x00.json" ∧
      (∀ path ∈ ["m.json", "/w/m.json", "../w/m.json"], untold ⟨#[0xff]⟩ path) ∧
      untold (repeated 1001 '[') "m.json" ∧ untold (repeated 4301 '9') "m.json" := by
  intro files depths repeated untold
  have hJson : Format.ofSuffix? (Path.ofText "m.json").format = some .json := by rfl
  have hZero : (Path.ofText "m.json").text.contains '\x00' = false :=
    (Path.contains_zero_ofText _).trans (by decide)
  have hLimit : ∀ (count : Nat) (c : Char) (failure : Json.Failure), c ≠ '\r' →
      Json.readUnmarked (depths.limits .json) (List.replicate count c) = .error failure →
      ¬Settled (Except.error failure : Except Json.Failure Value) →
      untold (repeated count c) "m.json" := by
    intro count c failure hReturn hFailure hUnsettled
    have hText : Text.unifyNewlines (List.replicate count c) = List.replicate count c :=
      Text.unifyNewlines_eq fun hMem => hReturn (List.eq_of_mem_replicate hMem).symm
    have hRead : (files (repeated count c)).read (Path.ofText "m.json") =
        .ok (String.ofList (List.replicate count c)).toUTF8 := by rfl
    refine not_told_of_stopped hJson hZero hRead ?_ hUnsettled
    rw [String.toList_ofList, hText, hFailure]
  have hBytes : ∀ path : String, Format.ofSuffix? (Path.ofText path).format = some .json →
      '\x00' ∉ path.toList → (files ⟨#[0xff]⟩).read (Path.ofText path) = .ok ⟨#[0xff]⟩ →
        untold ⟨#[0xff]⟩ path := by
    intro path hFormat hNone hRead
    have hPath := (Path.contains_zero_ofText path).trans (decide_eq_false hNone)
    exact not_told_of_invalid hFormat hPath hRead (by decide +kernel)
  refine ⟨?_, ?_, ?_, ?_⟩
  · change ¬Told (load _ _ _)
    rw [load_of_zero (by rfl : _ = some Format.json) ((Path.contains_zero_ofText _).trans (by decide))]
    exact id
  · simp only [List.forall_mem_cons]
    exact ⟨hBytes _ (by rfl) (by decide) (by rfl), hBytes _ (by rfl) (by decide) (by rfl),
      hBytes _ (by rfl) (by decide) (by rfl), List.forall_mem_nil _⟩
  · exact hLimit 1001 '[' .tooDeep (by decide) (by decide +kernel) id
  · exact hLimit 4301 '9' (.tooManyDigits 4301) (by decide) (by decide +kernel) id

end Shorthand.Catalogue
