import Mathlib.Data.List.Infix
import Shorthand.Reading

/-! Reading under limits. A limit never changes what a reader makes of a text, it only stops the reader;
and it stops no reader of a text that has few brackets and short runs of digits. Readers are compared
with themselves without limits, and both facts go through a reader together. -/

namespace Shorthand

namespace Reading

/-- Whether a character opens a list or a table. -/
def isOpening (c : Char) : Bool := c = '[' || c = '\x7b'

/-- How many characters of a text open a list or a table. -/
def openings (s : List Char) : Nat := s.countP isOpening

end Reading

/-- The limits leave a text alone, whatever it means: no container is refused while fewer are open than
the text has opening marks, and no run of digits, with underscores between them, is longer than an
integer may be. -/
structure Limits.Suffice (limits : Limits) (text : List Char) : Prop where
  depth : ∀ opened rest, limits.tooDeep opened rest = true → Reading.openings text ≤ opened.length
  digits : ∀ most ∈ limits.digits, ∀ run, run <:+: text →
    (∀ c ∈ run, c.isDigit = true ∨ c = '_') → run.countP Char.isDigit ≤ most

namespace Limits

variable {limits : Limits} {n : Nat}

theorem refusesDigits_iff : limits.refusesDigits n = true ↔ ∃ most ∈ limits.digits, most < n := by
  simp [refusesDigits, Option.any_eq_true]

/-- So many containers may be opened inside one another when so many are open already. -/
def Admits (limits : Limits) (opened more : Nat) : Prop :=
  ∀ containers rest, limits.tooDeep containers rest = true → opened + more ≤ containers.length

namespace Admits

variable {opened m : Nat}

theorem tooDeep_eq_false (h : limits.Admits opened (n + 1)) {containers : List Container}
    (hOpened : containers.length = opened) (rest : List Char) :
    limits.tooDeep containers rest = false := by
  rw [Bool.eq_false_iff]
  intro hRefused
  have := h containers rest hRefused
  omega

theorem inside (h : limits.Admits opened (n + 1)) : limits.Admits (opened + 1) n := by
  intro containers rest hRefused
  have := h containers rest hRefused
  omega

theorem left (h : limits.Admits opened (max m n)) : limits.Admits opened m :=
  fun containers rest hRefused =>
    Nat.le_trans (Nat.add_le_add_left (Nat.le_max_left m n) opened) (h containers rest hRefused)

theorem right (h : limits.Admits opened (max m n)) : limits.Admits opened n :=
  fun containers rest hRefused =>
    Nat.le_trans (Nat.add_le_add_left (Nat.le_max_right m n) opened) (h containers rest hRefused)

end Admits

end Limits

namespace Reading

variable {φ α β : Type}

/-- Whether a stop is a flaw of the text. -/
def Stop.IsFlaw : Stop φ → Prop
  | .malformed _ _ => True
  | .tooManyDigits _ | .tooDeep => False

/-! Readers that no limit stops. -/

/-- A result has the property, and a stop is a flaw of the text. -/
def Yields (P : α → Prop) : Except (Stop φ) α → Prop
  | .ok a => P a
  | .error stop => stop.IsFlaw

/-- What remains of a text behind a piece is a suffix of it. -/
abbrev Leaves (s : List Char) (x : Except (Stop φ) (α × List Char)) : Prop :=
  Yields (fun p => p.2 <:+ s) x

namespace Yields

variable {P : α → Prop} {Q : β → Prop} {x : Except (Stop φ) α}

theorem of_ok (h : Yields P x) {a : α} (hOk : x = .ok a) : P a := by
  rw [hOk] at h
  exact h

theorem of_error (h : Yields P x) {stop : Stop φ} (hStop : x = .error stop) : stop.IsFlaw := by
  rw [hStop] at h
  exact h

theorem mono (h : Yields P x) {P' : α → Prop} (hP : ∀ a, P a → P' a) : Yields P' x := by
  cases x with
  | ok a => exact hP a h
  | error stop => exact h

theorem map (h : Yields P x) {f : α → β} (hf : ∀ a, P a → Q (f a)) : Yields Q (x.map f) := by
  cases x with
  | ok a => exact hf a h
  | error stop => exact h

theorem bind (h : Yields P x) {f : α → Except (Stop φ) β} (hf : ∀ a, P a → Yields Q (f a)) :
    Yields Q (x >>= f) := by
  cases x with
  | ok a => exact hf a h
  | error stop => exact h

end Yields

theorem Leaves.trans {s t : List Char} {x : Except (Stop φ) (α × List Char)} (h : Leaves s x)
    (hSuffix : s <:+ t) : Leaves t x :=
  h.mono fun _ hRest => hRest.trans hSuffix

/-! Readers with limits. -/

/-- What a reader makes of a piece of the text under limits, `x`, beside what it makes of it without,
`y`: the same, or a limit stops it, and then the text is one that the limits do not suffice for. -/
structure Bounded (limits : Limits) (text : List Char) (P : α → Prop) (x y : Except (Stop φ) α) :
    Prop where
  yields : Yields P y
  same_or_stopped : x = y ∨ ¬limits.Suffice text ∧ ∃ stop, x = .error stop ∧ ¬stop.IsFlaw

variable {limits : Limits} {text : List Char} {P : α → Prop} {Q : β → Prop}
  {x y : Except (Stop φ) α}

/-- A reader that does not look at the limits. -/
theorem Yields.bounded (h : Yields P x) : Bounded limits text P x x :=
  ⟨h, .inl rfl⟩

namespace Bounded

theorem map (h : Bounded limits text P x y) {f : α → β} (hf : ∀ a, P a → Q (f a)) :
    Bounded limits text Q (x.map f) (y.map f) := by
  refine ⟨h.yields.map hf, ?_⟩
  rcases h.same_or_stopped with rfl | ⟨hText, stop, rfl, hStop⟩
  · exact .inl rfl
  · exact .inr ⟨hText, stop, rfl, hStop⟩

/-- The second of two readers goes on with what the first has read. -/
theorem bind (h : Bounded limits text P x y) {f g : α → Except (Stop φ) β}
    (hNext : ∀ a, y = .ok a → P a → Bounded limits text Q (f a) (g a)) :
    Bounded limits text Q (x >>= f) (y >>= g) := by
  cases y with
  | ok a =>
      have hNext := hNext a rfl h.yields
      -- Under limits the first part may have been stopped where the second would have gone on.
      rcases h.same_or_stopped with rfl | ⟨hText, stop, rfl, hStop⟩
      · exact hNext
      · exact ⟨hNext.yields, .inr ⟨hText, stop, rfl, hStop⟩⟩
  | error flaw =>
      refine ⟨h.yields, ?_⟩
      rcases h.same_or_stopped with rfl | ⟨hText, stop, rfl, hStop⟩
      · exact .inl rfl
      · exact .inr ⟨hText, stop, rfl, hStop⟩

/-- More digits than allowed were found in a run of them. -/
theorem tooManyDigits {run : List Char} (hRefused : limits.refusesDigits (run.countP Char.isDigit))
    (hRun : run <:+: text) (hDigits : ∀ c ∈ run, c.isDigit = true ∨ c = '_') (hYields : Yields P y) :
    Bounded limits text P (.error (.tooManyDigits (run.countP Char.isDigit))) y := by
  refine ⟨hYields, .inr ⟨fun hSuffice => ?_, _, rfl, id⟩⟩
  obtain ⟨most, hMost, hExceeds⟩ := Limits.refusesDigits_iff.1 hRefused
  exact Nat.not_lt.2 (hSuffice.digits most hMost run hRun hDigits) hExceeds

end Bounded

/-! Whole texts. -/

/-- An answer that tells of the text: its value, or a flaw of it. -/
def Settled : Except (Failure φ) α → Prop
  | .ok _ | .error (.malformed _ _) => True
  | .error (.tooManyDigits _) | .error .tooDeep => False

/-- The answer to a whole text under limits, `x`, beside the answer without, `y`. -/
structure Faithful (limits : Limits) (text : List Char) (x y : Except (Failure φ) α) : Prop where
  settled_iff : Settled x ↔ x = y
  eq_of_suffice : limits.Suffice text → x = y

theorem Faithful.of_settled {x : Except (Failure φ) α} (h : Settled x) :
    Faithful limits text x x :=
  ⟨iff_of_true h rfl, fun _ => rfl⟩

theorem settled_mapError_iff (x : Except (Stop φ) α) (s : List Char) :
    Settled (x.mapError (Stop.failure s)) ↔ Yields (fun _ => True) x := by
  cases x with
  | ok a => exact Iff.rfl
  | error stop => cases stop <;> exact Iff.rfl

theorem Bounded.faithful (h : Bounded limits text P x y) (s : List Char) :
    Faithful limits text (x.mapError (Stop.failure s)) (y.mapError (Stop.failure s)) := by
  have hSettled := (settled_mapError_iff y s).2 (h.yields.mono fun _ _ => trivial)
  rcases h.same_or_stopped with rfl | ⟨hText, stop, hStop, hLimit⟩
  · exact .of_settled hSettled
  · have hUnsettled : ¬Settled (x.mapError (Stop.failure s)) := by
      rw [settled_mapError_iff, hStop]
      exact hLimit
    exact ⟨iff_of_false hUnsettled fun hSame => hUnsettled (hSame ▸ hSettled),
      fun hSuffice => absurd hSuffice hText⟩

/-! Containers that are open. -/

/-- With so many containers open, `rest` is what remains of the text: each of them was opened before. -/
structure Within (text : List Char) (openContainers : Nat) (rest : List Char) : Prop where
  suffix : rest <:+ text
  opened : openContainers + openings rest ≤ openings text

namespace Within

variable {n : Nat} {c : Char} {s rest : List Char}

theorem start (h : rest <:+ text) : Within text 0 rest :=
  ⟨h, by simpa [openings] using h.sublist.countP_le⟩

theorem shorten (h : Within text n s) (hRest : rest <:+ s) : Within text n rest := by
  refine ⟨hRest.trans h.suffix, ?_⟩
  have hFewer : openings rest ≤ openings s := hRest.sublist.countP_le
  have := h.opened
  omega

theorem close (h : Within text (n + 1) s) : Within text n s :=
  ⟨h.suffix, by have := h.opened; omega⟩

/-- The mark at the front of the text opens one more container. -/
theorem deepen (h : Within text n (c :: s)) (hOpening : isOpening c = true) :
    Within text (n + 1) s := by
  refine ⟨(List.suffix_cons c s).trans h.suffix, ?_⟩
  have hCount : openings (c :: s) = openings s + 1 := List.countP_cons_of_pos hOpening
  have := h.opened
  omega

/-- A container is refused only if the text opens too many. -/
theorem opening_bounded (h : Within text n (c :: s)) {opened : List Container}
    (hOpened : opened.length = n) (hOpening : isOpening c = true) (hYields : Yields P y) :
    Bounded limits text P (if limits.tooDeep opened (c :: s) then .error .tooDeep else y)
      (if ({} : Limits).tooDeep opened (c :: s) then .error .tooDeep else y) := by
  change Bounded limits text P _ y
  split
  · next hRefused =>
      refine ⟨hYields, .inr ⟨fun hSuffice => ?_, _, rfl, id⟩⟩
      have hMost := hSuffice.depth opened _ hRefused
      have := (h.deepen hOpening).opened
      omega
  · exact hYields.bounded

end Within

end Reading

end Shorthand
