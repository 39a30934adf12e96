import Shorthand.Proofs.Toml.Pieces
import Shorthand.Toml.Reader

/-! Reading TOML under limits. As in JSON an integer or a container is what a limit stops; here the
values stand in lines, and every value begins with no container open. -/

namespace Shorthand.Toml

open Reading

variable {limits : Limits} {text s : List Char}

/-- A value without parts is stopped by the limits at an integer alone. -/
theorem readBareScalar_bounded (h : s <:+ text) :
    Bounded limits text (fun p => p.2 <:+ s) (readBareScalar limits s) (readBareScalar {} s) := by
  unfold readBareScalar
  split
  · next hDay =>
      split
      · exact Yields.bounded (readDay_suffix hDay)
      · exact Yields.bounded trivial
  · split
    · next hSpecial => exact Yields.bounded (readSpecial_suffix hSpecial)
    · split
      · next n after hNumeral =>
          exact (Numeral.value_bounded hNumeral h).map fun _ _ => (Numeral.read_eq_some hNumeral).1
      · exact Yields.bounded trivial

theorem readScalar_bounded (h : s <:+ text) :
    Bounded limits text (fun p => p.2 <:+ s) (readScalar limits s) (readScalar {} s) := by
  unfold readScalar
  split
  · exact Yields.bounded trivial
  · next c rest =>
      split
      · refine Yields.bounded ((leaves_readQuoted rest).map fun _ hRest => ?_)
        exact hRest.trans (List.suffix_cons c rest)
      · split
        · refine Yields.bounded ((leaves_readApostrophed rest).map fun _ hRest => ?_)
          exact hRest.trans (List.suffix_cons c rest)
        · exact readBareScalar_bounded h

/-! The machine that reads a value. -/

theorem leaves_readBinding (s : List Char) : Leaves s (readBinding s) := by
  unfold readBinding
  split
  · next hKey => exact (leaves_readKey s).of_error hKey
  · next key rest hKey =>
      have hRest : '=' :: rest <:+ s := (leaves_readKey s).of_ok hKey
      exact ((skipBlanks_suffix rest).trans (List.suffix_cons ..)).trans hRest
  · trivial

/-- The containers on the stack are open, and what remains of the text is a suffix. -/
abbrev State.Keeps (text : List Char) (state : State) : Prop :=
  Within text state.stack.length state.rest

variable {stack : List Frame}

theorem openEntry_yields (table : InlineTable) (h : Within text (stack.length + 1) s) :
    Yields (State.Keeps text) (openEntry table stack s) :=
  (leaves_readBinding s).map fun _ hRest => h.shorten hRest

theorem continueList_yields (done : List Value) (h : Within text (stack.length + 1) s) :
    Yields (State.Keeps text) (continueList done stack s) := by
  refine (skipFiller_yields s).map fun after hAfter => ?_
  have hOpen := h.shorten hAfter
  split
  · exact hOpen.close.shorten (List.suffix_cons ..)
  · exact hOpen

theorem openTable_yields (h : Within text (stack.length + 1) s) :
    Yields (State.Keeps text) (openTable stack s) := by
  have hOpen := h.shorten (skipBlanks_suffix s)
  unfold openTable
  split
  · next rest hRest =>
      rw [hRest] at hOpen
      exact hOpen.close.shorten (List.suffix_cons ..)
  · exact openEntry_yields _ hOpen

theorem takeElement_yields (done : List Value) (h : Within text (stack.length + 1) s) :
    Yields (State.Keeps text) (takeElement done stack s) := by
  unfold takeElement
  split
  · next hFiller => exact (skipFiller_yields s).of_error hFiller
  · next hFiller =>
      exact (h.shorten ((skipFiller_yields s).of_ok hFiller)).close.shorten (List.suffix_cons ..)
  · next hFiller =>
      have hOpen := h.shorten ((skipFiller_yields s).of_ok hFiller)
      exact continueList_yields done (hOpen.shorten (List.suffix_cons ..))
  · trivial

theorem takeEntry_yields (table : InlineTable) (key : Key) (v : Value)
    (h : Within text (stack.length + 1) s) :
    Yields (State.Keeps text) (takeEntry table key v stack s) := by
  have hOpen := h.shorten (skipBlanks_suffix s)
  unfold takeEntry
  split
  · trivial
  · split
    · next rest hRest =>
        rw [hRest] at hOpen
        exact hOpen.close.shorten (List.suffix_cons ..)
    · next rest hRest =>
        rw [hRest] at hOpen
        exact openEntry_yields _
          (hOpen.shorten ((skipBlanks_suffix rest).trans (List.suffix_cons ..)))
    · trivial

theorem startValue_bounded (h : Within text stack.length s) :
    Bounded limits text (State.Keeps text) (startValue limits stack s) (startValue {} stack s) := by
  unfold startValue
  split
  · exact h.opening_bounded (List.length_map _) rfl (continueList_yields [] (h.deepen rfl))
  · exact h.opening_bounded (List.length_map _) rfl (openTable_yields (h.deepen rfl))
  · exact (readScalar_bounded h.suffix).map fun _ hRest => h.shorten hRest

/-- A step under limits is a step without, unless the text has too many opening marks or too long an
integer. -/
theorem step_bounded {state : State} (h : state.Keeps text) :
    Bounded limits text (Sum.elim (State.Keeps text) fun _ => True) (step limits state)
      (step {} state) := by
  unfold step
  split
  · exact Yields.bounded trivial
  · next hStack =>
      rw [State.Keeps, hStack] at h
      refine Yields.bounded ((takeElement_yields _ h).map fun _ hAfter => ?_)
      exact hAfter
  · next hStack =>
      rw [State.Keeps, hStack] at h
      refine Yields.bounded ((takeEntry_yields _ _ _ h).map fun _ hAfter => ?_)
      exact hAfter
  · exact (startValue_bounded h).map fun _ hAfter => hAfter

theorem run_eq (limits : Limits) (state : State) :
    run limits state =
      step limits state >>= Sum.elim (run limits) fun v => .ok (v, state.rest) := by
  rw [run]
  split
  · next hStep =>
      rw [hStep]
      rfl
  · next hStep =>
      rw [hStep]
      rfl
  · next hStep =>
      dsimp only
      rw [hStep]
      rfl

theorem run_bounded {state : State} (h : state.Keeps text) :
    Bounded limits text (fun p => p.2 <:+ text) (run limits state) (run {} state) := by
  rw [run_eq, run_eq]
  refine (step_bounded h).bind fun next hStep hKeeps => ?_
  cases next with
  | inr v => exact Yields.bounded h.suffix
  | inl after =>
      -- The step that takes a character is the one without limits, which is known to succeed.
      have := step_length hStep
      exact run_bounded hKeeps
termination_by state.rest.length

theorem readValue_bounded (h : s <:+ text) :
    Bounded limits text (fun p => p.2 <:+ text) (readValue limits s) (readValue {} s) :=
  run_bounded (.start h)

/-! The lines of a document. -/

theorem readEntry_eq (limits : Limits) (doc : Document) (s : List Char) :
    readEntry limits doc s =
      (readBinding s).bind fun (key, value) => (readValue limits value).bind fun (v, rest) =>
        match doc.bind key v with
        | .error flaw => flawed flaw rest
        | .ok doc => .ok (doc, rest) := by
  unfold readEntry
  cases hBinding : readBinding s with
  | error stop => rfl
  | ok p =>
      dsimp only [Except.bind]
      cases hValue : readValue limits p.2 <;> rfl

theorem readEntry_bounded (doc : Document) (h : s <:+ text) :
    Bounded limits text (fun p => p.2 <:+ text) (readEntry limits doc s) (readEntry {} doc s) := by
  rw [readEntry_eq, readEntry_eq]
  refine (leaves_readBinding s).bounded.bind fun (key, value) _ hValue => ?_
  refine (readValue_bounded (hValue.trans h)).bind fun (v, rest) _ hRest => ?_
  dsimp only
  split
  · exact Yields.bounded trivial
  · exact Yields.bounded hRest

theorem leaves_readSection (enter : Key → Except Flaw Document) (closing : List Char)
    (missing : Flaw) (s : List Char) : Leaves s (readSection enter closing missing s) := by
  unfold readSection
  split
  · next hKey => exact (leaves_readKey _).of_error hKey
  · next key rest hKey =>
      have hRest : rest <:+ skipBlanks s := (leaves_readKey _).of_ok hKey
      split
      · trivial
      · trivial
      · next hClosing =>
          exact ((Text.dropLead?_suffix hClosing).trans hRest).trans (skipBlanks_suffix s)

theorem readStatement_bounded (doc : Document) {c : Char} (h : c :: s <:+ text) :
    Bounded limits text (fun p => p.2 <:+ text) (readStatement limits doc c s)
      (readStatement {} doc c s) := by
  have hRest := (List.suffix_cons c s).trans h
  unfold readStatement
  split
  · split
    · next rest =>
        exact Yields.bounded ((leaves_readSection ..).trans ((List.suffix_cons '[' rest).trans hRest))
    · exact Yields.bounded ((leaves_readSection ..).trans hRest)
  · split
    · exact readEntry_bounded doc h
    · exact Yields.bounded trivial

theorem endLine_yields (s : List Char) : Yields (· <:+ s) (endLine s) := by
  unfold endLine
  split
  · exact List.nil_suffix
  · split
    · exact List.suffix_cons ..
    · trivial

theorem readLine_bounded (doc : Document) {c : Char} (h : c :: s <:+ text) :
    Bounded limits text (fun p => p.2 <:+ text) (readLine limits doc c s)
      (readLine {} doc c s) := by
  have hFinish : ∀ (after : Document) (rest : List Char), rest <:+ text →
      Yields (fun p => p.2 <:+ text) (endLine rest >>= fun line => .ok (after, line)) := by
    intro after rest hRest
    exact (endLine_yields rest).bind fun line hLine => hLine.trans hRest
  unfold readLine
  split
  · refine Yields.bounded ((finishComment_yields s).bind fun rest hRest => ?_)
    exact hFinish doc rest (hRest.trans ((List.suffix_cons c s).trans h))
  · refine (readStatement_bounded doc h).bind fun (after, behind) _ hBehind => ?_
    refine Yields.bounded ((skipComment_yields _).bind fun rest hRest => ?_)
    exact hFinish after rest (hRest.trans ((skipBlanks_suffix behind).trans hBehind))

theorem readLines_eq (limits : Limits) (doc : Document) (s : List Char) :
    readLines limits doc s =
      match skipBlanks s with
      | [] => .ok doc
      | c :: rest =>
        if c = '\n' then readLines limits doc rest
        else readLine limits doc c rest >>= fun p => readLines limits p.1 p.2 := by
  rw [readLines]
  split
  · next hLine => rw [hLine]
  · next c rest hLine =>
      dsimp only
      rw [hLine]
      dsimp only
      split
      · rfl
      · split
        · next hRead =>
            rw [hRead]
            rfl
        · next hRead =>
            rw [hRead]
            rfl

theorem readLines_bounded (doc : Document) {s : List Char} (h : s <:+ text) :
    Bounded limits text (fun _ => True) (readLines limits doc s) (readLines {} doc s) := by
  rw [readLines_eq, readLines_eq]
  split
  · exact Yields.bounded trivial
  · next c rest hLine =>
      have hLineSuffix : c :: rest <:+ s := hLine ▸ skipBlanks_suffix s
      have hShort : rest.length < s.length := hLineSuffix.length_le
      split
      · exact readLines_bounded doc (((List.suffix_cons c rest).trans hLineSuffix).trans h)
      · refine (readLine_bounded doc (hLineSuffix.trans h)).bind ?_
        rintro ⟨next, after⟩ hRead hAfter
        have := readLine_length hRead
        exact readLines_bounded next hAfter
termination_by s.length

theorem read_eq (limits : Limits) (text : List Char) :
    read limits text =
      ((readLines limits .empty text).map Document.root).mapError (Stop.failure text) := by
  unfold read
  split
  · next hLines =>
      rw [hLines]
      rfl
  · next hLines =>
      rw [hLines]
      rfl

/-- Limits never change what a text says, and stop no text that they suffice for. -/
theorem read_faithful (limits : Limits) (text : List Char) :
    Faithful limits text (read limits text) (read {} text) := by
  rw [read_eq, read_eq]
  have hLines : Bounded limits text (fun _ => True) (readLines limits .empty text)
      (readLines {} .empty text) := readLines_bounded .empty List.suffix_rfl
  exact (hLines.map (Q := fun _ => True) fun _ _ => trivial).faithful text

end Shorthand.Toml
