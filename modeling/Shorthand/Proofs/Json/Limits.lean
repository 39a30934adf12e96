import Shorthand.Json.Reader
import Shorthand.Proofs.Reading.Numeral

/-! Reading JSON under limits. No piece of the reader stops for anything but a flaw, except where an
integer ends or a container begins; the steps of the machine keep count of the containers. -/

namespace Shorthand.Json

open Reading

/-! The pieces that know of no limits. -/

variable {s rest : List Char}

theorem readFourHex_suffix {n : Nat} (h : readFourHex s = some (n, rest)) : rest <:+ s := by
  unfold readFourHex at h
  split at h
  · next a b c d _ =>
      obtain ⟨_, _, hEq⟩ := Option.map_eq_some_iff.1 h
      cases hEq
      exact List.suffix_append [a, b, c, d] rest
  · cases h

theorem secondUnit?_suffix (h : secondUnit? s = some rest) : rest <:+ s := by
  unfold secondUnit? at h
  split at h
  · next a b _ =>
      split at h
      · cases h
        exact List.suffix_append [a, b] rest
      · cases h
  · cases h

theorem leaves_readLowHalf (high : Nat) (s : List Char) : Leaves s (readLowHalf high s) := by
  unfold readLowHalf
  split
  · exact List.suffix_rfl
  · next second hSecond =>
      split
      · trivial
      · next low after hAfter =>
          split
          · exact (readFourHex_suffix hAfter).trans (secondUnit?_suffix hSecond)
          · exact List.suffix_rfl

theorem leaves_readUnit (unitAt s : List Char) : Leaves s (readUnit unitAt s) := by
  unfold readUnit
  split
  · trivial
  · next unit after hAfter =>
      have hSuffix := readFourHex_suffix hAfter
      split
      · trivial
      · split
        · exact (leaves_readLowHalf unit after).trans hSuffix
        · exact hSuffix

theorem leaves_readEscape (quoteAt slashAt s : List Char) :
    Leaves s (readEscape quoteAt slashAt s) := by
  unfold readEscape
  split
  · trivial
  · exact (leaves_readUnit ..).trans (List.suffix_cons ..)
  · split
    · exact List.suffix_cons ..
    · trivial

theorem leaves_readText (quoteAt : List Char) (done : String) (s : List Char) :
    Leaves s (readText quoteAt done s) := by
  fun_induction readText quoteAt done s with
  | case1 => trivial
  | case2 done rest => exact List.suffix_cons ..
  | case3 done rest e after _ hEscape _ ih =>
      have hSuffix : after <:+ rest := (leaves_readEscape ..).of_ok hEscape
      split
      · next hAgain =>
          cases hEscape.symm.trans hAgain
          exact ih.trans (hSuffix.trans (List.suffix_cons ..))
      · next hAgain => cases hEscape.symm.trans hAgain
  | case4 done rest stop _ hEscape =>
      split
      · next hAgain => cases hEscape.symm.trans hAgain
      · next hAgain => exact (leaves_readEscape ..).of_error hAgain
  | case5 => trivial
  | case6 done c rest _ _ _ ih => exact ih.trans (List.suffix_cons ..)

theorem skipBlanks_suffix (s : List Char) : skipBlanks s <:+ s :=
  List.dropWhile_suffix _

theorem leaves_readKey (s : List Char) : Leaves s (readKey s) := by
  unfold readKey
  split
  · trivial
  · next c rest =>
      split
      · refine Yields.bind (leaves_readText _ "" rest) ?_
        rintro ⟨key, after⟩ hAfter
        dsimp only
        split
        · next value hValue =>
            have hBlank := skipBlanks_suffix after
            rw [hValue] at hBlank
            calc skipBlanks value
              _ <:+ value := skipBlanks_suffix value
              _ <:+ ':' :: value := List.suffix_cons ..
              _ <:+ after := hBlank
              _ <:+ rest := hAfter
              _ <:+ c :: rest := List.suffix_cons ..
        · trivial
      · trivial

/-! Under limits. -/

variable {limits : Limits} {text : List Char}

/-- A value without parts is stopped by the limits at an integer alone. -/
theorem readScalar_bounded (h : s <:+ text) :
    Bounded limits text (fun p => p.2 <:+ s) (readScalar limits s) (readScalar {} s) := by
  unfold readScalar
  split
  · exact Yields.bounded trivial
  · next c rest =>
      split
      · refine Yields.bounded ((leaves_readText ..).map fun _ hRest => ?_)
        exact hRest.trans (List.suffix_cons c rest)
      · split
        · next hWord => exact Yields.bounded (Text.leadingWord?_suffix hWord)
        · split
          · next n after hNumeral =>
              exact (Numeral.value_bounded hNumeral h).map fun _ _ => (Numeral.read_eq_some hNumeral).1
          · exact Yields.bounded trivial

/-! The machine. -/

/-- The containers on the stack are open, and what remains of the text is a suffix. -/
def Move.Keeps (text : List Char) : Move → Prop
  | .next state => Within text state.stack.length state.rest
  | .finished _ rest => rest <:+ text

variable {stack : List Frame}

theorem openEntry_yields (done : List (String × Value)) (h : Within text (stack.length + 1) s) :
    Yields (Move.Keeps text) (openEntry done stack s) :=
  (leaves_readKey s).map fun _ hRest => h.shorten hRest

theorem openList_yields (h : Within text (stack.length + 1) s) :
    Yields (Move.Keeps text) (openList stack s) := by
  unfold openList
  split
  · exact h.close.shorten (List.suffix_cons ..)
  · exact h

theorem openTable_yields (h : Within text (stack.length + 1) s) :
    Yields (Move.Keeps text) (openTable stack s) := by
  unfold openTable
  split
  · exact h.close.shorten (List.suffix_cons ..)
  · exact openEntry_yields [] h

theorem take_yields (frame : Frame) (v : Value) (h : Within text (stack.length + 1) s) :
    Yields (Move.Keeps text) (frame.take v stack s) := by
  unfold Frame.take
  split
  · exact h.close.shorten (List.suffix_cons ..)
  · exact h.shorten ((skipBlanks_suffix _).trans (List.suffix_cons ..))
  · exact h.close.shorten (List.suffix_cons ..)
  · exact openEntry_yields _ (h.shorten ((skipBlanks_suffix _).trans (List.suffix_cons ..)))
  · trivial

/-- A step under limits is a step without, unless the text has too many opening marks or too long an
integer. -/
theorem step_bounded {state : State} (h : Within text state.stack.length state.rest) :
    Bounded limits text (Move.Keeps text) (step limits state) (step {} state) := by
  unfold step
  split
  · next v _ =>
      split
      · exact Yields.bounded h.suffix
      · next frame outer hStack =>
          rw [hStack] at h
          exact (take_yields frame v (h.shorten (skipBlanks_suffix _))).bounded
  · split
    · next rest hRest =>
        rw [hRest] at h ⊢
        exact h.opening_bounded (List.length_map _) rfl
          (openList_yields ((h.deepen rfl).shorten (skipBlanks_suffix rest)))
    · next rest hRest =>
        rw [hRest] at h ⊢
        exact h.opening_bounded (List.length_map _) rfl
          (openTable_yields ((h.deepen rfl).shorten (skipBlanks_suffix rest)))
    · exact (readScalar_bounded h.suffix).map fun _ hAfter => h.shorten hAfter

/-- What follows a move. -/
def Move.goOn (limits : Limits) : Move → Except Stop (Value × List Char)
  | .finished v rest => .ok (v, rest)
  | .next state => run limits state

theorem run_eq (limits : Limits) (state : State) :
    run limits state = step limits state >>= Move.goOn limits := by
  rw [run]
  split
  · next hStep =>
      rw [hStep]
      rfl
  · next hStep =>
      rw [hStep]
      rfl
  · next hStep =>
      dsimp only
      rw [hStep]
      rfl

theorem run_bounded {state : State} (h : Within text state.stack.length state.rest) :
    Bounded limits text (fun p => p.2 <:+ text) (run limits state) (run {} state) := by
  rw [run_eq, run_eq]
  refine (step_bounded h).bind fun move hStep hKeeps => ?_
  cases move with
  | finished v rest => exact Yields.bounded hKeeps
  | next after =>
      -- The step that takes a character is the one without limits, which is known to succeed.
      have := step_length hStep
      exact run_bounded hKeeps
termination_by state.rest.length

theorem readDocument_bounded :
    Bounded limits text (fun _ => True) (readDocument limits text) (readDocument {} text) := by
  unfold readDocument
  refine (run_bounded (.start (skipBlanks_suffix text))).bind fun (v, rest) _ _ => ?_
  dsimp only
  split
  · exact Yields.bounded trivial
  · exact Yields.bounded trivial

/-- Limits never change what a text says, and stop no text that they suffice for. -/
theorem readUnmarked_faithful (limits : Limits) (text : List Char) :
    Faithful limits text (readUnmarked limits text) (readUnmarked {} text) := by
  unfold readUnmarked
  split
  · exact .of_settled trivial
  · exact readDocument_bounded.faithful text

end Shorthand.Json
