import Shorthand.Proofs.Json.Limits
import Shorthand.Proofs.Success
import Shorthand.Proofs.Value.Parts

/-! What kinds of values JSON is read as. Whatever holds of the scalars that the reader finds, and of lists
and tables whose parts it holds of, holds of everything on the reader's stack at any time, and so of the
value that it ends with. No date or time is read from JSON. -/

namespace Shorthand.Json

/-- A property that the reader keeps: scalars have it, and so have containers if all that is put into
them has. -/
structure Kept (limits : Limits) (P : Value → Prop) : Prop where
  scalar : ∀ {s v rest}, readScalar limits s = .ok (v, rest) → P v
  list : ∀ {items}, (∀ v ∈ items, P v) → P (.list items)
  table : ∀ {pairs : List (String × Value)}, (∀ e ∈ pairs, P e.2) →
    P (.table (Entries.ofPairs pairs))

section

variable (P : Value → Prop)

def Frame.All : Frame → Prop
  | .list done => ∀ v ∈ done, P v
  | .table done _ => ∀ e ∈ done, P e.2

def Task.All : Task → Prop
  | .read => True
  | .deliver v => P v

/-- The property holds of all values that the reader has finished. -/
structure State.All (state : State) : Prop where
  task : state.task.All P
  stack : ∀ frame ∈ state.stack, frame.All P

def Move.All : Move → Prop
  | .next state => state.All P
  | .finished v _ => P v

end

namespace Kept

variable {limits : Limits} {P : Value → Prop}

theorem openEntry {done : List (String × Value)} {stack : List Frame} {s : List Char} {move : Move}
    (hDone : ∀ e ∈ done, P e.2) (hStack : ∀ frame ∈ stack, frame.All P)
    (h : openEntry done stack s = .ok move) : move.All P := by
  obtain ⟨⟨key, value⟩, _, rfl⟩ := map_eq_ok_iff.1 h
  exact ⟨trivial, List.forall_mem_cons.2 ⟨hDone, hStack⟩⟩

variable (hKept : Kept limits P)
include hKept

theorem openList {stack : List Frame} {s : List Char} {move : Move}
    (hStack : ∀ frame ∈ stack, frame.All P) (h : openList stack s = .ok move) : move.All P := by
  unfold Json.openList at h
  split at h <;> cases h
  · exact ⟨hKept.list (List.forall_mem_nil _), hStack⟩
  · exact ⟨trivial, List.forall_mem_cons.2 ⟨List.forall_mem_nil _, hStack⟩⟩

theorem openTable {stack : List Frame} {s : List Char} {move : Move}
    (hStack : ∀ frame ∈ stack, frame.All P) (h : openTable stack s = .ok move) : move.All P := by
  unfold Json.openTable at h
  split at h
  · cases h
    have hEmpty : P (.table (Entries.ofPairs [])) := hKept.table (List.forall_mem_nil _)
    exact ⟨hEmpty, hStack⟩
  · exact openEntry (List.forall_mem_nil _) hStack h

/-- A container with one more part still has the property in all its parts. -/
theorem take {frame : Frame} {v : Value} {outer : List Frame} {s : List Char} {move : Move}
    (hFrame : frame.All P) (hValue : P v) (hOuter : ∀ frame ∈ outer, frame.All P)
    (h : frame.take v outer s = .ok move) : move.All P := by
  unfold Frame.take at h
  split at h
  · next done rest =>
      cases h
      refine ⟨hKept.list fun w hMem => ?_, hOuter⟩
      exact List.forall_mem_cons.2 ⟨hValue, hFrame⟩ w (List.mem_reverse.1 hMem)
  · next done rest =>
      cases h
      exact ⟨trivial, List.forall_mem_cons.2 ⟨List.forall_mem_cons.2 ⟨hValue, hFrame⟩, hOuter⟩⟩
  · next done key rest =>
      cases h
      have hEntries : ∀ e ∈ (key, v) :: done, P e.2 := List.forall_mem_cons.2 ⟨hValue, hFrame⟩
      exact ⟨hKept.table fun e hMem => hEntries e (List.mem_reverse.1 hMem), hOuter⟩
  · next done key rest =>
      have hEntries : ∀ e ∈ (key, v) :: done, P e.2 := List.forall_mem_cons.2 ⟨hValue, hFrame⟩
      exact openEntry hEntries hOuter h
  · cases h

theorem step {state : State} {move : Move} (hState : state.All P)
    (h : step limits state = .ok move) : move.All P := by
  obtain ⟨hTask, hStack⟩ := hState
  unfold Json.step at h
  split at h
  · next v hDeliver =>
      rw [hDeliver] at hTask
      split at h
      · cases h
        exact hTask
      · next frame outer hOpen =>
          rw [hOpen, List.forall_mem_cons] at hStack
          exact hKept.take hStack.1 hTask hStack.2 h
  · split at h
    · split at h
      · cases h
      · exact hKept.openList hStack h
    · split at h
      · cases h
      · exact hKept.openTable hStack h
    · obtain ⟨⟨v, after⟩, hScalar, rfl⟩ := map_eq_ok_iff.1 h
      exact ⟨hKept.scalar hScalar, hStack⟩

theorem run {state : State} {v : Value} {rest : List Char} (hState : state.All P)
    (h : run limits state = .ok (v, rest)) : P v := by
  rw [run_eq] at h
  obtain ⟨move, hStep, hRest⟩ := bind_eq_ok_iff.1 h
  have hMove := hKept.step hState hStep
  cases move with
  | finished w after =>
      cases hRest
      exact hMove
  | next after =>
      have := step_length hStep
      exact run hMove hRest
termination_by state.rest.length

theorem read {text : List Char} {v : Value} (h : read limits text = .ok v) : P v := by
  obtain ⟨⟨w, rest⟩, hRun, hEnd⟩ := bind_eq_ok_iff.1 (mapError_eq_ok_iff.1 h)
  have hStart : State.All P ⟨.read, [], skipBlanks text⟩ := ⟨trivial, List.forall_mem_nil _⟩
  have hValue : P w := hKept.run hStart hRun
  dsimp only at hEnd
  split at hEnd
  · cases hEnd
    exact hValue
  · cases hEnd

end Kept

theorem undated_words : ∀ e ∈ words, e.2.everywhere Value.isUndated = true := by decide

theorem undated_scalar {limits : Limits} {s rest : List Char} {v : Value}
    (h : readScalar limits s = .ok (v, rest)) : v.everywhere Value.isUndated = true := by
  unfold readScalar at h
  split at h
  · cases h
  · split at h
    · obtain ⟨⟨t, after⟩, _, hSame⟩ := map_eq_ok_iff.1 h
      cases hSame
      rfl
    · split at h
      · next found hWord =>
          cases h
          obtain ⟨e, hMem, hFound⟩ := List.exists_of_findSome?_eq_some hWord
          obtain ⟨after, _, hSame⟩ := Option.map_eq_some_iff.1 hFound
          cases hSame
          exact undated_words e hMem
      · split at h
        · next n after _ =>
            obtain ⟨w, hValue, hSame⟩ := map_eq_ok_iff.1 h
            cases hSame
            unfold Numeral.value at hValue
            split at hValue
            · split at hValue <;> cases hValue
              rfl
            · cases hValue
              rfl
        · cases h

theorem kept_undated (limits : Limits) : Kept limits fun v => v.everywhere Value.isUndated = true where
  scalar := undated_scalar
  list := fun h => Value.everywhere_list_iff.2 ⟨rfl, h⟩
  table := fun h => Value.everywhere_table_iff.2 ⟨rfl, fun e hMem => h e (Entries.mem_of_mem_ofPairs hMem)⟩

/-- No date or time is read. -/
theorem undated_read {limits : Limits} {text : List Char} {v : Value} (h : read limits text = .ok v) :
    v.everywhere Value.isUndated = true :=
  (kept_undated limits).read h

end Shorthand.Json
