import Shorthand.Json.Lexeme
import Shorthand.Text.Lead
import Shorthand.Value.Literal

/-!
Reading JSON. The reader is a machine with a stack of containers that are still open: a step either
reads the next value or hands a finished one to the innermost container. Every step takes at least
one character, and positions of faults are counted once, at the end.

Numbers with a fraction or an exponent are floating-point, all others integers; `NaN`, `Infinity`
and `-Infinity` are read too. Where a table has a key twice the last value counts.
-/

namespace Shorthand.Json

/-- A container that is still open. -/
inductive Frame where
  /-- A list with the elements read so far, the latest first. -/
  | list (done : List Value)
  /-- A table with the entries read so far, the latest first, and the key whose value is read. -/
  | table (done : List (String × Value)) (key : String)

/-- The kind of the container that is open. -/
def Frame.container : Frame → Container
  | .list _ => .list
  | .table _ _ => .table

/-- What the reader does next: read a value, or hand a finished one to the innermost container. -/
inductive Task where
  | read
  | deliver (v : Value)

/-- The words that are values. -/
def words : List (List Char × Value) :=
  [("null".toList, .null), ("true".toList, .bool true), ("false".toList, .bool false),
    ("NaN".toList, .float .nan), ("Infinity".toList, .float (.infinity false)),
    ("-Infinity".toList, .float (.infinity true))]

/-- A value without parts: a text, a word or a number. -/
def readScalar (limits : Limits) (s : List Char) : Except Stop (Value × List Char) :=
  match s with
  | [] => .error (.malformed .expectingValue s)
  | c :: rest =>
    if c = '"' then (readText s "" rest).map fun (t, after) => (.text t, after)
    else
      match Text.leadingWord? words s with
      | some found => .ok found
      | none =>
        match Numeral.read numberFormat s with
        | some (n, after) => (n.value limits).map (·, after)
        | none => .error (.malformed .expectingValue s)

/-- A key with its colon, and the value's text behind it. -/
def readKey (s : List Char) : Except Stop (String × List Char) :=
  match s with
  | [] => .error (.malformed .expectingKey s)
  | c :: rest =>
    if c = '"' then do
      let (key, after) ← readText s "" rest
      match skipBlanks after with
      | ':' :: value => .ok (key, skipBlanks value)
      | other => .error (.malformed .expectingColon other)
    else .error (.malformed .expectingKey s)

/-- The reader between two steps. -/
structure State where
  task : Task
  stack : List Frame
  rest : List Char

/-- A step leads to another state, or ends with the whole value and what follows it. -/
inductive Move where
  | next (state : State)
  | finished (v : Value) (rest : List Char)

/-- Starts the entry whose key stands at the front of the text. -/
def openEntry (done : List (String × Value)) (stack : List Frame) (s : List Char) :
    Except Stop Move :=
  (readKey s).map fun (key, value) => .next ⟨.read, .table done key :: stack, value⟩

/-- Opens a list whose bracket has been read. An empty one is finished at once. -/
def openList (stack : List Frame) (s : List Char) : Except Stop Move :=
  match s with
  | ']' :: rest => .ok (.next ⟨.deliver (.list []), stack, rest⟩)
  | _ => .ok (.next ⟨.read, .list [] :: stack, s⟩)

/-- Opens a table whose brace has been read. An empty one is finished at once. -/
def openTable (stack : List Frame) (s : List Char) : Except Stop Move :=
  match s with
  | '}' :: rest => .ok (.next ⟨.deliver (.table []), stack, rest⟩)
  | _ => openEntry [] stack s

/-- Adds a finished value to a container; `s` begins with what follows it, which is a comma or the
container's closing mark. -/
def Frame.take (frame : Frame) (v : Value) (outer : List Frame) (s : List Char) :
    Except Stop Move :=
  match frame, s with
  | .list done, ']' :: rest => .ok (.next ⟨.deliver (.list (v :: done).reverse), outer, rest⟩)
  | .list done, ',' :: rest => .ok (.next ⟨.read, .list (v :: done) :: outer, skipBlanks rest⟩)
  | .table done key, '}' :: rest =>
    .ok (.next ⟨.deliver (.table (Entries.ofPairs ((key, v) :: done).reverse)), outer, rest⟩)
  | .table done key, ',' :: rest => openEntry ((key, v) :: done) outer (skipBlanks rest)
  | _, _ => .error (.malformed .expectingComma s)

/-- One step of the reader. -/
def step (limits : Limits) (state : State) : Except Stop Move :=
  match state.task with
  | .deliver v =>
    match state.stack with
    | [] => .ok (.finished v state.rest)
    | frame :: outer => frame.take v outer (skipBlanks state.rest)
  | .read =>
    match state.rest with
    | '[' :: rest =>
      if limits.tooDeep (state.stack.map Frame.container) state.rest then .error .tooDeep
      else openList state.stack (skipBlanks rest)
    | '{' :: rest =>
      if limits.tooDeep (state.stack.map Frame.container) state.rest then .error .tooDeep
      else openTable state.stack (skipBlanks rest)
    | s =>
      (readScalar limits s).map fun (v, after) => .next ⟨.deliver v, state.stack, after⟩

theorem skipBlanks_length (s : List Char) : (skipBlanks s).length ≤ s.length :=
  (List.dropWhile_sublist _).length_le

theorem words_ne_nil : ∀ e ∈ words, e.1 ≠ [] := by
  simp [words]

theorem readScalar_length {limits : Limits} {s rest : List Char} {v : Value}
    (h : readScalar limits s = .ok (v, rest)) : rest.length < s.length := by
  unfold readScalar at h
  split at h
  · cases h
  · next c s =>
    split at h
    · obtain ⟨⟨t, after⟩, hText, hEq⟩ := map_eq_ok_iff.1 h
      cases hEq
      have := readText_length hText
      simp only [List.length_cons]
      omega
    · split at h
      · next hWord =>
        cases h
        exact Text.leadingWord?_length words_ne_nil hWord
      · split at h
        · next n after hNumeral =>
          obtain ⟨w, _, hEq⟩ := map_eq_ok_iff.1 h
          cases hEq
          exact Numeral.read_length hNumeral
        · cases h

theorem readKey_length {s rest : List Char} {k : String} (h : readKey s = .ok (k, rest)) :
    rest.length < s.length := by
  unfold readKey at h
  split at h
  · cases h
  · next c s =>
    split at h
    · obtain ⟨⟨t, after⟩, hText, h⟩ := bind_eq_ok_iff.1 h
      have hFound := readText_length hText
      have hBlank := skipBlanks_length after
      dsimp only at h
      split at h
      · next value hValue =>
        have := skipBlanks_length value
        rw [hValue, List.length_cons] at hBlank
        cases h
        simp only [List.length_cons]
        omega
      · cases h
    · cases h

theorem openEntry_length {done : List (String × Value)} {stack : List Frame} {s : List Char}
    {after : State} (h : openEntry done stack s = .ok (.next after)) :
    after.rest.length < s.length := by
  obtain ⟨⟨key, value⟩, hKey, hEq⟩ := map_eq_ok_iff.1 h
  cases hEq
  exact readKey_length hKey

theorem take_length {frame : Frame} {v : Value} {outer : List Frame} {s : List Char}
    {after : State} (h : frame.take v outer s = .ok (.next after)) :
    after.rest.length < s.length := by
  unfold Frame.take at h
  split at h
  · simp only [Except.ok.injEq, Move.next.injEq] at h
    simp [← h]
  · next rest =>
    simp only [Except.ok.injEq, Move.next.injEq] at h
    have := skipBlanks_length rest
    simp only [← h, List.length_cons]
    omega
  · simp only [Except.ok.injEq, Move.next.injEq] at h
    simp [← h]
  · next rest =>
    have := openEntry_length h
    have := skipBlanks_length rest
    simp only [List.length_cons]
    omega
  · cases h

/-- Every step takes at least one character. -/
theorem step_length {limits : Limits} {state after : State}
    (h : step limits state = .ok (.next after)) : after.rest.length < state.rest.length := by
  unfold step at h
  split at h
  · split at h
    · cases h
    · have := take_length h
      have := skipBlanks_length state.rest
      omega
  · split at h
    · next rest hRest =>
      have hBlank := skipBlanks_length rest
      rw [hRest]
      split at h
      · cases h
      · unfold openList at h
        split at h
        · next after hAfter =>
          rw [hAfter] at hBlank
          simp only [Except.ok.injEq, Move.next.injEq] at h
          simp only [← h, List.length_cons] at hBlank ⊢
          omega
        · simp only [Except.ok.injEq, Move.next.injEq] at h
          simp only [← h, List.length_cons]
          omega
    · next rest hRest =>
      have hBlank := skipBlanks_length rest
      rw [hRest]
      split at h
      · cases h
      · unfold openTable at h
        split at h
        · next after hAfter =>
          rw [hAfter] at hBlank
          simp only [Except.ok.injEq, Move.next.injEq] at h
          simp only [← h, List.length_cons] at hBlank ⊢
          omega
        · have := openEntry_length h
          simp only [List.length_cons]
          omega
    · obtain ⟨⟨v, after⟩, hScalar, hEq⟩ := map_eq_ok_iff.1 h
      cases hEq
      exact readScalar_length hScalar

/-- Steps until the value is finished. -/
def run (limits : Limits) (state : State) : Except Stop (Value × List Char) :=
  match h : step limits state with
  | .error stop => .error stop
  | .ok (.finished v rest) => .ok (v, rest)
  | .ok (.next after) =>
    have := step_length h
    run limits after
termination_by state.rest.length

/-- One value and nothing else but blanks around it. -/
def readDocument (limits : Limits) (text : List Char) : Except Stop Value := do
  let (v, rest) ← run limits ⟨.read, [], skipBlanks text⟩
  match skipBlanks rest with
  | [] => .ok v
  | other => .error (.malformed .extraData other)

/-- The value of a text. -/
def read (limits : Limits) (text : List Char) : Except Failure Value :=
  (readDocument limits text).mapError (Reading.Stop.failure text)

/-- The value of a text that must not begin with a byte order mark. -/
def readUnmarked (limits : Limits) (text : List Char) : Except Failure Value :=
  match text with
  | '\ufeff' :: _ => .error (.malformed .byteOrderMark 0)
  | _ => read limits text

end Shorthand.Json
