import Shorthand.Toml.Document
import Shorthand.Toml.Scalar

/-!
Reading TOML. A value is read by a machine with a stack of the lists and tables that are still open;
each of its steps takes at least one character. The document is read line by line.
-/

namespace Shorthand.Toml

/-- A list or a table in braces that is still open. -/
inductive Frame where
  /-- A list with the elements read so far, the latest first. -/
  | list (done : List Value)
  /-- A table, and the key whose value is read. -/
  | table (table : InlineTable) (key : Key)

/-- The kind of the container that is open. -/
def Frame.container : Frame → Container
  | .list _ => .list
  | .table _ _ => .table

/-- What the reader does next: read a value, or hand a finished one to the innermost container. -/
inductive Task where
  | read
  | deliver (v : Value)

/-- The reader between two steps. -/
structure State where
  task : Task
  stack : List Frame
  rest : List Char

/-- A key with its equals sign, and the value's text behind it. -/
def readBinding (s : List Char) : Lexed Key :=
  match readKey s with
  | .error stop => .error stop
  | .ok (key, '=' :: rest) => .ok (key, skipBlanks rest)
  | .ok (_, other) => flawed .expectedEquals other

/-- Starts the entry of a table whose key stands at the front of the text. -/
def openEntry (table : InlineTable) (stack : List Frame) (s : List Char) : Except Stop State :=
  (readBinding s).map fun (key, value) => ⟨.read, .table table key :: stack, value⟩

/-- Goes on with a list: either it ends here, or another value follows. -/
def continueList (done : List Value) (stack : List Frame) (s : List Char) : Except Stop State :=
  (skipFiller s).map fun after =>
    match after with
    | ']' :: rest => ⟨.deliver (.list done.reverse), stack, rest⟩
    | _ => ⟨.read, .list done :: stack, after⟩

/-- Opens a table whose brace has been read. An empty one is finished at once. -/
def openTable (stack : List Frame) (s : List Char) : Except Stop State :=
  match skipBlanks s with
  | '}' :: rest => .ok ⟨.deliver (.table []), stack, rest⟩
  | after => openEntry ⟨[], []⟩ stack after

/-- Adds an element to a list; a comma or the closing mark must follow. -/
def takeElement (done : List Value) (stack : List Frame) (s : List Char) : Except Stop State :=
  match skipFiller s with
  | .error stop => .error stop
  | .ok (']' :: rest) => .ok ⟨.deliver (.list done.reverse), stack, rest⟩
  | .ok (',' :: rest) => continueList done stack rest
  | .ok other => flawed .unclosedArray other

/-- Adds an entry to a table; a comma or the closing mark must follow, and behind a comma another
entry. -/
def takeEntry (table : InlineTable) (key : Key) (v : Value) (stack : List Frame)
    (s : List Char) : Except Stop State :=
  match table.bind key v with
  | .error flaw => flawed flaw s
  | .ok table =>
    match skipBlanks s with
    | '}' :: rest => .ok ⟨.deliver (.table table.entries), stack, rest⟩
    | ',' :: rest => openEntry table stack (skipBlanks rest)
    | other => flawed .unclosedInlineTable other

/-- Reads a value without parts, or opens a container. -/
def startValue (limits : Limits) (stack : List Frame) (s : List Char) : Except Stop State :=
  match s with
  | '[' :: rest =>
    if limits.tooDeep (stack.map Frame.container) s then .error .tooDeep
    else continueList [] stack rest
  | '{' :: rest =>
    if limits.tooDeep (stack.map Frame.container) s then .error .tooDeep else openTable stack rest
  | _ => (readScalar limits s).map fun (v, after) => ⟨.deliver v, stack, after⟩

/-- One step of the reader: another state, or the finished value. -/
def step (limits : Limits) (state : State) : Except Stop (State ⊕ Value) :=
  match state.task, state.stack with
  | .deliver v, [] => .ok (.inr v)
  | .deliver v, .list done :: outer => (takeElement (v :: done) outer state.rest).map .inl
  | .deliver v, .table table key :: outer => (takeEntry table key v outer state.rest).map .inl
  | .read, stack => (startValue limits stack state.rest).map .inl

theorem readBinding_length {s rest : List Char} {k : Key}
    (h : readBinding s = .ok (k, rest)) : rest.length < s.length := by
  unfold readBinding at h
  split at h
  · cases h
  · next after hKey =>
    have := readKey_length hKey
    have := skipBlanks_length after
    simp only [Except.ok.injEq, Prod.mk.injEq] at h
    simp only [List.length_cons, ← h.2] at *
    omega
  · cases h

theorem openEntry_length {table : InlineTable} {stack : List Frame} {s : List Char}
    {after : State} (h : openEntry table stack s = .ok after) :
    after.rest.length < s.length := by
  obtain ⟨⟨key, value⟩, hKey, hEq⟩ := map_eq_ok_iff.1 h
  cases hEq
  exact readBinding_length hKey

theorem continueList_length {done : List Value} {stack : List Frame} {s : List Char}
    {after : State} (h : continueList done stack s = .ok after) :
    after.rest.length ≤ s.length := by
  obtain ⟨found, hFiller, hEq⟩ := map_eq_ok_iff.1 h
  have hShort := skipFiller_length hFiller
  split at hEq
  · cases hEq
    simp only [List.length_cons] at hShort ⊢
    omega
  · cases hEq
    exact hShort

theorem openTable_length {stack : List Frame} {s : List Char} {after : State}
    (h : openTable stack s = .ok after) : after.rest.length ≤ s.length := by
  have hBlank := skipBlanks_length s
  unfold openTable at h
  split at h
  · next rest hRest =>
    cases h
    rw [hRest, List.length_cons] at hBlank
    dsimp only
    omega
  · have := openEntry_length h
    omega

theorem takeElement_length {done : List Value} {stack : List Frame} {s : List Char}
    {after : State} (h : takeElement done stack s = .ok after) :
    after.rest.length < s.length := by
  unfold takeElement at h
  split at h
  · cases h
  · next rest hFiller =>
    have hShort := skipFiller_length hFiller
    cases h
    simp only [List.length_cons] at hShort ⊢
    omega
  · next rest hFiller =>
    have hShort := skipFiller_length hFiller
    have := continueList_length h
    simp only [List.length_cons] at hShort
    omega
  · cases h

theorem takeEntry_length {table : InlineTable} {key : Key} {v : Value} {stack : List Frame}
    {s : List Char} {after : State} (h : takeEntry table key v stack s = .ok after) :
    after.rest.length < s.length := by
  have hBlank := skipBlanks_length s
  unfold takeEntry at h
  split at h
  · cases h
  · split at h
    · next rest hRest =>
      cases h
      rw [hRest, List.length_cons] at hBlank
      dsimp only
      omega
    · next rest hRest =>
      have := openEntry_length h
      have := skipBlanks_length rest
      rw [hRest, List.length_cons] at hBlank
      omega
    · cases h

theorem startValue_length {limits : Limits} {stack : List Frame} {s : List Char} {after : State}
    (h : startValue limits stack s = .ok after) : after.rest.length < s.length := by
  unfold startValue at h
  split at h
  · rw [List.length_cons]
    split at h
    · cases h
    · have := continueList_length h
      omega
  · rw [List.length_cons]
    split at h
    · cases h
    · have := openTable_length h
      omega
  · obtain ⟨⟨v, rest⟩, hScalar, hEq⟩ := map_eq_ok_iff.1 h
    cases hEq
    exact readScalar_length hScalar

/-- Every step takes at least one character. -/
theorem step_length {limits : Limits} {state after : State}
    (h : step limits state = .ok (.inl after)) : after.rest.length < state.rest.length := by
  unfold step at h
  split at h
  · cases h
  · obtain ⟨_, h, hEq⟩ := map_eq_ok_iff.1 h
    cases hEq
    exact takeElement_length h
  · obtain ⟨_, h, hEq⟩ := map_eq_ok_iff.1 h
    cases hEq
    exact takeEntry_length h
  · obtain ⟨_, h, hEq⟩ := map_eq_ok_iff.1 h
    cases hEq
    exact startValue_length h

/-- Steps until the value is finished. -/
def run (limits : Limits) (state : State) : Lexed Value :=
  match h : step limits state with
  | .error stop => .error stop
  | .ok (.inr v) => .ok (v, state.rest)
  | .ok (.inl after) =>
    have := step_length h
    run limits after
termination_by state.rest.length

theorem run_length {limits : Limits} {state : State} {v : Value} {rest : List Char}
    (h : run limits state = .ok (v, rest)) : rest.length ≤ state.rest.length := by
  fun_induction run limits state with
  | case1 => cases h
  | case2 state w hStep =>
    cases h
    exact Nat.le_refl _
  | case3 state after hStep hShort ih =>
    have := ih h
    omega

/-- A value and what follows it. -/
def readValue (limits : Limits) (s : List Char) : Lexed Value := run limits ⟨.read, [], s⟩

/-- An entry of the section that is open. -/
def readEntry (limits : Limits) (doc : Document) (s : List Char) : Lexed Document :=
  match readBinding s with
  | .error stop => .error stop
  | .ok (key, value) =>
    match readValue limits value with
    | .error stop => .error stop
    | .ok (v, rest) =>
      match doc.bind key v with
      | .error flaw => flawed flaw rest
      | .ok doc => .ok (doc, rest)

/-- The opening of a section, behind its opening mark: the key, and then the closing mark. -/
def readSection (enter : Key → Except Flaw Document) (closing : List Char) (missing : Flaw)
    (s : List Char) : Lexed Document :=
  match readKey (skipBlanks s) with
  | .error stop => .error stop
  | .ok (key, rest) =>
    match enter key, Text.dropLead? closing rest with
    | .error flaw, _ => flawed flaw rest
    | .ok _, none => flawed missing rest
    | .ok doc, some after => .ok (doc, after)

/-- Whether a key can begin with the character. -/
def startsKey (c : Char) : Bool := isBare c || c = '"' || c = '\''

/-- A statement, of which the first character is given. -/
def readStatement (limits : Limits) (doc : Document) (c : Char) (s : List Char) :
    Lexed Document :=
  if c = '[' then
    match s with
    | '[' :: rest => readSection doc.openArray "]]".toList .expectedArrayEnd rest
    | _ => readSection doc.openTable "]".toList .expectedTableEnd s
  else if startsKey c then readEntry limits doc (c :: s)
  else flawed .invalidStatement (c :: s)

/-- The end of a line: a newline or the end of the text. -/
def endLine (s : List Char) : Except Stop (List Char) :=
  match s with
  | [] => .ok []
  | c :: rest => if c = '\n' then .ok rest else flawed .expectedNewline s

/-- A line, of which the first character is given: a comment, or a statement and perhaps a comment
behind it. -/
def readLine (limits : Limits) (doc : Document) (c : Char) (s : List Char) :
    Except Stop (Document × List Char) :=
  if c = '#' then do
    let rest ← finishComment s
    let after ← endLine rest
    .ok (doc, after)
  else do
    let (doc, rest) ← readStatement limits doc c s
    let rest ← skipComment (skipBlanks rest)
    let after ← endLine rest
    .ok (doc, after)

theorem readEntry_length {limits : Limits} {doc after : Document} {s rest : List Char}
    (h : readEntry limits doc s = .ok (after, rest)) : rest.length < s.length := by
  unfold readEntry at h
  split at h
  · cases h
  · next key value hBinding =>
    have hShort := readBinding_length hBinding
    split at h
    · cases h
    · next v behind hValue =>
      have hRest : behind.length ≤ value.length := run_length hValue
      split at h
      · cases h
      · simp only [Except.ok.injEq, Prod.mk.injEq] at h
        rw [← h.2]
        omega

theorem readSection_length {enter : Key → Except Flaw Document} {closing : List Char}
    {missing : Flaw} {s rest : List Char} {doc : Document}
    (h : readSection enter closing missing s = .ok (doc, rest)) : rest.length ≤ s.length := by
  unfold readSection at h
  split at h
  · cases h
  · next key behind hKey =>
    have := readKey_length hKey
    have := skipBlanks_length s
    split at h
    · cases h
    · cases h
    · next hClosing =>
      have := Text.dropLead?_length hClosing
      cases h
      omega

theorem readStatement_length {limits : Limits} {doc d : Document} {c : Char}
    {s rest : List Char} (h : readStatement limits doc c s = .ok (d, rest)) :
    rest.length ≤ s.length := by
  unfold readStatement at h
  split at h
  · split at h
    · have := readSection_length h
      simp only [List.length_cons]
      omega
    · exact readSection_length h
  · split at h
    · have := readEntry_length h
      simp only [List.length_cons] at this
      omega
    · cases h

theorem skipComment_length {s rest : List Char} (h : skipComment s = .ok rest) :
    rest.length ≤ s.length := by
  unfold skipComment at h
  split at h
  · cases h
    exact Nat.le_refl _
  · split at h
    · have := finishComment_length h
      simp only [List.length_cons]
      omega
    · cases h
      exact Nat.le_refl _

theorem endLine_length {s rest : List Char} (h : endLine s = .ok rest) :
    rest.length ≤ s.length := by
  unfold endLine at h
  split at h
  · cases h
    exact Nat.le_refl _
  · split at h
    · cases h
      simp
    · cases h

theorem readLine_length {limits : Limits} {doc after : Document} {c : Char} {s rest : List Char}
    (h : readLine limits doc c s = .ok (after, rest)) : rest.length ≤ s.length := by
  unfold readLine at h
  split at h
  · obtain ⟨behind, hComment, h⟩ := bind_eq_ok_iff.1 h
    obtain ⟨final, hEnd, h⟩ := bind_eq_ok_iff.1 h
    have := finishComment_length hComment
    have := endLine_length hEnd
    cases h
    omega
  · obtain ⟨⟨doc, behind⟩, hStatement, h⟩ := bind_eq_ok_iff.1 h
    obtain ⟨behindComment, hComment, h⟩ := bind_eq_ok_iff.1 h
    obtain ⟨final, hEnd, h⟩ := bind_eq_ok_iff.1 h
    have := readStatement_length hStatement
    have := skipBlanks_length behind
    have := skipComment_length hComment
    have := endLine_length hEnd
    cases h
    omega

/-- The lines of a text, one after the other, onto a document. -/
def readLines (limits : Limits) (doc : Document) (s : List Char) : Except Stop Document :=
  match hLine : skipBlanks s with
  | [] => .ok doc
  | c :: rest =>
    have hShort : rest.length < s.length := by
      have := skipBlanks_length s
      rw [hLine, List.length_cons] at this
      omega
    if c = '\n' then readLines limits doc rest
    else
      match h : readLine limits doc c rest with
      | .error stop => .error stop
      | .ok (next, after) =>
        have := readLine_length h
        readLines limits next after
termination_by s.length

/-- The table that a text writes. -/
def read (limits : Limits) (text : List Char) : Except Failure Entries :=
  match readLines limits .empty text with
  | .ok doc => .ok doc.root
  | .error stop => .error (stop.failure text)

end Shorthand.Toml
