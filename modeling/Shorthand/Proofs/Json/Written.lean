import Shorthand.Proofs.Json.Limits
import Shorthand.Proofs.Json.Quoted
import Shorthand.Proofs.Reading.Integer
import Shorthand.Proofs.Value.Parts

/-! Values, written and read. The reader that comes to a value that was written has that value in hand
when it is through with it, and nothing else about it has changed; so a document is read as the value
that was written. What has to be known of the value is that JSON has a text of its own for all its
parts, and that they are within the limits. -/

namespace Shorthand.Json

/-- Whether a value is read as it was written, if all its parts are. A floating-point number may be read
as another one, and a date or a time is read as a text. -/
def isCarried (limits : Limits) : Value → Bool
  | .null | .bool _ | .text _ | .list _ => true
  | .int i => !limits.refusesDigits (Nat.toDigits 10 i.natAbs).length
  | .table es => decide (Entries.keys es).Nodup
  | .float _ | .date _ | .time _ | .moment _ => false

variable {limits : Limits} {ascii : Bool} {v : Value} {stack : List Frame} {rest : List Char} {n : Nat}

/-! How values begin. -/

theorem isBlank_of_isDigit {c : Char} (h : c.isDigit = true) : isBlank c = false := by
  have hNone : ∀ d : Char, d.isDigit = false → c ≠ d := fun _ => Text.ne_of_isDigit h
  simp [isBlank, hNone]

theorem toNat_lt_of_isDigit {c : Char} (h : c.isDigit = true) : c.toNat < 0x80 := by
  simp only [Char.isDigit, Bool.and_eq_true, decide_eq_true_eq] at h
  exact Nat.lt_of_le_of_lt (UInt32.le_iff_toNat_le.1 h.2) (by decide)

/-- A value begins with a character of ASCII, and with no blank and no end of a list. -/
theorem exists_write_eq (ascii : Bool) (h : isCarried limits v = true) :
    ∃ c s, write ascii v = c :: s ∧ isBlank c = false ∧ c ≠ ']' ∧ c.toNat < 0x80 := by
  cases v with
  | null => exact ⟨_, _, rfl, by decide⟩
  | bool b => cases b <;> exact ⟨_, _, rfl, by decide⟩
  | int i =>
      obtain ⟨c, ds, hDigits, hDigit⟩ := Text.exists_toDigits_eq i.natAbs
      rw [write, Text.toList_toString]
      split
      · exact ⟨_, _, rfl, by decide⟩
      · exact ⟨c, ds, hDigits, isBlank_of_isDigit hDigit, Text.ne_of_isDigit hDigit rfl,
          toNat_lt_of_isDigit hDigit⟩
  | text s => exact ⟨_, _, rfl, by decide⟩
  | list items => exact ⟨_, _, rfl, by decide⟩
  | table es => exact ⟨_, _, rfl, by decide⟩
  | float x | date d | time t | moment m => cases h

theorem skipBlanks_of_not_blank {c : Char} (h : isBlank c = false) (s : List Char) :
    skipBlanks (c :: s) = c :: s :=
  List.dropWhile_cons_of_neg (by simp [h])

theorem skipBlanks_write (h : isCarried limits v = true) :
    skipBlanks (write ascii v ++ rest) = write ascii v ++ rest := by
  obtain ⟨c, s, hText, hBlank, _, _⟩ := exists_write_eq ascii h
  rw [hText]
  exact skipBlanks_of_not_blank hBlank _

/-! Scalars. -/

/-- No word begins with a digit, or with a minus and a digit. -/
theorem leadingWord?_toString (i : Int) (rest : List Char) :
    Text.leadingWord? words ((toString i).toList ++ rest) = none := by
  obtain ⟨c, ds, hDigits, hDigit⟩ := Text.exists_toDigits_eq i.natAbs
  have hNone : ∀ d : Char, d.isDigit = false → ¬d = c := fun _ hOther =>
    (Text.ne_of_isDigit hDigit hOther).symm
  rw [Text.toList_toString, hDigits]
  split <;> simp [Text.leadingWord?, words, Text.dropLead?, hNone]

theorem readScalar_of_read {s : List Char} {n : Numeral} (hWord : Text.leadingWord? words s = none)
    (hRead : Numeral.read numberFormat s = some (n, rest)) :
    readScalar limits s = (n.value limits).map (·, rest) := by
  unfold readScalar
  split
  · cases hRead
  · split
    · next hQuote =>
        subst hQuote
        cases hRead
    · rw [hWord, hRead]

theorem readScalar_int {i : Int} (h : isCarried limits (.int i) = true) (hRest : Numeral.Ends rest) :
    readScalar limits (write ascii (.int i) ++ rest) = .ok (.int i, rest) := by
  rw [isCarried, Bool.not_eq_true'] at h
  rw [write, readScalar_of_read (leadingWord?_toString i rest) (Numeral.read_toString false i hRest),
    Numeral.value_toString h]
  rfl

theorem readScalar_text (s : String) :
    readScalar limits (write ascii (.text s) ++ rest) = .ok (.text s, rest) := by
  change (readText _ "" (s.toList.flatMap (writeChar ascii) ++ ['"'] ++ rest)).map _ = _
  rw [readText_written]
  rfl

/-! The texts of containers. -/

/-- The texts behind the first, each with a comma and a blank in front. -/
def writeMore (texts : List (List Char)) : List Char := texts.flatMap ([',', ' '] ++ ·)

theorem writeMore_cons (text : List Char) (texts : List (List Char)) (rest : List Char) :
    writeMore (text :: texts) ++ rest = ',' :: ' ' :: (text ++ (writeMore texts ++ rest)) := by
  rw [writeMore, List.flatMap_cons, List.append_assoc, List.append_assoc]
  rfl

theorem intercalate_eq (text : List Char) (texts : List (List Char)) :
    [',', ' '].intercalate (text :: texts) = text ++ writeMore texts := by
  induction texts generalizing text with
  | nil => simp [writeMore]
  | cons next texts ih =>
      rw [List.intercalate_cons_cons, ih, writeMore, writeMore, List.flatMap_cons, List.append_assoc,
        List.append_assoc]

theorem ends_writeMore (texts : List (List Char)) {c : Char} (h : Numeral.continues c = false)
    (rest : List Char) : Numeral.Ends (writeMore texts ++ c :: rest) := by
  cases texts with
  | nil => exact .cons h rest
  | cons text texts => exact .cons rfl _

theorem write_list_cons (ascii : Bool) (v : Value) (vs : List Value) (rest : List Char) :
    write ascii (.list (v :: vs)) ++ rest =
      '[' :: (write ascii v ++ (writeMore (writeItems ascii vs) ++ ']' :: rest)) := by
  rw [write, writeItems, intercalate_eq]
  simp

theorem write_table_cons (ascii : Bool) (k : String) (v : Value) (es : List (String × Value))
    (rest : List Char) :
    write ascii (.table ((k, v) :: es)) ++ rest =
      '\x7b' :: (writeText ascii k ++ ':' :: ' ' ::
        (write ascii v ++ (writeMore (writeEntries ascii es) ++ '\x7d' :: rest))) := by
  rw [write, writeEntries, intercalate_eq]
  simp

/-! The machine. -/

variable {frame : Frame} {done : List Value} {entries : List (String × Value)} {key other : String}
  {s : List Char}

/-- What is read as a scalar does not begin with a bracket or a brace. -/
theorem run_of_readScalar (h : readScalar limits s = .ok (v, rest)) :
    run limits ⟨.read, stack, s⟩ = run limits ⟨.deliver v, stack, rest⟩ := by
  have hStep : step limits ⟨.read, stack, s⟩ = .ok (.next ⟨.deliver v, stack, rest⟩) := by
    unfold step
    dsimp only
    split
    · cases h
    · cases h
    · rw [h]
      rfl
  rw [run_eq, hStep]
  rfl

theorem run_openList (hDepth : limits.Admits stack.length (n + 1)) :
    run limits ⟨.read, stack, '[' :: s⟩ = openList stack (skipBlanks s) >>= Move.goOn limits := by
  rw [run_eq]
  unfold step
  simp only [hDepth.tooDeep_eq_false (List.length_map _)]
  rfl

theorem run_openTable (hDepth : limits.Admits stack.length (n + 1)) :
    run limits ⟨.read, stack, '\x7b' :: s⟩ = openTable stack (skipBlanks s) >>= Move.goOn limits := by
  rw [run_eq]
  unfold step
  simp only [hDepth.tooDeep_eq_false (List.length_map _)]
  rfl

theorem run_deliver (frame : Frame) {c : Char} (h : isBlank c = false) :
    run limits ⟨.deliver v, frame :: stack, c :: s⟩ =
      frame.take v stack (c :: s) >>= Move.goOn limits := by
  rw [run_eq]
  unfold step
  dsimp only
  rw [skipBlanks_of_not_blank h]

/-! Its way through a list. -/

theorem run_firstItem (hDepth : limits.Admits stack.length (n + 1))
    (hValue : isCarried limits v = true) :
    run limits ⟨.read, stack, '[' :: (write ascii v ++ rest)⟩ =
      run limits ⟨.read, .list [] :: stack, write ascii v ++ rest⟩ := by
  obtain ⟨c, s, hText, _, hOpen, _⟩ := exists_write_eq ascii hValue
  rw [run_openList hDepth, skipBlanks_write hValue, hText, List.cons_append]
  unfold openList
  split
  · next hClose => exact absurd (List.cons.inj hClose).1 hOpen
  · rfl

theorem run_nextItem (h : skipBlanks s = s) :
    run limits ⟨.deliver v, .list done :: stack, ',' :: ' ' :: s⟩ =
      run limits ⟨.read, .list (v :: done) :: stack, s⟩ := by
  rw [run_deliver _ rfl]
  change run limits ⟨.read, .list (v :: done) :: stack, skipBlanks s⟩ = _
  rw [h]

theorem run_lastItem :
    run limits ⟨.deliver v, .list done :: stack, ']' :: rest⟩ =
      run limits ⟨.deliver (.list (done.reverse ++ [v])), stack, rest⟩ := by
  rw [run_deliver _ rfl, ← List.reverse_cons]
  rfl

/-! Its way through a table. -/

theorem openEntry_writeText (h : skipBlanks s = s) :
    openEntry entries stack (writeText ascii key ++ ':' :: ' ' :: s) =
      .ok (.next ⟨.read, .table entries key :: stack, s⟩) := by
  have hKey : readKey (writeText ascii key ++ ':' :: ' ' :: s) = .ok (key, s) := by
    change readText _ "" (key.toList.flatMap (writeChar ascii) ++ ['"'] ++ ':' :: ' ' :: s) >>= _ = _
    rw [readText_written]
    change Except.ok (key, skipBlanks s) = _
    rw [h]
  rw [openEntry, hKey]
  rfl

theorem run_firstEntry (hDepth : limits.Admits stack.length (n + 1)) (h : skipBlanks s = s) :
    run limits ⟨.read, stack, '\x7b' :: (writeText ascii key ++ ':' :: ' ' :: s)⟩ =
      run limits ⟨.read, .table [] key :: stack, s⟩ := by
  rw [run_openTable hDepth]
  change openEntry [] stack (writeText ascii key ++ _) >>= _ = _
  rw [openEntry_writeText h]
  rfl

theorem run_nextEntry (h : skipBlanks s = s) :
    run limits ⟨.deliver v, .table entries key :: stack,
        ',' :: ' ' :: (writeText ascii other ++ ':' :: ' ' :: s)⟩ =
      run limits ⟨.read, .table ((key, v) :: entries) other :: stack, s⟩ := by
  rw [run_deliver _ rfl]
  change openEntry ((key, v) :: entries) stack (writeText ascii other ++ _) >>= _ = _
  rw [openEntry_writeText h]
  rfl

theorem run_lastEntry :
    run limits ⟨.deliver v, .table entries key :: stack, '\x7d' :: rest⟩ =
      run limits ⟨.deliver (.table (Entries.ofPairs (entries.reverse ++ [(key, v)]))), stack,
        rest⟩ := by
  rw [run_deliver _ rfl, ← List.reverse_cons]
  rfl

/-! Values. -/

mutual

/-- A value that was written is read, and then in hand. -/
theorem run_write (limits : Limits) (ascii : Bool) (stack : List Frame) (rest : List Char) :
    ∀ v : Value, v.everywhere (isCarried limits) = true → limits.Admits stack.length v.depth →
      Numeral.Ends rest →
        run limits ⟨.read, stack, write ascii v ++ rest⟩ = run limits ⟨.deliver v, stack, rest⟩
  | .null, _, _, _ => run_of_readScalar rfl
  | .bool true, _, _, _ | .bool false, _, _, _ => run_of_readScalar rfl
  | .int _, hCarried, _, hRest => run_of_readScalar (readScalar_int hCarried hRest)
  | .text s, _, _, _ => run_of_readScalar (readScalar_text s)
  | .list [], _, hDepth, _ => run_openList hDepth
  | .list (v :: vs), hCarried, hDepth, _ => by
      rw [Value.everywhere, Value.itemsEverywhere, Bool.and_eq_true, Bool.and_eq_true] at hCarried
      obtain ⟨_, hValue, hItems⟩ := hCarried
      rw [write_list_cons, run_firstItem hDepth (Value.self_of_everywhere hValue),
        run_write limits ascii (.list [] :: stack) _ v hValue hDepth.inside.left
          (ends_writeMore _ rfl _),
        run_writeItems limits ascii stack rest [] v vs hItems hDepth.inside.right,
        List.reverse_nil, List.nil_append]
  | .table [], _, hDepth, _ => run_openTable hDepth
  | .table ((k, v) :: es), hCarried, hDepth, _ => by
      rw [Value.everywhere, Value.entriesEverywhere, Bool.and_eq_true, Bool.and_eq_true] at hCarried
      obtain ⟨hKeys, hValue, hEntries⟩ := hCarried
      have hSelf := Value.self_of_everywhere hValue
      rw [write_table_cons, run_firstEntry hDepth (skipBlanks_write hSelf),
        run_write limits ascii (.table [] k :: stack) _ v hValue hDepth.inside.left
          (ends_writeMore _ rfl _),
        run_writeEntries limits ascii stack rest [] k v es hEntries hDepth.inside.right,
        List.reverse_nil, List.nil_append, Entries.ofPairs_eq (of_decide_eq_true hKeys)]
  | .float _, hCarried, _, _ | .date _, hCarried, _, _ | .time _, hCarried, _, _
  | .moment _, hCarried, _, _ => by cases hCarried

/-- A list is in hand when the rest of its elements has been read. -/
theorem run_writeItems (limits : Limits) (ascii : Bool) (stack : List Frame) (rest : List Char)
    (done : List Value) (v : Value) :
    ∀ vs : List Value, Value.itemsEverywhere (isCarried limits) vs = true →
      limits.Admits (stack.length + 1) (Value.itemsDepth vs) →
        run limits ⟨.deliver v, .list done :: stack,
            writeMore (writeItems ascii vs) ++ ']' :: rest⟩ =
          run limits ⟨.deliver (.list (done.reverse ++ v :: vs)), stack, rest⟩
  | [], _, _ => run_lastItem
  | w :: vs, hCarried, hDepth => by
      rw [Value.itemsEverywhere, Bool.and_eq_true] at hCarried
      have hSelf := Value.self_of_everywhere hCarried.1
      rw [writeItems, writeMore_cons, run_nextItem (skipBlanks_write hSelf),
        run_write limits ascii (.list (v :: done) :: stack) _ w hCarried.1 hDepth.left
          (ends_writeMore _ rfl _),
        run_writeItems limits ascii stack rest (v :: done) w vs hCarried.2 hDepth.right,
        List.reverse_cons, List.append_assoc, List.singleton_append]

/-- A table is in hand when the rest of its entries has been read. -/
theorem run_writeEntries (limits : Limits) (ascii : Bool) (stack : List Frame) (rest : List Char)
    (done : List (String × Value)) (k : String) (v : Value) :
    ∀ es : List (String × Value), Value.entriesEverywhere (isCarried limits) es = true →
      limits.Admits (stack.length + 1) (Value.entriesDepth es) →
        run limits ⟨.deliver v, .table done k :: stack,
            writeMore (writeEntries ascii es) ++ '\x7d' :: rest⟩ =
          run limits ⟨.deliver (.table (Entries.ofPairs (done.reverse ++ (k, v) :: es))), stack,
            rest⟩
  | [], _, _ => run_lastEntry
  | (next, w) :: es, hCarried, hDepth => by
      rw [Value.entriesEverywhere, Bool.and_eq_true] at hCarried
      have hSelf := Value.self_of_everywhere hCarried.1
      rw [writeEntries, writeMore_cons, List.append_assoc, List.cons_append, List.cons_append,
        run_nextEntry (skipBlanks_write hSelf),
        run_write limits ascii (.table ((k, v) :: done) next :: stack) _ w hCarried.1 hDepth.left
          (ends_writeMore _ rfl _),
        run_writeEntries limits ascii stack rest ((k, v) :: done) next w es hCarried.2 hDepth.right,
        List.reverse_cons, List.append_assoc, List.singleton_append]

end

/-! What is written is free of control characters. -/

theorem isPlain_int (i : Int) : IsPlain (toString i).toList := by
  have hDigits : IsPlain (Nat.toDigits 10 i.natAbs) := by
    intro c hMem
    have hDigit := Text.isDigit_of_mem_toDigits i.natAbs c hMem
    simp only [Char.isDigit, Bool.and_eq_true, decide_eq_true_eq] at hDigit
    exact Nat.le_trans (by decide) (UInt32.le_iff_toNat_le.1 hDigit.1)
  rw [Text.toList_toString]
  split
  · exact List.forall_mem_cons.2 ⟨by decide, hDigits⟩
  · exact hDigits

theorem isPlain_intercalate {texts : List (List Char)} (h : ∀ text ∈ texts, IsPlain text) :
    IsPlain ([',', ' '].intercalate texts) := by
  cases texts with
  | nil => exact List.forall_mem_nil _
  | cons text texts =>
      rw [List.forall_mem_cons] at h
      rw [intercalate_eq]
      refine List.forall_mem_append.2 ⟨h.1, fun c hMem => ?_⟩
      obtain ⟨other, hOther, hChar⟩ := List.mem_flatMap.1 hMem
      exact List.forall_mem_append.2 ⟨by simp, h.2 other hOther⟩ c hChar

mutual

theorem isPlain_write (limits : Limits) (ascii : Bool) :
    ∀ v : Value, v.everywhere (isCarried limits) = true → IsPlain (write ascii v)
  | .null, _ | .bool true, _ | .bool false, _ => by
      simp [write, IsPlain]
  | .int i, _ => isPlain_int i
  | .text s, _ => isPlain_writeText ascii s
  | .list items, hCarried => by
      rw [Value.everywhere, Bool.and_eq_true] at hCarried
      have hItems := isPlain_intercalate (isPlain_writeItems limits ascii items hCarried.2)
      exact List.forall_mem_cons.2 ⟨by decide, List.forall_mem_append.2 ⟨hItems, by simp⟩⟩
  | .table es, hCarried => by
      rw [Value.everywhere, Bool.and_eq_true] at hCarried
      have hEntries := isPlain_intercalate (isPlain_writeEntries limits ascii es hCarried.2)
      exact List.forall_mem_cons.2 ⟨by decide, List.forall_mem_append.2 ⟨hEntries, by simp⟩⟩
  | .float _, hCarried | .date _, hCarried | .time _, hCarried | .moment _, hCarried => by
      cases hCarried

theorem isPlain_writeItems (limits : Limits) (ascii : Bool) :
    ∀ items : List Value, Value.itemsEverywhere (isCarried limits) items = true →
      ∀ text ∈ writeItems ascii items, IsPlain text
  | [], _ => List.forall_mem_nil _
  | v :: vs, hCarried => by
      rw [Value.itemsEverywhere, Bool.and_eq_true] at hCarried
      exact List.forall_mem_cons.2 ⟨isPlain_write limits ascii v hCarried.1,
        isPlain_writeItems limits ascii vs hCarried.2⟩

theorem isPlain_writeEntries (limits : Limits) (ascii : Bool) :
    ∀ es : List (String × Value), Value.entriesEverywhere (isCarried limits) es = true →
      ∀ text ∈ writeEntries ascii es, IsPlain text
  | [], _ => List.forall_mem_nil _
  | (k, v) :: es, hCarried => by
      rw [Value.entriesEverywhere, Bool.and_eq_true] at hCarried
      have hValue := isPlain_write limits ascii v hCarried.1
      refine List.forall_mem_cons.2 ⟨?_, isPlain_writeEntries limits ascii es hCarried.2⟩
      refine List.forall_mem_append.2 ⟨isPlain_writeText ascii k, ?_⟩
      exact List.forall_mem_cons.2 ⟨by decide, List.forall_mem_cons.2 ⟨by decide, hValue⟩⟩

end

/-! Documents. -/

/-- A document that was written is read as the value that it was written for. -/
theorem read_write (ascii : Bool) (hCarried : v.everywhere (isCarried limits) = true)
    (hDepth : limits.Admits 0 v.depth) : read limits (write ascii v) = .ok v := by
  have hRun := run_write limits ascii [] [] v hCarried hDepth .nil
  have hBlank := @skipBlanks_write limits ascii v [] (Value.self_of_everywhere hCarried)
  rw [List.append_nil] at hRun hBlank
  have hDocument : readDocument limits (write ascii v) = .ok v := by
    rw [readDocument, hBlank, hRun, run_eq]
    rfl
  rw [read, hDocument]
  rfl

end Shorthand.Json
