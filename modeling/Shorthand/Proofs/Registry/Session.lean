import Shorthand.Proofs.Registry.History

/-! Additions step by step, on a registry and a journal where an error undoes nothing. An addition reads
its entry, takes the marker away, tells of the name and writes the definition, in this order; the steps
that can fail come first, so a failure finds registry and journal as they were. A batch that fails
leaves what the entries before the first bad one have left. -/

namespace Shorthand.Registry

/-- A registry at work, and all that was told of it. -/
structure Session where
  registry : Registry
  journal : List Event

/-- Work on a session. What was written and told before an error stays. -/
abbrev Work := EStateM EntryError Session

namespace Work

/-- A step that can fail. It neither writes nor tells. -/
def attempt {α : Type} (x : Except EntryError α) : Work α := fun s =>
  match x with
  | .ok a => .ok a s
  | .error err => .error err s

def tell (event : Event) : Work Unit :=
  modify fun s => { s with journal := s.journal ++ [event] }

def write (name : String) (d : Definition) : Work Unit :=
  modify fun s => { s with registry := s.registry.put name d }

/-- Tells whether a name is new, and writes its definition. -/
def record (name : String) (d : Definition) : Work Unit := do
  let known := (← get).registry.contains name
  tell (if known then .overwriting name else .registered name)
  write name d

/-- One addition, step by step. -/
def add (e : Entry) : Work Unit := do
  let d ← attempt e.coerce
  let name := stripMarker d.name
  let renamed ← if name = d.name then pure d else attempt (d.rename name)
  record name renamed

/-- Additions one after the other. -/
def addAll : List Entry → Work Unit
  | [] => pure ()
  | e :: es => do
    add e
    addAll es

variable {α β : Type}

/-- Work goes on where the first part of it has left the session. -/
theorem bind_of_ok {x : Work α} {a : α} {s s' : Session} (h : x s = .ok a s') (f : α → Work β) :
    (x >>= f) s = f a s' := by
  change EStateM.bind x f s = _
  rw [EStateM.bind, h]

theorem bind_of_error {x : Work α} {err : EntryError} {s s' : Session} (h : x s = .error err s')
    (f : α → Work β) : (x >>= f) s = .error err s' := by
  change EStateM.bind x f s = _
  rw [EStateM.bind, h]

theorem attempt_bind (x : Except EntryError α) (f : α → Except EntryError β) :
    attempt (x >>= f) = attempt x >>= fun a => attempt (f a) := by
  cases x <;> rfl

/-- The steps that can fail are those that prepare the entry. -/
theorem add_eq_attempt (e : Entry) : add e = attempt (prepare e) >>= fun p => record p.1 p.2 := by
  rw [prepare, attempt_bind, bind_assoc, add]
  refine bind_congr fun d => ?_
  by_cases h : stripMarker d.name = d.name
  · simp only [if_pos h]
    rfl
  · simp only [if_neg h]
    rw [attempt_bind, bind_assoc]
    rfl

theorem record_eq (name : String) (d : Definition) (s : Session) :
    record name d s = .ok () ⟨s.registry.put name d,
      s.journal ++ [if s.registry.contains name then .overwriting name else .registered name]⟩ :=
  rfl

/-- Step by step, an addition comes to what it comes to at once. -/
theorem add_eq (e : Entry) (s : Session) :
    add e s = match s.registry.add e with
      | .ok (r, event) => .ok () ⟨r, s.journal ++ [event]⟩
      | .error err => .error err s := by
  rw [add_eq_attempt, Registry.add]
  cases prepare e with
  | error err => rfl
  | ok p => exact record_eq p.1 p.2 s

theorem add_eq_error_iff {e : Entry} {err : EntryError} {s s' : Session} :
    add e s = .error err s' ↔ s.registry.add e = .error err ∧ s' = s := by
  rw [add_eq]
  cases s.registry.add e with
  | error other => simp [eq_comm]
  | ok done => simp

theorem add_eq_ok {e : Entry} {s : Session} {r : Registry} {event : Event}
    (h : s.registry.add e = .ok (r, event)) : add e s = .ok () ⟨r, s.journal ++ [event]⟩ := by
  rw [add_eq, h]

theorem addAll_cons_of_ok {e : Entry} {s next : Session} (h : add e s = .ok () next)
    (es : List Entry) : addAll (e :: es) s = addAll es next :=
  bind_of_ok h _

theorem addAll_cons_of_error {e : Entry} {s s' : Session} {err : EntryError}
    (h : add e s = .error err s') (es : List Entry) : addAll (e :: es) s = .error err s' :=
  bind_of_error h _

theorem addAll_append (es fs : List Entry) :
    addAll (es ++ fs) = addAll es >>= fun _ => addAll fs := by
  induction es with
  | nil => rfl
  | cons e es ih => rw [List.cons_append, addAll, ih, addAll, bind_assoc]

/-- A run that fails stops at the first entry that cannot be added. -/
theorem addAll_eq_error_iff {es : List Entry} {err : EntryError} {s s' : Session} :
    addAll es s = .error err s' ↔
      ∃ before e after, es = before ++ e :: after ∧ addAll before s = .ok () s' ∧
        s'.registry.add e = .error err := by
  constructor
  · intro h
    induction es generalizing s with
    | nil => cases h
    | cons e es ih =>
        cases hAdd : s.registry.add e with
        | error first =>
            rw [addAll_cons_of_error (add_eq_error_iff.2 ⟨hAdd, rfl⟩)] at h
            cases h
            exact ⟨[], e, es, rfl, rfl, hAdd⟩
        | ok done =>
            rw [addAll_cons_of_ok (add_eq_ok hAdd)] at h
            obtain ⟨before, bad, after, rfl, hBefore, hBad⟩ := ih h
            refine ⟨e :: before, bad, after, rfl, ?_, hBad⟩
            rw [addAll_cons_of_ok (add_eq_ok hAdd), hBefore]
  · rintro ⟨before, e, after, rfl, hBefore, hBad⟩
    rw [addAll_append, bind_of_ok hBefore]
    exact addAll_cons_of_error (add_eq_error_iff.2 ⟨hBad, rfl⟩) after

/-- Step by step, a run of additions comes to what it comes to at once, also where it fails. -/
theorem addAll_eq (es : List Entry) (s : Session) :
    addAll es s =
      let done := s.registry.addMany es
      match done.error with
      | none => .ok () ⟨done.registry, s.journal ++ done.events⟩
      | some err => .error err ⟨done.registry, s.journal ++ done.events⟩ := by
  induction es generalizing s with
  | nil => simp only [addMany, List.append_nil]; rfl
  | cons e es ih =>
      rw [addMany]
      cases hAdd : s.registry.add e with
      | error err =>
          rw [addAll_cons_of_error (add_eq_error_iff.2 ⟨hAdd, rfl⟩)]
          simp only [List.append_nil]
      | ok done =>
          rw [addAll_cons_of_ok (add_eq_ok hAdd), ih]
          simp only [List.append_assoc, List.singleton_append]

end Work

/-- An addition that fails, at whichever of its steps, leaves registry and journal as they were. A batch
that fails leaves both as they were after the entries before the first one that cannot be added, and
fails as adding that one then fails. The additions at once come to the same as those step by step. -/
theorem failure_is_atomic (s : Session) :
    (∀ e err s', Work.add e s = .error err s' ↔ s.registry.add e = .error err ∧ s' = s) ∧
      (∀ es err s', Work.addAll es s = .error err s' ↔
        ∃ before e after, es = before ++ e :: after ∧ Work.addAll before s = .ok () s' ∧
          s'.registry.add e = .error err) ∧
      ∀ es,
        let done := s.registry.addMany es
        Work.addAll es s =
          match done.error with
          | none => .ok () ⟨done.registry, s.journal ++ done.events⟩
          | some err => .error err ⟨done.registry, s.journal ++ done.events⟩ :=
  ⟨fun _ _ _ => Work.add_eq_error_iff, fun _ _ _ => Work.addAll_eq_error_iff,
    fun es => Work.addAll_eq es s⟩

/-- The second entry names a known macro, but its marker cannot be taken away. -/
theorem failure_is_atomic_unchangeable :
    let s : Session := ⟨empty.put "c" ⟨"c", "0", [], .own⟩, [.registered "c"]⟩
    let bad : Entry :=
      .raw (.table [("name", .text "#c"), ("code", .text "2"), ("_fields_set", .list [])])
    let before : List Entry := [.raw (.list [.list [.text "name", .text "##c"]])]
    let s' : Session :=
      ⟨s.registry.put "#c" ⟨"#c", "", [], .own⟩, [.registered "c", .registered "#c"]⟩
    Work.add bad s = .error .recordNotExtensible s ∧
      Work.addAll (before ++ bad :: [.raw .null]) s = .error .recordNotExtensible s' ∧
      s.registry.addMany (before ++ bad :: [.raw .null]) =
        ⟨s'.registry, [.registered "#c"], some .recordNotExtensible⟩ := by
  intro s bad before s'
  have hBad : ∀ r : Registry, r.add bad = .error .recordNotExtensible := fun r =>
    add_of_error (by rfl)
  obtain ⟨hOne, hRun, _⟩ := failure_is_atomic s
  exact ⟨(hOne ..).2 ⟨hBad _, rfl⟩, (hRun ..).2 ⟨before, bad, _, rfl, rfl, hBad _⟩, rfl⟩

end Shorthand.Registry
