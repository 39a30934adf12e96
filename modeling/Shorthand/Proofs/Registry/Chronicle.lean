import Mathlib.Logic.Relation
import Shorthand.Proofs.Registry.Session

/-! The journal tells the registry. A run of calls is followed from entry to entry, through batches that
fail on their way; wherever it stands, the lines so far say which names there are, in which order, and
how many additions have replaced a definition. -/

namespace Shorthand

namespace Event

/-- The name that a line about an addition is about. -/
def subject? : Event → Option String
  | .registered name | .overwriting name => some name
  | _ => none

/-- The name that a line tells of as a new one. -/
def newcomer? : Event → Option String
  | .registered name => some name
  | _ => none

/-- Whether a line tells of a definition that was replaced. -/
def isOverwriting : Event → Bool
  | .overwriting _ => true
  | _ => false

theorem subject?_of_newcomer? {line : Event} {name : String} (h : line.newcomer? = some name) :
    line.subject? = some name := by
  cases line with
  | registered _ => exact h
  | _ => cases h

/-- Lines about additions are for debugging. -/
theorem reportedAt_of_subject? {line : Event} {name : String} (h : line.subject? = some name) :
    line.reportedAt .debug = true := by
  cases line with
  | registered _ | overwriting _ => rfl
  | _ => cases h

/-- The two messages about a name differ in their first letter. -/
theorem messages_ne (name : String) :
    "Registered macro: " ++ name ≠ "Overwriting macro: " ++ name := by
  intro h
  have hHeads := congrArg (fun s : String => s.toList.head?) h
  simp at hHeads

end Event

namespace Registry

/-- The lines that tell how a registry came about from the definitions that were added to it. -/
structure IsJournal (lines : List Event) (added : List Definition) (r : Registry) : Prop where
  /-- There is one line for each addition, in order, under its name without one marker. -/
  subjects : lines.map (·.subject?) = added.map fun d => some (stripMarker d.name)
  /-- A line tells of its name as new if no earlier line is about the name, and else as replaced. -/
  messages : ∀ before line name, before ++ [line] <+: lines → line.subject? = some name →
    (line.message = "Registered macro: " ++ name ↔ ∀ earlier ∈ before, earlier.subject? ≠ some name) ∧
      (line.message = "Overwriting macro: " ++ name ↔ ∃ earlier ∈ before, earlier.subject? = some name)
  /-- The new names are the names of the registry. -/
  newcomers : lines.filterMap (·.newcomer?) = r.names
  /-- Each addition that does not replace a definition makes the registry larger. -/
  replaced : lines.countP (·.isOverwriting) + r.size = added.length

/-- Where a run of calls stands: the session up to here, the definitions that were added to it, what is
left of the present call, and the calls to come. -/
structure Point where
  session : Session
  added : List Definition
  pending : List Entry
  calls : List Addition

/-- A run goes on. An entry that cannot be added ends its call, and the run goes on with the next. -/
inductive Step : Point → Point → Prop where
  | call (s : Session) (added : List Definition) (a : Addition) (calls : List Addition) :
      Step ⟨s, added, [], a :: calls⟩ ⟨s, added, a.entries, calls⟩
  | success {s s' : Session} {e : Entry} {d : Definition} (hCoerce : e.coerce = .ok d)
      (hAdd : Work.add e s = .ok () s') (added : List Definition) (pending : List Entry)
      (calls : List Addition) :
      Step ⟨s, added, e :: pending, calls⟩ ⟨s', added ++ [d], pending, calls⟩
  | failure {s s' : Session} {e : Entry} {err : EntryError} (hAdd : Work.add e s = .error err s')
      (added : List Definition) (pending : List Entry) (calls : List Addition) :
      Step ⟨s, added, e :: pending, calls⟩ ⟨s', added, [], calls⟩

/-- The points that a run of calls on an empty registry passes. -/
def Passes (calls : List Addition) : Point → Prop :=
  Relation.ReflTransGen Step ⟨⟨empty, []⟩, [], [], calls⟩

/-! What the lines say. -/

section

variable {lines : List Event} {added : List Definition} {r : Registry}

theorem isJournal_empty : IsJournal [] [] empty where
  subjects := rfl
  messages := by
    intro before line _ hPrefix
    cases before <;> cases List.prefix_nil.1 hPrefix
  newcomers := rfl
  replaced := rfl

/-- The names of a registry are those that the lines are about. -/
theorem IsJournal.mem_names_iff (h : IsJournal lines added r) {name : String} :
    name ∈ r.names ↔ ∃ line ∈ lines, line.subject? = some name := by
  rw [← h.newcomers, List.mem_filterMap]
  constructor
  · rintro ⟨line, hMem, hNew⟩
    exact ⟨line, hMem, Event.subject?_of_newcomer? hNew⟩
  · intro hTold
    -- The first of the lines about the name tells of it as new.
    have hFound : (lines.find? fun line => line.subject? = some name).isSome = true := by
      simpa using hTold
    obtain ⟨line, hFind⟩ := Option.isSome_iff_exists.1 hFound
    obtain ⟨hSubject, before, after, rfl, hEarlier⟩ := List.find?_eq_some_iff_append.1 hFind
    have hSubject : line.subject? = some name := by simpa using hSubject
    have hMessage := ((h.messages before line name ⟨after, by simp⟩ hSubject).1).2 fun earlier hMem =>
      by simpa using hEarlier earlier hMem
    refine ⟨line, by simp, ?_⟩
    cases line with
    | registered _ => exact hSubject
    | overwriting _ =>
        cases hSubject
        exact absurd hMessage.symm (Event.messages_ne name)
    | _ => cases hSubject

/-- At the level for debugging all of the lines are reported. -/
theorem IsJournal.reported_eq (h : IsJournal lines added r) : reported .debug lines = lines := by
  refine List.filter_eq_self.2 fun line hMem => ?_
  have hSubject : line.subject? ∈ added.map fun d => some (stripMarker d.name) := by
    rw [← h.subjects]
    exact List.mem_map_of_mem hMem
  obtain ⟨d, _, hName⟩ := List.mem_map.1 hSubject
  exact Event.reportedAt_of_subject? hName.symm

/-- The line that an addition under a name tells. -/
def telling (r : Registry) (name : String) : Event :=
  if r.contains name then .overwriting name else .registered name

theorem telling_of_mem {name : String} (h : name ∈ r.names) : r.telling name = .overwriting name :=
  if_pos ((r.contains_iff name).2 h)

theorem telling_of_not_mem {name : String} (h : name ∉ r.names) :
    r.telling name = .registered name :=
  if_neg fun hContains => h ((r.contains_iff name).1 hContains)

theorem subject?_telling (name : String) : (r.telling name).subject? = some name := by
  rw [telling]
  split <;> rfl

/-- The line tells of the name as new exactly if the lines so far are not about it. -/
theorem IsJournal.message_telling (h : IsJournal lines added r) (name : String) :
    ((r.telling name).message = "Registered macro: " ++ name ↔
        ∀ line ∈ lines, line.subject? ≠ some name) ∧
      ((r.telling name).message = "Overwriting macro: " ++ name ↔
        ∃ line ∈ lines, line.subject? = some name) := by
  by_cases hKnown : name ∈ r.names
  · have hTold := h.mem_names_iff.1 hKnown
    rw [telling_of_mem hKnown]
    refine ⟨iff_of_false (Event.messages_ne name).symm fun hUntold => ?_, iff_of_true rfl hTold⟩
    obtain ⟨line, hMem, hSubject⟩ := hTold
    exact hUntold line hMem hSubject
  · have hUntold := mt h.mem_names_iff.2 hKnown
    rw [telling_of_not_mem hKnown]
    exact ⟨iff_of_true rfl fun line hMem hSubject => hUntold ⟨line, hMem, hSubject⟩,
      iff_of_false (Event.messages_ne name) hUntold⟩

/-- One addition more is told in one line more. -/
theorem IsJournal.record (h : IsJournal lines added r) (d stored : Definition) :
    IsJournal (lines ++ [r.telling (stripMarker d.name)]) (added ++ [d])
      (r.put (stripMarker d.name) stored) := by
  refine ⟨?subjects, ?messages, ?newcomers, ?replaced⟩
  case subjects =>
    rw [List.map_append, List.map_append, h.subjects, List.map_singleton, List.map_singleton,
      subject?_telling]
  case messages =>
    intro before line name hPrefix hSubject
    rcases List.prefix_concat_iff.1 hPrefix with hLast | hEarlier
    · obtain ⟨rfl, hLine⟩ := List.append_inj' hLast rfl
      obtain rfl := List.singleton_inj.1 hLine
      obtain rfl : stripMarker d.name = name :=
        Option.some.inj ((subject?_telling _).symm.trans hSubject)
      exact h.message_telling _
    · exact h.messages before line name hEarlier hSubject
  case newcomers =>
    rw [List.filterMap_append, h.newcomers]
    by_cases hKnown : stripMarker d.name ∈ r.names
    · rw [telling_of_mem hKnown, names_put_of_mem hKnown]
      exact List.append_nil _
    · rw [telling_of_not_mem hKnown, names_put_of_not_mem hKnown]
      rfl
  case replaced =>
    rw [List.countP_append, List.length_append, ← h.replaced, size_eq_length_names,
      size_eq_length_names]
    by_cases hKnown : stripMarker d.name ∈ r.names
    · rw [telling_of_mem hKnown, names_put_of_mem hKnown]
      exact Nat.add_right_comm _ 1 _
    · rw [telling_of_not_mem hKnown, names_put_of_not_mem hKnown, List.length_append]
      rfl

end

/-! One step, and a whole run. -/

/-- An addition that succeeds tells one line, under the name that it stores a definition for. -/
theorem eq_of_add_eq_ok {e : Entry} {s s' : Session} {d : Definition} (hCoerce : e.coerce = .ok d)
    (hAdd : Work.add e s = .ok () s') :
    s' = ⟨s.registry.put (stripMarker d.name) (stripped d),
      s.journal ++ [s.registry.telling (stripMarker d.name)]⟩ := by
  rw [Work.add_eq_attempt] at hAdd
  cases hPrepare : prepare e with
  | error err =>
      rw [hPrepare] at hAdd
      cases hAdd
  | ok p =>
      obtain ⟨d', hSame, rfl⟩ := prepare_eq_ok hPrepare
      obtain rfl : d = d' := Except.ok.inj (hCoerce.symm.trans hSame)
      rw [hPrepare] at hAdd
      cases hAdd
      rfl

theorem Step.isJournal {p q : Point} (hStep : Step p q)
    (h : IsJournal p.session.journal p.added p.session.registry) :
    IsJournal q.session.journal q.added q.session.registry := by
  cases hStep with
  | call s added a calls => exact h
  | @success s s' e d hCoerce hAdd added pending calls =>
      obtain rfl := eq_of_add_eq_ok hCoerce hAdd
      exact h.record d (stripped d)
  | failure hAdd added pending calls =>
      obtain ⟨_, rfl⟩ := Work.add_eq_error_iff.1 hAdd
      exact h

theorem Passes.isJournal {calls : List Addition} {p : Point} (h : Passes calls p) :
    IsJournal p.session.journal p.added p.session.registry := by
  induction h with
  | refl => exact isJournal_empty
  | tail _ hStep ih => exact hStep.isJournal ih

/-- A call comes to its end where the additions at once do. -/
theorem exists_added_of_pending (s : Session) (added : List Definition) (pending : List Entry)
    (calls : List Addition) :
    let done := s.registry.addMany pending
    ∃ more, Relation.ReflTransGen Step ⟨s, added, pending, calls⟩
      ⟨⟨done.registry, s.journal ++ done.events⟩, more, [], calls⟩ := by
  induction pending generalizing s added with
  | nil =>
      refine ⟨added, ?_⟩
      rw [addMany, List.append_nil]
  | cons e pending ih =>
      rw [addMany]
      cases hAdd : s.registry.add e with
      | error err =>
          refine ⟨added, .single ?_⟩
          rw [List.append_nil]
          exact .failure (Work.add_eq_error_iff.2 ⟨hAdd, rfl⟩) added pending calls
      | ok next =>
          obtain ⟨d, hCoerce, _⟩ := coerce_of_add hAdd
          obtain ⟨more, hRest⟩ := ih ⟨next.1, s.journal ++ [next.2]⟩ (added ++ [d])
          refine ⟨more, .head (.success hCoerce (Work.add_eq_ok hAdd) added pending calls) ?_⟩
          simpa only [List.append_assoc, List.singleton_append] using hRest

/-- A run comes to its end where the calls at once do. -/
theorem exists_added_of_calls (s : Session) (added : List Definition) (calls : List Addition) :
    let done := s.registry.performAll calls
    ∃ more, Relation.ReflTransGen Step ⟨s, added, [], calls⟩
      ⟨⟨done.1, s.journal ++ done.2⟩, more, [], []⟩ := by
  induction calls generalizing s added with
  | nil =>
      refine ⟨added, ?_⟩
      rw [performAll, List.append_nil]
  | cons a calls ih =>
      rw [performAll, perform_eq_addMany]
      obtain ⟨between, hCall⟩ := exists_added_of_pending s added a.entries calls
      obtain ⟨more, hRest⟩ := ih ⟨_, s.journal ++ (s.registry.addMany a.entries).events⟩ between
      refine ⟨more, .head (.call s added a calls) (hCall.trans ?_)⟩
      simpa only [List.append_assoc] using hRest

/-- The journal of a registry is faithful at every point of every run of calls, between calls and within
them, and whatever fails meanwhile. A run comes to its end with the registry and the journal that its
calls lead to at once. -/
theorem journal_is_faithful (calls : List Addition) :
    (∀ p, Passes calls p →
      IsJournal (reported .debug p.session.journal) p.added p.session.registry) ∧
    let done := empty.performAll calls
    ∃ added, Passes calls ⟨⟨done.1, done.2⟩, added, [], []⟩ := by
  constructor
  · intro p hPasses
    rw [hPasses.isJournal.reported_eq]
    exact hPasses.isJournal
  · exact exists_added_of_calls ⟨empty, []⟩ [] calls

/-- A batch that breaks off at its third entry, an entry that is no table, and an addition that replaces
what the batch has left. The journal is faithful within the batch and at the end. -/
theorem journal_is_faithful_after_failures :
    let first : Entry := .raw (.table [("name", .text "##a")])
    let second : Entry := .definition ⟨"a", "1", [], .own⟩
    let broken : Entry :=
      .raw (.table [("name", .text "#a"), ("code", .text ""), ("_fields_set", .list [])])
    let again : Entry := .raw (.list [.list [.text "name", .text "#a"], .list [.text "code", .int 2]])
    let calls : List Addition :=
      [.batch [first, second, broken, first], .single (.raw .null), .single again]
    let within : Point :=
      { session := ⟨empty.put "#a" ⟨"#a", "", [], .own⟩, [.registered "#a"]⟩
        added := [⟨"##a", "", [], .own⟩]
        pending := [second, broken, first]
        calls := [.single (.raw .null), .single again] }
    let r := (empty.performAll calls).1
    let lines : List Event := [.registered "#a", .registered "a", .overwriting "a"]
    (Passes calls within ∧
        IsJournal (reported .debug [.registered "#a"]) within.added within.session.registry) ∧
      ∃ added, Passes calls ⟨⟨r, lines⟩, added, [], []⟩ ∧ IsJournal (reported .debug lines) added r ∧
        added.length = 3 ∧ r.names = ["#a", "a"] := by
  intro first second broken again calls within r lines
  obtain ⟨hFaithful, added, hEnd⟩ := journal_is_faithful calls
  have hWithin : Passes calls within :=
    .head (.call _ _ _ _) (.single (.success (d := ⟨"##a", "", [], .own⟩) rfl rfl _ _ _))
  have hJournal : IsJournal (reported .debug lines) added r := hFaithful _ hEnd
  exact ⟨⟨hWithin, hFaithful _ hWithin⟩, added, hEnd, hJournal, hJournal.replaced.symm,
    hJournal.newcomers.symm⟩

end Registry

end Shorthand
