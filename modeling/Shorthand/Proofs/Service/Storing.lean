import Shorthand.Proofs.Registry.History
import Shorthand.Proofs.Schema.Checks
import Shorthand.Service

/-! What the service stores. A body that does not pass is never answered as done. Storing submissions
that have passed never fails, and it is adding their definitions to the registry, in order. -/

namespace Shorthand.Service

open Registry Schema

/-! Bodies. -/

section

variable {α : Type} {host : Host} {body : Body} {otherwise : Fault} {check : Value → Checked α}

/-- Only a body that is read as a value can pass. -/
theorem exists_of_check_eq_ok {x : α} (h : body.check host otherwise check = .ok x) :
    ∃ v, body = .value v ∧ check v = .ok x := by
  cases body with
  | value v =>
      cases hCheck : check v with
      | ok y =>
          rw [Body.check, hCheck] at h
          cases h
          exact ⟨v, rfl, hCheck⟩
      | error details =>
          rw [Body.check, hCheck] at h
          cases h
  | foreign content =>
      rw [Body.check] at h
      split at h <;> cases h
  | absent => cases h
  | malformed flaw position => cases h
  | unreadable => cases h

/-- Whether an answer refuses a body. -/
def Answer.isRefusal : Answer → Bool
  | .invalid _ | .unreadable | .broken .unquotable | .broken .undecodable => true
  | _ => false

/-- A refusal is neither the answer to what was done nor to what was done and cannot be shown. -/
theorem Answer.status_of_isRefusal {a : Answer} (h : a.isRefusal = true) :
    a.status ∈ [400, 422, 500] ∧ a ≠ .broken .unsendable := by
  cases a with
  | invalid ds => exact ⟨by simp [status], fun hSame => by cases hSame⟩
  | unreadable => exact ⟨by simp [status], fun hSame => by cases hSame⟩
  | broken cause =>
      refine ⟨by simp [status], fun hSame => ?_⟩
      rw [hSame] at h
      cases h
  | _ => cases h

theorem Answer.status_ne_of_isRefusal {a : Answer} (h : a.isRefusal = true) : a.status ≠ 200 := by
  have hStatus := (a.status_of_isRefusal h).1
  intro hDone
  simp [hDone] at hStatus

/-- A refusal is told if all that it is about can be quoted. -/
theorem refusal_cases (host : Host) (v : Value) (details : List Detail) :
    (∀ d ∈ details, host.canQuote (d.subject v) = true) ∧
        refusal host v details = .invalid (details.map (·.inside bodyPlace)) ∨
      ¬(∀ d ∈ details, host.canQuote (d.subject v) = true) ∧
        refusal host v details = .broken .unquotable := by
  rw [← List.all_eq_true, refusal]
  split
  · next hQuotable => exact Or.inl ⟨hQuotable, rfl⟩
  · next hQuotable => exact Or.inr ⟨hQuotable, rfl⟩

theorem isRefusal_refusal (host : Host) (v : Value) (details : List Detail) :
    (refusal host v details).isRefusal = true := by
  obtain ⟨_, hAnswer⟩ | ⟨_, hAnswer⟩ := refusal_cases host v details <;> rw [hAnswer] <;> rfl

/-- A body that does not pass is refused. -/
theorem isRefusal_of_check_eq_error {a : Answer} (h : body.check host otherwise check = .error a) :
    a.isRefusal = true := by
  cases body with
  | absent =>
      cases h
      rfl
  | value v =>
      cases hCheck : check v with
      | ok x =>
          rw [Body.check, hCheck] at h
          cases h
      | error details =>
          rw [Body.check, hCheck] at h
          cases h
          exact isRefusal_refusal host v details
  | foreign content =>
      rw [Body.check] at h
      split at h <;> cases h
      · exact isRefusal_refusal ..
      · rfl
  | malformed flaw position =>
      cases h
      rfl
  | unreadable =>
      cases h
      rfl

end

theorem definition_of_submissions {v : Value} {list : List Submission}
    (h : submissions v = .ok list) : ∀ s ∈ list, s.toDefinition = .ok s.definition := by
  cases v with
  | list items =>
      intro s hMem
      obtain ⟨v, _, hCheck⟩ := exists_of_mem_right (each_eq_ok_iff.1 h) hMem
      exact Submission.toDefinition_of_check hCheck
  | _ => cases h

/-! Storing. -/

theorem withoutLead_marker (name : String) :
    Text.withoutLead [Reference.marker] name = stripMarker name := by
  rw [Text.withoutLead, stripMarker]
  cases name.toList with
  | nil => rfl
  | cons c rest =>
      by_cases h : c = Reference.marker
      · simp [Text.dropLead?, h]
      · simp [Text.dropLead?, h, Ne.symm h]

/-- Storing a submission is adding its definition. -/
theorem store?_eq {s : Submission} (h : s.toDefinition = .ok s.definition) (r : Registry) :
    ∃ event, r.add (.definition s.definition) =
        .ok (r.put (stripMarker s.name) (stripped s.definition), event) ∧
      store? r s = some (r.put (stripMarker s.name) (stripped s.definition), event) := by
  obtain ⟨event, hAdd⟩ := @add_of_ok r _ _ (@prepare_definition s.definition rfl)
  refine ⟨event, hAdd, ?_⟩
  rw [store?, h]
  exact congrArg Except.toOption hAdd

theorem storeAll_eq {list : List Submission} (h : ∀ s ∈ list, s.toDefinition = .ok s.definition)
    (r : Registry) :
    let added := r.addMany ((list.map Submission.definition).map .definition)
    storeAll r list = (added.registry, added.events, true) := by
  induction list generalizing r with
  | nil => rfl
  | cons s list ih =>
      obtain ⟨event, hAdd, hStore⟩ := store?_eq (h s (List.mem_cons_self ..)) r
      rw [storeAll, hStore, List.map_cons, List.map_cons, addMany, hAdd]
      dsimp only
      rw [ih fun s' hMem => h s' (List.mem_cons_of_mem _ hMem)]

/-- The service with definitions added. -/
def adding (s : Service) (ds : List Definition) : Service :=
  { s with registry := (s.registry.addMany (ds.map .definition)).registry }

theorem host_adding (s : Service) (ds : List Definition) : (s.adding ds).host = s.host := rfl

/-- A submission that passed is added, and what is stored for it is the answer, if it can be sent. -/
theorem addDefinition_eq (s : Service) {submission : Submission}
    (h : submission.toDefinition = .ok submission.definition) :
    (s.addDefinition submission).service = s.adding [submission.definition] ∧
      (s.addDefinition submission).answer =
        s.host.deliver (.created (stripped submission.definition)) := by
  obtain ⟨event, hAdd, hStore⟩ := store?_eq h s.registry
  rw [addDefinition, hStore, adding, List.map_singleton, addMany, hAdd]
  refine ⟨rfl, ?_⟩
  dsimp only
  rw [withoutLead_marker, get?_put, if_pos rfl]

/-! Answers that show definitions. -/

namespace Host

variable {host : Host} {d : Definition} {ds : List Definition}

theorem canSend_stripped (host : Host) (d : Definition) :
    host.canSend (stripped d) = host.canSend d := rfl

theorem deliver_created (host : Host) (d : Definition) :
    host.deliver (.created d) =
      if host.canSend d then .created d else .broken .unsendable := by
  simp [deliver, Answer.shown]

theorem deliver_of_canSend {a : Answer} (h : ∀ d ∈ a.shown, host.canSend d = true) :
    host.deliver a = a :=
  if_pos (List.all_eq_true.2 h)

end Host

theorem get?_adding (s : Service) {d : Definition} (h : d.record = .own) :
    (s.adding [d]).registry.get? (stripMarker d.name) = some (stripped d) := by
  rw [adding, addMany_registry, List.map_singleton, stored, prepare_definition h]
  change (s.registry.put _ _).get? _ = _
  rw [get?_put, if_pos rfl]

theorem addDefinitions_eq (s : Service) {list : List Submission}
    (h : ∀ submission ∈ list, submission.toDefinition = .ok submission.definition) :
    (s.addDefinitions list).service = s.adding (list.map Submission.definition) ∧
      (s.addDefinitions list).answer = .acknowledged (acknowledgement list.length) := by
  rw [addDefinitions, storeAll_eq h]
  exact ⟨rfl, rfl⟩

end Shorthand.Service
