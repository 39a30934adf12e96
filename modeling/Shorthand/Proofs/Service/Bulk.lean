import Shorthand.Proofs.Schema.Details
import Shorthand.Proofs.Service.Run
import Shorthand.Proofs.Value.Equality

/-! Definitions that are posted together, against the same definitions posted one by one. A list is
taken if each of its elements would be taken alone, and it then leads to the registry that the single
requests lead to; a list that is refused changes nothing. -/

namespace Shorthand.Service

open Registry Schema

/-- The value that a body holds. -/
def Body.value? : Body → Option Value
  | .value v => some v
  | _ => none

theorem Body.value?_eq_some_iff {b : Body} {v : Value} : b.value? = some v ↔ b = .value v := by
  cases b <;> simp [Body.value?]

/-- A request that posts a value to a path, on a host that reads it, and with no half of a surrogate
pair. -/
def Request.Posts (q : Request) (host : Host) (path : String) (v : Value) : Prop :=
  q.IsFor "POST" path ∧ q.isPaired = true ∧ (q.body host.bodies).value? = some v

instance (q : Request) (host : Host) (path : String) (v : Value) :
    Decidable (q.Posts host path v) :=
  inferInstanceAs (Decidable (_ ∧ _ ∧ _))

/-- How a value that has to pass a check is answered: by an answer of one kind if it passes. Else it is
refused and the service stays as it is; the refusal breaks down over a part that it has to quote and
cannot quote. -/
structure Judges {α : Type} (s : Service) (checked : Checked α) (v : Value) (Taken : Answer → Prop)
    (o : Outcome) : Prop where
  taken_iff : Taken o.answer ↔ ∃ x, checked = .ok x
  quoted_iff : o.answer ≠ .broken .unquotable ↔
    ∀ d ∈ faults checked, s.host.canQuote (d.subject v) = true
  refused : ¬Taken o.answer → o.answer ≠ .broken .unquotable → o.answer.status = 422
  unchanged : ¬Taken o.answer → o.service = s

theorem judges_withBody {α : Type} (s : Service) {checked : Checked α} {v : Value}
    {Taken : Answer → Prop} {next : α → Outcome}
    (hNext : ∀ x, checked = .ok x → Taken (next x).answer)
    (hRefusal : ∀ a : Answer, a.isRefusal = true → ¬Taken a) :
    Judges s checked v Taken (s.withBody (checked.mapError (refusal s.host v)) next) := by
  cases checked with
  | ok x =>
      have hTaken : Taken (next x).answer := hNext x rfl
      have hKept : (next x).answer ≠ .broken .unquotable := fun hBroken =>
        hRefusal _ (by rw [hBroken]; rfl) hTaken
      change Judges s _ v Taken (next x)
      exact ⟨iff_of_true hTaken ⟨x, rfl⟩,
        iff_of_true hKept fun _ hFault => (List.not_mem_nil hFault).elim,
        fun h => (h hTaken).elim, fun h => (h hTaken).elim⟩
  | error ds =>
      have hRefused := hRefusal _ (isRefusal_refusal s.host v ds)
      have hFails : ¬∃ x, (.error ds : Checked α) = .ok x := fun ⟨_, h⟩ => by cases h
      change Judges s _ v Taken (s.unchanged (refusal s.host v ds))
      obtain ⟨hQuotable, hAnswer⟩ | ⟨hQuotable, hAnswer⟩ := refusal_cases s.host v ds
      · rw [hAnswer] at hRefused ⊢
        exact ⟨iff_of_false hRefused hFails, iff_of_true (fun h => by cases h) hQuotable,
          fun _ _ => rfl, fun _ => rfl⟩
      · rw [hAnswer] at hRefused ⊢
        exact ⟨iff_of_false hRefused hFails, iff_of_false (fun h => h rfl) hQuotable,
          fun _ h => (h rfl).elim, fun _ => rfl⟩

section

variable {q : Request} {v : Value} {items : List Value}

theorem handle_single {s : Service} (h : q.Posts s.host basePath v) :
    s.handle q =
      s.withBody ((Submission.check .objectType v).mapError (refusal s.host v)) s.addDefinition := by
  rw [handle_of_isFor singleRoute rfl h.1, serve, Request.check, Body.value?_eq_some_iff.1 h.2.2]
  rfl

theorem handle_bulk {s : Service} (h : q.Posts s.host (basePath ++ "/bulk") (.list items)) :
    s.handle q = s.withBody ((submissions (.list items)).mapError (refusal s.host (.list items)))
      s.addDefinitions := by
  rw [handle_of_isFor bulkRoute rfl h.1, serve, Request.check, Body.value?_eq_some_iff.1 h.2.2]
  rfl

/-- The answer to a single submission that passes tells that it is stored. -/
theorem judges_single {s : Service} (h : q.Posts s.host basePath v) :
    Judges s (Submission.check .objectType v) v Answer.TellsStored (s.handle q) := by
  rw [handle_single h]
  refine judges_withBody s (fun submission hCheck => ?_) fun _ => Answer.not_tellsStored_of_isRefusal
  rw [(s.addDefinition_eq (Submission.toDefinition_of_check hCheck)).2]
  exact (tellsStored_deliver ..).1

theorem judges_bulk {s : Service} (h : q.Posts s.host (basePath ++ "/bulk") (.list items)) :
    Judges s (submissions (.list items)) (.list items) (·.status = 200) (s.handle q) := by
  rw [handle_bulk h]
  refine judges_withBody s (fun list hCheck => ?_) fun _ => Answer.status_ne_of_isRefusal
  rw [(s.addDefinitions_eq (definition_of_submissions hCheck)).2]
  rfl

/-- A submission that passes is stored, and answered as created if it can be sent. -/
theorem handle_single_of_check {s : Service} {x : Submission} (h : q.Posts s.host basePath v)
    (hCheck : Submission.check .objectType v = .ok x) :
    (s.handle q).service = s.adding [x.definition] ∧
      (s.handle q).answer = s.host.deliver (.created (stripped x.definition)) := by
  rw [handle_single h, hCheck]
  exact s.addDefinition_eq (Submission.toDefinition_of_check hCheck)

/-- Of a submission whose parts can be sent, all that is stored is answered as created. -/
theorem tellsStored_iff_of_sends {s : Service} (h : q.Posts s.host basePath v)
    (hSends : ∀ es, v = .table es → ∀ e ∈ es, s.host.sends e.2 = true) :
    (s.handle q).answer.TellsStored ↔ (s.handle q).answer.status = 201 := by
  refine ⟨fun hStored => ?_, .inl⟩
  obtain ⟨x, hCheck⟩ := (judges_single h).taken_iff.1 hStored
  obtain ⟨es, rfl, _, _, hExtras⟩ := Submission.check_eq_ok_iff.1 hCheck
  rw [(handle_single_of_check h hCheck).2, (tellsStored_deliver ..).2, Host.canSend_stripped,
    Host.canSend, List.all_eq_true]
  intro e hMem
  have hExtra : e ∈ Schema.extras es := hExtras ▸ hMem
  exact hSends es rfl e (mem_extras_iff.1 hExtra).1.1

end

/-- Posting submissions that pass one by one is adding their definitions. -/
theorem handleAll_singles {host : Host} {singles : List Request} {items : List Value}
    {list : List Submission}
    (hSingles : List.Forall₂ (fun q v => q.Posts host basePath v) singles items)
    (hChecks : List.Forall₂ (fun v x => Submission.check .objectType v = .ok x) items list)
    {s : Service} (hHost : s.host = host) :
    (s.handleAll singles).1 = s.adding (list.map Submission.definition) ∧
      ∀ a ∈ (s.handleAll singles).2, a.1.TellsStored := by
  induction hSingles generalizing s list with
  | nil =>
      cases hChecks
      exact ⟨rfl, by simp [handleAll]⟩
  | @cons q v singles items hPosts _ ih =>
      cases hChecks with
      | @cons _ x _ list hCheck hChecks =>
          subst hHost
          have hStored := (judges_single hPosts).taken_iff.2 ⟨x, hCheck⟩
          have hService := (handle_single_of_check hPosts hCheck).1
          have hPrepared : ∀ e ∈ [x.definition].map Entry.definition, ∃ p, prepare e = .ok p := by
            rw [List.map_singleton, List.forall_mem_singleton]
            exact ⟨_, prepare_definition rfl⟩
          have hHost : (s.handle q).service.host = s.host := by rw [hService, host_adding]
          obtain ⟨hLast, hAnswers⟩ := ih hChecks hHost
          refine ⟨?_, List.forall_mem_cons.2 ⟨hStored, hAnswers⟩⟩
          rw [handleAll, List.map_cons]
          change ((s.handle q).service.handleAll singles).1 = _
          rw [hLast, hService, adding_adding s hPrepared, List.singleton_append]

section

variable {s : Service} {bulk : Request} {singles : List Request} {items : List Value}

/-- The refusal of a list breaks down if that of one of its elements does, alone. -/
theorem bulk_quoted_iff (hBulk : bulk.Posts s.host (basePath ++ "/bulk") (.list items))
    (hSingles : List.Forall₂ (fun q v => q.Posts s.host basePath v) singles items) :
    (s.handle bulk).answer ≠ .broken .unquotable ↔
      ∀ q ∈ singles, (s.handle q).answer ≠ .broken .unquotable := by
  rw [(judges_bulk hBulk).quoted_iff,
    forall_mem_iff_of_forall₂ hSingles fun hPosts => (judges_single hPosts).quoted_iff]
  constructor
  · intro h v hMem d hFault
    obtain ⟨i, hItem⟩ := List.mem_iff_getElem?.1 hMem
    have hInside := h _ (mem_faults_each.2 ⟨i, v, hItem, d, hFault, rfl⟩)
    rwa [Nat.zero_add, Submission.subject_inside_of_mem_faults hItem (by decide) hFault] at hInside
  · intro h d hFault
    obtain ⟨i, v, hItem, e, hElement, rfl⟩ := mem_faults_each.1 hFault
    rw [Nat.zero_add, Submission.subject_inside_of_mem_faults hItem (by decide) hElement]
    exact h v (List.mem_of_getElem? hItem) e hElement

/-- A list is taken if each of its elements is stored alone. -/
theorem bulk_taken_iff (hBulk : bulk.Posts s.host (basePath ++ "/bulk") (.list items))
    (hSingles : List.Forall₂ (fun q v => q.Posts s.host basePath v) singles items) :
    (s.handle bulk).answer.status = 200 ↔ ∀ q ∈ singles, (s.handle q).answer.TellsStored := by
  rw [(judges_bulk hBulk).taken_iff,
    forall_mem_iff_of_forall₂ hSingles fun hPosts => (judges_single hPosts).taken_iff,
    ← exists_forall₂_iff]
  exact exists_congr fun _ => each_eq_ok_iff

/-- A list that is taken leads to what its elements lead to, one by one, and each of them is stored. -/
theorem bulk_service_eq (hBulk : bulk.Posts s.host (basePath ++ "/bulk") (.list items))
    (hSingles : List.Forall₂ (fun q v => q.Posts s.host basePath v) singles items)
    (hTaken : (s.handle bulk).answer.status = 200) :
    (s.handle bulk).service = (s.handleAll singles).1 ∧
      ∀ a ∈ (s.handleAll singles).2, a.1.TellsStored := by
  obtain ⟨list, hCheck⟩ := (judges_bulk hBulk).taken_iff.1 hTaken
  obtain ⟨hLast, hAnswers⟩ := handleAll_singles hSingles (each_eq_ok_iff.1 hCheck) rfl
  refine ⟨?_, hAnswers⟩
  rw [hLast, handle_bulk hBulk, hCheck]
  exact (s.addDefinitions_eq (definition_of_submissions hCheck)).1

/-- No refusal breaks down over elements that can be quoted with all that is in them. -/
theorem singles_quoted (hSingles : List.Forall₂ (fun q v => q.Posts s.host basePath v) singles items)
    (hQuotable : ∀ v ∈ items, v.isQuotable = true ∧ v.everywhere s.host.quotes = true) :
    ∀ q ∈ singles, (s.handle q).answer ≠ .broken .unquotable := by
  rw [forall_mem_iff_of_forall₂ hSingles fun hPosts => (judges_single hPosts).quoted_iff]
  intro v hMem d hFault
  obtain ⟨hFinite, hRoom⟩ := hQuotable v hMem
  rw [Host.canQuote, Bool.and_eq_true]
  exact ⟨Submission.isQuotable_subject hFinite hFault, Submission.of_subject hRoom hFault⟩

/-- Posting a list is all or nothing, and it is posting its elements. The list is taken if each element
would be stored alone, and then the registry is the one that the elements lead to, one by one. Else
nothing changes; the list is then refused as invalid unless an element alone cannot be refused so,
which takes a value that cannot be quoted. An element that would be stored alone is answered as created
if its parts can be sent. -/
theorem bulk_eq_singles (hBulk : bulk.Posts s.host (basePath ++ "/bulk") (.list items))
    (hSingles : List.Forall₂ (fun q v => q.Posts s.host basePath v) singles items) :
    let o := s.handle bulk
    let alone := fun q => (s.handle q).answer
    (o.answer.status = 200 ↔ ∀ q ∈ singles, (alone q).TellsStored) ∧
      (o.answer.status = 200 → o.service = (s.handleAll singles).1 ∧
        ∀ a ∈ (s.handleAll singles).2, a.1.TellsStored) ∧
      (o.answer.status ≠ 200 → o.service = s) ∧
      (o.answer.status = 422 ↔ (∃ q ∈ singles, ¬(alone q).TellsStored) ∧
        ∀ q ∈ singles, alone q ≠ .broken .unquotable) ∧
      (o.answer.status ∉ [200, 422] → o.answer = .broken .unquotable) ∧
      ((∀ v ∈ items, v.isQuotable = true ∧ v.everywhere s.host.quotes = true) →
        ∀ q ∈ singles, alone q ≠ .broken .unquotable) ∧
      ((∀ es, .table es ∈ items → ∀ e ∈ es, s.host.sends e.2 = true) →
        ∀ q ∈ singles, (alone q).TellsStored ↔ (alone q).status = 201) := by
  intro o alone
  have hJudges := judges_bulk hBulk
  have hDone : o.answer.status = 200 ↔ ∀ q ∈ singles, (alone q).TellsStored :=
    bulk_taken_iff hBulk hSingles
  have hQuoted := bulk_quoted_iff hBulk hSingles
  refine ⟨hDone, bulk_service_eq hBulk hSingles, hJudges.unchanged, ?_, ?_,
    singles_quoted hSingles, ?_⟩
  · constructor
    · intro hStatus
      have hNotDone : ¬∀ q ∈ singles, (alone q).TellsStored := by
        rw [← hDone, hStatus]
        decide
      refine ⟨by simpa using hNotDone, hQuoted.1 fun hBroken => ?_⟩
      change (s.handle bulk).answer.status = 422 at hStatus
      rw [hBroken] at hStatus
      cases hStatus
    · rintro ⟨⟨q, hMem, hRefused⟩, hAlone⟩
      exact hJudges.refused (fun h => hRefused (hDone.1 h q hMem)) (hQuoted.2 hAlone)
  · intro hStatus
    simp only [List.mem_cons, List.not_mem_nil, or_false, not_or] at hStatus
    exact by_contra fun h => hStatus.2 (hJudges.refused hStatus.1 h)
  · intro hSends q hMem
    obtain ⟨v, hItem, hPosts⟩ := exists_of_mem_right hSingles.flip hMem
    exact tellsStored_iff_of_sends hPosts fun es hTable => hSends es (hTable ▸ hItem)

end

/-- A definition and another that overwrites it, in one list and one by one. -/
theorem bulk_eq_singles_overwriting :
    let s : Service := ⟨{}, {}, .empty⟩
    let post := fun path content => Request.mk "POST" "http://test" (basePath ++ path)
      (some "application/json") (String.toUTF8 content)
    let bulk := post "/bulk" "[\x7b\"name\":\"#a\"\x7d,\x7b\"name\":\"a\",\"x\":0\x7d]"
    let singles := [post "" "\x7b\"name\":\"#a\"\x7d", post "" "\x7b\"name\":\"a\",\"x\":0\x7d"]
    (s.handle bulk).answer.status = 200 ∧ (∀ q ∈ singles, (s.handle q).answer.status = 201) ∧
      (s.handleAll singles).1.registry.definitions.map (·.extras) = [[("x", .int 0)]] := by
  intro s post bulk singles
  have hBulk : bulk.Posts s.host (basePath ++ "/bulk")
      (.list [.table [("name", .text "#a")], .table [("name", .text "a"), ("x", .int 0)]]) := by
    decide +kernel
  have hSingles : List.Forall₂ (fun q v => q.Posts s.host basePath v) singles
      [.table [("name", .text "#a")], .table [("name", .text "a"), ("x", .int 0)]] :=
    .cons (by decide +kernel) (.cons (by decide +kernel) .nil)
  obtain ⟨hDone, hTaken, _, _, _, _, hCreated⟩ := bulk_eq_singles hBulk hSingles
  have hStatus : (s.handle bulk).answer.status = 200 := by decide +kernel
  refine ⟨hStatus, fun q hMem => ?_, ?_⟩
  · exact (hCreated (fun _ _ _ _ => rfl) q hMem).1 (hDone.1 hStatus q hMem)
  · rw [← (hTaken hStatus).1]
    decide +kernel

/-- A list that is refused over a number beyond all bounds is not told so. And where values that are
nested deeper than 255 levels cannot be sent, a list with such a value is taken, although its element is
not answered as created alone. -/
theorem bulk_breaks_down :
    let s : Service := ⟨{ sends := fun v => v.depth ≤ 255 }, {}, .empty⟩
    let post := fun path content => Request.mk "POST" "http://test" (basePath ++ path)
      (some "application/json") (String.toUTF8 content)
    let deep : Value := .table [("name", .text "a"), ("x", .nested 299)]
    (s.handle (post "" "\x7b\"name\": \"a\"\x7d")).answer.status = 201 ∧
      (s.handle (post "" "\x7b\"name\": 1e999\x7d")).answer.status ≠ 201 ∧
      (s.handle (post "/bulk" "[\x7b\"name\": \"a\"\x7d, \x7b\"name\": 1e999\x7d]")).answer.status ∉
        [200, 422] ∧
      (s.handle (.posting "http://test" basePath deep)).answer.status = 500 ∧
      (s.handle (.posting "http://test" (basePath ++ "/bulk") (.list [deep]))).answer.status = 200 := by
  intro s post deep
  have hCarried : ∀ v ∈ [deep, .list [deep]],
      v.everywhere (Json.isCarried (Value.readingLimits s.host.bodies)) = true := by decide +kernel
  have hDepth : ∀ n, (Value.readingLimits s.host.bodies).Admits 0 n := fun _ _ _ h => by cases h
  refine ⟨by decide +kernel, by decide +kernel, by decide +kernel, ?_, ?_⟩
  · have hCheck : Submission.check .objectType deep = .ok ⟨"a", "", [("x", .nested 299)]⟩ := rfl
    rw [handle_posting _ (hCarried _ (by simp)) (hDepth _) hCheck]
    decide +kernel
  · rw [handle_of_isFor bulkRoute rfl Request.isFor_posting, serve,
      Request.check_posting (hCarried _ (by simp)) (hDepth _)]
    decide +kernel

end Shorthand.Service
