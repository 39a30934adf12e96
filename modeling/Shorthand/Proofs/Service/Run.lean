import Shorthand.Proofs.Service.Paired
import Shorthand.Proofs.Service.Routing
import Shorthand.Proofs.Service.Storing
import Shorthand.Proofs.Service.Written
import Shorthand.Proofs.Value.Equality

/-! What requests do to the registry of a service. A request that posts definitions which pass adds what
it posted, whether the answer can be sent or not; every other request leaves the service as it is. A run
of requests is therefore a run of additions, and what the service shows at any time is the registry that
they led to, as far as it can be sent. -/

namespace Shorthand.Service

open Registry Schema

/-- The answers to a definition that is stored: it is created, or it cannot be sent. -/
def Answer.TellsStored (a : Answer) : Prop := a.status = 201 ∨ a = .broken .unsendable

theorem Answer.not_tellsStored_of_isRefusal {a : Answer} (h : a.isRefusal = true) :
    ¬a.TellsStored := by
  obtain ⟨hStatus, hCause⟩ := a.status_of_isRefusal h
  rintro (hCreated | hUnsendable)
  · simp [hCreated] at hStatus
  · exact hCause hUnsendable

/-- A request that is to store definitions. -/
def Request.IsStoring (q : Request) : Prop :=
  q.IsFor "POST" basePath ∨ q.IsFor "POST" (basePath ++ "/bulk")

/-- What a request adds, as its answer tells: the definition that it posts if it is answered as created
or breaks down over sending it, the definitions of a bulk if it is answered as done, and nothing in any
other case. Of bodies with half of a surrogate pair nothing is said. -/
inductive Adds (host : Host) (q : Request) (a : Answer) : List Definition → Prop
  | single {s : Submission} (hFor : q.IsFor "POST" basePath) (hPaired : q.isPaired = true)
      (hBody : q.check host .objectType (Submission.check .objectType) = .ok s)
      (hStored : a.TellsStored) (hSent : a.status = 201 ↔ host.canSend s.definition = true) :
      Adds host q a [s.definition]
  | bulk {list : List Submission} (hFor : q.IsFor "POST" (basePath ++ "/bulk"))
      (hPaired : q.isPaired = true) (hBody : q.check host .listType submissions = .ok list)
      (hStatus : a.status = 200) : Adds host q a (list.map Submission.definition)
  | other (hSingle : ¬(q.IsFor "POST" basePath ∧ a.TellsStored))
      (hBulk : ¬(q.IsFor "POST" (basePath ++ "/bulk") ∧ a.status = 200)) : Adds host q a []

namespace Adds

variable {host : Host} {q : Request} {a : Answer} {ds : List Definition}

theorem prepared (h : Adds host q a ds) :
    ∀ e ∈ ds.map Entry.definition, ∃ p, prepare e = .ok p := by
  have hOwn : ∀ d ∈ ds, d.record = .own := by
    cases h with
    | single => simp [Submission.definition]
    | bulk => simp [Submission.definition]
    | other => simp
  intro e hMem
  obtain ⟨d, hDefinition, rfl⟩ := List.mem_map.1 hMem
  exact ⟨_, prepare_definition (hOwn d hDefinition)⟩

theorem of_refused (h : a.isRefusal = true) : Adds host q a [] :=
  .other (fun hStored => a.not_tellsStored_of_isRefusal h hStored.2)
    fun hDone => a.status_ne_of_isRefusal h hDone.2

/-- A definition that can be sent is answered as created. -/
theorem status_of_canSend (h : Adds host q a ds) (hFor : q.IsFor "POST" basePath)
    (hStored : a.TellsStored) (hSend : ∀ d ∈ ds, host.canSend d = true) : a.status = 201 := by
  cases h with
  | single _ _ _ _ hSent => exact hSent.2 (hSend _ (List.mem_singleton_self _))
  | bulk _ _ _ hStatus =>
      rcases hStored with hCreated | rfl
      · exact hCreated
      · cases hStatus
  | other hSingle => exact (hSingle ⟨hFor, hStored⟩).elim

end Adds

/-! One request. -/

theorem singleRoute : Route.mk "POST" (.exact basePath) .addDefinition ∈ routes := by
  decide

theorem bulkRoute : Route.mk "POST" (.exact (basePath ++ "/bulk")) .addDefinitions ∈ routes := by
  decide

/-- A request that leads elsewhere than to the two endpoints that store leaves the service as it
is. -/
theorem handle_service_of_other {q : Request}
    (hSingle : ∀ part, destination q.method q.path ≠ .endpoint .addDefinition part)
    (hBulk : ∀ part, destination q.method q.path ≠ .endpoint .addDefinitions part)
    (s : Service) : (s.handle q).service = s := by
  rw [handle]
  cases hDestination : destination q.method q.path with
  | otherMethod method => rfl
  | otherPath path => rfl
  | nowhere => rfl
  | endpoint e part =>
      cases e with
      | addDefinition => exact (hSingle part hDestination).elim
      | addDefinitions => exact (hBulk part hDestination).elim
      | listDefinitions => rfl
      | listNames => rfl
      | about => rfl
      | health => rfl
      -- The others choose between answers, and each of these goes with the same service.
      | showDefinition =>
          dsimp only [serve]
          split <;> rfl
      | detect =>
          dsimp only [serve, withBody]
          split <;> rfl
      | resolve =>
          dsimp only [serve, withBody]
          split
          · rw [resolve]
            split <;> rfl
          · rfl

/-- A definition that is posted is refused, or it is added and shown as it is stored, if it can be
sent. -/
theorem handle_single_cases {q : Request} (h : q.IsFor "POST" basePath) (s : Service) :
    (∃ a, q.check s.host .objectType (Submission.check .objectType) = .error a ∧
        s.handle q = s.unchanged a) ∨
      ∃ x, q.check s.host .objectType (Submission.check .objectType) = .ok x ∧
        (s.handle q).service = s.adding [x.definition] ∧
        (s.handle q).answer = s.host.deliver (.created (stripped x.definition)) := by
  rw [handle_of_isFor singleRoute rfl h, serve]
  cases hBody : q.check s.host .objectType (Submission.check .objectType) with
  | error a => exact Or.inl ⟨a, rfl, rfl⟩
  | ok x =>
      obtain ⟨v, _, hCheck⟩ := exists_of_check_eq_ok hBody
      exact Or.inr ⟨x, rfl, s.addDefinition_eq (Submission.toDefinition_of_check hCheck)⟩

/-- Definitions that are posted together are refused together, or they are all added. -/
theorem handle_bulk_cases {q : Request} (h : q.IsFor "POST" (basePath ++ "/bulk")) (s : Service) :
    (∃ a, q.check s.host .listType submissions = .error a ∧ s.handle q = s.unchanged a) ∨
      ∃ list, q.check s.host .listType submissions = .ok list ∧
        (s.handle q).service = s.adding (list.map Submission.definition) ∧
        (s.handle q).answer = .acknowledged (acknowledgement list.length) := by
  rw [handle_of_isFor bulkRoute rfl h, serve]
  cases hBody : q.check s.host .listType submissions with
  | error a => exact Or.inl ⟨a, rfl, rfl⟩
  | ok list =>
      obtain ⟨v, _, hCheck⟩ := exists_of_check_eq_ok hBody
      exact Or.inr ⟨list, rfl, s.addDefinitions_eq (definition_of_submissions hCheck)⟩

/-- A value that is written and posted is stored as what it was written for, if that passes. -/
theorem handle_posting {s : Service} {v : Value} {x : Submission} (origin : String)
    (hCarried : v.everywhere (Json.isCarried (Value.readingLimits s.host.bodies)) = true)
    (hDepth : (Value.readingLimits s.host.bodies).Admits 0 v.depth)
    (hCheck : Submission.check .objectType v = .ok x) :
    s.handle (.posting origin basePath v) = s.addDefinition x := by
  rw [handle_of_isFor singleRoute rfl Request.isFor_posting, serve,
    Request.check_posting hCarried hDepth, hCheck]
  rfl

theorem tellsStored_deliver (host : Host) (d : Definition) :
    (host.deliver (.created d)).TellsStored ∧
      ((host.deliver (.created d)).status = 201 ↔ host.canSend d = true) := by
  rw [Host.deliver_created]
  split
  · next hSend => exact ⟨.inl rfl, iff_of_true rfl hSend⟩
  · next hSend => exact ⟨.inr rfl, iff_of_false (by decide) hSend⟩

theorem handle_adds_single {q : Request} (h : q.IsFor "POST" basePath) (hPaired : q.isPaired = true)
    (s : Service) :
    ∃ ds, Adds s.host q (s.handle q).answer ds ∧ (s.handle q).service = s.adding ds := by
  obtain ⟨a, hBody, hRefused⟩ | ⟨x, hBody, hService, hAnswer⟩ := handle_single_cases h s
  · rw [hRefused]
    exact ⟨[], .of_refused (isRefusal_of_check_eq_error hBody), rfl⟩
  · obtain ⟨hStored, hSent⟩ := tellsStored_deliver s.host (stripped x.definition)
    rw [hAnswer]
    exact ⟨_, .single h hPaired hBody hStored hSent, hService⟩

theorem handle_adds_bulk {q : Request} (h : q.IsFor "POST" (basePath ++ "/bulk"))
    (hPaired : q.isPaired = true) (s : Service) :
    ∃ ds, Adds s.host q (s.handle q).answer ds ∧ (s.handle q).service = s.adding ds := by
  obtain ⟨a, hBody, hRefused⟩ | ⟨list, hBody, hService, hAnswer⟩ := handle_bulk_cases h s
  · rw [hRefused]
    exact ⟨[], .of_refused (isRefusal_of_check_eq_error hBody), rfl⟩
  · rw [hAnswer]
    exact ⟨_, .bulk h hPaired hBody rfl, hService⟩

/-- A request adds what its answer tells, and nothing else. -/
theorem handle_adds (s : Service) {q : Request} (hPaired : q.IsStoring → q.isPaired = true) :
    ∃ ds, Adds s.host q (s.handle q).answer ds ∧ (s.handle q).service = s.adding ds := by
  by_cases hSingle : q.IsFor "POST" basePath
  · exact handle_adds_single hSingle (hPaired (.inl hSingle)) s
  by_cases hBulk : q.IsFor "POST" (basePath ++ "/bulk")
  · exact handle_adds_bulk hBulk (hPaired (.inr hBulk)) s
  refine ⟨[], .other (fun h => hSingle h.1) (fun h => hBulk h.1), ?_⟩
  apply handle_service_of_other
  · exact fun part h => hSingle ((destination_eq_iff singleRoute rfl).1 h).1
  · exact fun part h => hBulk ((destination_eq_iff bulkRoute rfl).1 h).1

/-- A request that is not answered as an addition leaves the service as it is. -/
theorem handle_service_of_not_added (s : Service) {q : Request}
    (hPaired : q.IsStoring → q.isPaired = true)
    (hSingle : ¬(q.IsFor "POST" basePath ∧ (s.handle q).answer.TellsStored))
    (hBulk : ¬(q.IsFor "POST" (basePath ++ "/bulk") ∧ (s.handle q).answer.status = 200)) :
    (s.handle q).service = s := by
  obtain ⟨ds, hAdds, hService⟩ := s.handle_adds hPaired
  cases hAdds with
  | single hFor _ _ hStored => exact (hSingle ⟨hFor, hStored⟩).elim
  | bulk hFor _ _ hStatus => exact (hBulk ⟨hFor, hStatus⟩).elim
  | other => exact hService

/-! What the service shows. -/

theorem handle_listDefinitions (s : Service) {q : Request} (h : q.IsFor "GET" basePath) :
    (s.handle q).answer = s.host.deliver (.definitions s.registry.definitions) := by
  have hRoute : Route.mk "GET" (.exact basePath) .listDefinitions ∈ routes := by decide
  rw [handle_of_isFor hRoute rfl h]
  rfl

theorem handle_listNames (s : Service) {q : Request} (h : q.IsFor "GET" (basePath ++ "/names")) :
    (s.handle q).answer = .names s.registry.names := by
  have hRoute : Route.mk "GET" (.exact (basePath ++ "/names")) .listNames ∈ routes := by decide
  rw [handle_of_isFor hRoute rfl h]
  rfl

theorem handle_health (s : Service) {q : Request} (h : q.IsFor "GET" "/health") :
    (s.handle q).answer = .health s.registry.names.length := by
  have hRoute : Route.mk "GET" (.exact "/health") .health ∈ routes := by decide
  rw [handle_of_isFor hRoute rfl h, names, List.length_map]
  rfl

/-! Runs of requests. -/

/-- Adding two lists one after the other is adding them together, as neither fails. -/
theorem adding_adding (s : Service) {ds es : List Definition}
    (h : ∀ e ∈ ds.map Entry.definition, ∃ p, prepare e = .ok p) :
    (s.adding ds).adding es = s.adding (ds ++ es) := by
  rw [adding, adding, adding, addMany_registry, addMany_registry, addMany_registry, List.map_append,
    stored_append h, putAll_append]

/-- The answers of a run, each with its request. -/
def answered (s : Service) (qs : List Request) : List (Request × Answer) :=
  qs.zip ((s.handleAll qs).2.map Prod.fst)

theorem answered_cons (s : Service) (q : Request) (qs : List Request) :
    s.answered (q :: qs) = (q, (s.handle q).answer) :: (s.handle q).service.answered qs := rfl

theorem length_answered (s : Service) (qs : List Request) : (s.answered qs).length = qs.length := by
  induction qs generalizing s with
  | nil => rfl
  | cons q qs ih => rw [answered_cons, List.length_cons, List.length_cons, ih]

theorem handleAll_adds (s : Service) {qs : List Request}
    (hPaired : ∀ q ∈ qs, q.IsStoring → q.isPaired = true) :
    ∃ added, List.Forall₂ (fun e ds => Adds s.host e.1 e.2 ds) (s.answered qs) added ∧
      (s.handleAll qs).1 = s.adding added.flatten := by
  induction qs generalizing s with
  | nil => exact ⟨[], .nil, rfl⟩
  | cons q qs ih =>
      rw [List.forall_mem_cons] at hPaired
      obtain ⟨ds, hAdds, hService⟩ := s.handle_adds hPaired.1
      obtain ⟨added, hRest, hLast⟩ := ih (s.handle q).service hPaired.2
      have hHost : (s.handle q).service.host = s.host := by rw [hService, host_adding]
      rw [hHost] at hRest
      -- The first addition did not fail, so the later ones can be appended to it.
      refine ⟨ds :: added, .cons hAdds hRest, ?_⟩
      rw [List.flatten_cons, ← adding_adding s hAdds.prepared, ← hService]
      exact hLast

/-- None of the additions that answers tell fails. -/
theorem prepared_of_adds {host : Host} {es : List (Request × Answer)} {added : List (List Definition)}
    (h : List.Forall₂ (fun e ds => Adds host e.1 e.2 ds) es added) :
    ∀ e ∈ added.flatten.map Entry.definition, ∃ p, prepare e = .ok p := by
  intro e hMem
  obtain ⟨d, hFlat, rfl⟩ := List.mem_map.1 hMem
  obtain ⟨ds, hList, hDefinition⟩ := List.mem_flatten.1 hFlat
  obtain ⟨_, _, hOne⟩ := exists_of_mem_right h hList
  exact hOne.prepared _ (List.mem_map_of_mem hDefinition)

/-- Where all that is added can be sent, a single definition is added exactly if it is answered as
created. -/
theorem tellsStored_iff_of_adds {host : Host} {es : List (Request × Answer)}
    {added : List (List Definition)}
    (h : List.Forall₂ (fun e ds => Adds host e.1 e.2 ds) es added)
    (hSend : ∀ d ∈ added.flatten, host.canSend d = true) {e : Request × Answer} (hMem : e ∈ es)
    (hFor : e.1.IsFor "POST" basePath) : e.2.TellsStored ↔ e.2.status = 201 := by
  refine ⟨fun hStored => ?_, .inl⟩
  obtain ⟨ds, hList, hOne⟩ := exists_of_mem_right h.flip hMem
  exact hOne.status_of_canSend hFor hStored fun d hDefinition =>
    hSend d (List.mem_flatten_of_mem hList hDefinition)

/-- What is held after additions was held before or has been added, so it can be sent if all that can
be. -/
theorem canSend_adding {s : Service} {ds : List Definition}
    (h : ∀ d ∈ s.registry.definitions ++ ds, s.host.canSend d = true) :
    ∀ d ∈ (s.adding ds).registry.definitions, s.host.canSend d = true := by
  intro d hMem
  obtain ⟨e, hHeld, rfl⟩ := List.mem_map.1 hMem
  rw [adding, addMany_registry] at hHeld
  rcases mem_putAll hHeld with hAdded | hBefore
  · obtain ⟨_, hEntry, hPrepare⟩ := exists_of_mem_stored hAdded
    obtain ⟨d, hDefinition, rfl⟩ := List.mem_map.1 hEntry
    obtain ⟨_, hCoerce, rfl⟩ := prepare_eq_ok hPrepare
    cases hCoerce
    exact h d (List.mem_append_right _ hDefinition)
  · exact h _ (List.mem_append_left _ (List.mem_map_of_mem hBefore))

/-- The law of a run: the registry at its end is the one at its start with all that the answers tell
to be added, in the order of the requests, and none of these additions fails. A single definition is
added if it is answered as created, and also if the answer breaks down because it cannot be sent. In
the state that a run leads to, a request that is not answered as an addition changes nothing; the names
and their number are shown as the registry has them, and so are the definitions if they can be sent.
Where all that is held and posted can be sent, a definition is added exactly if it is answered as
created, and what is held is shown. -/
theorem run_is_additions {s : Service} (hReachable : s.registry.Reachable) {qs : List Request}
    (hPaired : ∀ q ∈ qs, q.IsStoring → q.isPaired = true) :
    let t := (s.handleAll qs).1
    (s.answered qs).length = qs.length ∧
      (∃ added, List.Forall₂ (fun e ds => Adds s.host e.1 e.2 ds) (s.answered qs) added ∧
        t.registry = (s.registry.addMany (added.flatten.map .definition)).registry ∧
        (s.registry.addMany (added.flatten.map .definition)).error = none ∧
        ((∀ d ∈ s.registry.definitions ++ added.flatten, s.host.canSend d = true) →
          (∀ e ∈ s.answered qs, e.1.IsFor "POST" basePath →
            (e.2.TellsStored ↔ e.2.status = 201)) ∧
          ∀ q, q.IsFor "GET" basePath →
            (t.handle q).answer = .definitions t.registry.definitions)) ∧
      t.settings = s.settings ∧ t.host = s.host ∧
      (∀ q, (q.IsStoring → q.isPaired = true) →
        ¬(q.IsFor "POST" basePath ∧ (t.handle q).answer.TellsStored) →
        ¬(q.IsFor "POST" (basePath ++ "/bulk") ∧ (t.handle q).answer.status = 200) →
          (t.handle q).service = t) ∧
      (∀ q, q.IsFor "GET" basePath →
        (t.handle q).answer = t.host.deliver (.definitions t.registry.definitions)) ∧
      t.registry.definitions.map (·.name) = t.registry.names ∧
      (∀ q, q.IsFor "GET" (basePath ++ "/names") →
        (t.handle q).answer = .names t.registry.names) ∧
      ∀ q, q.IsFor "GET" "/health" → (t.handle q).answer = .health t.registry.names.length := by
  intro t
  obtain ⟨added, hAdds, hLast⟩ := s.handleAll_adds hPaired
  have hRegistry : t.registry = (s.registry.addMany (added.flatten.map .definition)).registry :=
    congrArg Service.registry hLast
  have hHost : t.host = s.host := (congrArg Service.host hLast :)
  refine ⟨s.length_answered qs, ⟨added, hAdds, hRegistry,
      addMany_error (prepared_of_adds hAdds) _, fun hSend => ⟨fun e hMem => ?_, fun q hGet => ?_⟩⟩,
    (congrArg Service.settings hLast :), hHost, fun q => t.handle_service_of_not_added,
    fun q => t.handle_listDefinitions, ?_, fun q => t.handle_listNames, fun q => t.handle_health⟩
  · exact tellsStored_iff_of_adds hAdds (fun d hAdded => hSend d (List.mem_append_right _ hAdded)) hMem
  · change t = s.adding added.flatten at hLast
    rw [t.handle_listDefinitions hGet, hHost, Host.deliver_of_canSend]
    rw [hLast]
    exact canSend_adding hSend
  · rw [hRegistry]
    exact (hReachable.keyed.addMany _).map_name

/-- A definition with a marker that replaces another, a bulk that is refused for its second element,
and one that is not. -/
theorem run_is_additions_mixed :
    let added : Registry.Addition := .single (.raw (.table [("name", .text "a")]))
    let host : Host := { sends := fun v => v.depth ≤ 255 }
    let s : Service := ⟨host, {}, (Registry.empty.performAll [added]).1⟩
    let post := fun path content => Request.mk "POST" "http://test" (basePath ++ path)
      (some "application/json") (String.toUTF8 content)
    let get := Request.mk "GET" "http://test" (basePath ++ "/names") none ByteArray.empty
    let qs := [post "" "\x7b\"name\": \"#a\", \"code\": \"1\", \"x\": []\x7d",
      post "/bulk" "[\x7b\"name\": \"b\"\x7d, \x7b\"name\": \"\"\x7d]",
      get, post "/bulk" "[\x7b\"name\": \"c\"\x7d, \x7b\"name\": \"##a\"\x7d]"]
    s.registry.Reachable ∧ (∀ q ∈ qs, q.isPaired = true) ∧
      ((s.handleAll qs).2.map fun a => a.1.status) = [201, 422, 200, 200] ∧
      ((s.handleAll qs).1.handle get).answer = .names ["a", "c", "#a"] := by
  intro added host s post get qs
  have hReachable : s.registry.Reachable := ⟨_, rfl⟩
  have hPaired : ∀ q ∈ qs, q.isPaired = true := by decide +kernel
  obtain ⟨_, _, _, _, _, _, _, hShown, _⟩ :=
    run_is_additions hReachable fun q hMem _ => hPaired q hMem
  have hNames : (s.handleAll qs).1.registry.names = ["a", "c", "#a"] := by decide +kernel
  exact ⟨hReachable, hPaired, by decide +kernel,
    (hShown get (by decide +kernel)).trans (by rw [hNames])⟩

/-- Where values that are nested deeper than 255 levels cannot be sent, a definition with such a value is
stored although it is not answered as created, and then the definitions are not shown any more. -/
theorem stored_unsendable :
    let s : Service := ⟨{ sends := fun v => v.depth ≤ 255 }, {}, .empty⟩
    let post := Request.posting "http://test" basePath
      (.table [("name", .text "a"), ("x", .nested 299)])
    let get := fun path => Request.mk "GET" "http://test" (basePath ++ path) none ByteArray.empty
    let t := (s.handle post).service
    (s.handle post).answer.status = 500 ∧ t.registry.names = ["a"] ∧
      (t.handle (get "")).answer.status = 500 ∧
      (t.handle (get "/names")).answer.body? = some (.list [.text "a"]) := by
  intro s post get t
  have hHandle : s.handle post = s.addDefinition ⟨"a", "", [("x", .nested 299)]⟩ :=
    handle_posting _ (by decide +kernel) (fun _ _ hRefused => by cases hRefused) rfl
  have hService : t = (s.addDefinition ⟨"a", "", [("x", .nested 299)]⟩).service :=
    congrArg Outcome.service hHandle
  rw [hHandle, hService]
  decide +kernel

end Shorthand.Service
