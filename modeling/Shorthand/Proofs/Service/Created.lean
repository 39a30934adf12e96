import Shorthand.Proofs.Json.Kinds
import Shorthand.Proofs.Registry.RawTable
import Shorthand.Proofs.Registry.Reseeding
import Shorthand.Proofs.Service.Bulk

/-! What becomes of a definition that is posted. The name under which it is looked up for the answer is
found apart from the name under which it was added, and the two are the same for every name that is
accepted; so the answer is what the registry now holds, and it is sent as it was posted, if it can be
sent. -/

namespace Shorthand.Service

open Registry Schema

/-- The definition that a table stands for: its name less one marker, if there is one in front, its code
or none, and all else that is in it. -/
structure StandsFor (es : Entries) (d : Definition) : Prop where
  name : ∃ given, es.get? "name" = some (.text given) ∧
    (given.toList = Reference.marker :: d.name.toList ∨
      given.toList.head? ≠ some Reference.marker ∧ d.name = given)
  code : es.get? "code" = some (.text d.code) ∨ es.get? "code" = none ∧ d.code = ""
  extras : d.extras = es.filter fun e => e.1 ≠ "name" ∧ e.1 ≠ "code"

/-- A registry that has come to hold a definition under its name, at the place of that name or at the
end, and is otherwise as it was. -/
structure Gains (before after : Registry) (d : Definition) : Prop where
  held : after.get? d.name = some d
  names : after.names = if before.names.contains d.name then before.names else before.names ++ [d.name]
  others : after.table.filter (·.1 ≠ d.name) = before.table.filter (·.1 ≠ d.name)

theorem gains_put (r : Registry) (d : Definition) : Gains r (r.put d.name d) d where
  held := by rw [get?_put, if_pos rfl]
  names := names_put r d.name d
  others := others_putIn d.name d r.table

theorem registry_adding (s : Service) {d : Definition} (h : d.record = .own) :
    (s.adding [d]).registry = s.registry.put (stripMarker d.name) (stripped d) := by
  rw [adding, addMany_registry, List.map_singleton, stored, prepare_definition h]
  rfl

/-- A submission that passed is stored as what its table stands for. -/
theorem standsFor_of_check {otherwise : Fault} {v : Value} {x : Submission}
    (h : Submission.check otherwise v = .ok x) :
    ∃ es, v = .table es ∧ StandsFor es (stripped x.definition) := by
  obtain ⟨es, rfl, ⟨hName, _⟩, hCode, hExtras⟩ := Submission.check_eq_ok_iff.1 h
  refine ⟨es, rfl, ⟨x.name, hName, ?_⟩, hCode.imp_left And.left, hExtras.trans extras_eq_filter⟩
  exact (stripMarker_cases x.name).symm

/-- No date or time is posted. -/
theorem Request.Posts.undated {q : Request} {host : Host} {path : String} {v : Value}
    (h : q.Posts host path v) : v.everywhere Value.isUndated = true := by
  have hBody := Body.value?_eq_some_iff.1 h.2.2
  rw [Request.body] at hBody
  split at hBody
  · cases hBody
  · split at hBody
    · rw [readBody] at hBody
      split at hBody
      · cases hBody
      · split at hBody <;> cases hBody
        next hRead => exact Json.undated_read hRead
    · cases hBody

/-- A definition without dates, times and numbers that are not finite is sent as it is. -/
theorem body_created {d : Definition}
    (hFinite : (Value.table d.extras).everywhere Value.isFiniteNumber = true)
    (hUndated : (Value.table d.extras).everywhere Value.isUndated = true) :
    (Answer.created d).body? = some (.table d.toEntries) := by
  have hAll : ∀ p : Value → Bool, (∀ s, p (.text s) = true) → (∀ es, p (.table es) = true) →
      (Value.table d.extras).everywhere p = true →
        (Value.table d.toEntries).everywhere p = true := by
    intro p hText hTable hExtras
    rw [Value.everywhere_table_iff] at hExtras ⊢
    refine ⟨hTable _, List.forall_mem_cons.2 ⟨hText _, List.forall_mem_cons.2 ⟨hText _, ?_⟩⟩⟩
    exact hExtras.2
  rw [Answer.body?, Answer.value?, Option.map_some, Value.portable_eq]
  · exact hAll _ (fun _ => rfl) (fun _ => rfl) hFinite
  · exact hAll _ (fun _ => rfl) (fun _ => rfl) hUndated

theorem undated_extras {q : Request} {host : Host} {path : String} {es : Entries}
    (h : q.Posts host path (.table es)) {d : Definition} (hStands : StandsFor es d) :
    (Value.table d.extras).everywhere Value.isUndated = true := by
  have hParts := (Value.everywhere_table_iff.1 h.undated).2
  refine Value.everywhere_table_iff.2 ⟨rfl, fun e hMem => hParts e ?_⟩
  rw [hStands.extras] at hMem
  exact List.mem_of_mem_filter hMem

/-- A body that passes is stored: the registry holds from then on the definition that the body stands
for, under its name, it is once among the definitions that are to be shown, and nothing else has
changed. If that definition can be sent it is the answer, as it is if its numbers are finite, and the
definitions are shown if all of them can be sent. If it cannot be sent the answer breaks down. -/
theorem created_is_stored {s : Service} (hReachable : s.registry.Reachable) {post : Request}
    {v : Value} {x : Submission} (hPost : post.Posts s.host basePath v)
    (hAccepted : Submission.check .objectType v = .ok x) :
    let o := s.handle post
    ∃ es d, v = .table es ∧ StandsFor es d ∧ Gains s.registry o.service.registry d ∧
      (s.host.canSend d = true → o.answer = .created d ∧ o.answer.status = 201 ∧
        ((Value.table d.extras).everywhere Value.isFiniteNumber = true →
          o.answer.body? = some (.table d.toEntries))) ∧
      (s.host.canSend d = false → o.answer = .broken .unsendable) ∧
      ∀ get : Request, get.IsFor "GET" basePath →
        ∃ ds, (o.service.handle get).answer = s.host.deliver (.definitions ds) ∧
          ds.filter (·.name = d.name) = [d] ∧
          ((∀ e ∈ s.registry.definitions, s.host.canSend e = true) → s.host.canSend d = true →
            (o.service.handle get).answer = .definitions ds) := by
  intro o
  obtain ⟨es, rfl, hStands⟩ := standsFor_of_check hAccepted
  obtain ⟨hService, hAnswer⟩ : o.service = s.adding [x.definition] ∧
      o.answer = s.host.deliver (.created (stripped x.definition)) :=
    handle_single_of_check hPost hAccepted
  have hHost : o.service.host = s.host := by rw [hService, host_adding]
  have hGains : Gains s.registry o.service.registry (stripped x.definition) := by
    rw [hService, registry_adding s rfl]
    exact gains_put s.registry (stripped x.definition)
  rw [Host.deliver_created] at hAnswer
  refine ⟨es, stripped x.definition, rfl, hStands, hGains, fun hSend => ?_, fun hSend => ?_,
    fun get hGet => ?_⟩
  · rw [if_pos hSend] at hAnswer
    rw [hAnswer]
    exact ⟨rfl, rfl, fun hFinite => body_created hFinite (undated_extras hPost hStands)⟩
  · rwa [hSend, if_neg Bool.false_ne_true] at hAnswer
  · have hShown := o.service.handle_listDefinitions hGet
    have hKeyed : o.service.registry.Keyed := by
      rw [hService]
      exact hReachable.keyed.addMany _
    rw [hHost] at hShown
    refine ⟨_, hShown, hKeyed.filter_name hGains.held, fun hHeld hSend => ?_⟩
    rw [hShown, Host.deliver_of_canSend]
    rw [hService]
    exact canSend_adding (List.forall_mem_append.2 ⟨hHeld, List.forall_mem_singleton.2 hSend⟩)

/-- A definition with two markers replaces one that has kept a marker, between two others. -/
theorem created_is_stored_marked :
    let named : String → Entry := fun name => .raw (.table [("name", .text name)])
    let s : Service :=
      ⟨{}, {}, (Registry.empty.performAll [.batch [named "a", named "##x", named "b"]]).1⟩
    let post := Request.mk "POST" "http://test" basePath (some "application/json")
      (String.toUTF8 "\x7b\"code\": \"#b\", \"n\": [null], \"name\": \"##x\"\x7d")
    let get := Request.mk "GET" "http://test" basePath none ByteArray.empty
    let o := s.handle post
    s.registry.Reachable ∧ o.answer.status = 201 ∧
      o.answer.body? =
        some (.table [("name", .text "#x"), ("code", .text "#b"), ("n", .list [.null])]) ∧
      o.service.registry.names = ["a", "#x", "b"] ∧
      ∃ ds, (o.service.handle get).answer = .definitions ds ∧
        (ds.filter (·.name = "#x")).map (·.code) = ["#b"] := by
  intro named s post get o
  let es : Entries := [("code", .text "#b"), ("n", .list [.null]), ("name", .text "##x")]
  let x : Submission := ⟨"##x", "#b", [("n", .list [.null])]⟩
  have hReachable : s.registry.Reachable := ⟨_, rfl⟩
  have hPost : post.Posts s.host basePath (.table es) := by decide +kernel
  obtain ⟨es', d, hSame, hStands, hGains, hSent, _, hShown⟩ :=
    @created_is_stored s hReachable post (.table es) x hPost rfl
  obtain rfl : es = es' := Value.table.inj hSame
  have hName : d.name = "#x" := by
    obtain ⟨given, hGiven, hCases⟩ := hStands.name
    obtain rfl : "##x" = given := by simpa [es, Entries.get?] using hGiven
    obtain hMarked | ⟨hUnmarked, _⟩ := hCases
    · have hList : "#x".toList = d.name.toList := (List.cons.inj hMarked).2
      exact (String.toList_injective hList).symm
    · exact absurd rfl hUnmarked
  have hCode : d.code = "#b" := by
    obtain hGiven | ⟨hAbsent, _⟩ := hStands.code
    · simpa [es, Entries.get?, eq_comm] using hGiven
    · simp [es, Entries.get?] at hAbsent
  have hExtras : d.extras = [("n", .list [.null])] := by
    rw [hStands.extras]
    decide +kernel
  have hSend : ∀ e : Definition, s.host.canSend e = true := fun e => List.all_eq_true.2 fun _ _ => rfl
  obtain ⟨_, hStatus, hBody⟩ := hSent (hSend d)
  obtain ⟨ds, _, hOnce, hAnswer⟩ := hShown get (by decide +kernel)
  refine ⟨hReachable, hStatus, ?_, ?_, ds, hAnswer (fun e _ => hSend e) (hSend d), ?_⟩
  · rw [hBody (by rw [hExtras]; rfl), Definition.toEntries, hName, hCode, hExtras]
  · rw [hGains.names, hName]
    decide +kernel
  · rw [hName] at hOnce
    rw [hOnce, List.map_singleton, hCode]

/-- Where values that are nested deeper than 255 levels cannot be sent, a definition with such a value
replaces another and is not the answer, and the definitions are not shown any more. -/
theorem created_unsendable :
    let held : Entry := .raw (.table [("name", .text "a"), ("code", .text "b")])
    let s : Service :=
      ⟨{ sends := fun v => v.depth ≤ 255 }, {}, (Registry.empty.performAll [.single held]).1⟩
    let post := Request.posting "http://test" basePath
      (.table [("name", .text "#a"), ("x", .nested 299)])
    let get := Request.mk "GET" "http://test" basePath none ByteArray.empty
    let o := s.handle post
    (s.handle get).answer.status = 200 ∧ o.answer.status = 500 ∧
      (o.service.registry.get? "a").map (·.code) = some "" ∧
      (o.service.handle get).answer.status = 500 := by
  intro held s post get o
  have hHandle : o = s.addDefinition ⟨"#a", "", [("x", .nested 299)]⟩ :=
    handle_posting _ (by decide +kernel) (fun _ _ hRefused => by cases hRefused) rfl
  rw [hHandle]
  decide +kernel

end Shorthand.Service
