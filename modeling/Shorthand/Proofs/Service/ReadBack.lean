import Shorthand.Proofs.Service.Run
import Shorthand.Proofs.Value.Equality

/-! Reading a definition back. What is answered to a definition that is posted is what is shown under
its name from then on, where the name can be a part of a path: a name with a slash leads nowhere, the
path of the list of names comes before the definition of that name, and no name leaves the path of all
definitions. -/

namespace Shorthand.Service

open Registry Schema

/-- The definition of a name is shown if the name can be a part of a path. -/
theorem handle_showDefinition (s : Service) {q : Request} (hMethod : q.method = "GET")
    {part : String} (hPath : q.path = basePath ++ "/" ++ part) (hEmpty : part ≠ "")
    (hSlash : '/' ∉ part.toList) (hNames : part ∉ ["names", "names\n"]) {d : Definition}
    (hGet : s.registry.get? part = some d) :
    (s.handle q).answer = s.host.deliver (.definition d) := by
  rw [handle, hMethod, hPath, destination_of_part hEmpty hSlash hNames]
  dsimp only [serve]
  rw [hGet]
  rfl

/-- Nothing is shown deeper below the definitions, and only from a path that ends in a slash is there a
way to another. -/
theorem status_of_slash (s : Service) {q : Request} {part : String}
    (hPath : q.path = basePath ++ "/" ++ part) (hSlash : '/' ∈ part.toList) :
    (s.handle q).answer.status = 404 ∨
      (s.handle q).answer.status = 307 ∧ part.toList.getLast? = some '/' := by
  rw [handle, hPath]
  obtain h | ⟨hEnd, path, h⟩ := destination_of_slash q.method hSlash
  · rw [h]
    exact Or.inl rfl
  · rw [h]
    exact Or.inr ⟨rfl, hEnd⟩

/-- A definition that is answered as created has been added, and it can be sent. -/
theorem exists_of_created (s : Service) {post : Request} (hPost : post.IsFor "POST" basePath)
    (hStatus : (s.handle post).answer.status = 201) :
    ∃ d, d.record = .own ∧ (s.handle post).service = s.adding [d] ∧
      s.host.canSend (stripped d) = true ∧ (s.handle post).answer = .created (stripped d) := by
  obtain ⟨a, hBody, hRefused⟩ | ⟨x, -, hService, hAnswer⟩ := handle_single_cases hPost s
  · have hCreated := (Answer.status_of_isRefusal (isRefusal_of_check_eq_error hBody)).1
    rw [hRefused] at hStatus
    change a.status = 201 at hStatus
    simp [hStatus] at hCreated
  · rw [hAnswer] at hStatus
    have hSend := (tellsStored_deliver ..).2.1 hStatus
    rw [Host.deliver_created, if_pos hSend] at hAnswer
    exact ⟨x.definition, rfl, hService, hSend, hAnswer⟩

/-- A definition that is answered as created is shown under its name, as it was answered, if the name
can be a part of a path and is not taken by the list of names. A name with a slash is not found, or is
led elsewhere if the slash is its last; the list of names is shown in place of its namesakes, and the
definition without a name is led to all definitions. -/
theorem created_is_shown (s : Service) {post get : Request} (hPost : post.IsFor "POST" basePath)
    (hStatus : (s.handle post).answer.status = 201) (hMethod : get.method = "GET") :
    let after := (s.handle post).service
    ∃ d, (s.handle post).answer = .created d ∧
      (get.path = basePath ++ "/" ++ d.name →
        (d.name ≠ "" → '/' ∉ d.name.toList → d.name ∉ ["names", "names\n"] →
          (after.handle get).answer = .definition d ∧ (after.handle get).answer.status = 200 ∧
            (after.handle get).answer.body? = (s.handle post).answer.body?) ∧
        ('/' ∈ d.name.toList → (after.handle get).answer.status = 404 ∨
          (after.handle get).answer.status = 307 ∧ d.name.toList.getLast? = some '/') ∧
        (d.name ∈ ["names", "names\n"] →
          (after.handle get).answer = .names after.registry.names) ∧
        (d.name = "" → (after.handle get).answer = .moved get.origin basePath)) := by
  intro after
  obtain ⟨d, hRecord, hService, hSend, hAnswer⟩ := s.exists_of_created hPost hStatus
  have hHost : after.host = s.host := by
    change (s.handle post).service.host = _
    rw [hService, host_adding]
  have hGet : after.registry.get? (stripMarker d.name) = some (stripped d) := by
    change (s.handle post).service.registry.get? _ = _
    rw [hService]
    exact s.get?_adding hRecord
  refine ⟨_, hAnswer, fun hPath => ⟨fun hEmpty hSlash hNames => ?_, after.status_of_slash hPath,
    fun hName => ?_, fun hName => ?_⟩⟩
  · have hShown := after.handle_showDefinition hMethod hPath hEmpty hSlash hNames hGet
    have hShowable : ∀ e ∈ (Answer.definition (stripped d)).shown, s.host.canSend e = true :=
      List.forall_mem_singleton.2 hSend
    rw [hHost, Host.deliver_of_canSend hShowable] at hShown
    exact ⟨hShown, by rw [hShown]; rfl, by rw [hShown, hAnswer]; rfl⟩
  · have hExact : ∀ name ∈ ["names", "names\n"],
        (PathForm.exact (basePath ++ "/names")).match? (basePath ++ "/" ++ name) = some "" := by
      decide +kernel
    exact after.handle_listNames ⟨hMethod, by rw [hPath]; exact hExact _ hName⟩
  · have hMoved : destination "GET" (basePath ++ "/" ++ "") = .otherPath basePath := by
      decide +kernel
    rw [handle, hMethod, hPath, hName, hMoved]
    rfl

/-- A definition with a marker left in its name, and with an extra. -/
theorem created_is_shown_marked :
    let s : Service := ⟨{}, {}, .empty⟩
    let post := Request.mk "POST" "http://test" basePath (some "application/json")
      (String.toUTF8 "\x7b\"name\":\"##a b\",\"x\":[1]\x7d")
    let get := Request.mk "GET" "http://test" (basePath ++ "/#a b") none ByteArray.empty
    post.IsFor "POST" basePath ∧ (s.handle post).answer.status = 201 ∧
      ((s.handle post).service.handle get).answer.body? =
        some (.table [("name", .text "#a b"), ("code", .text ""), ("x", .list [.int 1])]) := by
  intro s post get
  have hPost : post.IsFor "POST" basePath := by decide +kernel
  have hStatus : (s.handle post).answer.status = 201 := by decide +kernel
  obtain ⟨d, hAnswer, hShown⟩ := @created_is_shown s post get hPost hStatus rfl
  have hName : d.name = "#a b" := by
    have hTold : (match (s.handle post).answer with | .created d => d.name | _ => "") = "#a b" := by
      decide +kernel
    rwa [hAnswer] at hTold
  rw [hName] at hShown
  obtain ⟨_, _, hBody⟩ := (hShown (by decide +kernel)).1 (by decide) (by decide) (by decide)
  refine ⟨hPost, hStatus, hBody.trans ?_⟩
  decide +kernel

/-- A name with a slash is no part of a path, and the path of the names is none of a definition. -/
theorem created_is_hidden :
    let s : Service := ⟨{}, {}, .empty⟩
    let post := fun content =>
      Request.mk "POST" "http://test" basePath (some "application/json") (String.toUTF8 content)
    let get := fun part =>
      Request.mk "GET" "http://test" (basePath ++ "/" ++ part) none ByteArray.empty
    let parted := s.handle (post "\x7b\"name\":\"a/b\"\x7d")
    let named := s.handle (post "\x7b\"name\":\"names\"\x7d")
    parted.answer.status = 201 ∧
      parted.answer.body? = some (.table [("name", .text "a/b"), ("code", .text "")]) ∧
      (parted.service.handle (get "a/b")).answer.status = 404 ∧
      named.answer.status = 201 ∧
      named.answer.body? = some (.table [("name", .text "names"), ("code", .text "")]) ∧
      (named.service.handle (get "names")).answer.body? = some (.list [.text "names"]) := by
  decide +kernel

end Shorthand.Service
