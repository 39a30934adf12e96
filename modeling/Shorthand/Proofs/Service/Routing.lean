import Mathlib.Data.List.Basic
import Shorthand.Service

/-! Where requests lead. A route with an exact path is the first to serve its method and path,
whichever routes stand before it, and nothing but the routes leads to an endpoint. A part below the
path of the definitions leads to the definition of that name, unless a slash or an exact path is in
the way. -/

namespace Shorthand.Service

/-- A request for a path by a method, as a route with this exact path takes it. -/
def Request.IsFor (q : Request) (method path : String) : Prop :=
  q.method = method ∧ (PathForm.exact path).match? q.path = some ""

instance (q : Request) (method path : String) : Decidable (q.IsFor method path) :=
  inferInstanceAs (Decidable (_ ∧ _))

theorem PathForm.match?_exact_iff {expected path part : String} :
    (PathForm.exact expected).match? path = some part ↔
      (path = expected ∨ path = expected ++ "\n") ∧ part = "" := by
  rw [PathForm.match?]
  split
  · next h =>
      have hPath : path = expected ∨ path = expected ++ "\n" := by simpa using h
      rw [Option.some_inj, and_iff_right hPath, eq_comm]
  · next h =>
      have hPath : ¬(path = expected ∨ path = expected ++ "\n") := by simpa using h
      exact ⟨fun hMatch => (by cases hMatch), fun hMatch => (hPath hMatch.1).elim⟩

/-- No route is hidden by the routes before it. -/
theorem destination_of_exact {r : Route} (hRoute : r ∈ routes) {expected path : String}
    (hForm : r.form = .exact expected) (hPath : r.form.match? path = some "") :
    destination r.method path = .endpoint r.endpoint "" := by
  rw [hForm, PathForm.match?_exact_iff] at hPath
  simp only [routes, List.mem_cons, List.not_mem_nil, or_false] at hRoute
  rcases hRoute with rfl | rfl | rfl | rfl | rfl | rfl | rfl | rfl | rfl <;> cases hForm <;>
    rcases hPath.1 with rfl | rfl <;> decide +kernel

theorem exists_route_of_destination {method path part : String} {e : Endpoint}
    (h : destination method path = .endpoint e part) :
    ∃ r ∈ routes, r.method = method ∧ r.form.match? path = some part ∧ r.endpoint = e := by
  rw [destination] at h
  split at h
  · next e' part' hFound =>
      cases h
      obtain ⟨r, hRoute, hServes⟩ := List.exists_of_findSome?_eq_some hFound
      split at hServes
      · next hMethod =>
          obtain ⟨_, hMatch, hPair⟩ := Option.map_eq_some_iff.1 hServes
          cases hPair
          exact ⟨r, hRoute, hMethod, hMatch, rfl⟩
      · cases hServes
  · split at h
    · cases h
    · dsimp only at h
      split at h <;> cases h

/-- Each endpoint has one route. -/
theorem route_unique : ∀ r ∈ routes, ∀ r' ∈ routes, r.endpoint = r'.endpoint → r = r' := by
  decide

/-- The requests that lead to the endpoint of a route with an exact path are those for that path. -/
theorem destination_eq_iff {r : Route} (hRoute : r ∈ routes) {expected : String}
    (hForm : r.form = .exact expected) {q : Request} {part : String} :
    destination q.method q.path = .endpoint r.endpoint part ↔
      q.IsFor r.method expected ∧ part = "" := by
  constructor
  · intro h
    obtain ⟨r', hRoute', hMethod, hMatch, hEndpoint⟩ := exists_route_of_destination h
    obtain rfl := route_unique r' hRoute' r hRoute hEndpoint
    rw [hForm] at hMatch
    obtain rfl : part = "" := (PathForm.match?_exact_iff.1 hMatch).2
    exact ⟨⟨hMethod.symm, hMatch⟩, rfl⟩
  · rintro ⟨⟨hMethod, hMatch⟩, rfl⟩
    rw [hMethod]
    exact destination_of_exact hRoute hForm (by rw [hForm, hMatch])

/-- A request for an exact path is served by its endpoint. -/
theorem handle_of_isFor {r : Route} (hRoute : r ∈ routes) {expected : String}
    (hForm : r.form = .exact expected) {q : Request} (h : q.IsFor r.method expected)
    (s : Service) : s.handle q = s.serve r.endpoint "" q := by
  rw [handle, (destination_eq_iff hRoute hForm).2 ⟨h, rfl⟩]

/-! Below the path of the definitions. -/

theorem PathForm.match?_below_iff {parent path part : String} :
    (PathForm.below parent).match? path = some part ↔
      path = parent ++ "/" ++ part ∧ part ≠ "" ∧ '/' ∉ part.toList := by
  have hDrop : ∀ rest, Text.dropLead? (parent ++ "/").toList path.toList = some rest ↔
      path = parent ++ "/" ++ String.ofList rest := by
    intro rest
    rw [Text.dropLead?_eq_some_iff, ← String.toList_inj, @String.toList_append (parent ++ "/"),
      String.toList_ofList]
  rw [PathForm.match?]
  constructor
  · intro h
    split at h
    · cases h
    · next rest hRest =>
        split at h
        · cases h
        · next hOpen =>
            cases h
            simp only [Bool.or_eq_true, List.isEmpty_iff, List.contains_iff_mem, not_or] at hOpen
            exact ⟨(hDrop rest).1 hRest, by simpa using hOpen.1, by simpa using hOpen.2⟩
  · rintro ⟨hPath, hEmpty, hSlash⟩
    have hRest := (hDrop part.toList).2 (by rw [hPath, String.ofList_toList])
    rw [hRest]
    simp [hEmpty, hSlash]

/-- No exact path lies two parts below the definitions, and of those that are served by `GET` only that
of the names lies one part below. -/
theorem part_of_exact {r : Route} (hRoute : r ∈ routes) {expected path part : String}
    (hForm : r.form = .exact expected) (hPath : path = expected ∨ path = expected ++ "\n")
    (hPart : path = basePath ++ "/" ++ part) :
    '/' ∉ part.toList ∧ (r.method = "GET" → part ∈ ["names", "names\n"]) := by
  have hDrop : Text.dropLead? (basePath ++ "/").toList path.toList = some part.toList := by
    rw [Text.dropLead?_eq_some_iff, hPart, String.toList_append]
  have hTable : ∀ rest ∈ Text.dropLead? (basePath ++ "/").toList path.toList,
      '/' ∉ rest ∧ (r.method = "GET" → String.ofList rest ∈ ["names", "names\n"]) := by
    simp only [routes, List.mem_cons, List.not_mem_nil, or_false] at hRoute
    rcases hRoute with rfl | rfl | rfl | rfl | rfl | rfl | rfl | rfl | rfl <;> cases hForm <;>
      rcases hPath with rfl | rfl <;> decide +kernel
  have hPart := hTable part.toList hDrop
  rwa [String.ofList_toList] at hPart

theorem route_of_below {r : Route} (hRoute : r ∈ routes) {parent : String}
    (hForm : r.form = .below parent) : r = ⟨"GET", .below basePath, .showDefinition⟩ := by
  simp only [routes, List.mem_cons, List.not_mem_nil, or_false] at hRoute
  rcases hRoute with rfl | rfl | rfl | rfl | rfl | rfl | rfl | rfl | rfl <;> cases hForm
  rfl

/-- The routes that serve a path below the definitions: for a single part of it the one that shows
definitions, unless the part is that of the names, and for several parts none. -/
theorem match?_part {r : Route} (hRoute : r ∈ routes) {part left : String}
    (h : r.form.match? (basePath ++ "/" ++ part) = some left) :
    '/' ∉ part.toList ∧ (r.method = "GET" → part ∉ ["names", "names\n"] →
      r.endpoint = .showDefinition ∧ left = part) := by
  cases hForm : r.form with
  | exact expected =>
      rw [hForm, PathForm.match?_exact_iff] at h
      obtain ⟨hSlash, hShown⟩ := part_of_exact hRoute hForm h.1 rfl
      exact ⟨hSlash, fun hMethod hNames => (hNames (hShown hMethod)).elim⟩
  | below parent =>
      obtain rfl := route_of_below hRoute hForm
      obtain ⟨hPath, -, hSlash⟩ := PathForm.match?_below_iff.1 h
      obtain rfl : part = left := (String.append_right_inj _).1 hPath
      exact ⟨hSlash, fun _ _ => ⟨rfl, rfl⟩⟩

theorem exists_endpoint {r : Route} (hRoute : r ∈ routes) {path part : String}
    (h : r.form.match? path = some part) : ∃ e left, destination r.method path = .endpoint e left := by
  rw [destination]
  split
  · exact ⟨_, _, rfl⟩
  · next hNone =>
      have hServes := List.findSome?_eq_none_iff.1 hNone r hRoute
      simp [h] at hServes

/-- Every other part below the definitions is taken as a name. -/
theorem destination_of_part {part : String} (hEmpty : part ≠ "") (hSlash : '/' ∉ part.toList)
    (hNames : part ∉ ["names", "names\n"]) :
    destination "GET" (basePath ++ "/" ++ part) = .endpoint .showDefinition part := by
  have hRoute : Route.mk "GET" (.below basePath) .showDefinition ∈ routes := by decide
  obtain ⟨e, left, h⟩ := exists_endpoint hRoute
    (PathForm.match?_below_iff.2 ⟨rfl, hEmpty, hSlash⟩)
  obtain ⟨r, hServes, hMethod, hMatch, rfl⟩ := exists_route_of_destination h
  obtain ⟨hEndpoint, rfl⟩ := (match?_part hServes hMatch).2 hMethod hNames
  rw [← hEndpoint]
  exact h

theorem exists_route_of_otherMethod {method other path : String}
    (h : destination method path = .otherMethod other) :
    ∃ r ∈ routes, (r.form.match? path).isSome = true := by
  rw [destination] at h
  split at h
  · cases h
  · split at h
    · next r hFound =>
        have hServes := List.find?_some hFound
        exact ⟨r, List.mem_of_find?_eq_some hFound, hServes⟩
    · dsimp only at h
      split at h <;> cases h

/-- No route serves a path of several parts below the definitions. -/
theorem match?_of_slash {part : String} (hSlash : '/' ∈ part.toList) :
    ∀ r ∈ routes, r.form.match? (basePath ++ "/" ++ part) = none := by
  intro r hRoute
  rw [Option.eq_none_iff_forall_ne_some]
  exact fun left h => (match?_part hRoute h).1 hSlash

/-- A path is not led back from itself: where it has no slash at its end it is led to one that has. -/
theorem exists_route_of_otherPath {method path other : String}
    (h : destination method path = .otherPath other) :
    other = toggleSlash path ∧ ∃ r ∈ routes, (r.form.match? other).isSome = true := by
  rw [destination] at h
  split at h
  · cases h
  · split at h
    · cases h
    · dsimp only at h
      split at h
      · next hServed =>
          cases h
          rw [Bool.and_eq_true, List.any_eq_true] at hServed
          exact ⟨rfl, hServed.2⟩
      · cases h

theorem toggleSlash_of_not_slash {path : String} (h : path.toList.getLast? ≠ some '/') :
    toggleSlash path = path ++ "/" := by
  rw [toggleSlash, if_neg]
  rwa [List.head?_reverse]

/-- Nothing is served deeper below the definitions. What is asked for there is led elsewhere only if it
ends in a slash. -/
theorem destination_of_slash (method : String) {part : String} (hSlash : '/' ∈ part.toList) :
    destination method (basePath ++ "/" ++ part) = .nowhere ∨
      part.toList.getLast? = some '/' ∧
        ∃ path, destination method (basePath ++ "/" ++ part) = .otherPath path := by
  have hNone := match?_of_slash hSlash
  cases h : destination method (basePath ++ "/" ++ part) with
  | endpoint e left =>
      obtain ⟨r, hRoute, -, hMatch, -⟩ := exists_route_of_destination h
      rw [hNone r hRoute] at hMatch
      cases hMatch
  | otherMethod other =>
      obtain ⟨r, hRoute, hMatch⟩ := exists_route_of_otherMethod h
      rw [hNone r hRoute] at hMatch
      cases hMatch
  | otherPath path =>
      refine Or.inr ⟨by_contra fun hEnd => ?_, path, rfl⟩
      obtain ⟨rfl, r, hRoute, hMatch⟩ := exists_route_of_otherPath h
      -- A slash behind the path leaves it a path of several parts.
      have hLast : (basePath ++ "/" ++ part).toList.getLast? = part.toList.getLast? := by
        rw [String.toList_append, List.getLast?_append_of_ne_nil _ (List.ne_nil_of_mem hSlash)]
      have hDeeper : '/' ∈ (part ++ "/").toList := by
        rw [String.toList_append]
        exact List.mem_append_left _ hSlash
      rw [toggleSlash_of_not_slash (hLast ▸ hEnd), String.append_assoc,
        match?_of_slash hDeeper r hRoute] at hMatch
      cases hMatch
  | nowhere => exact Or.inl rfl

end Shorthand.Service
