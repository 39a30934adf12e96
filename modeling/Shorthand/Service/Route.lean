import Shorthand.Text.Lead

/-!
The routes of the service, in the order in which they are tried, and the choice of a route for a
method and a path.
-/

namespace Shorthand.Service

/-- What a route leads to. -/
inductive Endpoint where
  | listDefinitions
  | listNames
  | showDefinition
  | addDefinition
  | addDefinitions
  | detect
  | resolve
  | about
  | health
deriving DecidableEq, Repr

/-- The paths of a route. -/
inductive PathForm where
  /-- The path itself, which a line feed may follow. -/
  | exact (path : String)
  /-- The path and a single part below it, which is not empty. -/
  | below (path : String)
deriving DecidableEq, Repr

/-- The part of a path that the form leaves open, if the path is of the form. -/
def PathForm.match? (form : PathForm) (path : String) : Option String :=
  match form with
  | .exact expected =>
    if path = expected || path = expected ++ "\n" then some "" else none
  | .below parent =>
    match Text.dropLead? (parent ++ "/").toList path.toList with
    | none => none
    | some part =>
      if part.isEmpty || part.contains '/' then none else some (String.ofList part)

structure Route where
  method : String
  form : PathForm
  endpoint : Endpoint
deriving DecidableEq, Repr

/-- Where the definitions are. -/
def basePath : String := "/api/v1/macros"

/-- All routes, but for those to the documents that describe the service. -/
def routes : List Route :=
  [⟨"GET", .exact basePath, .listDefinitions⟩,
    ⟨"GET", .exact (basePath ++ "/names"), .listNames⟩,
    ⟨"GET", .below basePath, .showDefinition⟩,
    ⟨"POST", .exact basePath, .addDefinition⟩,
    ⟨"POST", .exact (basePath ++ "/bulk"), .addDefinitions⟩,
    ⟨"POST", .exact (basePath ++ "/detect"), .detect⟩,
    ⟨"POST", .exact (basePath ++ "/resolve"), .resolve⟩,
    ⟨"GET", .exact "/", .about⟩,
    ⟨"GET", .exact "/health", .health⟩]

/-- The path with a slash at its end, or without all the slashes there. -/
def toggleSlash (path : String) : String :=
  let backwards := path.toList.reverse
  if backwards.head? = some '/' then
    String.ofList (backwards.dropWhile (· = '/')).reverse
  else path ++ "/"

/-- Where a method and a path lead. -/
inductive Destination where
  /-- An endpoint, with the part of the path that its route leaves open. -/
  | endpoint (endpoint : Endpoint) (part : String)
  | otherMethod (method : String)
  | otherPath (path : String)
  | nowhere
deriving DecidableEq, Repr

/-- The first route that serves the path by the method; else the first that serves the path by
another method; else the path but for the slash at its end, if a route serves that. -/
def destination (method path : String) : Destination :=
  match routes.findSome? fun r =>
    if r.method = method then (r.form.match? path).map (r.endpoint, ·) else none with
  | some (endpoint, part) => .endpoint endpoint part
  | none =>
    match routes.find? fun r => (r.form.match? path).isSome with
    | some r => .otherMethod r.method
    | none =>
      let other := toggleSlash path
      if path ≠ "/" && routes.any fun r => (r.form.match? other).isSome then .otherPath other
      else .nowhere

end Shorthand.Service
