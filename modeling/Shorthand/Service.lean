import Shorthand.Catalogue.File
import Shorthand.Operand
import Shorthand.Service.Host
import Shorthand.Service.Request
import Shorthand.Service.Route
import Shorthand.Settings.Lookup

/-!
The service: its state is a registry, on a host and under settings that do not change. A request leads
to an answer and a new state; only the two endpoints that add definitions change the registry.
-/

namespace Shorthand

open Schema

structure Service where
  host : Service.Host
  settings : Settings
  registry : Registry

namespace Service

/-- The state after a request, the answer, and what was told meanwhile. -/
structure Outcome where
  service : Service
  answer : Answer
  events : List Event

/-- An answer that leaves the service as it is. -/
def unchanged (s : Service) (answer : Answer) : Outcome := ⟨s, answer, []⟩

/-- The place of the body in details. -/
def bodyPlace : Place := .field "body"

/-- The answer to a value that is refused, which is quoted in it where the details are about it. -/
def refusal (host : Host) (v : Value) (details : List Detail) : Answer :=
  if details.all fun d => host.canQuote (d.subject v) then
    .invalid (details.map (·.inside bodyPlace))
  else .broken .unquotable

/-- The value that a body has to be; the error is the answer to a body that is not. `otherwise` is
the fault of content that is not read; it is quoted as a text. -/
def Body.check {α : Type} (body : Body) (host : Host) (otherwise : Fault)
    (check : Value → Checked α) : Except Answer α :=
  match body with
  | .absent => .error (.invalid [⟨.missing, [bodyPlace]⟩])
  | .value v => (check v).mapError (refusal host v)
  | .foreign content =>
    match Text.Utf8.decode content with
    | .ok s => .error (refusal host (.text s) [⟨otherwise, []⟩])
    | .error _ => .error (.broken .undecodable)
  | .malformed flaw position =>
    .error (.invalid [⟨.malformedBody flaw.message, [bodyPlace, .index position]⟩])
  | .unreadable => .error .unreadable

/-- The value that the body of a request has to be. -/
def Request.check {α : Type} (r : Request) (host : Host) (otherwise : Fault)
    (check : Value → Checked α) : Except Answer α :=
  (r.body host.bodies).check host otherwise check

/-- A list of submissions. -/
def submissions : Value → Checked (List Submission)
  | .list items => each (Submission.check .objectType) 0 items
  | _ => fail .listType

/-- Adds a submission as a definition. -/
def store? (r : Registry) (s : Submission) : Option (Registry × Event) :=
  match s.toDefinition with
  | .error _ => none
  | .ok d => (r.add (.definition d)).toOption

/-- The registry after adding submissions in order, what was told, and whether all were added. -/
def storeAll (r : Registry) : List Submission → Registry × List Event × Bool
  | [] => (r, [], true)
  | s :: rest =>
    match store? r s with
    | none => (r, [], false)
    | some (r, event) =>
      let (r, events, done) := storeAll r rest
      (r, event :: events, done)

/-- Adds a definition, and answers with what is stored under its name. It is stored even if the answer
cannot be sent. -/
def addDefinition (s : Service) (submission : Submission) : Outcome :=
  match store? s.registry submission with
  | none => s.unchanged (.broken .registry)
  | some (registry, event) =>
    let answer :=
      match registry.get? (Text.withoutLead [Reference.marker] submission.name) with
      | some d => s.host.deliver (.created d)
      | none => .broken .registry
    ⟨{ s with registry }, answer, [event]⟩

/-- The acknowledgement of so many additions. -/
def acknowledgement (count : Nat) : Acknowledgement :=
  ⟨true, toString count ++ " macro(s) added"⟩

/-- Adds definitions in order. -/
def addDefinitions (s : Service) (list : List Submission) : Outcome :=
  let (registry, events, done) := storeAll s.registry list
  ⟨{ s with registry },
    if done then .acknowledged (acknowledgement list.length) else .broken .registry, events⟩

/-- The references in a text, by the names of the registry. -/
def detect (s : Service) (p : Passage) : Outcome :=
  let tokens := Reference.find s.registry.names p.text s.settings.bounded
  s.unchanged (.detected ⟨!tokens.isEmpty, tokens⟩)

/-- A text with its references resolved, by the definitions of the registry. -/
def resolve (s : Service) (p : Passage) : Outcome :=
  match Shorthand.resolve (s.registry.definitions.map .definition) p.text s.settings.bounded with
  | .ok r => ⟨s, .resolved ⟨r.text⟩, r.events⟩
  | .error _ => s.unchanged (.broken .registry)

/-- Goes on with a checked body, or gives the answer that refuses it. -/
def withBody {α : Type} (s : Service) (checked : Except Answer α) (next : α → Outcome) : Outcome :=
  match checked with
  | .ok a => next a
  | .error answer => s.unchanged answer

/-- Serves an endpoint; `part` is what its path left open. -/
def serve (s : Service) (endpoint : Endpoint) (part : String) (r : Request) : Outcome :=
  match endpoint with
  | .listDefinitions => s.unchanged (s.host.deliver (.definitions s.registry.definitions))
  | .listNames => s.unchanged (.names s.registry.names)
  | .showDefinition =>
    match s.registry.get? part with
    | some d => s.unchanged (s.host.deliver (.definition d))
    | none => s.unchanged (.unknownName part)
  | .addDefinition =>
    s.withBody (r.check s.host .objectType (Submission.check .objectType)) s.addDefinition
  | .addDefinitions => s.withBody (r.check s.host .listType submissions) s.addDefinitions
  | .detect => s.withBody (r.check s.host .objectType (Passage.check .objectType)) s.detect
  | .resolve => s.withBody (r.check s.host .objectType (Passage.check .objectType)) s.resolve
  | .about => s.unchanged (.about s.settings.appName s.settings.appVersion)
  | .health => s.unchanged (.health s.registry.size)

/-- Handles a request. -/
def handle (s : Service) (r : Request) : Outcome :=
  match destination r.method r.path with
  | .endpoint endpoint part => s.serve endpoint part r
  | .otherMethod method => s.unchanged (.notAllowed method)
  | .otherPath path => s.unchanged (.moved r.origin path)
  | .nowhere => s.unchanged .noRoute

/-- Handles requests in order: the last state, and of each request its answer and what was told. -/
def handleAll (s : Service) : List Request → Service × List (Answer × List Event)
  | [] => (s, [])
  | r :: rest =>
    let first := s.handle r
    let (last, others) := first.service.handleAll rest
    (last, (first.answer, first.events) :: others)

/-- Why a service cannot be made of settings. -/
inductive CreateError where
  /-- There is no threshold of this name, which is in capitals. -/
  | unknownLevel (capitals : String)
  | noName
  | noVersion
deriving DecidableEq, Repr

def CreateError.message : CreateError → String
  | .unknownLevel capitals => Level.unknownMessage capitals
  | .noName => "A title must be provided for OpenAPI, e.g.: 'My API'"
  | .noVersion => "A version must be provided for OpenAPI, e.g.: '2.1.0'"

/-- A service with nothing in its registry, and the threshold that its settings ask for. The documents
that describe the service need its name and version. -/
def create (host : Host) (settings : Settings) : Except CreateError (Service × Level) := do
  let level ← (Level.ofSetting settings.logLevel).mapError .unknownLevel
  if settings.appName = "" then throw .noName
  if settings.appVersion = "" then throw .noVersion
  pure (⟨host, settings, .empty⟩, level)

/-- Why the service does not start. -/
inductive StartError where
  | load (failure : Catalogue.LoadFailure)
  | entry (error : EntryError)
deriving DecidableEq, Repr

/-- A start of the service: the service that it leaves, what was told, and what made it fail, if
something did. -/
structure Start where
  service : Service
  events : List Event
  error : Option StartError

/-- The service, if it has started. -/
def Start.result (t : Start) : Except StartError Service :=
  match t.error with
  | none => .ok t.service
  | some e => .error e

/-- Starts the service: the catalogue of its settings is added to its registry. -/
def start (s : Service) (files : Files) : Start :=
  match s.settings.catalogue with
  | none => ⟨s, [], none⟩
  | some path =>
    match Catalogue.load s.host.files files path with
    | .error failure => ⟨s, [.loadFailed path.text], some (.load failure)⟩
    | .ok (definitions, loaded) =>
      let added := s.registry.addMany (definitions.map .definition)
      let after := { s with registry := added.registry }
      match added.error with
      | none => ⟨after, loaded :: added.events, none⟩
      | some e => ⟨after, loaded :: added.events ++ [.loadFailed path.text], some (.entry e)⟩

end Service

end Shorthand
