import Shorthand.Catalogue.File
import Shorthand.Service.Answer

/-!
What the service can do where it runs. Values that are nested deep take a stack to be read, quoted or
sent, and how deep they may be is up to the stacks there; so it is a parameter of the service. Where
nothing is said there is always room.
-/

namespace Shorthand.Service

structure Host where
  /-- How deep the bodies of requests are read. -/
  bodies : DepthLimit := fun _ _ => false
  /-- How deep catalogue files are read. -/
  files : Catalogue.Depths := fun _ _ _ => false
  /-- Whether there is room to quote a value that is refused. -/
  quotes : Value → Bool := fun _ => true
  /-- Whether a value can be sent that is stored with a definition. -/
  sends : Value → Bool := fun _ => true

namespace Host

/-- Whether a refused value can be quoted. -/
def canQuote (host : Host) (v : Value) : Bool := v.isQuotable && host.quotes v

/-- Whether a definition can be sent. -/
def canSend (host : Host) (d : Definition) : Bool := d.extras.all fun e => host.sends e.2

/-- What becomes of an answer: it is sent as it is if all its definitions can be sent. Else the service
breaks down over it, whatever it has done before. -/
def deliver (host : Host) (a : Answer) : Answer :=
  if a.shown.all host.canSend then a else .broken .unsendable

end Host

end Shorthand.Service
