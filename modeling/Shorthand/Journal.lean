import Shorthand.Text.Casing
import Shorthand.Text.Quoted

/-!
What happens is told as events; each has a level, and a threshold decides which are reported.
-/

namespace Shorthand

inductive Event where
  | registered (name : String)
  | overwriting (name : String)
  /-- Some number of different references was replaced in one text. -/
  | resolved (count : Nat)
  | loaded (count : Nat) (path : String)
  | loadFailed (path : String)
deriving DecidableEq, Repr

/-- The levels of events and thresholds, the lower ones first. -/
inductive Level where
  | unset
  | debug
  | info
  | warning
  | error
  | critical
deriving DecidableEq, Repr

namespace Level

def rank : Level → Nat
  | .unset => 0
  | .debug => 10
  | .info => 20
  | .warning => 30
  | .error => 40
  | .critical => 50

def name : Level → String
  | .unset => "NOTSET"
  | .debug => "DEBUG"
  | .info => "INFO"
  | .warning => "WARNING"
  | .error => "ERROR"
  | .critical => "CRITICAL"

/-- The level of a name in capitals; two levels have a second name. -/
def ofName? (s : String) : Option Level :=
  if s = "WARN" then some .warning
  else if s = "FATAL" then some .critical
  else [unset, debug, info, warning, error, critical].find? (·.name = s)

/-- The threshold that holds: an unset one leaves that of warnings. -/
def threshold : Level → Nat
  | .unset => warning.rank
  | l => l.rank

/-- Reads the name of a level in any case; the error is the name in capitals. -/
def ofSetting (s : String) : Except String Level :=
  let capitals := Text.upper s
  match ofName? capitals with
  | some l => .ok l
  | none => .error capitals

/-- The message about a name that is no level's. -/
def unknownMessage (capitals : String) : String := "Unknown level: " ++ Text.quoted capitals

end Level

namespace Event

def level : Event → Level
  | .registered _ | .overwriting _ | .resolved _ => .debug
  | .loaded _ _ => .info
  | .loadFailed _ => .error

def message : Event → String
  | .registered name => "Registered macro: " ++ name
  | .overwriting name => "Overwriting macro: " ++ name
  | .resolved count => "Resolved " ++ toString count ++ " distinct macro reference(s)"
  | .loaded count path => "Loaded " ++ toString count ++ " macro(s) from " ++ path
  | .loadFailed path => "Could not load macros from " ++ path

/-- Whether the event is reported at a threshold. -/
def reportedAt (threshold : Level) (e : Event) : Bool := threshold.threshold ≤ e.level.rank

end Event

/-- The events that are reported at a threshold, in order. -/
def reported (threshold : Level) (events : List Event) : List Event :=
  events.filter (·.reportedAt threshold)

end Shorthand
