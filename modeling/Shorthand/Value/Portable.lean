import Shorthand.Value

/-!
Values as they are sent. In an answer of its own the service sends dates and times as texts, and
null for the numbers that have no JSON text. Where it quotes a value that it refuses, it quotes the
value as it is, and cannot quote such numbers.
-/

namespace Shorthand.Value

mutual

/-- The value as it is sent. -/
def portable : Value → Value
  | .float x => if x.isFinite then .float x else .null
  | .date d => .text d.text
  | .time t => .text t.text
  | .moment m => .text m.shortText
  | .list items => .list (portableItems items)
  | .table es => .table (portableEntries es)
  | v => v

def portableItems : List Value → List Value
  | [] => []
  | v :: vs => portable v :: portableItems vs

def portableEntries : List (String × Value) → List (String × Value)
  | [] => []
  | (k, v) :: es => (k, portable v) :: portableEntries es

end

/-- What the keys of entries begin with that are left out when a table is quoted. -/
def unquotedLead : String := "_sa"

mutual

/-- Whether the value can be quoted: all its numbers are finite. -/
def isQuotable : Value → Bool
  | .float x => x.isFinite
  | .list items => areQuotable items
  | .table es => entriesQuotable es
  | _ => true

def areQuotable : List Value → Bool
  | [] => true
  | v :: vs => isQuotable v && areQuotable vs

def entriesQuotable : List (String × Value) → Bool
  | [] => true
  | (k, v) :: es =>
    (unquotedLead.toList.isPrefixOf k.toList || isQuotable v) && entriesQuotable es

end

end Shorthand.Value
