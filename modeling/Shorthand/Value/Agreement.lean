import Shorthand.Value

/-!
Agreement of values: numbers agree when they are the same number, true and false count as one and
zero, lists agree element by element, tables whatever the order of their keys.
-/

namespace Shorthand.Value

/-- Agreement of two values neither of which is a list or table. -/
def scalarsAgree : Value → Value → Bool
  | .null, .null => true
  | .bool a, .bool b => a = b
  | .bool a, .int j => (if a then 1 else 0) = j
  | .int i, .bool b => i = (if b then 1 else 0)
  | .bool a, .float y => y.toInt? = some (if a then 1 else 0)
  | .float x, .bool b => x.toInt? = some (if b then 1 else 0)
  | .int i, .int j => i = j
  | .int i, .float y => y.toInt? = some i
  | .float x, .int j => x.toInt? = some j
  | .float x, .float y => x.equals y
  | .text s, .text t => s = t
  | .date a, .date b => a = b
  | .time a, .time b => a = b
  | .moment a, .moment b => a = b
  | _, _ => false

mutual

/-- Whether two values are equal as data. -/
def agrees : Value → Value → Bool
  | .list xs, v =>
    match v with
    | .list ys => itemsAgree xs ys
    | _ => false
  | .table es, v =>
    match v with
    | .table fs => es.length = fs.length && entriesAgree es fs
    | _ => false
  | v, w => scalarsAgree v w

def itemsAgree : List Value → List Value → Bool
  | [], ys => ys.isEmpty
  | x :: xs, ys =>
    match ys with
    | [] => false
    | y :: ys => agrees x y && itemsAgree xs ys

/-- Whether each of these entries agrees with the other table's entry of its key. -/
def entriesAgree : List (String × Value) → Entries → Bool
  | [], _ => true
  | (k, v) :: es, fs =>
    match fs.get? k with
    | some w => agrees v w && entriesAgree es fs
    | none => false

end

end Shorthand.Value
