import Shorthand.Definition
import Shorthand.Journal
import Shorthand.Reference

/-!
The registry of definitions. Each name has one definition; adding under a known name replaces the
definition and keeps its place. An addition that fails leaves registry and journal as they were.
-/

namespace Shorthand

/-- Definitions under different names, in the order in which the names were first added. A name is
kept beside its definition, which has a name of its own. -/
structure Registry where
  table : List (String × Definition)
  distinct : (table.map (·.1)).Nodup

/-- The name without one marker in front. -/
def stripMarker (name : String) : String :=
  match name.toList with
  | c :: rest => if c = Reference.marker then String.ofList rest else name
  | [] => name

/-- Why a look-up or an assignment is refused. -/
inductive LookupError where
  | keyNotHashable
  | noDefinition
  | frozen (field : String)
deriving DecidableEq, Repr

/-- What a predicate asks of a definition. Predicates on texts hold of no other field. -/
inductive Predicate where
  | always
  | never
  | equals (field value : String)
  | contains (field value : String)
  | startsWith (field value : String)
  /-- Holds where the field's own value counts as true. -/
  | truthy (field : String)

namespace Predicate

/-- Whether a text occurs somewhere in another. -/
def occursIn (part : List Char) : List Char → Bool
  | [] => part.isEmpty
  | c :: s => part.isPrefixOf (c :: s) || occursIn part s

def onText (d : Definition) (field : String) (test : String → Bool) : Bool :=
  match d.field? field with
  | some (.text s) => test s
  | _ => false

def holds (p : Predicate) (d : Definition) : Bool :=
  match p with
  | .always => true
  | .never => false
  | .equals field value => onText d field (· = value)
  | .contains field value => onText d field fun s => occursIn value.toList s.toList
  | .startsWith field value => onText d field fun s => value.toList.isPrefixOf s.toList
  | .truthy field => (d.field? field).any Value.isTruthy

end Predicate

namespace Registry

def empty : Registry := ⟨[], List.nodup_nil⟩

instance : Inhabited Registry := ⟨empty⟩

/-- The names, in order. -/
def names (r : Registry) : List String := r.table.map (·.1)

/-- The definitions, in the order of their names. -/
def definitions (r : Registry) : List Definition := r.table.map (·.2)

def size (r : Registry) : Nat := r.table.length

/-- The definition of a name. -/
def get? (r : Registry) (name : String) : Option Definition :=
  (r.table.find? (·.1 = name)).map (·.2)

def contains (r : Registry) (name : String) : Bool := r.table.any (·.1 = name)

/-- The first definition, in order, of which the predicate holds. -/
def find? (r : Registry) (p : Predicate) : Option Definition := r.definitions.find? p.holds

/-- Sets the definition of a name: in its place if the name is there, else at the end. -/
def putIn (name : String) (d : Definition) : List (String × Definition) → List (String × Definition)
  | [] => [(name, d)]
  | e :: rest => if e.1 = name then (name, d) :: rest else e :: putIn name d rest

theorem mem_names_putIn {name other : String} {d : Definition} {es : List (String × Definition)} :
    other ∈ (putIn name d es).map (·.1) ↔ other = name ∨ other ∈ es.map (·.1) := by
  induction es with
  | nil => simp [putIn]
  | cons e rest ih =>
    by_cases h : e.1 = name
    · simp [putIn, h]
    · simp only [putIn, if_neg h, List.map_cons, List.mem_cons, ih]
      constructor
      · rintro (h | h | h) <;> simp [h]
      · rintro (h | h | h) <;> simp [h]

theorem nodup_putIn {name : String} {d : Definition} {es : List (String × Definition)}
    (h : (es.map (·.1)).Nodup) : ((putIn name d es).map (·.1)).Nodup := by
  induction es with
  | nil => simp [putIn]
  | cons e rest ih =>
    simp only [List.map_cons, List.nodup_cons] at h
    by_cases hName : e.1 = name
    · simp only [putIn, if_pos hName, List.map_cons, List.nodup_cons]
      exact ⟨hName ▸ h.1, h.2⟩
    · simp only [putIn, if_neg hName, List.map_cons, List.nodup_cons]
      refine ⟨fun hMem => ?_, ih h.2⟩
      rcases mem_names_putIn.1 hMem with hEq | hOld
      · exact hName hEq
      · exact h.1 hOld

/-- Sets the definition of a name. -/
def put (r : Registry) (name : String) (d : Definition) : Registry :=
  ⟨putIn name d r.table, nodup_putIn r.distinct⟩

/-- What is stored for an entry: its name without one marker, and its definition under that name. -/
def prepare (e : Entry) : Except EntryError (String × Definition) := do
  let d ← e.coerce
  let name := stripMarker d.name
  if name = d.name then pure (name, d)
  else
    let renamed ← d.rename name
    pure (name, renamed)

/-- Adds an entry, and tells whether its name was new. -/
def add (r : Registry) (e : Entry) : Except EntryError (Registry × Event) :=
  (prepare e).map fun (name, d) =>
    (r.put name d, if r.contains name then .overwriting name else .registered name)

/-- The registry and journal after a run of additions, and the error that ended it, if one did. -/
structure Additions where
  registry : Registry
  events : List Event
  error : Option EntryError

/-- Adds entries in order, up to the first that fails. -/
def addMany (r : Registry) : List Entry → Additions
  | [] => ⟨r, [], none⟩
  | e :: es =>
    match r.add e with
    | .error err => ⟨r, [], some err⟩
    | .ok (r, event) =>
      let more := r.addMany es
      { more with events := event :: more.events }

/-- Looks a key of any kind up: only texts are names, and lists and tables are no keys at all. -/
def lookup (r : Registry) (key : Value) : Except LookupError (Option Definition) :=
  if !key.isHashable then .error .keyNotHashable
  else .ok (key.text?.bind r.get?)

/-- The attempt to change a field of a stored definition, which always fails: definitions are
frozen. -/
def assign (r : Registry) (key : Value) (field : String) : LookupError :=
  match r.lookup key with
  | .error e => e
  | .ok none => .noDefinition
  | .ok (some _) => .frozen field

/-- Whether two look-ups give equal definitions, or both give none. -/
def agreeAt (r : Registry) (a b : Value) : Except LookupError Bool := do
  match ← r.lookup a, ← r.lookup b with
  | some d, some e => pure (d.agrees e)
  | none, none => pure true
  | _, _ => pure false

/-- The registry in one line. -/
def summary (r : Registry) : String := "<MacroRegistry macros=" ++ toString r.size ++ ">"

end Registry

end Shorthand
