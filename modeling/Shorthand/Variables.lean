import Shorthand.Text.Casing

/-!
Named variables, as an environment or a file of variables has them.
-/

namespace Shorthand

/-- Variables in order; no name is there twice. -/
abbrev Variables (α : Type) := List (String × α)

namespace Variables

variable {α : Type}

def get? (vars : Variables α) (name : String) : Option α := vars.lookup name

/-- Sets a variable: in its place if it is there, else at the end. -/
def set (vars : Variables α) (name : String) (value : α) : Variables α :=
  match vars with
  | [] => [(name, value)]
  | v :: rest => if v.1 = name then (name, value) :: rest else v :: set rest name value

def unset (vars : Variables α) (name : String) : Variables α := vars.filter (·.1 ≠ name)

/-- Sets a variable as the last one, wherever it was. -/
def setLast (vars : Variables α) (name : String) (value : α) : Variables α :=
  vars.unset name ++ [(name, value)]

/-- The value of the first variable that is spelled as the given name once its own name has been
respelled. -/
def firstAs? (respell : String → String) (vars : Variables α) (name : String) : Option α :=
  (vars.find? fun v => respell v.1 = name).map (·.2)

/-- The value of the last such variable. -/
def lastAs? (respell : String → String) (vars : Variables α) (name : String) : Option α :=
  firstAs? respell vars.reverse name

end Variables

end Shorthand
