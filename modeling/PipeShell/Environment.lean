import PipeShell.Host.Path

/-!
# `PipeShell.Environment`: the state of a session

A session keeps variables, the directory that relative paths are seen
from, and whether it was asked to end. Variables are kept in the order
in which they were first set, one entry for each name.
-/

set_option autoImplicit false

namespace PipeShell

/-- What a session remembers between its lines. -/
structure Environment where
  vars : List (String × String)
  dir : String
  exiting : Bool
deriving Repr, DecidableEq

namespace Environment

/-- A session without variables in a directory. -/
def within (dir : String) : Environment := ⟨[], dir, false⟩

/-- The value of a variable that is set. -/
def lookup (e : Environment) (name : String) : Option String := e.vars.lookup name

/-- The value of a variable, empty if it is not set. -/
def value (e : Environment) (name : String) : String := (e.lookup name).getD ""

/-- The variables after one of them was set. -/
def assignIn (name value : String) : List (String × String) → List (String × String)
  | [] => [(name, value)]
  | (n, v) :: rest =>
      if n == name then (name, value) :: rest else (n, v) :: assignIn name value rest

/-- Set a variable, whether or not it was set before. -/
def assign (e : Environment) (name value : String) : Environment :=
  { e with vars := assignIn name value e.vars }

/-- The variables in the order of their names. -/
def sortedVars (e : Environment) : List (String × String) :=
  e.vars.mergeSort fun a b => !decide (b.1 < a.1)

/-- Go to a directory, which need not exist. -/
def moveTo (e : Environment) (dir : String) : Environment := { e with dir := dir }

/-- The path seen from the directory of the session. -/
def resolve (e : Environment) (path : String) : String := Host.Path.join e.dir path

/-- Ask the session to end. -/
def requestExit (e : Environment) : Environment := { e with exiting := true }

end Environment

end PipeShell
