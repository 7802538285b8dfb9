import PipeShell.Builtin.Places
import PipeShell.Builtin.Texts

/-!
# `PipeShell.Builtin.State`: variables and the end of a session

`set` sets a variable and `exit` asks the session to end. `Builtin.all`
is the list of all built-in commands.
-/

set_option autoImplicit false

namespace PipeShell.Builtin

/-- `set` sets a variable. -/
def set : Builtin where
  spec := {
    name := "set"
    about := "set a shell variable"
    options := []
    positional := some ⟨"assignment", .optional, "assignment in the form NAME=value."⟩ }
  act := fun c =>
    match c.operand? with
    | none => (.error (.ofNote "missing variable name or value"), c.env)
    | some text =>
        match Line.Assignment.ofText? text with
        | none => (.error (.ofNote "invalid syntax. Use: set NAME=value"), c.env)
        | some a => (.ok "", c.env.assign a.name a.value)

/-- `exit` asks the session to end. -/
def exit : Builtin where
  spec := {
    name := "exit"
    about := "Exit the shell."
    options := []
    positional := some ⟨"args", .greedy, "ignored; accepted for compatibility with `exit N`."⟩ }
  act := fun c => (.ok "", c.env.requestExit)

/-- All built-in commands. -/
def all : List Builtin := [pwd, cd, echo, exit, cat, wc, ls, set, grep]

end PipeShell.Builtin
