import PipeShell.Failure

/-!
# `PipeShell.Outcome`: what a command leaves behind

A command succeeds with a text or fails with a kind and a message. A
failure is shown with a mark in front of it, and what is printed always
ends in a newline unless there is nothing to print.
-/

set_option autoImplicit false

namespace PipeShell

/-- The result of a command. -/
inductive Outcome where
  | success (text : String)
  | failure (kind : Kind) (message : String)
deriving Repr, DecidableEq, Inhabited

namespace Outcome

/-- The failure that a report stands for. -/
def ofReport (r : Report) : Outcome := .failure r.kind r.message

/-- The outcome of something that may fail with a report. -/
def ofExcept : Except Report String → Outcome
  | .ok text => .success text
  | .error r => .ofReport r

/-- Whether it is a failure. -/
def isFailure : Outcome → Bool
  | success _ => false
  | failure _ _ => true

/-- The text shown to a user. -/
def render : Outcome → String
  | success text => text
  | failure .unknownOption message => "ERR: " ++ message
  | failure _ message => "ERROR: " ++ message

/-- A text completed by a newline, if there is any text. -/
def completed (text : String) : String :=
  match text.toList.getLast? with
  | none => ""
  | some c => if c == '\n' then text else text ++ "\n"

/-- The text that is printed for an outcome. -/
def printed (o : Outcome) : String := completed o.render

end Outcome

end PipeShell
