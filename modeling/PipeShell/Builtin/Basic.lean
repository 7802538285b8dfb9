import PipeShell.Args.Reading
import PipeShell.Dispatch
import PipeShell.Host.World

/-!
# `PipeShell.Builtin.Basic`: commands that come with the shell

A built-in command says which arguments it takes and what it does with
them. It may look at the world but not change it. What it does comes to
an output or a report, and beside either of them to the session as it is
from then on: a command that fails may have changed it on the way.
-/

set_option autoImplicit false

namespace PipeShell

open Host (World)

/-- What a built-in command works with. -/
structure Builtin.Call where
  given : Args.Given
  /-- The pattern of a search is plain text. -/
  literal : Bool
  input : Option String
  env : Environment
  world : World

/-- A built-in command. It acts only on arguments that it takes. -/
structure Builtin where
  spec : Args.Spec
  act : Builtin.Call → Except Report String × Environment

namespace Builtin

/-- The name of the command. -/
def name (b : Builtin) : String := b.spec.name

/-- Arguments that a command refuses, as a failure. -/
def refusal (name : String) (f : Args.Fault) : Failure :=
  .unknownOption (name ++ ": " ++ Text.trimEnd f.message)

/-- Run a built-in command. The session is what the command leaves of it,
whether or not it succeeds. -/
def handler (b : Builtin) : Handler World := fun c input env world =>
  match b.spec.read c.args with
  | .error .help => (.success b.spec.usage, env, world)
  | .error (.fault f) => (.ofReport (.ofFailure (refusal b.name f)), env, world)
  | .ok given =>
      match b.act ⟨given, c.literal, input, env, world⟩ with
      | (.ok output, env') => (.success output, env', world)
      | (.error r, env') => (.ofReport (r.within b.name), env', world)

/-- The first operand. -/
def Call.operand? (c : Call) : Option String := c.given.operands.head?

/-- A result of a command that does not touch the session. -/
def Call.keeping (c : Call) (result : Except Report String) : Except Report String × Environment :=
  (result, c.env)

end Builtin

end PipeShell
