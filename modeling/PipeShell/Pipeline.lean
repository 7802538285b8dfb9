import PipeShell.Dispatch

/-!
# `PipeShell.Pipeline`: commands one after the other

The commands of a pipeline run from left to right, each with the output
of the one before as its input, even if that is empty; the first has no
input. The first failure ends the pipeline and is its outcome.
-/

set_option autoImplicit false

namespace PipeShell.Dispatcher

variable {w : Type}

/-- Run commands, the first of them with the given input. -/
def runFrom (d : Dispatcher w) : (input : Option String) → List Command →
    Environment → w → Outcome × Environment × w
  | input, [], env, world => (.success (input.getD ""), env, world)
  | input, c :: cs, env, world =>
      match d.dispatch c input env world with
      | (.success output, env', world') => d.runFrom (some output) cs env' world'
      | (.failure kind message, env', world') => (.failure kind message, env', world')

/-- Run a pipeline. -/
def run (d : Dispatcher w) (commands : List Command) (env : Environment) (world : w) :
    Outcome × Environment × w :=
  d.runFrom none commands env world

/-- Run a line: read it in the session as it is now, and run its
commands. -/
def runLine (d : Dispatcher w) (line : String) (env : Environment) (world : w) :
    Outcome × Environment × w :=
  d.run (Line.parse env.lookup line) env world

end PipeShell.Dispatcher
