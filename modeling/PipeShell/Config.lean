import PipeShell.Args.Reading

/-!
# `PipeShell.Config`: how the program is started

The command line of the program gives a line to run, a prompt, a file
for the history and a filter for its log.
-/

set_option autoImplicit false

namespace PipeShell

/-- The choices a user makes at the start. -/
structure Config where
  command : Option String
  prompt : String
  history : Option String
  logLevel : String
deriving Repr, DecidableEq

namespace Config

/-- The choices of a user who makes none. -/
def default : Config := ⟨none, "> ", none, "warn"⟩

/-- The arguments of the program. -/
def spec : Args.Spec where
  name := "cli_shell"
  about := "A small command interpreter with pipes, variables and a built-in grep."
  options := [
    ⟨"command", some 'c', .text, "run a single command line, print its result and exit."⟩,
    ⟨"prompt", none, .text, "prompt shown before each line in interactive mode."⟩,
    ⟨"history", none, .text, "file used to load and save the line-editing history."⟩,
    ⟨"log-level", none, .text,
      "log filter used when RUST_LOG is not set (e.g. \"debug\" or \"cli_shell=trace\")."⟩]
  positional := none

/-- The choices that arguments stand for. -/
def ofGiven (g : Args.Given) : Config where
  command := g.value? "command"
  prompt := (g.value? "prompt").getD default.prompt
  history := g.value? "history"
  logLevel := (g.value? "log-level").getD default.logLevel

/-- Read the command line of the program. -/
def read (args : List String) : Except Args.Stop Config := (spec.read args).map ofGiven

end Config

end PipeShell
