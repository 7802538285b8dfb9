import PipeShell.Host.Launch
import PipeShell.Program.Basic

/-!
# `PipeShell.Program`: the program and its shell, with programs to start

The shell and the program are given the launcher that comes with this
library. It stands in for the programs of a system, where there are
none.
-/

set_option autoImplicit false

namespace PipeShell

open Host (World)

/-- The shell that starts the programs that stand in. -/
abbrev shell : Dispatcher World := Host.standIn.shell

/-- The program that starts them. -/
abbrev Program.run (args : List String) (vars : List (String × String)) (world : World) :
    Program.Result :=
  runBy Host.standIn args vars world

end PipeShell
