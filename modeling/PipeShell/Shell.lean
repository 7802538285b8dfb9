import PipeShell.Builtin.State
import PipeShell.External
import PipeShell.Pipeline

/-!
# `PipeShell.Shell`: the shell with all its commands

The dispatcher that knows the built-in commands and takes every other
name for a program, which a launcher runs.
-/

set_option autoImplicit false

namespace PipeShell

open Host (World)

/-- The dispatcher of the shell that runs programs by a launcher. -/
def Host.Launcher.shell (launch : Host.Launcher) : Dispatcher World :=
  ⟨Builtin.all.map fun b => (b.name, b.handler), External.handler launch⟩

end PipeShell
