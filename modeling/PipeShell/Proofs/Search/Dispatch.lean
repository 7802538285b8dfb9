import PipeShell.Proofs.Builtin

/-!
# `PipeShell.Proofs.Search.Dispatch`: a search as a command

`search` gives a text or fails. As a command it gives that text as its
output or reports that failure, and it is the same for any arguments
with a pattern and perhaps a file.

* `grep_act_of_length_le`, `grep_act`: what the command does with
  arguments that are sorted out.
* `dispatch_search`: what becomes of it in a session.
-/

set_option autoImplicit false

namespace PipeShell.Search

open Host (World Launcher)
open Line (searchName)

/-- A finished search as the outcome of its command. -/
def outcome (result : Except Failure String) : Outcome :=
  .ofExcept (result.mapError fun f => (Report.ofFailure f).within searchName)

/-- With no more than two operands a search gives what it finds, or fails
as it does, and keeps the session. The first operand is its pattern, and
without one it fails as well. -/
theorem grep_act_of_length_le (call : Builtin.Call) (h : call.given.operands.length ≤ 2) :
    Builtin.grep.act call
      = ((search (call.searchOptions call.given.operands.head?) call.world.read call.input
          (call.given.operands[1]?.map call.env.resolve)).mapError .ofFailure, call.env) := by
  simp only [Builtin.grep, Builtin.Call.keeping]
  split
  · -- A third operand would be refused.
    rename_i hoperands
    simp [hoperands] at h
  · rfl

/-- So does a search with a pattern and perhaps a file. -/
theorem grep_act (call : Builtin.Call) {pattern : String} {file : Option String}
    (hoperands : call.given.operands = pattern :: file.toList) :
    Builtin.grep.act call
      = ((search (call.searchOptions (some pattern)) call.world.read call.input
          (file.map call.env.resolve)).mapError .ofFailure, call.env) := by
  have hfile : (pattern :: file.toList)[1]? = file := by
    cases file <;> rfl
  have hlength : call.given.operands.length ≤ 2 := by
    rw [hoperands]
    cases file <;> simp
  rw [grep_act_of_length_le call hlength, hoperands, hfile, List.head?_cons]

/-- A search whose arguments are accepted, with a pattern and perhaps a
file, does what they ask for and leaves session and world alone. -/
theorem dispatch_search {launch : Launcher} {c : Command} {given : Args.Given} {pattern : String}
    {file : Option String} (hname : c.name = searchName)
    (hread : Builtin.grep.spec.read c.args = .ok given)
    (hoperands : given.operands = pattern :: file.toList) (input : Option String)
    (env : Environment) (world : World) :
    launch.shell.dispatch c input env world
      = (outcome (search
          ((Builtin.Call.mk given c.literal input env world).searchOptions (some pattern))
          world.read input (file.map env.resolve)), env, world) := by
  have hact := grep_act ⟨given, c.literal, input, env, world⟩ hoperands
  rw [Builtin.dispatch_of_mem (b := Builtin.grep) (by simp [Builtin.all]) hname]
  cases hsearch : search ((Builtin.Call.mk given c.literal input env world).searchOptions
      (some pattern)) world.read input (file.map env.resolve) with
  | ok text =>
      rw [hsearch] at hact
      exact Builtin.handler_of_act hread hact
  | error f =>
      rw [hsearch] at hact
      exact Builtin.handler_of_report hread hact

end PipeShell.Search
