import PipeShell.Proofs.Session

/-!
# `PipeShell.Proofs.Host.Effect`: what a line does to the standard input

Programs share the standard input of the session. A program may take from
it, and where no program puts anything back (`Launcher.OnlyReads`)
neither does a line: what is left to read is an end of what was left
before. With nothing to read at the start there is nothing to read later
on. The directory that the program runs in stays the same.

What programs do to the files is left open.

* `World.Follows`: both of this.
* `External.follows_run`, `follows_dispatch`: a command of the shell.
* `follows_runLine`: from it, a line.
-/

set_option autoImplicit false

namespace PipeShell

open Host (World Launcher)

namespace Host.World

/-- The first world can be what a command leaves of the second one. -/
structure Follows (after before : World) : Prop where
  stdin : after.stdin <:+ before.stdin
  dir : after.dir = before.dir

theorem Follows.refl (w : World) : w.Follows w := ⟨List.suffix_rfl, rfl⟩

theorem Follows.trans {a b c : World} (h : a.Follows b) (h' : b.Follows c) : a.Follows c :=
  ⟨h.stdin.trans h'.stdin, h.dir.trans h'.dir⟩

end Host.World

/-- A built-in command leaves the world alone. -/
theorem Builtin.world_handler (b : Builtin) (c : Command) (input : Option String)
    (env : Environment) (world : World) : (b.handler c input env world).2.2 = world := by
  rw [Builtin.handler]
  split
  · rfl
  · rfl
  · split <;> rfl

section
variable {launch : Launcher} (hlaunch : launch.OnlyReads)
include hlaunch

/-- A program that gets an input of its own does not touch that of the
session. -/
theorem External.follows_run (program : String) (args : List String) (input : Option String)
    (env : Environment) (world : World) :
    (External.run launch program args input env world).2.Follows world := by
  unfold External.run
  split
  · exact .refl world
  split
  · exact .refl world
  · cases input with
    | some text => exact ⟨List.suffix_rfl, rfl⟩
    | none => exact ⟨hlaunch _ program args _, rfl⟩

theorem External.follows_handler (c : Command) (input : Option String) (env : Environment)
    (world : World) : (External.handler launch c input env world).2.2.Follows world := by
  rw [External.handler]
  split
  · exact .refl world
  · rename_i program _
    have hrun := External.follows_run hlaunch program c.args input env world
    split
    · rename_i hresult
      rwa [hresult] at hrun
    · rename_i hresult
      rwa [hresult] at hrun

theorem follows_dispatch (c : Command) (input : Option String) (env : Environment)
    (world : World) : (launch.shell.dispatch c input env world).2.2.Follows world := by
  rw [Dispatcher.dispatch]
  split
  · rename_i hh
    obtain ⟨b, -, -, rfl⟩ := exists_builtin_of_handler? hh
    rw [Builtin.world_handler]
    exact .refl world
  · split
    · exact .refl world
    · exact External.follows_handler hlaunch c input env world

/-- Whatever a line runs, nothing comes back into the standard input. -/
theorem follows_runLine (line : String) (env : Environment) (world : World) :
    (launch.shell.runLine line env world).2.2.Follows world := by
  unfold Dispatcher.runLine Dispatcher.run
  generalize Line.parse env.lookup line = commands
  generalize (none : Option String) = input
  induction commands generalizing input env world with
  | nil => exact .refl world
  | cons c cs ih =>
      have hstep := follows_dispatch hlaunch c input env world
      rcases hc : launch.shell.dispatch c input env world with
        ⟨output | ⟨kind, message⟩, env', world'⟩
      · rw [hc] at hstep
        rw [Dispatcher.runFrom, hc]
        exact (ih env' world' (some output)).trans hstep
      · rw [hc] at hstep
        rw [Dispatcher.runFrom, hc]
        exact hstep

end

end PipeShell
