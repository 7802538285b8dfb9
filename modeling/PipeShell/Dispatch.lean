import PipeShell.Environment
import PipeShell.Line.Assignment
import PipeShell.Line.Command
import PipeShell.Outcome

/-!
# `PipeShell.Dispatch`: who runs a command

A handler runs one command: it gets the output of the command before, if
there was one, and may change the session and the world around it. It
never fails by itself; whatever goes wrong is part of its outcome. The
world is left open, so that a handler can keep what it likes there.

A dispatcher knows handlers by name. A name without a handler is an
assignment if it looks like one and stands alone; all else goes to the
fallback.
-/

set_option autoImplicit false

namespace PipeShell

/-- Something that can run a command. -/
abbrev Handler (w : Type) :=
  Command → (input : Option String) → Environment → w → Outcome × Environment × w

namespace Handler

/-- The handler in a world with more in it, which it does not touch. -/
def besides {w : Type} (extra : Type) (h : Handler w) : Handler (w × extra) :=
  fun c input env (world, x) =>
    let (outcome, env', world') := h c input env world
    (outcome, env', world', x)

end Handler

/-- Handlers by name, and one for every other name. -/
structure Dispatcher (w : Type) where
  handlers : List (String × Handler w)
  fallback : Handler w

namespace Dispatcher

variable {w : Type}

/-- No names, only a fallback. -/
def only (fallback : Handler w) : Dispatcher w := ⟨[], fallback⟩

/-- Register a handler; it takes the place of an earlier one of the same
name. -/
def register (d : Dispatcher w) (name : String) (h : Handler w) : Dispatcher w :=
  { d with handlers := (name, h) :: d.handlers }

/-- The handler registered under a name. -/
def handler? (d : Dispatcher w) (name : String) : Option (Handler w) := d.handlers.lookup name

/-- Whether there is a handler under a name. -/
def isRegistered (d : Dispatcher w) (name : String) : Bool := (d.handler? name).isSome

/-- The assignment that a command is, if it is one. -/
def assignment? (c : Command) : Option Line.Assignment :=
  if c.args.isEmpty then Line.Assignment.ofText? c.name else none

/-- Run one command. -/
def dispatch (d : Dispatcher w) : Handler w := fun c input env world =>
  match d.handler? c.name with
  | some h => h c input env world
  | none =>
      match assignment? c with
      | some a => (.success "", env.assign a.name a.value, world)
      | none => d.fallback c input env world

/-- The dispatcher in a world with more in it. -/
def besides (extra : Type) (d : Dispatcher w) : Dispatcher (w × extra) where
  handlers := d.handlers.map fun (name, h) => (name, h.besides extra)
  fallback := d.fallback.besides extra

end Dispatcher

end PipeShell
