import PipeShell.Host.FileTree

/-!
# `PipeShell.Host.Running`: what a running program has

A program runs in a directory and with variables, which it hands on to
the programs it starts. It reads from one channel, writes to two, and
may change the files.
-/

set_option autoImplicit false

namespace PipeShell.Host

/-- What a program is started with and hands on. -/
structure Setting where
  dir : Place
  vars : List (String × String)
deriving Repr, DecidableEq

namespace Setting

/-- The directories searched by a program that was told of none. -/
def defaultSearch : String := "/usr/local/sbin:/usr/local/bin:/usr/sbin:/usr/bin:/sbin:/bin"

/-- The directories in which programs are looked for. -/
def searchList (s : Setting) : List String :=
  Path.searchList ((s.vars.lookup "PATH").getD defaultSearch)

end Setting

/-- The files and what has gone over the channels. -/
structure Channels where
  tree : FileTree
  stdin : List UInt8
  stdout : List UInt8
  stderr : List UInt8
deriving Repr, DecidableEq

namespace Channels

/-- Write to the standard output. -/
def say (c : Channels) (bytes : List UInt8) : Channels :=
  { c with stdout := c.stdout ++ bytes }

/-- Everything there is to read, which then is gone. -/
def drain (c : Channels) : List UInt8 × Channels := (c.stdin, { c with stdin := [] })

end Channels

/-- How programs are run to their end, each started by its path or name
with arguments. A run that cannot be carried out comes to a cause. The
channels are what there is after the run, either way: a program may have
done a part of its work before something went wrong. -/
abbrev Launcher := Setting → (program : String) → (args : List String) → Channels →
  Except Cause Unit × Channels

/-- Programs read from the front of what there is to read, and put
nothing back. -/
def Launcher.OnlyReads (launch : Launcher) : Prop :=
  ∀ setting program args c, (launch setting program args c).2.stdin <:+ c.stdin

end PipeShell.Host
