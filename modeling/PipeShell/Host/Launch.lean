import PipeShell.Script.Tool

/-!
# `PipeShell.Host.Launch`: a launcher for a system without programs

The shell is told by a `Launcher` what programs do. This one knows the
programs in `Host.Tool` and the scripts that they can run. A program of
the system runs by itself. A file runs if it may, and if its first line
names an interpreter: that is started with the path of the file as its
first argument.

A program without a slash in its path is looked for in the directories
of the search list; where the program was told its search list, a file
that names no interpreter is then given to the shell.
-/

set_option autoImplicit false

namespace PipeShell.Host

/-- The interpreter that the first line of a file names, and an argument
for it. -/
def interpreter? (bytes : List UInt8) : Option (String × List String) :=
  match bytes with
  | 0x23 :: 0x21 :: rest =>
      let isGap : UInt8 → Bool := fun b => b == 0x20 || b == 0x09
      let trim := fun (bs : List UInt8) =>
        ((bs.dropWhile isGap).reverse.dropWhile isGap).reverse
      let line := trim (rest.takeWhile (· != 0x0A))
      let program := line.takeWhile fun b => !isGap b
      let extra := trim (line.dropWhile fun b => !isGap b)
      if program.isEmpty then none
      else some (Text.Utf8.lossy program,
        if extra.isEmpty then [] else [Text.Utf8.lossy extra])
  | _ => none

/-- How deep programs may start each other. -/
def launchDepth : Nat := 64

/-- Start a program by its path. -/
def launchWithin : (depth : Nat) → Script.Starter
  | 0, _, _, _, _ => .error .linkLoop
  | depth + 1, setting, path, args, c =>
      match c.tree.find setting.dir path with
      | .error cause => .error cause
      | .ok (.vacant _) => .error .noEntry
      | .ok (.entry _ (.tool t)) => .ok (t.run (launchWithin depth) setting args c)
      | .ok (.entry _ (.file bytes true)) =>
          match interpreter? bytes with
          | none => .error .execFormat
          | some (program, extra) =>
              launchWithin depth setting program (extra ++ path :: args) c
      | .ok (.entry _ _) => .error .permission

/-- Start a program by its path. -/
def launch : Script.Starter := launchWithin launchDepth

/-- The path of the system's shell. -/
def shellPath : String := "/bin/sh"

/-- Start the first program of a name in the directories given. A
directory where there is none is passed over, as is one where it may
not run, unless no other is found. -/
def launchIn (shellFallback : Bool) (setting : Setting) (name : String) (args : List String)
    (c : Channels) : (refused : Cause) → List String → Except Cause Channels
  | refused, [] => .error refused
  | refused, dir :: dirs =>
      let path := Path.join dir name
      match launch setting path args c with
      | .ok after => .ok after
      | .error cause =>
          if cause == .execFormat && shellFallback then
            launch setting shellPath (path :: args) c
          else if cause == .permission then
            launchIn shellFallback setting name args c .permission dirs
          else if cause == .noEntry || cause == .notDirectory then
            launchIn shellFallback setting name args c refused dirs
          else .error cause

/-- Start a program that was found by a name or a path. -/
def launchFound (setting : Setting) (program : String) (args : List String) (c : Channels) :
    Except Cause Channels :=
  if program.toList.contains '/' then launch setting program args c
  else match setting.vars.lookup "PATH" with
    | some dirs => launchIn true setting program args c .noEntry (Path.searchList dirs)
    | none => launchIn false setting program args c .noEntry ["/bin", "/usr/bin"]

/-- Run programs this way. One that cannot be started does nothing. -/
def standIn : Launcher := fun setting program args c =>
  match launchFound setting program args c with
  | .ok after => (.ok (), after)
  | .error cause => (.error cause, c)

end PipeShell.Host
