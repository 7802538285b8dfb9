import PipeShell.Dispatch
import PipeShell.Host.Running
import PipeShell.Host.World
import PipeShell.Text.Utf8

/-!
# `PipeShell.External`: commands that are programs

A name that the shell does not know is looked for among the files
(`find?`) and started there. What programs do is not known here, so the
launcher that runs them is a parameter. The output of the program is the
output of the command, whether or not the program was content with its
run.
-/

set_option autoImplicit false

namespace PipeShell.External

open Host (World Cause Launcher)

/-- The path of the program that a command names. A single plain name is
looked for along the search path and nowhere else; any other relative
path is seen from the directory of the session. -/
def find? (isFile : String → Bool) (searchPath dir name : String) : Option String :=
  if Host.Path.isAbsolute name then (if isFile name then some name else none)
  else match Host.Path.components name with
    | [] => none
    | [.name plain] =>
        ((Host.Path.searchList searchPath).map fun d => Host.Path.join d plain).find? isFile
    | _ =>
        let path := Host.Path.join dir name
        if isFile path then some path else none

/-- Whether a text has a NUL in it. -/
def hasNul (s : String) : Bool := s.toList.contains (Char.ofNat 0)

/-- Whether anything that a program would be started with has a NUL in
it. -/
def carriesNul (args : List String) (env : Environment) : Bool :=
  args.any hasNul || hasNul env.dir || env.vars.any fun (n, v) => hasNul n || hasNul v

/-- The directory that a program is started in. -/
def startDir (env : Environment) (world : World) : Except Cause Host.Place := do
  match ← world.tree.find world.dir env.dir with
  | .entry place .dir => .ok place
  | .entry _ _ => .error .notDirectory
  | .vacant _ => .error .noEntry

/-- Run a program to its end. Without input it reads what is left of the
standard input of the session. Where the run could not be carried out,
the world is what came of the attempt. -/
def run (launch : Launcher) (program : String) (args : List String) (input : Option String)
    (env : Environment) (world : World) : Except Cause String × World :=
  if carriesNul args env then (.error .nulInData, world)
  else match startDir env world with
    | .error cause => (.error cause, world)
    | .ok dir =>
        let stdin := match input with
          | some text => Text.Utf8.encode text
          | none => world.stdin
        let (ended, c) := launch ⟨dir, env.vars⟩ program args ⟨world.tree, stdin, [], world.stderr⟩
        let left := if input.isNone then c.stdin else world.stdin
        (ended.map fun _ => Text.Utf8.lossy c.stdout,
          { world with tree := c.tree, stdin := left, stderr := c.stderr })

/-- Run a command as a program. -/
def handler (launch : Launcher) : Handler World := fun c input env world =>
  match find? world.isFile (env.value "PATH") env.dir c.name with
  | none => (.ofReport (.ofFailure (.commandNotFound c.name)), env, world)
  | some program =>
      match run launch program c.args input env world with
      | (.ok output, world') => (.success output, env, world')
      | (.error cause, world') =>
          (.ofReport (.ofFailure (.spawnFailure program cause)), env, world')

end PipeShell.External
