import PipeShell.Script.Run

/-!
# `PipeShell.Script.Tool`: programs to stand in for those of a system

Small programs that a system without any can be given, so that the shell
has something to start. `Tool.run` says what each of them does: the shell
runs a script, `concatenate` passes on files or its input, `translate`
replaces bytes by others, and `makeDirectory` makes directories. Each
does only the plainest part of what its namesake on a real system does.
-/

set_option autoImplicit false

namespace PipeShell.Host.Tool

open Script

/-- The bytes that a set names; a hyphen between two of them stands for
all between. -/
def byteSet : List UInt8 → List UInt8
  | a :: 0x2D :: b :: rest =>
      (List.range (b.toNat + 1 - a.toNat)).map (fun i => UInt8.ofNat (a.toNat + i))
        ++ byteSet rest
  | a :: rest => a :: byteSet rest
  | [] => []

/-- Replace each byte of one set by its partner in another; the last
partner stands in for those that are missing. -/
def translateByte (source target : List UInt8) (b : UInt8) : UInt8 :=
  match source.idxOf? b with
  | some i => (target[i]?.orElse fun _ => target.getLast?).getD b
  | none => b

/-- Pass on files, or the input where none are named. -/
def passOn (setting : Setting) (files : List String) (c : Channels) : Channels :=
  match files with
  | [] => let (bytes, c) := c.drain; c.say bytes
  | files => files.foldl (fun c f =>
      match c.tree.read setting.dir f with
      | .ok bytes => c.say bytes
      | .error _ => c) c

/-- Make directories. -/
def makeAll (setting : Setting) (paths : List String) (c : Channels) : Channels :=
  paths.foldl (fun c path =>
    match c.tree.makeDir setting.dir path with
    | .ok (tree, _) => { c with tree := tree }
    | .error _ => c) c

/-- Run the script that the arguments of the shell name. -/
def runScript (start : Starter) (setting : Setting) (args : List String) (c : Channels) :
    Channels :=
  match args with
  | [] =>
      let (bytes, c) := c.drain
      Script.run start setting "sh" [] (Text.Utf8.lossy bytes) c
  | "-c" :: text :: rest =>
      Script.run start setting (rest.head?.getD "sh") rest.tail text c
  | file :: rest =>
      match c.tree.read setting.dir file with
      | .ok bytes => Script.run start setting file rest (Text.Utf8.lossy bytes) c
      | .error _ => c

/-- Run a program of the system. -/
def run (t : Tool) (start : Starter) (setting : Setting) (args : List String)
    (c : Channels) : Channels :=
  match t with
  | .shell => runScript start setting args c
  | .concatenate => passOn setting args c
  | .makeDirectory => makeAll setting (args.filter (· != "-p")) c
  | .translate =>
      match args.map Text.Utf8.encode with
      | [source, target] =>
          let (bytes, c) := c.drain
          c.say (bytes.map (translateByte (byteSet source) (byteSet target)))
      | _ => c

end PipeShell.Host.Tool
