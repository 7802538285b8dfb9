import PipeShell.Program

/-!
# `PipeShell.Main`: the command line

The program works on a picture of the files that is taken before it
runs: the directory it is started in with what lies below it, and the
programs of the system. What the run has changed is written back
afterwards. A file counts as a program if it names its interpreter. What
cannot be read when the picture is taken cannot be read in it.
-/

set_option autoImplicit false

namespace PipeShell.Main

open Host (Cause FileTree Place)

/-- How deep below the directory the picture goes. -/
def depthLimit : Nat := 6

/-- The variables in a block of bytes, each ended by a NUL. -/
def varsOf (block : List UInt8) : List (String × String) :=
  (Text.splitOn (Char.ofNat 0) (Text.Utf8.lossy block).toList).filterMap fun cs =>
    Program.nameAndValue? (String.ofList cs)

/-- What the system said of an error. -/
def causeOf : IO.Error → Cause
  | .permissionDenied _ number _ => .os number.toNat
  | .hardwareFault number _ => .os number.toNat
  | .otherError number _ => .os number.toNat
  | e => .note e.toString

/-- The picture of a directory, its files and the directories in it. -/
def takeIn : (depth : Nat) → Place → Array IO.FS.DirEntry → FileTree → IO FileTree
  | 0, _, _, tree => return tree
  | depth + 1, place, entries, tree => do
      let mut tree := tree
      for e in entries do
        let here := place ++ [e.fileName]
        if ← e.path.isDir then
          match ← e.path.readDir.toBaseIO with
          | .ok inside => tree ← takeIn depth here inside (tree.put here .dir)
          | .error e => tree := (tree.put here .dir).forbid here .reading (causeOf e)
        else
          match ← (IO.FS.readBinFile e.path).toBaseIO with
          | .ok read =>
              let bytes := read.toList
              tree := tree.put here (.file bytes (Host.interpreter? bytes).isSome)
          | .error e => tree := (tree.put here (.file [] false)).forbid here .reading (causeOf e)
      return tree

/-- The directories above a place, the place itself included. -/
def withParents (place : Place) (tree : FileTree) : FileTree :=
  (List.range place.length).foldl (fun t n => t.put (place.take (n + 1)) .dir) tree

/-- The programs of the system. -/
def tools : List (String × Host.Tool) :=
  [("sh", .shell), ("cat", .concatenate), ("tr", .translate), ("mkdir", .makeDirectory)]

/-- The system around the directory. -/
def system : FileTree :=
  let dirs := [["bin"], ["dev"], ["tmp"]].foldl (fun t place => withParents place t) .empty
  tools.foldl (fun t (name, tool) => t.put ["bin", name] (.tool tool))
    (dirs.put ["dev", "null"] .sink)

/-- Write back what a run has changed. -/
def writeBack (before after : FileTree) : IO Unit := do
  for (place, e) in after.entries do
    if before.get? place != some e then
      match e with
      | .dir => IO.FS.createDirAll place.path
      | .file bytes _ => IO.FS.writeBinFile place.path ⟨bytes.toArray⟩
      | _ => pure ()

/-- Run the program with its arguments on the files around it. -/
def run (args : List String) : IO UInt32 := do
  let here ← IO.currentDir
  let place := (Host.Path.pieces here.toString).filter (· != "")
  let vars := varsOf (← IO.FS.readBinFile "/proc/self/environ").toList
  let tree ← takeIn depthLimit place (← here.readDir) (withParents place system)
  let stdin := (← (← IO.getStdin).readBinToEnd).toList
  let result := Program.run args vars ⟨tree, place, stdin, []⟩
  writeBack tree result.world.tree
  IO.print result.stdout
  IO.eprint result.stderr
  return UInt32.ofNat result.code

end PipeShell.Main

/-- The program. -/
def main (args : List String) : IO UInt32 := PipeShell.Main.run args
