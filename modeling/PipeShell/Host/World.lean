import PipeShell.Host.FileTree

/-!
# `PipeShell.Host.World`: what surrounds a session

The files there are, the directory that the program itself runs in, what
is left of its standard input, and what was written to its standard
error. Paths are seen from the program's own directory; a session that
moves about turns its paths into such paths first.
-/

set_option autoImplicit false

namespace PipeShell.Host

/-- The surroundings of a session. -/
structure World where
  tree : FileTree
  dir : Place
  stdin : List UInt8
  stderr : List UInt8
deriving Repr, DecidableEq

namespace World

/-- The bytes of a file. -/
def read (w : World) (path : String) : Except Cause (List UInt8) := w.tree.read w.dir path

/-- The names in a directory. -/
def list (w : World) (path : String) : Except Cause (List String) := w.tree.list w.dir path

/-- The place that a path leads to. -/
def locate (w : World) (path : String) : Except Cause Place := w.tree.locate w.dir path

/-- Whether a path leads to a directory. -/
def isDir (w : World) (path : String) : Bool := w.tree.isDir w.dir path

/-- Whether a path leads to a file. -/
def isFile (w : World) (path : String) : Bool := w.tree.isFile w.dir path

/-- Write a file. -/
def write (w : World) (path : String) (bytes : List UInt8) : Except Cause World := do
  .ok { w with tree := ← w.tree.write w.dir path bytes }

/-- How much of the standard input is read at a time, in bytes. -/
def chunkSize : Nat := 8192

/-- Read the next chunk of the standard input. -/
def takeChunk (w : World) : List UInt8 × World :=
  (w.stdin.take chunkSize, { w with stdin := w.stdin.drop chunkSize })

end World

end PipeShell.Host
