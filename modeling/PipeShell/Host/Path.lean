import PipeShell.Text.Lines

/-!
# `PipeShell.Host.Path`: paths as texts

A path is the text a user writes. Joining works on the text alone and
keeps it as it is, with its repeated slashes and dots. `components` gives
the parts that mean something.
-/

set_option autoImplicit false

namespace PipeShell.Host.Path

/-- A path that starts at the root. -/
def isAbsolute (path : String) : Bool := path.toList.head? == some '/'

/-- The path seen from a directory. An absolute path stays as it is, and
so does any path seen from an empty directory. -/
def join (dir path : String) : String :=
  if isAbsolute path then path
  else match dir.toList.getLast? with
    | none => path
    | some c => if c == '/' then dir ++ path else dir ++ "/" ++ path

/-- The texts between the slashes of a path. -/
def pieces (path : String) : List String :=
  (Text.splitOn '/' path.toList).map String.ofList

/-- A part of a path: the root, the directory itself, the one above, or
a name. -/
inductive Component where
  | root
  | here
  | up
  | name (text : String)
deriving Repr, DecidableEq

/-- The parts that pieces after the first one stand for. -/
def componentsOf (ps : List String) : List Component :=
  ps.filterMap fun p =>
    if p == "" || p == "." then none else if p == ".." then some .up else some (.name p)

/-- The parts of a path. A dot counts only at the very front. -/
def components (path : String) : List Component :=
  if isAbsolute path then .root :: componentsOf (pieces path)
  else match pieces path with
    | [] => []
    | p :: ps => (if p == "." then [.here] else []) ++ componentsOf (p :: ps)

/-- The directories of a search path, divided by colons. -/
def searchList (text : String) : List String :=
  (Text.splitOn ':' text.toList).map String.ofList

end PipeShell.Host.Path
