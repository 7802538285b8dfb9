import PipeShell.Builtin.Basic

/-!
# `PipeShell.Builtin.Places`: moving about

`pwd` shows the directory of the session, `cd` changes it and `ls` lists
a directory. After `cd` the directory of the session is a place without
links and dots.
-/

set_option autoImplicit false

namespace PipeShell.Builtin

/-- `pwd` shows the directory of the session. -/
def pwd : Builtin where
  spec := {
    name := "pwd"
    about := "Print the current working directory to standard output."
    options := []
    positional := none }
  act := fun c => c.keeping (.ok (c.env.dir ++ "\n"))

/-- Where `cd` goes: the operand unless it is empty, or else home. -/
def Call.target? (c : Call) : Option String :=
  match c.operand? with
  | some target => if target == "" then c.env.lookup "HOME" else some target
  | none => c.env.lookup "HOME"

/-- `cd` moves the session to a directory. -/
def cd : Builtin where
  spec := {
    name := "cd"
    about := "Change the current working directory. If no target is provided, changes to "
      ++ "the directory specified by the HOME environment variable."
    options := []
    positional := some ⟨"target", .optional,
      "directory to switch to; absolute or relative to the current directory. "
      ++ "Defaults to $HOME when omitted."⟩ }
  act := fun c =>
    match c.target? with
    | none => (.error (.ofNote "no target and HOME not set"), c.env)
    | some target =>
        match c.world.locate (c.env.resolve target) with
        | .error cause => (.error ((Report.ofNote cause.message).within target), c.env)
        | .ok place =>
            if c.world.isDir place.path then (.ok "", c.env.moveTo place.path)
            else (.error (.ofNote (target ++ ": Not a directory")), c.env)

/-- `ls` lists the names in a directory. -/
def ls : Builtin where
  spec := {
    name := "ls"
    about := "list directory contents"
    options := []
    positional := some ⟨"dir", .optional,
      "directory to list; defaults to the current directory."⟩ }
  act := fun c =>
    let shown := c.operand?.getD "."
    let path := c.env.resolve shown
    c.keeping <|
      if c.world.isDir path then
        match c.world.list path with
        | .ok names => .ok (String.join (names.map (· ++ "\n")))
        | .error cause =>
            let place := "cannot open directory '" ++ shown ++ "'"
            .error ((Report.ofNote cause.message).within place)
      else .error (.ofNote ("cannot access '" ++ shown ++ "': No such directory"))

end PipeShell.Builtin
