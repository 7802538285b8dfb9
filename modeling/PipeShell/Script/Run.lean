import PipeShell.Host.Running
import PipeShell.Script.Printing
import PipeShell.Script.Statement

/-!
# `PipeShell.Script.Run`: running a script

Statements run one after the other until one of them ends the script. A
command that is neither known to the shell nor found is passed over.
Programs are started through a starter that is handed in.
-/

set_option autoImplicit false

namespace PipeShell.Script

open Host (Setting Channels Cause)

/-- Something that can start a program by its path with arguments and
wait for its end. -/
abbrev Starter := Setting → (path : String) → (args : List String) → Channels →
  Except Cause Channels

/-- The state of a script: its name and arguments, the variables it has
set, the channels, and whether it has ended. -/
structure State where
  setting : Setting
  name : String
  args : List String
  locals : List (String × String)
  channels : Channels
  ended : Bool

namespace State

/-- The value of a variable. Numbers stand for arguments. -/
def value (s : State) (var : String) : String :=
  if var.toList.all Char.isDigit then (s.name :: s.args)[var.toNat?.getD 0]?.getD ""
  else ((s.locals.lookup var).orElse fun _ => s.setting.vars.lookup var).getD ""

/-- Fields finished so far, and the one under way if there is one. -/
structure Fields where
  done : List String
  current : Option String

/-- The fields with more text in the one under way. -/
def Fields.extend (f : Fields) (text : String) : Fields :=
  { f with current := some (f.current.getD "" ++ text) }

/-- The fields with several texts: the first goes into the field under
way, each other one starts a new field. -/
def Fields.spread (f : Fields) : List String → Fields
  | [] => f
  | [t] => f.extend t
  | t :: ts => Fields.spread ⟨(f.extend t).done ++ (f.extend t).current.toList, none⟩ ts

/-- The fields with one more part of a word. -/
def addPart (s : State) (f : Fields) : Part → Fields
  | .text t => f.extend t
  | .var name true => f.extend (s.value name)
  | .var name false =>
      f.spread (((Text.splitOn ' ' (s.value name).toList).filter (!·.isEmpty)).map String.ofList)
  | .args _ => f.spread s.args

/-- The fields that a word stands for. -/
def fields (s : State) (w : Word) : List String :=
  let f := w.foldl s.addPart ⟨[], none⟩
  f.done ++ f.current.toList

/-- The directory as the shell names it: by the variable that is meant
for it if that is right, else by its place. -/
def workingDir (s : State) : String :=
  match s.setting.vars.lookup "PWD" with
  | some path =>
      let place := (s.channels.tree.locate [] path).toOption
      if Host.Path.isAbsolute path && place == some s.setting.dir then path
      else s.setting.dir.path
  | none => s.setting.dir.path

/-- Start the first program of the name that the search finds. -/
def launchFirst (s : State) (start : Starter) (name : String) (args : List String) :
    List String → State
  | [] => s
  | dir :: dirs =>
      let path := Host.Path.join dir name
      if s.channels.tree.isFile s.setting.dir path then
        match start s.setting path args s.channels with
        | .ok channels => { s with channels := channels }
        | .error _ => s
      else s.launchFirst start name args dirs

/-- Run a command with its output going where it always goes. -/
def command (s : State) (start : Starter) : List String → State
  | [] => s
  | name :: args =>
      match name with
      | "echo" => { s with channels := s.channels.say (echoBytes args) }
      | "printf" =>
          let format := args.head?.getD ""
          let bytes := formatBytes format.length format.toList args.tail
          { s with channels := s.channels.say bytes }
      | "pwd" =>
          { s with channels := s.channels.say (Text.Utf8.encode (s.workingDir ++ "\n")) }
      | "exit" => { s with ended := true }
      | "kill" => { s with ended := true }
      | _ =>
          if name.toList.contains '/' then s.launchFirst start name args [""]
          else s.launchFirst start name args s.setting.searchList

/-- Run a command with its output going to a target. -/
def directed (s : State) (start : Starter) (words : List String) (target : Target) : State :=
  match target with
  | .out => s.command start words
  | .err =>
      let after := ({ s with channels := { s.channels with stdout := [] } }).command start words
      { after with channels := { after.channels with
          stdout := s.channels.stdout
          stderr := after.channels.stderr ++ after.channels.stdout } }
  | .file name =>
      let after := ({ s with channels := { s.channels with stdout := [] } }).command start words
      let path := String.join (s.fields name)
      let tree := match after.channels.tree.write s.setting.dir path after.channels.stdout with
        | .ok tree => tree
        | .error _ => after.channels.tree
      { after with channels := { after.channels with stdout := s.channels.stdout, tree := tree } }

/-- Run a body once for each value of a variable. -/
def each (body : State → State) (var : String) : List String → State → State
  | [], s => s
  | v :: vs, s =>
      if s.ended then s else each body var vs (body { s with locals := (var, v) :: s.locals })

end State

mutual

/-- Run one statement. -/
def Statement.run (start : Starter) : Statement → State → State
  | .command words target, s => s.directed start (words.flatMap s.fields) target
  | .loop var among body, s =>
      State.each (runAll start body) var (among.flatMap s.fields) s

/-- Run statements until one of them ends the script. -/
def runAll (start : Starter) : List Statement → State → State
  | [], s => s
  | t :: ts, s => if s.ended then s else runAll start ts (t.run start s)

end

/-- Run the text of a script. -/
def run (start : Starter) (setting : Setting) (name : String) (args : List String)
    (text : String) (channels : Channels) : Channels :=
  (runAll start (read text) ⟨setting, name, args, [], channels, false⟩).channels

end PipeShell.Script
