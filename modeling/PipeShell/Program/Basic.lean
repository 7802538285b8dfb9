import PipeShell.Config
import PipeShell.ReadLoop
import PipeShell.Shell

/-!
# `PipeShell.Program.Basic`: the program as a whole

The program is a function: from its arguments, its variables and the
world it is started in to what it prints, its exit code and the world it
leaves. With a line to run it runs that line; otherwise it runs the
lines of its standard input and keeps their history. The launcher that
it runs other programs by is handed in.
-/

set_option autoImplicit false

namespace PipeShell

open Host (World Launcher)

/-- What a run of the program leaves behind. -/
structure Program.Result where
  stdout : String
  stderr : String
  code : Nat
  world : World

namespace Program

/-- The variable that a program reads off a text: its name ends before
the first equals sign that is not its first character. -/
def nameAndValue? (text : String) : Option (String × String) :=
  match text.toList with
  | [] => none
  | c :: cs =>
      match cs.dropWhile (· != '=') with
      | [] => none
      | _ :: value => some (String.ofList (c :: cs.takeWhile (· != '=')), String.ofList value)

/-- The texts that a program is handed its variables in, in the order of
the names they were given under; of one name the last counts. -/
def variableTexts (vars : List (String × String)) : List String :=
  let given := vars.foldl (fun e (n, v) => e.assign n v) (Environment.within "")
  given.sortedVars.map fun (n, v) => n ++ "=" ++ v

/-- The session at the start: the variables of the program, in its own
directory. -/
def startEnv (vars : List (String × String)) (world : World) : Environment :=
  ((variableTexts vars).filterMap nameAndValue?).foldl (fun e (n, v) => e.assign n v)
    (.within world.dir.path)

/-- The terminals that get a prompt although nothing is edited on
them. -/
def plainTerminals : List String := ["dumb", "cons25", "emacs"]

/-- A text with its ASCII letters made small. -/
def smallLetters (s : String) : String := s.map Char.toLower

/-- Whether prompts are printed. -/
def prompts (env : Environment) : Bool :=
  match env.lookup "TERM" with
  | some term => plainTerminals.contains (smallLetters term)
  | none => false

/-- A result with what was written to the standard error on the way. -/
def finish (stdout problem : String) (code : Nat) (world : World) : Result :=
  ⟨stdout, Text.Utf8.lossy world.stderr ++ problem, code, world⟩

/-- Run a single line. -/
def runCommand (launch : Launcher) (line : String) (env : Environment) (world : World) : Result :=
  let (outcome, _, world') := launch.shell.runLine line env world
  finish outcome.printed "" (if outcome.isFailure then 1 else 0) world'

/-- The text of a failure that ended the program. -/
def problem (place cause : String) : String :=
  "Error: " ++ place ++ "\n\nCaused by:\n    0: " ++ cause ++ "\n    1: " ++ cause ++ "\n"

/-- The history at the start: that of the file, if it can be read. -/
def startHistory (file : Option String) (world : World) : History :=
  match file with
  | none => .empty
  | some path =>
      match world.read path with
      | .ok bytes => .load bytes
      | .error _ => .empty

/-- Save the history, if there is anything to save. -/
def saveHistory (file : Option String) (h : History) (world : World) :
    Except (String × Host.Cause) World :=
  match file with
  | none => .ok world
  | some path =>
      if h.entries.isEmpty || !h.unsaved then .ok world
      else match world.write path (Text.Utf8.encode h.render) with
        | .ok world' => .ok world'
        | .error cause => .error (path, cause)

/-- Run the lines of the standard input. Every byte is read once and
used once, so there are at most twice as many rounds as bytes, and one
more for the end. -/
def runInput (launch : Launcher) (config : Config) (env : Environment) (world : World) : Result :=
  let prompt := if prompts env then config.prompt else ""
  let start : ReadLoop.State World :=
    ⟨env, world, startHistory config.history world, "", []⟩
  let rounds := 2 * world.stdin.length + 1
  match ReadLoop.run launch.shell World.takeChunk prompt rounds start with
  | (.unreadable, s) =>
      finish s.output (problem "failed to read input" "stream did not contain valid UTF-8") 1
        s.world
  | (.done, s) =>
      match saveHistory config.history s.history s.world with
      | .ok world' => finish s.output "" 0 world'
      | .error (path, cause) =>
          finish s.output (problem ("failed to save history to " ++ path) cause.message) 1 s.world

/-- Run the program by a launcher of other programs. -/
def runBy (launch : Launcher) (args : List String) (vars : List (String × String))
    (world : World) : Result :=
  match Config.read args with
  | .error .help => finish (Config.spec.usage ++ "\n") "" 0 world
  | .error (.fault f) =>
      let advice := "\nRun " ++ Config.spec.name ++ " --help for more information.\n"
      finish "" (f.message ++ advice) 1 world
  | .ok config =>
      let env := startEnv vars world
      match config.command with
      | some line => runCommand launch line env world
      | none => runInput launch config env world

end Program

end PipeShell
