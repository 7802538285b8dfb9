import PipeShell.Builtin.Basic
import PipeShell.Search
import PipeShell.Text.Utf8

/-!
# `PipeShell.Builtin.Texts`: printing, counting and searching

`echo` prints its arguments, `cat` joins files, `wc` counts them and
`grep` searches one. Without files the last three work on the output of
the command before.
-/

set_option autoImplicit false

namespace PipeShell.Builtin

/-- `echo` prints its arguments with blanks between them. -/
def echo : Builtin where
  spec := {
    name := "echo"
    about := "write the arguments to standard output, separated by spaces. "
      ++ "by default, a trailing newline is printed."
    options := [⟨"no-newline", some 'n', .switch, "do not output the trailing newline."⟩]
    positional := some ⟨"args", .greedy, "values to print as-is, separated by spaces."⟩ }
  act := fun c =>
    let text := String.intercalate " " c.given.operands
    c.keeping (.ok (if c.given.has "no-newline" then text else text ++ "\n"))

/-- The text of a file that a command names. -/
def Call.text (c : Call) (name : String) : Except Report String :=
  match c.world.read (c.env.resolve name) with
  | .ok bytes => .ok (Text.Utf8.lossy bytes)
  | .error cause => .error ((Report.ofNote cause.message).within name)

/-- `cat` joins files. -/
def cat : Builtin where
  spec := {
    name := "cat"
    about := "print file(s) to stdout"
    options := []
    positional := some ⟨"files", .greedy,
      "files to print; the piped input is passed through when none are given."⟩ }
  act := fun c => c.keeping <|
    match c.given.operands with
    | [] => .ok (c.input.getD "")
    | files => do return String.join (← files.mapM c.text)

/-- `wc` counts lines, words and bytes. -/
def wc : Builtin where
  spec := {
    name := "wc"
    about := "count lines, words and bytes"
    options := []
    positional := some ⟨"files", .greedy,
      "files to count; the piped input is counted when none are given."⟩ }
  act := fun c => c.keeping <|
    match c.given.operands with
    | [] => .ok ((Text.Counts.of (c.input.getD "")).render ++ "\n")
    | files => do
        let rows ← files.mapM fun name => do
          return (Text.Counts.of (← c.text name)).render ++ " " ++ name ++ "\n"
        return String.join rows

/-- What the arguments of a search ask for. -/
def Call.searchOptions (c : Call) (pattern : Option String) : SearchOptions where
  pattern := pattern
  wholeWord := c.given.has "word-regexp"
  ignoreCase := c.given.has "ignore-case"
  literal := c.literal
  after := match c.given.value? "after-context" with
    | none => 0
    | some text => (Text.Count.read text).toOption.getD 0

/-- `grep` keeps the lines that match a pattern. -/
def grep : Builtin where
  spec := {
    name := Line.searchName
    about := "print lines matching a pattern"
    options := [
      ⟨"word-regexp", some 'w', .switch,
        "match only whole words (using non-word characters as boundaries)"⟩,
      ⟨"ignore-case", some 'i', .switch, "ignore case distinctions"⟩,
      ⟨"after-context", some 'A', .count,
        "print NUM lines of trailing context after matching lines"⟩]
    positional := some ⟨"operands", .repeated,
      "the pattern to search for (a regular expression), then an optional file. "
      ++ "Reads the piped input when no file is given."⟩ }
  act := fun c => c.keeping <|
    match c.given.operands with
    | _ :: _ :: extra :: _ =>
        .error (.ofFailure (.unknownOption ("unexpected argument: " ++ extra)))
    | operands =>
        let file := operands[1]?.map c.env.resolve
        (search (c.searchOptions operands.head?) c.world.read c.input file).mapError .ofFailure

end PipeShell.Builtin
