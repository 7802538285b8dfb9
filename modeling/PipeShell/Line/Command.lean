import PipeShell.Line.Expand

/-!
# `PipeShell.Line.Command`: the commands of a line

The words between two bars make a command: its name and its arguments.
Nothing between two bars makes no command. For a search the quotes of
the pattern matter, which are gone once the arguments are plain texts:
`Command.literal` remembers that the pattern stood in single quotes.
-/

set_option autoImplicit false

namespace PipeShell

/-- One command of a pipeline. -/
structure Command where
  name : String
  args : List String
  /-- A search takes its pattern as plain text. -/
  literal : Bool
deriving Repr, DecidableEq

/-- The name followed by the arguments. -/
def Command.words (c : Command) : List String := c.name :: c.args

namespace Line

/-- The words between the bars. -/
def stages : List Token → List (List Word)
  | [] => [[]]
  | .pipe :: ts => [] :: stages ts
  | .word w :: ts =>
      match stages ts with
      | [] => [[w]]
      | s :: ss => (w :: s) :: ss

/-- The name of the command whose pattern may be literal. -/
def searchName : String := "grep"

/-- A bare word that starts with a hyphen and goes on after it. -/
def Word.isOption (w : Word) : Bool :=
  w.quote.isNone && w.value.toList.head? == some '-' && w.value != "-"

/-- Options of a search that take the next word as their value. -/
def takesValue (option : String) : Bool := option == "-A" || option == "--after-context"

/-- The word that holds the pattern of a search: the first that is
neither an option nor the value of one. -/
def patternWord? : List Word → Option Word
  | [] => none
  | w :: ws =>
      if !w.isOption then some w
      else if takesValue w.value then
        match ws with
        | [] => none
        | _ :: rest => patternWord? rest
      else patternWord? ws

/-- The command that words make. -/
def command? : List Word → Option Command
  | [] => none
  | name :: rest =>
      let single := match patternWord? rest with
        | some w => w.quote == some .single
        | none => false
      some ⟨name.value, rest.map Word.value, name.value == searchName && single⟩

/-- The commands of a line, in order. A blank line is not even
expanded. -/
def parse (lookup : String → Option String) (line : String) : List Command :=
  if Text.allBlank line then []
  else (stages (tokens (expand lookup line))).filterMap command?

end Line

end PipeShell
