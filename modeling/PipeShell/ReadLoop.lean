import PipeShell.History
import PipeShell.Pipeline
import PipeShell.Text.Grapheme
import PipeShell.Text.RawLine

/-!
# `PipeShell.ReadLoop`: running the lines of an input

Lines are read and run one after the other until one of them asks the
session to end or the input ends. The input is read in chunks, and what
has not been read is there for the programs that are started. Blank
lines are passed over. What a line prints is kept in order; a prompt,
where it is wanted, stands before each line and before the end of the
input. A line that is no text ends the loop with a fault.
-/

set_option autoImplicit false

namespace PipeShell

/-- A text, given from its end, without its last `n` bytes, as far as
these are whole characters. -/
def dropBytes : (n : Nat) → List Char → List Char
  | _, [] => []
  | n, c :: cs => if c.utf8Size ≤ n then dropBytes (n - c.utf8Size) cs else c :: cs

/-- Take back a cluster for each backspace. `held` is the text so far,
given from its end, and `sizes` has the size in bytes of each cluster in
it, the last one first. A size is kept in one byte. -/
def withoutBackspaces (held : List Char) (sizes : List UInt8) : List (List Char) → List Char
  | [] => held.reverse
  | g :: gs =>
      if g == [Char.ofNat 8] then
        withoutBackspaces (dropBytes (sizes.headD 0).toNat held) sizes.tail gs
      else
        let size := (String.ofList g).utf8ByteSize.toUInt8
        withoutBackspaces (g.reverse ++ held) (size :: sizes) gs

/-- A line as it was entered, with its backspaces carried out. -/
def enteredLine (line : String) : String :=
  String.ofList (withoutBackspaces [] [] (Text.Grapheme.clusters line.toList))

namespace ReadLoop

/-- The state of a loop: the session, its world, the history, what was
printed, and the bytes of the input that were read and not yet used. -/
structure State (w : Type) where
  env : Environment
  world : w
  history : History
  output : String
  held : List UInt8

/-- How a loop ended. -/
inductive Ending where
  | done
  | unreadable
deriving Repr, DecidableEq

variable {w : Type}

/-- Print a text. -/
def State.say (s : State w) (text : String) : State w := { s with output := s.output ++ text }

/-- Run one line. -/
def State.runLine (s : State w) (d : Dispatcher w) (line : String) : State w :=
  let (outcome, env, world) := d.runLine line s.env s.world
  ⟨env, world, s.history.add line, s.output ++ outcome.printed, s.held⟩

/-- Take a line as it was read: print the prompt that it answers, and
run it unless it is blank. Gives nothing for a line that is no text. -/
def State.enter? (s : State w) (d : Dispatcher w) (prompt : String) (l : Text.RawLine) :
    Option (State w) :=
  l.text?.map fun text =>
    let line := enteredLine text
    let s := s.say prompt
    if Text.allBlank line then s else s.runLine d line

/-- Run the lines of an input. Bytes are read in chunks, for which
`take` asks the world, and only when no whole line is held: a program
that a line starts finds what is not read yet. A round reads a chunk or
uses a line, and `fuel` bounds the rounds. -/
def run (d : Dispatcher w) (take : w → List UInt8 × w) (prompt : String) :
    (fuel : Nat) → State w → Ending × State w
  | 0, s => (.done, s)
  | fuel + 1, s =>
      if s.env.exiting then (.done, s)
      else match Text.RawLine.cut? s.held with
        | some (l, rest) =>
            match { s with held := rest }.enter? d prompt l with
            | some s' => run d take prompt fuel s'
            | none => (.unreadable, s.say prompt)
        | none =>
            match take s.world with
            | ([], world) =>
                if s.held.isEmpty then (.done, { s with world }.say prompt)
                else match { s with world, held := [] }.enter? d prompt ⟨s.held, false⟩ with
                  | some s' => run d take prompt fuel s'
                  | none => (.unreadable, { s with world }.say prompt)
            | (chunk, world) => run d take prompt fuel { s with world, held := s.held ++ chunk }

end ReadLoop

end PipeShell
