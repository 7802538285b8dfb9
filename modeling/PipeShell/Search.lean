import PipeShell.Failure
import PipeShell.Pattern.Compile
import PipeShell.Text.Lines
import PipeShell.Text.Utf8

/-!
# `PipeShell.Search`: lines that match a pattern

A search keeps the lines of a text that match a pattern, and after each
of them a number of lines that follow it. Where such stretches overlap
a line is kept once. `select` says which lines these are, and `Countdown`
is the loop that finds them by number.
-/

set_option autoImplicit false

namespace PipeShell

/-- What to look for and how. -/
structure SearchOptions where
  pattern : Option String
  wholeWord : Bool
  ignoreCase : Bool
  literal : Bool
  after : Nat
deriving Repr, DecidableEq

namespace Search

/-- The lines of a text to search: the pieces between newlines without
the empty ones at the end. -/
def splitLines (content : List Char) : List (List Char) :=
  ((Text.pieces content).reverse.dropWhile List.isEmpty).reverse

/-- The lines kept: those that match, and after each of them `after`
more. `pending` counts the lines still owed to the last match. -/
def select (keep : List Char → Bool) (after : Nat) :
    (pending : Nat) → List (List Char) → List (List Char)
  | _, [] => []
  | pending, line :: rest =>
      if keep line then line :: select keep after after rest
      else match pending with
        | 0 => select keep after 0 rest
        | p + 1 => line :: select keep after p rest

/-! ### The selection as a loop

`select` counts without a bound. The loop numbers the lines, remembers
the number of the last one it kept, and takes the lines owed off a
counter of 64 bits. -/

/-- The state of the loop: the lines owed, the number of the last line
that was kept, and the lines kept so far. -/
structure Countdown where
  pending : UInt64
  last : Option Nat
  kept : List (List Char)

namespace Countdown

/-- One less, if that is not below zero. -/
def takeOne? (n : UInt64) : Option UInt64 := if n = 0 then none else some (n - 1)

/-- Whether line `i` comes after every line that was kept. -/
def isNew (s : Countdown) (i : Nat) : Bool := s.last.all (· < i)

/-- Keep line `i`, with `pending` lines owed after it. -/
def keepLine (s : Countdown) (line : List Char) (i : Nat) (pending : UInt64) : Countdown :=
  ⟨pending, some i, s.kept ++ [line]⟩

/-- Go over one numbered line. There is no next state if the counter
would fall below zero. -/
def visit (keep : List Char → Bool) (after : UInt64) (s : Countdown) :
    List Char × Nat → Option Countdown
  | (line, i) =>
      if keep line then
        some (if s.isNew i then s.keepLine line i after else { s with pending := after })
      else if 0 < s.pending && s.isNew i then (takeOne? s.pending).map (s.keepLine line i)
      else some s

/-- Go over all lines. -/
def run (keep : List Char → Bool) (after : UInt64) (lines : List (List Char)) :
    Option Countdown :=
  lines.zipIdx.foldlM (visit keep after) ⟨0, none, []⟩

end Countdown

/-! ### Searching a text -/

/-- Lines, each ended by a newline. -/
def unlines (ls : List (List Char)) : List Char := ls.flatMap (· ++ ['\n'])

/-- The pattern bound to whole words. -/
def wholeWords (pattern : List Char) : List Char :=
  ['\\', 'b', '(', '?', ':'] ++ pattern ++ [')', '\\', 'b']

/-- The pattern that is compiled. A literal text stands for itself, even
where whole words are asked for. -/
def effectivePattern (o : SearchOptions) (pattern : List Char) : List Char :=
  if o.literal then Pattern.escape pattern
  else if o.wholeWord then wholeWords pattern
  else pattern

/-- The matcher that the options ask for. -/
def matcher (o : SearchOptions) (pattern : List Char) :
    Except Pattern.Refusal Pattern.Matcher :=
  Pattern.compile (effectivePattern o pattern) o.ignoreCase

/-- The lines of a text that a matcher keeps. -/
def filter (m : Pattern.Matcher) (after : Nat) (content : String) : String :=
  String.ofList (unlines (select m.accepts after 0 (splitLines content.toList)))

/-- The text to search: the input if there is one, or else a file, which
`read` reads. Bytes that are no text are replaced. -/
def source (read : String → Except Host.Cause (List UInt8)) :
    (input file : Option String) → Except Failure String
  | some text, _ => .ok text
  | none, some path =>
      match read path with
      | .ok bytes => .ok (Text.Utf8.lossy bytes)
      | .error cause => .error (.sourceUnavailable path cause)
  | none, none => .error .missingSource

end Search

/-- Search the input or a file for the lines that match. Faults come in
this order: no pattern, no text, a pattern that is refused. -/
def search (o : SearchOptions) (read : String → Except Host.Cause (List UInt8))
    (input file : Option String) : Except Failure String :=
  match o.pattern with
  | none => .error .missingPattern
  | some pattern =>
      match Search.source read input file with
      | .error f => .error f
      | .ok content =>
          match Search.matcher o pattern.toList with
          | .error refusal => .error (.invalidPattern refusal)
          | .ok m => .ok (Search.filter m o.after content)

end PipeShell
