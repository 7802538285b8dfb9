import PipeShell.Text.Blank

/-!
# `PipeShell.Text.Lines`: texts as lines and words

`splitOn` cuts a text at every separator and `pieces` at every newline.
`lines` leaves out the empty piece after a last newline and the carriage
return before a newline.
`Counts.of` measures a text in lines, words and bytes.
-/

set_option autoImplicit false

namespace PipeShell.Text

/-- The pieces between separators. A text without separators is one
piece. -/
def splitOn (sep : Char) : List Char → List (List Char)
  | [] => [[]]
  | c :: cs =>
      if c == sep then [] :: splitOn sep cs
      else match splitOn sep cs with
        | [] => [[c]]
        | p :: ps => (c :: p) :: ps

/-- The pieces between newlines. -/
def pieces (cs : List Char) : List (List Char) := splitOn '\n' cs

/-- The text without a carriage return at its end. -/
def dropReturn (cs : List Char) : List Char :=
  if cs.getLast? == some '\r' then cs.dropLast else cs

/-- The lines of a text; the last one need not end in a newline. A
carriage return before a newline belongs to the line end. -/
def lines (cs : List Char) : List (List Char) :=
  match (pieces cs).reverse with
  | [] => []
  | last :: before =>
      let ended := before.reverse.map dropReturn
      if last.isEmpty then ended else ended ++ [last]

/-- The number of words, that is of maximal runs without blanks;
`inside` says whether a run is under way. -/
def wordCount (inside : Bool) : List Char → Nat
  | [] => 0
  | c :: cs =>
      if isBlank c then wordCount false cs
      else (if inside then 0 else 1) + wordCount true cs

/-- The size of a text. -/
structure Counts where
  lines : Nat
  words : Nat
  bytes : Nat
deriving Repr, DecidableEq

/-- The lines, words and bytes of a text. -/
def Counts.of (s : String) : Counts :=
  ⟨(Text.lines s.toList).length, wordCount false s.toList, s.utf8ByteSize⟩

/-- Counts as they are printed. -/
def Counts.render (c : Counts) : String :=
  toString c.lines ++ " " ++ toString c.words ++ " " ++ toString c.bytes

end PipeShell.Text
