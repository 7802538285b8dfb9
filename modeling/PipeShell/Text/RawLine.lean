import PipeShell.Text.Lines
import PipeShell.Text.Utf8

/-!
# `PipeShell.Text.RawLine`: lines of bytes

What is read from a file or a channel comes in lines of bytes. A line is
a text only if its bytes are; the carriage return before its newline
does not belong to it.
-/

set_option autoImplicit false

namespace PipeShell.Text

/-- A line without its newline, and whether it had one. -/
structure RawLine where
  bytes : List UInt8
  ended : Bool
deriving Repr, DecidableEq

namespace RawLine

/-- The lines of bytes; only the last one can lack its newline. -/
def split : List UInt8 → List RawLine
  | [] => []
  | b :: bs =>
      if b == 0x0A then ⟨[], true⟩ :: split bs
      else match split bs with
        | [] => [⟨[b], false⟩]
        | l :: ls => { l with bytes := b :: l.bytes } :: ls

/-- The first line of bytes that has a newline, and what follows it. -/
def cut? (bytes : List UInt8) : Option (RawLine × List UInt8) :=
  match bytes.dropWhile (· != 0x0A) with
  | [] => none
  | _ :: rest => some (⟨bytes.takeWhile (· != 0x0A), true⟩, rest)

/-- The text of a line. -/
def text? (l : RawLine) : Option String :=
  (Utf8.strict? l.bytes).map fun s =>
    if l.ended then String.ofList (dropReturn s.toList) else s

end RawLine

end PipeShell.Text
