/-!
# `PipeShell.Pattern.Span`: places in the text of a pattern

Lines and columns count from one, a column is one character, and a
newline ends the line it stands on. A span runs from its start up to,
and not including, its stop.
-/

set_option autoImplicit false

namespace PipeShell.Pattern

/-- A place between two characters of a pattern. -/
structure Position where
  offset : Nat
  line : Nat
  column : Nat
deriving Repr, DecidableEq, Inhabited

/-- The place before the first character. -/
def Position.origin : Position := ⟨0, 1, 1⟩

/-- The place after a character that stands here. -/
def Position.after (p : Position) (c : Char) : Position :=
  if c == '\n' then ⟨p.offset + 1, p.line + 1, 1⟩ else ⟨p.offset + 1, p.line, p.column + 1⟩

/-- A stretch of a pattern. -/
structure Span where
  start : Position
  stop : Position
deriving Repr, DecidableEq, Inhabited

/-- The empty span at a place. -/
def Span.at (p : Position) : Span := ⟨p, p⟩

/-- A span that starts and stops on one line. -/
def Span.onOneLine (s : Span) : Bool := s.start.line == s.stop.line

/-- Spans are ordered by where they start, then by where they stop. -/
def Span.le (a b : Span) : Bool :=
  a.start.offset < b.start.offset
    || (a.start.offset == b.start.offset && a.stop.offset ≤ b.stop.offset)

end PipeShell.Pattern
