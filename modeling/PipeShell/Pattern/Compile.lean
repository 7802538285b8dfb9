import PipeShell.Pattern.Meaning
import PipeShell.Pattern.Motion
import PipeShell.Pattern.Reader
import PipeShell.Pattern.Space

/-!
# `PipeShell.Pattern.Compile`: from text to matcher

`compile` reads a pattern, gives it its meaning and checks that it is
not too large. `escape` writes a text as a pattern in which every
character stands for itself.
-/

set_option autoImplicit false

namespace PipeShell.Pattern

/-- The modes a pattern starts with. -/
def Modes.initial (ignoreCase : Bool) : Modes :=
  { ignoreCase, multiLine := false, dotNewline := false, crlf := false, unicode := true }

/-- A text written as a pattern: characters that have a meaning of their
own get a backslash. -/
def escape (text : List Char) : List Char :=
  text.flatMap fun c => if isMeta c then ['\\', c] else [c]

/-- What decides which lines match. -/
structure Matcher where
  regex : Regex

/-- Whether a line matches. -/
def Matcher.accepts (m : Matcher) (line : List Char) : Bool := m.regex.matchesLine line

/-- The meaning of a pattern. -/
def meaning (pattern : List Char) (ignoreCase : Bool) : Except Fault Regex := do
  let node ← read pattern
  let (r, _) ← node.regex (.initial ignoreCase)
  return r

/-- The matcher of a pattern. -/
def compile (pattern : List Char) (ignoreCase : Bool) : Except Refusal Matcher :=
  match meaning pattern ignoreCase with
  | .error f => .error (.malformed pattern f)
  | .ok r => if r.isTooLarge then .error .tooLarge else .ok ⟨r⟩

end PipeShell.Pattern
