import PipeShell.Pattern.Span
import PipeShell.Text.Lines

/-!
# `PipeShell.Pattern.Fault`: what is wrong with a pattern

A fault is a cause (`Trouble`) and the span of the pattern it was found
at; where two things clash the span of the earlier one is kept too.
`Fault.message` shows the pattern with the spans marked below it. A
pattern of one line is indented; one of several lines is shown between
rulers with its lines numbered, and a span over several lines is
described in words.
-/

set_option autoImplicit false

namespace PipeShell.Pattern

/-- How deep groups and classes may nest. -/
def nestLimit : Nat := 250

/-- The space a compiled pattern may take, in bytes. -/
def sizeLimit : Nat := 10485760

/-- Causes for which a pattern is refused. -/
inductive Trouble where
  | classEscapeInvalid
  | classRangeInvalid
  | classRangeLiteral
  | classUnclosed
  | decimalEmpty
  | decimalInvalid
  | escapeHexEmpty
  | escapeHexInvalid
  | escapeHexInvalidDigit
  | escapeUnexpectedEnd
  | escapeUnrecognized
  | flagDanglingNegation
  | flagDuplicate
  | flagRepeatedNegation
  | flagUnexpectedEnd
  | flagUnrecognized
  | groupNameDuplicate
  | groupNameEmpty
  | groupNameInvalid
  | groupNameUnexpectedEnd
  | groupUnclosed
  | groupUnopened
  | nestLimitExceeded
  | repetitionCountInvalid
  | repetitionCountDecimalEmpty
  | repetitionCountUnclosed
  | repetitionMissing
  | specialBoundaryUnclosed
  | specialBoundaryUnrecognized
  | specialBoundaryOrRepetitionUnexpectedEnd
  | propertyClassInvalid
  | backreference
  | lookAround
  | unicodeNotAllowed
  | invalidUtf8
  | propertyNotFound
  | propertyValueNotFound
deriving Repr, DecidableEq

/-- The words for a cause. -/
def Trouble.words : Trouble → String
  | .classEscapeInvalid => "invalid escape sequence found in character class"
  | .classRangeInvalid => "invalid character class range, the start must be <= the end"
  | .classRangeLiteral => "invalid range boundary, must be a literal"
  | .classUnclosed => "unclosed character class"
  | .decimalEmpty => "decimal literal empty"
  | .decimalInvalid => "decimal literal invalid"
  | .escapeHexEmpty => "hexadecimal literal empty"
  | .escapeHexInvalid => "hexadecimal literal is not a Unicode scalar value"
  | .escapeHexInvalidDigit => "invalid hexadecimal digit"
  | .escapeUnexpectedEnd =>
      "incomplete escape sequence, reached end of pattern prematurely"
  | .escapeUnrecognized => "unrecognized escape sequence"
  | .flagDanglingNegation => "dangling flag negation operator"
  | .flagDuplicate => "duplicate flag"
  | .flagRepeatedNegation => "flag negation operator repeated"
  | .flagUnexpectedEnd => "expected flag but got end of regex"
  | .flagUnrecognized => "unrecognized flag"
  | .groupNameDuplicate => "duplicate capture group name"
  | .groupNameEmpty => "empty capture group name"
  | .groupNameInvalid => "invalid capture group character"
  | .groupNameUnexpectedEnd => "unclosed capture group name"
  | .groupUnclosed => "unclosed group"
  | .groupUnopened => "unopened group"
  | .nestLimitExceeded =>
      "exceed the maximum number of nested parentheses/brackets (" ++ toString nestLimit ++ ")"
  | .repetitionCountInvalid =>
      "invalid repetition count range, the start must be <= the end"
  | .repetitionCountDecimalEmpty => "repetition quantifier expects a valid decimal"
  | .repetitionCountUnclosed => "unclosed counted repetition"
  | .repetitionMissing => "repetition operator missing expression"
  | .specialBoundaryUnclosed =>
      "special word boundary assertion is either unclosed or contains an invalid character"
  | .specialBoundaryUnrecognized =>
      "unrecognized special word boundary assertion, valid choices are: " ++
        "start, end, start-half or end-half"
  | .specialBoundaryOrRepetitionUnexpectedEnd =>
      "found either the beginning of a special word boundary or a bounded repetition " ++
        "on a \\b with an opening brace, but no closing brace"
  | .propertyClassInvalid => "invalid Unicode character class"
  | .backreference => "backreferences are not supported"
  | .lookAround => "look-around, including look-ahead and look-behind, is not supported"
  | .unicodeNotAllowed => "Unicode not allowed here"
  | .invalidUtf8 => "pattern can match invalid UTF-8"
  | .propertyNotFound => "Unicode property not found"
  | .propertyValueNotFound => "Unicode property value not found"

/-- A cause, where it was found, and what it clashes with. -/
structure Fault where
  trouble : Trouble
  span : Span
  earlier : Option Span
deriving Repr, DecidableEq

/-- Why a pattern has no matcher. -/
inductive Refusal where
  | malformed (pattern : List Char) (fault : Fault)
  | tooLarge
deriving Repr, DecidableEq

/-! ### Showing a fault -/

namespace Fault

/-- The spans to mark, in order. -/
def spans (f : Fault) : List Span :=
  match f.earlier with
  | none => [f.span]
  | some e => if f.span.le e then [f.span, e] else [e, f.span]

/-- Marks below one line, written from column `column` on. A span is
marked with at least one caret. -/
def marks : (column : Nat) → List Span → List Char
  | _, [] => []
  | column, s :: rest =>
      let gap := s.start.column - column
      let width := max 1 (s.stop.column - s.start.column)
      List.replicate gap ' ' ++ List.replicate width '^' ++ marks (column + gap + width) rest

/-- The lines of the pattern numbered from `n` on with their marks, each
after a margin that `margin` gives for the number. -/
def notate (marked : List Span) (margin : Nat → List Char) :
    (n : Nat) → List (List Char) → List Char
  | _, [] => []
  | n, line :: rest =>
      let here := marked.filter (·.start.line == n)
      let below := if here.isEmpty then []
        else List.replicate (margin n).length ' ' ++ marks 1 here ++ ['\n']
      margin n ++ line ++ ['\n'] ++ below ++ notate marked margin (n + 1) rest

/-- A line number in a column of the given width. -/
def numbered (width n : Nat) : List Char :=
  let digits := (toString n).toList
  List.replicate (width - digits.length) ' ' ++ digits ++ [':', ' ']

/-- How many lines a span can lie on: one more than are shown when the
pattern ends in a newline. -/
def lineCount (pattern : List Char) : Nat :=
  (Text.lines pattern).length + (if pattern.getLast? == some '\n' then 1 else 0)

/-- A span over several lines, in words. -/
def describe (s : Span) : String :=
  "on line " ++ toString s.start.line ++ " (column " ++ toString s.start.column
    ++ ") through line " ++ toString s.stop.line
    ++ " (column " ++ toString (s.stop.column - 1) ++ ")\n"

/-- The fault shown on its pattern. -/
def message (pattern : List Char) (f : Fault) : String :=
  let count := lineCount pattern
  let width := (toString count).length
  let margin := if count ≤ 1 then fun _ => List.replicate 4 ' ' else numbered width
  let short := f.spans.filter Span.onOneLine
  let long := f.spans.filter (!·.onOneLine)
  let body := String.ofList (notate short margin 1 (Text.lines pattern))
  let ruler := String.ofList (List.replicate 79 '~' ++ ['\n'])
  let shown := if pattern.contains '\n'
    then ruler ++ body ++ ruler ++ String.join (long.map describe) else body
  "regex parse error:\n" ++ shown ++ "error: " ++ f.trouble.words

end Fault

/-- The text of a refusal. -/
def Refusal.message : Refusal → String
  | .malformed pattern fault => fault.message pattern
  | .tooLarge =>
      "Compiled regex exceeds size limit of " ++ toString sizeLimit ++ " bytes."

end PipeShell.Pattern
