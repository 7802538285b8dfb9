import PipeShell.Line.Token

/-!
# `PipeShell.Line.Expand`: variables on a command line

A dollar sign and the longest run of name characters after it refer to a
variable. References are replaced before the line is divided into words,
so a value may bring in words and pipes of its own; a value is not looked
through again.

A reference to a variable that is not set vanishes. Where it is a bare
word of its own it leaves a pair of quotes, so that its command still
gets an empty argument in that place.
-/

set_option autoImplicit false

namespace PipeShell.Line

/-- The characters that names of variables are made of. -/
def isNameChar (c : Char) : Bool := c.isAlphanum || c == '_'

/-- A piece of a line: a character that stands for itself, or a
reference by name. -/
inductive Segment where
  | char (c : Char)
  | ref (name : List Char)
deriving Repr, DecidableEq

namespace Segment

/-- The piece as it was written. -/
def source : Segment → List Char
  | char c => [c]
  | ref name => '$' :: name

/-- What a dollar sign and the name characters after it amount to; they
are given with the last one first. A dollar sign alone stands for
itself. -/
def ofName (held : List Char) : Segment :=
  if held.isEmpty then .char '$' else .ref held.reverse

end Segment

/-- The pieces of the rest of a line. After a dollar sign `held` keeps
the name characters met since, the last one first. -/
def split : (held : Option (List Char)) → List Char → List Segment
  | none, [] => []
  | some held, [] => [.ofName held]
  | none, c :: cs => if c == '$' then split (some []) cs else .char c :: split none cs
  | some held, c :: cs =>
      if isNameChar c then split (some (c :: held)) cs
      else if c == '$' then .ofName held :: split (some []) cs
      else .ofName held :: .char c :: split none cs

/-- The pieces of a line. -/
def segments (cs : List Char) : List Segment := split none cs

/-- Whether a bare word may start or end beside a neighbour. -/
def isEdge : Option Char → Bool
  | none => true
  | some c => isDivider c

/-- What is written for a reference to a variable that is not set.
`mode` is the mode at the dollar sign, `before` and `after` are the
neighbours of the reference. -/
def vacancy (mode : Mode) (before after : Option Char) : List Char :=
  if !mode.isQuoted && isEdge before && isEdge after then ['"', '"'] else []

/-- The first character of the rest of a line as it was written. -/
def firstChar? (rest : List Segment) : Option Char := rest.head?.bind (·.source.head?)

/-- The rest of a line with its references replaced. `before` is the
character to the left and `mode` the mode there, both of the line as it
was written. -/
def expandFrom (lookup : String → Option String) :
    (before : Option Char) → Mode → List Segment → List Char
  | _, _, [] => []
  | _, mode, .char c :: rest => c :: expandFrom lookup (some c) (mode.next c) rest
  | before, mode, .ref name :: rest =>
      let text := match lookup (String.ofList name) with
        | some value => value.toList
        | none => vacancy mode before (firstChar? rest)
      text ++ expandFrom lookup (name.getLast?) (mode.after ('$' :: name)) rest

/-- The line with its references replaced. -/
def expand (lookup : String → Option String) (line : String) : String :=
  String.ofList (expandFrom lookup none .gap (segments line.toList))

end PipeShell.Line
