import PipeShell.Pattern.Fault
import PipeShell.Unicode.Query

/-!
# `PipeShell.Pattern.Node`: the written structure of a pattern

`Node` is a pattern as it was written, every part with its span, before
flags have been given a meaning. `Node.overdeep?` finds the first part
that is nested deeper than a limit: groups, repetitions, classes,
concatenations and alternations each count for one level.
-/

set_option autoImplicit false

namespace PipeShell.Pattern

/-- The switches that a pattern can turn on and off. -/
inductive Flag where
  | ignoreCase
  | multiLine
  | dotNewline
  | swapGreed
  | unicode
  | crlf
  | ignoreSpace
deriving Repr, DecidableEq

/-- The letter of a flag. -/
def Flag.ofChar? : Char → Option Flag
  | 'i' => some .ignoreCase
  | 'm' => some .multiLine
  | 's' => some .dotNewline
  | 'U' => some .swapGreed
  | 'u' => some .unicode
  | 'R' => some .crlf
  | 'x' => some .ignoreSpace
  | _ => none

/-- Flags turned on or off, in the order written. -/
abbrev FlagChanges := List (Flag × Bool)

/-- The last word on a flag, if there is one. -/
def FlagChanges.state? (changes : FlagChanges) (f : Flag) : Option Bool :=
  (changes.reverse.find? (·.1 == f)).map (·.2)

/-- One character, written as itself or by an escape. `byteEscape` marks
the escape of two hexadecimal digits. -/
structure Literal where
  span : Span
  char : Char
  byteEscape : Bool
deriving Repr, DecidableEq

/-- Conditions on a place in the text. -/
inductive Anchor where
  | startLine
  | endLine
  | startText
  | endText
  | boundary
  | notBoundary
  | wordStart
  | wordEnd
  | wordStartHalf
  | wordEndHalf
deriving Repr, DecidableEq

/-- The classes with an escape of one letter. -/
inductive ShortClass where
  | digit
  | space
  | word
deriving Repr, DecidableEq

/-- The classes named between `[:` and `:]`. -/
inductive PosixClass where
  | alnum
  | alpha
  | ascii
  | blank
  | cntrl
  | digit
  | graph
  | lower
  | print
  | punct
  | space
  | upper
  | word
  | xdigit
deriving Repr, DecidableEq

/-- The class of a name. -/
def PosixClass.ofName? : String → Option PosixClass
  | "alnum" => some .alnum
  | "alpha" => some .alpha
  | "ascii" => some .ascii
  | "blank" => some .blank
  | "cntrl" => some .cntrl
  | "digit" => some .digit
  | "graph" => some .graph
  | "lower" => some .lower
  | "print" => some .print
  | "punct" => some .punct
  | "space" => some .space
  | "upper" => some .upper
  | "word" => some .word
  | "xdigit" => some .xdigit
  | _ => none

/-- The operations between the parts of a bracketed class. -/
inductive SetOp where
  | inter
  | diff
  | symDiff
deriving Repr, DecidableEq

/-- What stands in a bracketed class. -/
inductive ClassNode where
  | empty (span : Span)
  | literal (l : Literal)
  | range (span : Span) (lo hi : Literal)
  | posix (span : Span) (negated : Bool) (kind : PosixClass)
  | property (span : Span) (negated : Bool) (query : Unicode.Query)
  | short (span : Span) (negated : Bool) (kind : ShortClass)
  | bracketed (span : Span) (negated : Bool) (body : ClassNode)
  | union (span : Span) (items : List ClassNode)
  | binary (span : Span) (op : SetOp) (lhs rhs : ClassNode)

/-- Where a part of a class stands. -/
def ClassNode.span : ClassNode → Span
  | empty s => s
  | literal l => l.span
  | range s _ _ => s
  | posix s _ _ => s
  | property s _ _ => s
  | short s _ _ => s
  | bracketed s _ _ => s
  | union s _ => s
  | binary s _ _ _ => s

/-- A pattern as it was written. -/
inductive Node where
  | empty (span : Span)
  | flags (span : Span) (changes : FlagChanges)
  | literal (l : Literal)
  | dot (span : Span)
  | anchor (span : Span) (kind : Anchor)
  | property (span : Span) (negated : Bool) (query : Unicode.Query)
  | short (span : Span) (negated : Bool) (kind : ShortClass)
  | bracketed (span : Span) (negated : Bool) (body : ClassNode)
  | repeated (span : Span) (least : Nat) (most : Option Nat) (body : Node)
  /-- A group; its match is `kept` unless it only holds together. -/
  | group (span : Span) (kept : Bool) (changes : FlagChanges) (body : Node)
  | alternation (span : Span) (branches : List Node)
  | concat (span : Span) (parts : List Node)

/-- Where a part of a pattern stands. -/
def Node.span : Node → Span
  | empty s => s
  | flags s _ => s
  | literal l => l.span
  | dot s => s
  | anchor s _ => s
  | property s _ _ => s
  | short s _ _ => s
  | bracketed s _ _ => s
  | repeated s _ _ _ => s
  | group s _ _ _ => s
  | alternation s _ => s
  | concat s _ => s

/-- Several parts in a row; a single one stands for itself. -/
def Node.ofParts (span : Span) : List Node → Node
  | [] => .empty span
  | [n] => n
  | ns => .concat span ns

/-- Several items side by side; a single one stands for itself. -/
def ClassNode.ofItems (span : Span) : List ClassNode → ClassNode
  | [] => .empty span
  | [n] => n
  | ns => .union span ns

/-! ### Nesting -/

mutual

/-- The span of the first part of a class, in the order written, that
lies deeper than `room` levels. -/
def ClassNode.overdeep? : (room : Nat) → ClassNode → Option Span
  | 0, .bracketed s _ _ => some s
  | room + 1, .bracketed _ _ body => body.overdeep? room
  | 0, .union s _ => some s
  | room + 1, .union _ items => ClassNode.anyOverdeep? room items
  | 0, .binary s _ _ _ => some s
  | room + 1, .binary _ _ lhs rhs =>
      match lhs.overdeep? room with
      | some s => some s
      | none => rhs.overdeep? room
  | _, _ => none

/-- The first part that lies too deep in any of several items. -/
def ClassNode.anyOverdeep? : (room : Nat) → List ClassNode → Option Span
  | _, [] => none
  | room, n :: ns =>
      match n.overdeep? room with
      | some s => some s
      | none => ClassNode.anyOverdeep? room ns

end

mutual

/-- The span of the first part of a pattern, in the order written, that
lies deeper than `room` levels. -/
def Node.overdeep? : (room : Nat) → Node → Option Span
  | 0, .bracketed s _ _ => some s
  | room + 1, .bracketed _ _ body => body.overdeep? room
  | 0, .repeated s _ _ _ => some s
  | room + 1, .repeated _ _ _ body => body.overdeep? room
  | 0, .group s _ _ _ => some s
  | room + 1, .group _ _ _ body => body.overdeep? room
  | 0, .alternation s _ => some s
  | room + 1, .alternation _ branches => Node.anyOverdeep? room branches
  | 0, .concat s _ => some s
  | room + 1, .concat _ parts => Node.anyOverdeep? room parts
  | _, _ => none

/-- The first part that lies too deep in any of several parts. -/
def Node.anyOverdeep? : (room : Nat) → List Node → Option Span
  | _, [] => none
  | room, n :: ns =>
      match n.overdeep? room with
      | some s => some s
      | none => Node.anyOverdeep? room ns

end

end PipeShell.Pattern
