import PipeShell.Pattern.Node
import PipeShell.Pattern.Regex

/-!
# `PipeShell.Pattern.Meaning`: from the written pattern to its meaning

A setting of flags holds from where it stands to the end of the group
around it, and a group with flags gives them to its body. Without the
Unicode flag classes are sets of ASCII characters, and whatever could
match a byte that is no character is a fault.
-/

set_option autoImplicit false

namespace PipeShell.Pattern

open Unicode

/-- The flags in force, as far as they bear on what matches. -/
structure Modes where
  ignoreCase : Bool
  multiLine : Bool
  dotNewline : Bool
  crlf : Bool
  unicode : Bool
deriving Repr, DecidableEq

/-- The modes after one flag was turned on or off. -/
def Modes.change (m : Modes) (f : Flag) (on : Bool) : Modes :=
  match f with
  | .ignoreCase => { m with ignoreCase := on }
  | .multiLine => { m with multiLine := on }
  | .dotNewline => { m with dotNewline := on }
  | .crlf => { m with crlf := on }
  | .unicode => { m with unicode := on }
  | .swapGreed => m
  | .ignoreSpace => m

/-- The modes after several changes. -/
def Modes.apply (m : Modes) (changes : FlagChanges) : Modes :=
  changes.foldl (fun m c => m.change c.1 c.2) m

/-- A fault at a span. -/
def faultAt (t : Trouble) (span : Span) : Fault := ⟨t, span, none⟩

/-! ### Classes -/

/-- The characters of a class by name. -/
def PosixClass.set : PosixClass → CharSet
  | .alnum => .unions [.range 0x30 0x39, .range 0x41 0x5A, .range 0x61 0x7A]
  | .alpha => .unions [.range 0x41 0x5A, .range 0x61 0x7A]
  | .ascii => .range 0 0x7F
  | .blank => .unions [.range 9 9, .range 0x20 0x20]
  | .cntrl => .unions [.range 0 0x1F, .range 0x7F 0x7F]
  | .digit => .range 0x30 0x39
  | .graph => .range 0x21 0x7E
  | .lower => .range 0x61 0x7A
  | .print => .range 0x20 0x7E
  | .punct =>
      .unions [.range 0x21 0x2F, .range 0x3A 0x40, .range 0x5B 0x60, .range 0x7B 0x7E]
  | .space => .unions [.range 9 13, .range 0x20 0x20]
  | .upper => .range 0x41 0x5A
  | .word => asciiWord
  | .xdigit => .unions [.range 0x30 0x39, .range 0x41 0x46, .range 0x61 0x66]

/-- A class by letter over all characters. -/
def ShortClass.set : ShortClass → CharSet
  | .digit => decimalDigits
  | .space => whiteSpace
  | .word => wordChars

/-- A class by letter over ASCII. -/
def ShortClass.asciiSet : ShortClass → CharSet
  | .digit => PosixClass.digit.set
  | .space => PosixClass.space.set
  | .word => asciiWord

/-- The set closed under case, if case is ignored. -/
def Modes.close (m : Modes) (s : CharSet) : CharSet :=
  if !m.ignoreCase then s else if m.unicode then .folded s else .foldedAscii s

/-- The set closed under case and then negated, if it is to be. Without
the Unicode flag the negation would take in bytes that are no
characters. -/
def Modes.finish (m : Modes) (span : Span) (negated : Bool) (s : CharSet) :
    Except Fault CharSet :=
  if !negated then .ok (m.close s)
  else if m.unicode then .ok (.compl (m.close s))
  else .error (faultAt .invalidUtf8 span)

/-- A class by letter. -/
def Modes.short (m : Modes) (span : Span) (negated : Bool) (kind : ShortClass) :
    Except Fault CharSet :=
  if m.unicode then .ok (if negated then .compl kind.set else kind.set)
  else if negated then .error (faultAt .invalidUtf8 span)
  else .ok kind.asciiSet

/-- A property class. -/
def Modes.property (m : Modes) (span : Span) (negated : Bool) (query : Query) :
    Except Fault CharSet :=
  if !m.unicode then .error (faultAt .unicodeNotAllowed span)
  else match query.find with
    | .ok s => m.finish span negated s
    | .error .property => .error (faultAt .propertyNotFound span)
    | .error .value => .error (faultAt .propertyValueNotFound span)

/-- The character of a literal. Without the Unicode flag an escape of
two digits is a byte, which has to be a character by itself. -/
def Modes.literal (m : Modes) (l : Literal) : Except Fault Char :=
  if !m.unicode && l.byteEscape && 0x7F < l.char.toNat then
    .error (faultAt .invalidUtf8 l.span)
  else .ok l.char

/-- The code point of a literal in a class. -/
def Modes.classLiteral (m : Modes) (l : Literal) : Except Fault Nat := do
  let c ← m.literal l
  if !m.unicode && 0x7F < c.toNat then .error (faultAt .unicodeNotAllowed l.span)
  else .ok c.toNat

/-- The operations between sets. -/
def SetOp.apply : SetOp → CharSet → CharSet → CharSet
  | .inter, a, b => .inter a b
  | .diff, a, b => .diff a b
  | .symDiff, a, b => .union (.diff a b) (.diff b a)

mutual

/-- The set of a part of a class. -/
def ClassNode.set (m : Modes) : ClassNode → Except Fault CharSet
  | .empty _ => .ok .empty
  | .literal l => do
      let c ← m.classLiteral l
      .ok (.range c c)
  | .range _ lo hi => do
      let a ← m.classLiteral lo
      let b ← m.classLiteral hi
      .ok (.range a b)
  | .posix span negated kind => m.finish span negated kind.set
  | .property span negated query => m.property span negated query
  | .short span negated kind => m.short span negated kind
  | .bracketed span negated body => do m.finish span negated (← body.set m)
  | .union _ items => do .ok (.unions (← ClassNode.sets m items))
  | .binary _ op lhs rhs => do
      let a ← lhs.set m
      let b ← rhs.set m
      .ok (op.apply (m.close a) (m.close b))

/-- The sets of several parts side by side. -/
def ClassNode.sets (m : Modes) : List ClassNode → Except Fault (List CharSet)
  | [] => .ok []
  | n :: ns => do
      let s ← n.set m
      let ss ← ClassNode.sets m ns
      .ok (s :: ss)

end

/-! ### Patterns -/

/-- The condition that an anchor stands for. -/
def Modes.look (m : Modes) : Anchor → Look
  | .startLine => if !m.multiLine then .start else if m.crlf then .startLineCrlf else .startLine
  | .endLine => if !m.multiLine then .stop else if m.crlf then .stopLineCrlf else .stopLine
  | .startText => .start
  | .endText => .stop
  | .boundary => .boundary !m.unicode
  | .notBoundary => .notBoundary !m.unicode
  | .wordStart => .wordStart !m.unicode
  | .wordEnd => .wordEnd !m.unicode
  | .wordStartHalf => .wordStartHalf !m.unicode
  | .wordEndHalf => .wordEndHalf !m.unicode

/-- The characters that a dot matches: all but the end of a line. -/
def Modes.dot (m : Modes) (span : Span) : Except Fault CharSet :=
  if !m.unicode then .error (faultAt .invalidUtf8 span)
  else if m.dotNewline then .ok .all
  else if m.crlf then .ok (.compl (.union (.single '\r') (.single '\n')))
  else .ok (.compl (.single '\n'))

mutual

/-- The meaning of a part under the modes in force, and the modes in
force after it. -/
def Node.regex (m : Modes) : Node → Except Fault (Regex × Modes)
  | .empty _ => .ok (.empty, m)
  | .flags _ changes => .ok (.empty, m.apply changes)
  | .literal l => do
      let c ← m.literal l
      .ok (.one (m.close (.single c)), m)
  | .dot span => do .ok (.one (← m.dot span), m)
  | .anchor _ kind => .ok (.look (m.look kind), m)
  | .property span negated query => do .ok (.one (← m.property span negated query), m)
  | .short span negated kind => do .ok (.one (← m.short span negated kind), m)
  | .bracketed span negated body => do
      .ok (.one (← m.finish span negated (← body.set m)), m)
  | .repeated _ least most body => do
      let (r, m') ← body.regex m
      .ok (.rep r least most, m')
  | .group _ kept changes body => do
      let (r, _) ← body.regex (m.apply changes)
      .ok (.group kept r, m)
  | .alternation _ branches => Node.alternatives m branches
  | .concat _ parts => Node.sequence m parts

/-- The meaning of several parts in a row. -/
def Node.sequence (m : Modes) : List Node → Except Fault (Regex × Modes)
  | [] => .ok (.empty, m)
  | n :: ns => do
      let (a, m') ← n.regex m
      let (b, m'') ← Node.sequence m' ns
      .ok (.seq a b, m'')

/-- The meaning of several branches. A setting of flags in one of them
holds for those that follow. -/
def Node.alternatives (m : Modes) : List Node → Except Fault (Regex × Modes)
  | [] => .ok (.one .empty, m)
  | [n] => n.regex m
  | n :: ns => do
      let (a, m') ← n.regex m
      let (b, m'') ← Node.alternatives m' ns
      .ok (.alt a b, m'')

end

end PipeShell.Pattern
