import PipeShell.Pattern.Escape

/-!
# `PipeShell.Pattern.ClassReader`: bracketed classes

A bracketed class holds characters, ranges, classes by escape or by
name, and classes in brackets of their own. `&&`, `--` and `~~` combine
what stands on their two sides and group to the left. A `]` first in a
class stands for itself, as do hyphens before everything else.
-/

set_option autoImplicit false

namespace PipeShell.Pattern

open Reader

/-- The items of a class read so far, the last one first. -/
structure ItemRun where
  span : Span
  items : List ClassNode

/-- The run with one more item; its span covers the items. -/
def ItemRun.push (r : ItemRun) (n : ClassNode) : ItemRun :=
  let start := if r.items.isEmpty then n.span.start else r.span.start
  ⟨⟨start, n.span.stop⟩, n :: r.items⟩

/-- The run as one item. -/
def ItemRun.node (r : ItemRun) : ClassNode := .ofItems r.span r.items.reverse

/-- The run as the right side of an operation that waits for it. -/
def ItemRun.close (r : ItemRun) (pending : Option (SetOp × ClassNode)) : ClassNode :=
  match pending with
  | none => r.node
  | some (op, lhs) => .binary ⟨lhs.span.start, r.node.span.stop⟩ op lhs r.node

/-- What has been read of a class when its first item is reached: its
bracket, whether it is negated, the span of that opening, and the items
that only stand for themselves there. -/
structure ClassOpening where
  start : Position
  span : Span
  negated : Bool
  run : ItemRun

/-- Hyphens before everything else in a class, at most `n`. -/
def readHyphens (start : Position) : (n : Nat) → ItemRun → Reader ItemRun
  | 0, run => return run
  | n + 1, run => do
      if (← peek?) == some '-' then
        let run := run.push (.literal ⟨← charSpan, '-', false⟩)
        if !(← bumpLoosely) then fail .classUnclosed (.at start)
        else readHyphens start n run
      else return run

/-- The opening of a class; the cursor is on the bracket. -/
def readClassOpening : Reader ClassOpening := do
  let start ← pos
  if !(← bumpLoosely) then fail .classUnclosed ⟨start, ← pos⟩
  else
    let negated := (← peek?) == some '^'
    let more ← if negated then bumpLoosely else pure true
    if !more then fail .classUnclosed ⟨start, ← pos⟩
    else
      let run ← readHyphens start (← remaining) ⟨← spot, []⟩
      if run.items.isEmpty && (← peek?) == some ']' then
        let run := run.push (.literal ⟨← charSpan, ']', false⟩)
        if !(← bumpLoosely) then fail .classUnclosed ⟨start, ← pos⟩
        else return ⟨start, ⟨start, ← pos⟩, negated, run⟩
      else return ⟨start, ⟨start, ← pos⟩, negated, run⟩

/-- A class by name such as `[:alpha:]`, if one stands at the cursor. -/
def readPosix? : Reader (Option ClassNode) := do
  let start ← pos
  let before ← get
  let inner := before.rest.drop 2
  let negated := inner.head? == some '^'
  let text := if negated then inner.drop 1 else inner
  let name := text.takeWhile (· != ':')
  let whole := ['[', ':'] ++ (if negated then ['^'] else []) ++ name ++ [':', ']']
  match PosixClass.ofName? (String.ofList name) with
  | none => return none
  | some kind =>
      if ← bumpIf whole then return some (.posix ⟨start, ← pos⟩ negated kind)
      else return none

/-- One character or escape of a class. -/
def readClassAtom (opening : Span) : Reader Node := do
  match ← peek? with
  | some '\\' => readEscape
  | some c =>
      let span ← charSpan
      let _ ← bump
      return .literal ⟨span, c, false⟩
  | none => fail .classUnclosed opening

/-- An atom as an item of a class. -/
def itemOfAtom : Node → Reader ClassNode
  | .literal l => return .literal l
  | .short s negated kind => return .short s negated kind
  | .property s negated query => return .property s negated query
  | n => fail .classEscapeInvalid n.span

/-- An atom as an end of a range. -/
def literalOfAtom : Node → Reader Literal
  | .literal l => return l
  | n => fail .classRangeLiteral n.span

/-- An item or a range. -/
def readItem (opening : Span) : Reader ClassNode := do
  let first ← readClassAtom opening
  skipLoosely
  match ← peek? with
  | none => fail .classUnclosed opening
  | some c =>
      let next ← peekLoosely?
      if c != '-' || next == some ']' || next == some '-' then itemOfAtom first
      else if !(← bumpLoosely) then fail .classUnclosed opening
      else
        let second ← readClassAtom opening
        let lo ← literalOfAtom first
        let hi ← literalOfAtom second
        let span : Span := ⟨first.span.start, second.span.stop⟩
        if hi.char < lo.char then fail .classRangeInvalid span
        else return .range span lo hi

/-- The operation at the cursor. -/
def readSetOp? : Reader (Option SetOp) := do
  if ← bumpIf ['&', '&'] then return some .inter
  else if ← bumpIf ['-', '-'] then return some .diff
  else if ← bumpIf ['~', '~'] then return some .symDiff
  else return none

/-- The rest of a class after its opening. -/
def readClassBody : (fuel : Nat) → ClassOpening → ItemRun →
    Option (SetOp × ClassNode) → Reader ClassNode
  | 0, o, _, _ => fail .classUnclosed o.span
  | fuel + 1, o, run, pending => do
      skipLoosely
      match ← peek? with
      | none => fail .classUnclosed o.span
      | some '[' =>
          match ← readPosix? with
          | some item => readClassBody fuel o (run.push item) pending
          | none =>
              let inner ← readClassOpening
              let nested ← readClassBody fuel inner inner.run none
              readClassBody fuel o (run.push nested) pending
      | some ']' =>
          let body := run.close pending
          let _ ← bump
          return .bracketed ⟨o.start, ← pos⟩ o.negated body
      | some _ =>
          match ← readSetOp? with
          | some op => readClassBody fuel o ⟨← spot, []⟩ (some (op, run.close pending))
          | none => readClassBody fuel o (run.push (← readItem o.span)) pending

/-- A bracketed class; the cursor is on the bracket. -/
def readClass : Reader Node := do
  let o ← readClassOpening
  match ← readClassBody ((← remaining) + 1) o o.run none with
  | .bracketed span negated body => return .bracketed span negated body
  | n => return .bracketed n.span false n

end PipeShell.Pattern
