import PipeShell.Pattern.Node
import PipeShell.Text.Blank

/-!
# `PipeShell.Pattern.Cursor`: walking over the text of a pattern

A `Reader` walks over a pattern from left to right and stops at the
first fault. While the flag for free spacing is on, blanks and comments
from `#` to the end of the line are passed over wherever a `…Loosely`
step is taken. Loops count down from the length of the text that is
left, since every round takes at least one character.
-/

set_option autoImplicit false

namespace PipeShell.Pattern

/-- Where the reader stands, what is left, whether spacing is free, and
the group names met so far. -/
structure Cursor where
  pos : Position
  rest : List Char
  loose : Bool
  names : List (List Char × Span)

/-- A step of reading. -/
abbrev Reader (α : Type) := StateT Cursor (Except Fault) α

namespace Reader

/-- Stop with a cause. -/
def fail {α : Type} (t : Trouble) (span : Span) : Reader α :=
  throw ⟨t, span, none⟩

/-- Stop with a cause that clashes with something earlier. -/
def clash {α : Type} (t : Trouble) (span earlier : Span) : Reader α :=
  throw ⟨t, span, some earlier⟩

/-- The character at the cursor. -/
def peek? : Reader (Option Char) := return (← get).rest.head?

/-- The character after the one at the cursor. -/
def peekSecond? : Reader (Option Char) := return (← get).rest.tail.head?

/-- The place of the cursor. -/
def pos : Reader Position := return (← get).pos

/-- The empty span at the cursor. -/
def spot : Reader Span := return .at (← pos)

/-- The span of the character at the cursor. -/
def charSpan : Reader Span := do
  let c ← get
  match c.rest with
  | [] => return .at c.pos
  | ch :: _ => return ⟨c.pos, c.pos.after ch⟩

/-- How many characters are left. -/
def remaining : Reader Nat := return (← get).rest.length

/-- Take the character at the cursor; tells whether any is left. -/
def bump : Reader Bool := do
  let c ← get
  match c.rest with
  | [] => return false
  | ch :: rest =>
      set { c with pos := c.pos.after ch, rest := rest }
      return !rest.isEmpty

/-- Pass over blanks and comments. -/
def passBlanks : (comment : Bool) → Position → List Char → Position × List Char
  | _, p, [] => (p, [])
  | true, p, c :: cs => passBlanks (c != '\n') (p.after c) cs
  | false, p, c :: cs =>
      if Text.isBlank c then passBlanks false (p.after c) cs
      else if c == '#' then passBlanks true (p.after c) cs
      else (p, c :: cs)

/-- Under free spacing, pass over blanks and comments. -/
def skipLoosely : Reader Unit := do
  let c ← get
  if c.loose then
    let (p, rest) := passBlanks false c.pos c.rest
    set { c with pos := p, rest := rest }

/-- Take a character and what free spacing allows after it; tells
whether any is left. -/
def bumpLoosely : Reader Bool := do
  let _ ← bump
  skipLoosely
  return !(← get).rest.isEmpty

/-- Take the text if it stands at the cursor. -/
def bumpIf (text : List Char) : Reader Bool := do
  let c ← get
  if text.isPrefixOf c.rest then
    set { c with pos := text.foldl Position.after c.pos, rest := c.rest.drop text.length }
    return true
  else return false

/-- Take the first of the texts that stands at the cursor. -/
def bumpAny : List (List Char) → Reader Bool
  | [] => return false
  | text :: texts => do if ← bumpIf text then return true else bumpAny texts

/-- The first character that is neither blank nor the mark of a comment.
Of a comment only the first mark is passed over, not its text. -/
def peekPast : (marked : Bool) → List Char → Option Char
  | _, [] => none
  | marked, c :: cs =>
      if Text.isBlank c then peekPast marked cs
      else if !marked && c == '#' then peekPast true cs
      else some c

/-- The character after the one at the cursor, blanks passed over under
free spacing. -/
def peekLoosely? : Reader (Option Char) := do
  let c ← get
  if c.loose then return peekPast false c.rest.tail else return c.rest.tail.head?

/-- Take characters that satisfy `p`, at most `n`. -/
def takeLoosely (p : Char → Bool) : (n : Nat) → Reader (List Char)
  | 0 => return []
  | n + 1 => do
      match ← peek? with
      | some c =>
          if p c then
            let _ ← bumpLoosely
            return c :: (← takeLoosely p n)
          else return []
      | none => return []

end Reader

end PipeShell.Pattern
