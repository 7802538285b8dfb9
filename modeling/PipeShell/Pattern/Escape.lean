import PipeShell.Pattern.Cursor

/-!
# `PipeShell.Pattern.Escape`: what follows a backslash

An escape is a character by number or by letter, a character that would
otherwise have a meaning, a class, or a condition on the place. Digits
would be references to groups, which patterns do not have.
-/

set_option autoImplicit false

namespace PipeShell.Pattern

open Reader

/-- A hexadecimal digit. -/
def isHexDigit (c : Char) : Bool :=
  c.isDigit || ('a' ≤ c && c ≤ 'f') || ('A' ≤ c && c ≤ 'F')

/-- The value of a hexadecimal digit. -/
def hexDigitValue (c : Char) : Nat :=
  if c.isDigit then c.toNat - '0'.toNat
  else if c ≤ 'F' then c.toNat - 'A'.toNat + 10
  else c.toNat - 'a'.toNat + 10

/-- The number that hexadecimal digits write. -/
def hexValue (ds : List Char) : Nat := ds.foldl (fun n d => 16 * n + hexDigitValue d) 0

/-- The character of a code point, if it is one. -/
def charOfCode? (n : Nat) : Option Char :=
  if n < 0xD800 || (0xDFFF < n && n < 0x110000) then some (Char.ofNat n) else none

/-- Characters that have a meaning of their own in a pattern. -/
def isMeta (c : Char) : Bool :=
  ['\\', '.', '+', '*', '?', '(', ')', '|', '[', ']', '{', '}', '^', '$', '#', '&', '-',
    '~'].contains c

/-- Characters that may be escaped to stand for themselves: all of ASCII
but letters, digits and the angle brackets. -/
def isEscapable (c : Char) : Bool :=
  isMeta c || (c.toNat ≤ 0x7F && !c.isAlphanum && c != '<' && c != '>')

/-- `k` hexadecimal digits; the cursor is left on the last one. -/
def readHexDigits : (k : Nat) → Reader (List Char)
  | 0 => return []
  | k + 1 => do
      match ← peek? with
      | some c =>
          if !isHexDigit c then fail .escapeHexInvalidDigit (← charSpan)
          else if k == 0 then return [c]
          else if !(← bumpLoosely) then fail .escapeUnexpectedEnd (← spot)
          else return c :: (← readHexDigits k)
      | none => fail .escapeUnexpectedEnd (← spot)

/-- A character by a fixed number of digits. -/
def readHexFixed (start : Position) (k : Nat) : Reader Literal := do
  let digitsStart ← pos
  let ds ← readHexDigits k
  let _ ← bumpLoosely
  let stop ← pos
  match charOfCode? (hexValue ds) with
  | none => fail .escapeHexInvalid ⟨digitsStart, stop⟩
  | some c => return ⟨⟨start, stop⟩, c, k == 2⟩

/-- A character by digits between braces. -/
def readHexBraced (start : Position) : Reader Literal := do
  let brace ← pos
  let digitsStart := (← charSpan).stop
  let _ ← bumpLoosely
  let ds ← takeLoosely isHexDigit (← remaining)
  match ← peek? with
  | none => fail .escapeUnexpectedEnd ⟨brace, ← pos⟩
  | some c =>
      if c != '}' then fail .escapeHexInvalidDigit (← charSpan)
      else
        let digitsStop ← pos
        let _ ← bumpLoosely
        let stop ← pos
        if ds.isEmpty then fail .escapeHexEmpty ⟨brace, stop⟩
        else match charOfCode? (hexValue ds) with
          | none => fail .escapeHexInvalid ⟨digitsStart, digitsStop⟩
          | some c => return ⟨⟨start, stop⟩, c, false⟩

/-- A character by number; the cursor is on the letter, which tells how
many digits there are without braces. -/
def readHex (start : Position) (letter : Char) : Reader Literal := do
  if !(← bumpLoosely) then fail .escapeUnexpectedEnd (← spot)
  else if (← peek?) == some '{' then readHexBraced start
  else readHexFixed start (if letter == 'x' then 2 else if letter == 'u' then 4 else 8)

/-- The two sides of the first place where `sep` stands in a text. -/
def splitAt? (sep : List Char) : List Char → Option (List Char × List Char)
  | [] => none
  | c :: cs =>
      if sep.isPrefixOf (c :: cs) then some ([], (c :: cs).drop sep.length)
      else (splitAt? sep cs).map fun (a, b) => (c :: a, b)

/-- What the text between the braces of a property class asks for, and
whether it asks for what is outside that. -/
def queryOf (text : List Char) : Unicode.Query × Bool :=
  let valued (sides : List Char × List Char) : Unicode.Query :=
    .valued (String.ofList sides.1) (String.ofList sides.2)
  match splitAt? ['!', '='] text with
  | some sides => (valued sides, true)
  | none =>
      match splitAt? [':'] text <|> splitAt? ['='] text with
      | some sides => (valued sides, false)
      | none => (.named (String.ofList text), false)

/-- A property class; the cursor is on the letter. -/
def readProperty (start : Position) (negated : Bool) : Reader Node := do
  if !(← bumpLoosely) then fail .escapeUnexpectedEnd (← spot)
  else match ← peek? with
    | some '{' =>
        let _ ← bumpLoosely
        let text ← takeLoosely (· != '}') (← remaining)
        if (← peek?).isNone then fail .escapeUnexpectedEnd (← spot)
        else
          let _ ← bump
          let (query, outside) := queryOf text
          return .property ⟨start, ← pos⟩ (negated != outside) query
    | some '\\' => fail .propertyClassInvalid (← charSpan)
    | some c =>
        let _ ← bumpLoosely
        return .property ⟨start, ← pos⟩ negated (.named (String.singleton c))
    | none => fail .escapeUnexpectedEnd (← spot)

/-- The letters and the hyphen, of which names of word boundaries are
made. -/
def isBoundaryNameChar (c : Char) : Bool := c.isAlpha || c == '-'

/-- The name in braces of a special word boundary, if what follows can
be one; a counted repetition is left to be read. The cursor is on the
brace. -/
def readBoundaryName? (start : Position) : Reader (Option Anchor) := do
  let before ← get
  let brace ← pos
  if !(← bumpLoosely) then
    fail .specialBoundaryOrRepetitionUnexpectedEnd ⟨start, ← pos⟩
  else
    let nameStart ← pos
    let name ← takeLoosely isBoundaryNameChar (← remaining)
    if name.isEmpty then
      set before
      return none
    else if (← peek?) != some '}' then fail .specialBoundaryUnclosed ⟨brace, ← pos⟩
    else
      let nameStop ← pos
      let _ ← bump
      match String.ofList name with
      | "start" => return some .wordStart
      | "end" => return some .wordEnd
      | "start-half" => return some .wordStartHalf
      | "end-half" => return some .wordEndHalf
      | _ => fail .specialBoundaryUnrecognized ⟨nameStart, nameStop⟩

/-- The characters that have a letter of their own. -/
def letterEscape? : Char → Option Char
  | 'a' => some (Char.ofNat 0x07)
  | 'f' => some (Char.ofNat 0x0C)
  | 't' => some '\t'
  | 'n' => some '\n'
  | 'r' => some '\r'
  | 'v' => some (Char.ofNat 0x0B)
  | _ => none

/-- The conditions that have a letter of their own, `b` apart. -/
def letterAnchor? : Char → Option Anchor
  | 'A' => some .startText
  | 'z' => some .endText
  | 'B' => some .notBoundary
  | '<' => some .wordStart
  | '>' => some .wordEnd
  | _ => none

/-- The classes that have a letter of their own: the class and whether
the letter stands for what is outside it. -/
def letterClass? : Char → Option (ShortClass × Bool)
  | 'd' => some (.digit, false)
  | 's' => some (.space, false)
  | 'w' => some (.word, false)
  | 'D' => some (.digit, true)
  | 'S' => some (.space, true)
  | 'W' => some (.word, true)
  | _ => none

/-- An escape; the cursor is on the backslash. -/
def readEscape : Reader Node := do
  let start ← pos
  let _ ← bump
  match ← peek? with
  | none => fail .escapeUnexpectedEnd ⟨start, ← pos⟩
  | some c =>
      if c.isDigit then fail .backreference ⟨start, (← charSpan).stop⟩
      else if c == 'x' || c == 'u' || c == 'U' then
        return .literal (← readHex start c)
      else if c == 'p' || c == 'P' then readProperty start (c == 'P')
      else
        let _ ← bump
        let span : Span := ⟨start, ← pos⟩
        match letterClass? c, letterEscape? c, letterAnchor? c with
        | some (kind, negated), _, _ => return .short span negated kind
        | _, some ch, _ => return .literal ⟨span, ch, false⟩
        | _, _, some kind => return .anchor span kind
        | _, _, _ =>
            if isEscapable c then return .literal ⟨span, c, false⟩
            else if c == 'b' then
              if (← peek?) == some '{' then
                match ← readBoundaryName? start with
                | some kind => return .anchor ⟨start, ← pos⟩ kind
                | none => return .anchor span .boundary
              else return .anchor span .boundary
            else fail .escapeUnrecognized span

end PipeShell.Pattern
