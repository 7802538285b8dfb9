import PipeShell.Text.Blank

/-!
# `PipeShell.Line.Token`: a command line as words and pipes

A line is scanned from left to right. Blanks divide words, a bar divides
the commands of a pipeline. A quote opens a quoted word only where a
word may start; inside a bare word it is a character like any other. The
closing quote ends its word, and a word whose quote is never closed runs
to the end of the line.

`Mode.next` alone decides how quoting evolves. Both the tokens (`tokens`)
and the mask of quoted characters (`quotedMask`) follow it.
-/

set_option autoImplicit false

namespace PipeShell.Line

/-- The two quotes. -/
inductive Quote where
  | single
  | double
deriving Repr, DecidableEq

/-- The character that opens and closes a quote. -/
def Quote.char : Quote → Char
  | single => '\''
  | double => '"'

/-- The quote that a character opens. -/
def Quote.ofChar? (c : Char) : Option Quote :=
  if c == '\'' then some .single else if c == '"' then some .double else none

/-- A word without its quotes, and which quotes it had. -/
structure Word where
  value : String
  quote : Option Quote
deriving Repr, DecidableEq

/-- A piece of a line that means something. -/
inductive Token where
  | word (w : Word)
  | pipe
deriving Repr, DecidableEq

/-- The characters that end a bare word. -/
def isDivider (c : Char) : Bool := Text.isBlank c || c == '|'

/-- What the scanner is in the middle of: nothing, a bare word, or a
quoted word. -/
inductive Mode where
  | gap
  | bare
  | quoted (q : Quote)
deriving Repr, DecidableEq

namespace Mode

/-- The mode after one more character. -/
def next : Mode → Char → Mode
  | gap, c =>
      if isDivider c then gap
      else match Quote.ofChar? c with
        | some q => quoted q
        | none => bare
  | bare, c => if isDivider c then gap else bare
  | quoted q, c => if c == q.char then gap else quoted q

/-- The mode after a stretch of characters. -/
def after (m : Mode) (cs : List Char) : Mode := cs.foldl next m

/-- Whether a character read in this mode lies inside quotes. -/
def isQuoted : Mode → Bool
  | quoted _ => true
  | _ => false

/-- The word that is left when the line ends, if one was begun. `held`
are its characters, the last one first. -/
def finish (held : List Char) : Mode → List Token
  | gap => []
  | bare => [.word ⟨String.ofList held.reverse, none⟩]
  | quoted q => [.word ⟨String.ofList held.reverse, some q⟩]

end Mode

/-- The tokens of the rest of a line. `held` are the characters of the
word under way, the last one first. -/
def scan : Mode → (held : List Char) → List Char → List Token
  | m, held, [] => m.finish held
  | .gap, _, c :: cs =>
      if Text.isBlank c then scan .gap [] cs
      else if c == '|' then .pipe :: scan .gap [] cs
      else match Quote.ofChar? c with
        | some q => scan (.quoted q) [] cs
        | none => scan .bare [c] cs
  | .bare, held, c :: cs =>
      if Text.isBlank c then .word ⟨String.ofList held.reverse, none⟩ :: scan .gap [] cs
      else if c == '|' then
        .word ⟨String.ofList held.reverse, none⟩ :: .pipe :: scan .gap [] cs
      else scan .bare (c :: held) cs
  | .quoted q, held, c :: cs =>
      if c == q.char then .word ⟨String.ofList held.reverse, some q⟩ :: scan .gap [] cs
      else scan (.quoted q) (c :: held) cs

/-- The tokens of a line. Every line has some reading; there are no
faulty lines. -/
def tokens (line : String) : List Token := scan .gap [] line.toList

/-- For each character whether it lies inside quotes. A closing quote
does, an opening one does not. -/
def maskFrom : Mode → List Char → List Bool
  | _, [] => []
  | m, c :: cs => m.isQuoted :: maskFrom (m.next c) cs

/-- For each character of a line whether it lies inside quotes. -/
def quotedMask (line : String) : List Bool := maskFrom .gap line.toList

end PipeShell.Line
