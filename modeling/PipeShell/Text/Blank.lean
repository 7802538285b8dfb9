/-!
# `PipeShell.Text.Blank`: blank characters and trimming

A character is blank when it has the Unicode property `White_Space`.
Blanks divide words on a command line, are trimmed from its ends, and
divide the words that are counted in a text.
-/

set_option autoImplicit false

namespace PipeShell.Text

/-- The `White_Space` property, by code point. -/
def blankCode (n : Nat) : Bool :=
  (9 ≤ n && n ≤ 13) || n == 0x20 || n == 0x85 || n == 0xA0 || n == 0x1680
    || (0x2000 ≤ n && n ≤ 0x200A) || n == 0x2028 || n == 0x2029
    || n == 0x202F || n == 0x205F || n == 0x3000

/-- A blank character. -/
def isBlank (c : Char) : Bool := blankCode c.toNat

/-- A text with nothing but blanks in it. -/
def allBlank (s : String) : Bool := s.toList.all isBlank

/-- The text without the blanks at its end. -/
def trimEnd (s : String) : String :=
  String.ofList (s.toList.reverse.dropWhile isBlank).reverse

end PipeShell.Text
