/-!
# `PipeShell.Text.Utf8`: texts as bytes

Decoding is a machine that takes one byte at a time and remembers what
the character under way still owes. A byte that cannot follow ends the
attempt there and is then looked at afresh, so each longest beginning of
a character that breaks off counts as one fault. `decode` gives the
characters and the faults in order; `lossy` puts a replacement character
for each fault, `strict?` refuses them.
-/

set_option autoImplicit false

namespace PipeShell.Text.Utf8

/-- A character under way: how many bytes are still to come, the range
of the next one, and the value of the bytes so far. -/
structure Owed where
  count : Nat
  low : Nat
  high : Nat
  value : Nat
deriving Repr, DecidableEq

/-- What the first byte of a character gives: a character or a fault at
once, or a debt. -/
def lead (b : Nat) : List (Option Char) × Option Owed :=
  if b ≤ 0x7F then ([some (Char.ofNat b)], none)
  else if 0xC2 ≤ b && b ≤ 0xDF then ([], some ⟨1, 0x80, 0xBF, b - 0xC0⟩)
  else if b == 0xE0 then ([], some ⟨2, 0xA0, 0xBF, 0⟩)
  else if b == 0xED then ([], some ⟨2, 0x80, 0x9F, 0xD⟩)
  else if 0xE1 ≤ b && b ≤ 0xEF then ([], some ⟨2, 0x80, 0xBF, b - 0xE0⟩)
  else if b == 0xF0 then ([], some ⟨3, 0x90, 0xBF, 0⟩)
  else if 0xF1 ≤ b && b ≤ 0xF3 then ([], some ⟨3, 0x80, 0xBF, b - 0xF0⟩)
  else if b == 0xF4 then ([], some ⟨3, 0x80, 0x8F, 4⟩)
  else ([none], none)

/-- One byte: what it completes, and what is owed after it. -/
def step : Option Owed → Nat → List (Option Char) × Option Owed
  | none, b => lead b
  | some o, b =>
      if o.low ≤ b && b ≤ o.high then
        let value := 64 * o.value + (b - 0x80)
        if o.count ≤ 1 then ([some (Char.ofNat value)], none)
        else ([], some ⟨o.count - 1, 0x80, 0xBF, value⟩)
      else
        let (out, owed) := lead b
        (none :: out, owed)

/-- The characters and faults of the rest of the bytes. -/
def decodeFrom : Option Owed → List UInt8 → List (Option Char)
  | none, [] => []
  | some _, [] => [none]
  | owed, b :: bs =>
      let (out, owed') := step owed b.toNat
      out ++ decodeFrom owed' bs

/-- The characters of bytes, with `none` for each fault. -/
def decode (bs : List UInt8) : List (Option Char) := decodeFrom none bs

/-- The character that stands for a fault. -/
def replacement : Char := Char.ofNat 0xFFFD

/-- The text of bytes, whatever they are. -/
def lossy (bs : List UInt8) : String :=
  String.ofList ((decode bs).map (·.getD replacement))

/-- The text of bytes without faults. -/
def strict? (bs : List UInt8) : Option String :=
  ((decode bs).mapM id).map String.ofList

/-- The bytes of a text. -/
def encode (s : String) : List UInt8 := s.toList.flatMap String.utf8EncodeChar

end PipeShell.Text.Utf8
