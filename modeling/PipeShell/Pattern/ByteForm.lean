import PipeShell.Unicode.CharSet

/-!
# `PipeShell.Pattern.ByteForm`: sets of characters as bytes

A matching program reads bytes. An interval of characters is cut into
pieces whose encodings have one length and vary in each byte over a full
interval of their own, so that a piece is written as one interval for
each byte. `byteForms` gives the pieces of a set in increasing order.
-/

set_option autoImplicit false

namespace PipeShell.Pattern

open Unicode

/-- The values that a byte of an encoding may take. -/
structure ByteRange where
  lo : Nat
  hi : Nat
deriving Repr, DecidableEq

/-- A row of bytes, each within an interval. -/
abbrev ByteForm := List ByteRange

/-- Where an interval of code points has to be cut for the sake of the
last `k` bytes but none before: the last code point of the first
piece. -/
def cutAt? (k lo hi : Nat) : Option Nat :=
  let block := Nat.pow 64 k
  if lo / block == hi / block then none
  else if lo % block != 0 then some (lo / block * block + block - 1)
  else if hi % block != block - 1 then some (hi / block * block - 1)
  else none

/-- Where an interval of code points has to be cut: between encodings
of different length, or between groups of a trailing byte. -/
def cut? (lo hi : Nat) : Option Nat :=
  match [0x7F, 0x7FF, 0xFFFF].find? fun m => lo ≤ m && m < hi with
  | some m => some m
  | none =>
      if hi ≤ 0x7F then none
      else cutAt? 1 lo hi <|> cutAt? 2 lo hi <|> cutAt? 3 lo hi

/-- The bytes of the encoding of a code point. -/
def encoding (n : Nat) : List Nat := (String.utf8EncodeChar (Char.ofNat n)).map UInt8.toNat

/-- The pieces of an interval of characters. -/
def piecesOf (lo hi : Nat) : List ByteForm :=
  if hi < lo then []
  else match cut? lo hi with
    | some k =>
        if _ : lo ≤ k ∧ k < hi then piecesOf lo k ++ piecesOf (k + 1) hi
        else []
    | none => [List.zipWith ByteRange.mk (encoding lo) (encoding hi)]
termination_by hi - lo

/-- The pieces of an interval, which may run across the surrogates. -/
def byteFormsOf (i : Interval) : List ByteForm :=
  piecesOf i.lo (min i.hi 0xD7FF) ++ piecesOf (max i.lo 0xE000) i.hi

/-- The pieces of a set in increasing order. -/
def byteForms (s : CharSet) : List ByteForm := s.intervals.flatMap byteFormsOf

end PipeShell.Pattern
