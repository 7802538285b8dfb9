import PipeShell.Text.Utf8

/-!
# `PipeShell.Script.Printing`: escapes in what a script prints

`echo` and `printf` of a script take a backslash and what follows it for
one byte. After a zero, `echo` takes up to three octal digits more; `\c`
ends the output.
-/

set_option autoImplicit false

namespace PipeShell.Script

/-- The byte of a letter after a backslash. -/
def letterByte? : Char → Option UInt8
  | '\\' => some 0x5C
  | 'a' => some 0x07
  | 'b' => some 0x08
  | 'f' => some 0x0C
  | 'n' => some 0x0A
  | 'r' => some 0x0D
  | 't' => some 0x09
  | 'v' => some 0x0B
  | _ => none

/-- An octal digit. -/
def isOctal (c : Char) : Bool := '0' ≤ c && c ≤ '7'

/-- The byte that octal digits write. -/
def octalByte (ds : List Char) : UInt8 :=
  UInt8.ofNat (ds.foldl (fun n d => 8 * n + (d.toNat - '0'.toNat)) 0)

/-- The leading octal digits, at most three, and the rest. -/
def takeOctal (cs : List Char) : List Char × List Char :=
  let ds := (cs.take 3).takeWhile isOctal
  (ds, cs.drop ds.length)

/-- The bytes of one character. -/
def charBytes (c : Char) : List UInt8 := String.utf8EncodeChar c

/-- What a text prints, and whether it was cut short. -/
def unescape : (fuel : Nat) → List Char → List UInt8 × Bool
  | 0, _ => ([], false)
  | _, [] => ([], false)
  | n + 1, '\\' :: c :: cs =>
      if c == 'c' then ([], true)
      else match letterByte? c with
        | some b => let (bs, cut) := unescape n cs; (b :: bs, cut)
        | none =>
            if isOctal c then
              let digits := if c == '0' && (cs.head?.map isOctal).getD false then cs else c :: cs
              let (ds, rest) := takeOctal digits
              let (bs, cut) := unescape n rest
              (octalByte ds :: bs, cut)
            else
              let (bs, cut) := unescape n (c :: cs)
              (0x5C :: bs, cut)
  | n + 1, c :: cs => let (bs, cut) := unescape n cs; (charBytes c ++ bs, cut)

/-- What `echo` prints for its arguments. -/
def echoBytes (args : List String) : List UInt8 :=
  let (quiet, words) := match args with
    | "-n" :: rest => (true, rest)
    | _ => (false, args)
  let text := String.intercalate " " words
  let (bytes, cut) := unescape text.length text.toList
  if quiet || cut then bytes else bytes ++ [0x0A]

/-- What `printf` prints for a format and arguments that fill its
places for texts. -/
def formatBytes : (fuel : Nat) → List Char → List String → List UInt8
  | 0, _, _ => []
  | _, [], _ => []
  | n + 1, '%' :: '%' :: cs, args => 0x25 :: formatBytes n cs args
  | n + 1, '%' :: 's' :: cs, args =>
      Text.Utf8.encode (args.head?.getD "") ++ formatBytes n cs args.tail
  | n + 1, '\\' :: c :: cs, args =>
      match letterByte? c with
      | some b => b :: formatBytes n cs args
      | none =>
          if isOctal c then
            let (ds, rest) := takeOctal (c :: cs)
            octalByte ds :: formatBytes n rest args
          else 0x5C :: formatBytes n (c :: cs) args
  | n + 1, c :: cs, args => charBytes c ++ formatBytes n cs args

end PipeShell.Script
