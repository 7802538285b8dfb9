import PipeShell.Text.RawLine

/-!
# `PipeShell.History`: lines entered before

A history keeps the last lines that were entered, a repeated line once.
Its file starts with a mark and has an entry on each line, in which
backslashes and newlines are escaped. A file without the mark is taken
as plain lines.
-/

set_option autoImplicit false

namespace PipeShell

/-- Entries from the oldest to the newest, and whether any of them has
not been saved. -/
structure History where
  entries : List String
  unsaved : Bool
deriving Repr, DecidableEq

namespace History

/-- How many entries are kept. -/
def capacity : Nat := 100

/-- No entries. -/
def empty : History := ⟨[], false⟩

/-- Add an entry, unless it is empty or repeats the one before. The
oldest makes room. -/
def add (h : History) (line : String) : History :=
  if line == "" || h.entries.getLast? == some line then h
  else
    let kept := if h.entries.length == capacity then h.entries.tail else h.entries
    ⟨kept ++ [line], true⟩

/-! ### The file -/

/-- The first line of the file. -/
def mark : String := "#V2"

/-- An entry as it is written. -/
def escape : List Char → List Char
  | [] => []
  | '\\' :: cs => '\\' :: '\\' :: escape cs
  | '\n' :: cs => '\\' :: 'n' :: escape cs
  | c :: cs => c :: escape cs

/-- The entry that was written, if every backslash is part of an
escape. -/
def unescape? : List Char → Option (List Char)
  | [] => some []
  | '\\' :: '\\' :: cs => (unescape? cs).map ('\\' :: ·)
  | '\\' :: 'n' :: cs => (unescape? cs).map ('\n' :: ·)
  | '\\' :: _ => none
  | c :: cs => (unescape? cs).map (c :: ·)

/-- The entry on a line of a file with a mark. A faulty line is taken as
it stands. -/
def entryOf (line : String) : String :=
  match unescape? line.toList with
  | some cs => String.ofList cs
  | none => line

/-- The text of the file. -/
def render (h : History) : String :=
  mark ++ "\n" ++ String.join (h.entries.map fun e => String.ofList (escape e.toList) ++ "\n")

/-- Add the lines of a file up to the first that is no text. Only after
all of them could be read do they count as saved. -/
def addLines (readEntry : String → String) (h : History) : List Text.RawLine → History
  | [] => { h with unsaved := false }
  | l :: ls =>
      match l.text? with
      | none => h
      | some line => addLines readEntry (if line == "" then h else h.add (readEntry line)) ls

/-- The history that a file holds. -/
def load (bytes : List UInt8) : History :=
  match Text.RawLine.split bytes with
  | [] => empty
  | l :: ls =>
      if l.text? == some mark then addLines entryOf empty ls
      else addLines id empty (l :: ls)

end History

end PipeShell
