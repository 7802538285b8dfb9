/-!
# `PipeShell.Unicode.RangeTable`: sets of code points in writing

A character property is a set of code points, and the sets of the
Unicode character database are long runs with gaps. The tables here are
written as text in the notation of the database: `41-5A` is a run, `AA`
a single code point, and `100-12E/2` takes every second code point of a
run, the shape of scripts whose capital and small letters alternate.
`Row.read` reads that notation.
-/

set_option autoImplicit false

namespace PipeShell.Unicode

/-- The code points from `lo` to `hi`, both included. -/
structure Interval where
  lo : Nat
  hi : Nat
deriving Repr, DecidableEq

/-- Whether the interval holds the code point. -/
def Interval.has (i : Interval) (n : Nat) : Bool := i.lo ≤ n && n ≤ i.hi

/-- One row of a table: the code points `lo`, `lo + step`, … up to
`hi`. -/
structure Row where
  lo : Nat
  hi : Nat
  step : Nat
deriving Repr, DecidableEq

/-- Whether the row holds the code point. -/
def Row.has (r : Row) (n : Nat) : Bool :=
  r.lo ≤ n && n ≤ r.hi && (n - r.lo) % r.step == 0

/-- The code points of the row as intervals in increasing order. -/
def Row.intervals (r : Row) : List Interval :=
  if r.step == 1 then [⟨r.lo, r.hi⟩]
  else (List.range ((r.hi - r.lo) / r.step + 1)).map fun k =>
    ⟨r.lo + k * r.step, r.lo + k * r.step⟩

/-! ### Reading the written form -/

/-- The value of a hexadecimal digit. -/
def hexDigit (c : Char) : Nat :=
  if c.isDigit then c.toNat - '0'.toNat else c.toNat - 'A'.toNat + 10

/-- What has been read of the row under way: its first code point once
a dash has passed, its last once a slash has, and the number being
read. -/
structure Row.Reading where
  lo : Option Nat
  hi : Option Nat
  num : Nat

/-- The row that a finished reading stands for. -/
def Row.Reading.row (r : Row.Reading) : Row :=
  match r.lo, r.hi with
  | some lo, some hi => ⟨lo, hi, r.num⟩
  | some lo, none => ⟨lo, r.num, 1⟩
  | none, _ => ⟨r.num, r.num, 1⟩

/-- Read rows divided by single spaces. -/
def Row.read (r : Row.Reading) : List Char → List Row
  | [] => [r.row]
  | ' ' :: cs => r.row :: Row.read ⟨none, none, 0⟩ cs
  | '-' :: cs => Row.read ⟨some r.num, none, 0⟩ cs
  | '/' :: cs => Row.read ⟨r.lo, some r.num, 0⟩ cs
  | c :: cs => Row.read { r with num := 16 * r.num + hexDigit c } cs

/-- The intervals of a table written as text, one line of rows after
another. -/
def intervalsOfText (lines : List String) : List Interval :=
  lines.flatMap fun line =>
    (Row.read ⟨none, none, 0⟩ line.toList).flatMap Row.intervals

/-- A table under the names it goes by, the short one first. -/
structure NamedTable where
  names : List String
  text : List String

end PipeShell.Unicode
