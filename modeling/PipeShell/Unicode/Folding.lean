import PipeShell.Unicode.CharSet
import PipeShell.Unicode.FoldTable

/-!
# `PipeShell.Unicode.Folding`: characters without case

Two characters are alike without case when they have the same simple
case folding (`fold`). `CharSet.folded` closes a set under that
relation, and `CharSet.foldedAscii` under the relation between the
capital and small letters of ASCII alone.
-/

set_option autoImplicit false

namespace PipeShell.Unicode

/-- Whether the run folds the code point. -/
def FoldRow.has (r : FoldRow) (n : Nat) : Bool :=
  r.lo ≤ n && n ≤ r.hi && (n - r.lo) % r.step == 0

/-- The folding of a code point through the runs, which are in
increasing order. -/
def foldThrough : List FoldRow → Nat → Nat
  | [], n => n
  | r :: rs, n =>
      if n < r.lo then n
      else if r.has n then n + r.up - r.down else foldThrough rs n

/-- The simple case folding of a code point. -/
def foldCode (n : Nat) : Nat := foldThrough foldRows n

/-- The simple case folding of a character. -/
def fold (c : Char) : Nat := foldCode c.toNat

/-- Alike without case. -/
def alike (a b : Char) : Bool := fold a == fold b

/-! ### Closing sets -/

/-- The run that takes every folding of this one back. -/
def FoldRow.turned (r : FoldRow) : FoldRow :=
  ⟨r.lo + r.up - r.down, r.hi + r.up - r.down, r.step, r.down, r.up⟩

/-- Where the run takes the code points of an interval. -/
def FoldRow.images (r : FoldRow) (i : Interval) : List Interval :=
  let lo := max r.lo i.lo
  let hi := min r.hi i.hi
  (List.range' lo (hi + 1 - lo)).filterMap fun n =>
    if r.has n then some ⟨n + r.up - r.down, n + r.up - r.down⟩ else none

namespace CharSet

/-- The set with all that the runs take its members to. -/
def withImages (rows : List FoldRow) (s : CharSet) : CharSet :=
  union s (ofIntervals (rows.flatMap fun r => s.intervals.flatMap r.images))

/-- The set closed under runs of foldings: with every member its folding
is added, and then all that folds to one of these. -/
def closed (rows : List FoldRow) (s : CharSet) : CharSet :=
  (s.withImages rows).withImages (rows.map FoldRow.turned)

/-- The set with all that is alike to a member without case. -/
def folded (s : CharSet) : CharSet := s.closed foldRows

/-- The set with all that differs from a member by the case of an ASCII
letter. -/
def foldedAscii (s : CharSet) : CharSet := s.closed [⟨0x41, 0x5A, 1, 32, 0⟩]

end CharSet

end PipeShell.Unicode
