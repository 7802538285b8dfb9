import Std.Data.HashMap
import PipeShell.Pattern.ByteForm
import PipeShell.Pattern.Fault
import PipeShell.Pattern.Part

/-!
# `PipeShell.Pattern.Space`: the space that a matching program takes

A pattern is refused when the program that would match it takes too much
space. A program is a graph of states that read bytes; there is one that
goes through a line forwards and one that goes backwards, and the larger
of the two counts. Every counted copy has states of its own.

States that read the same bytes and go on alike are laid down once per
set of characters, as far as they are remembered: there is a fixed
number of slots to remember states in, and a state takes the slot of
another that has the same remainder. So the space of a copy depends a
little on how many states came before it, and copies are laid down one
by one (`Part.lay`) until the limit is passed.
-/

set_option autoImplicit false

namespace PipeShell.Pattern

open Unicode

/-- The states laid down so far and the bytes they take. -/
structure Tally where
  states : Nat
  bytes : Nat
deriving Repr, DecidableEq

namespace Tally

/-- A state with so many bytes beyond those that every state takes. -/
def add (t : Tally) (extra : Nat) : Tally := ⟨t.states + 1, t.bytes + 32 + extra⟩

/-- Several plain states. -/
def addPlain (t : Tally) (n : Nat) : Tally := ⟨t.states + n, t.bytes + 32 * n⟩

/-- A state that reads one byte out of several intervals. -/
def addReading (t : Tally) (intervals : Nat) : Tally := t.add (8 * intervals)

/-- A state that branches. -/
def addBranching (t : Tally) (branches : Nat) : Tally := t.add (4 * branches)

/-- Whether the space is used up. -/
def isFull (t : Tally) : Bool := sizeLimit < t.bytes

end Tally

/-- Lay down `n` copies, as long as there is space. -/
def layCopies (lay : Tally → Tally) : (n : Nat) → Tally → Tally
  | 0, t => t
  | n + 1, t => if t.isFull then t else layCopies lay n (lay t)

/-! ### Remembering states -/

/-- States by the slot they are remembered in. -/
abbrev Slots (κ : Type) := Std.HashMap UInt64 (κ × Nat)

/-- The remainder of a row of numbers, mixed one after the other. -/
def slotOf (slots : UInt64) (key : List Nat) : UInt64 :=
  key.foldl (fun h n => (h ^^^ n.toUInt64) * 1099511628211) 14695981039346656037 % slots

/-- The state remembered for the key. -/
def Slots.recall? {κ : Type} [BEq κ] (m : Slots κ) (slot : UInt64) (key : κ) : Option Nat :=
  match m[slot]? with
  | some (k, state) => if k == key then some state else none
  | none => none

/-! ### Sets, forwards -/

/-- A choice between bytes by the intervals they lie in. Where nothing
follows, the encoding ends. -/
inductive ByteTree where
  | node (edges : List (ByteRange × ByteTree))

/-- Forms that begin with the same byte, put together. The forms are in
increasing order, so that such forms are neighbours. -/
def groupForms : List ByteForm → List (ByteRange × List ByteForm)
  | [] => []
  | [] :: forms => groupForms forms
  | (b :: rest) :: forms =>
      match groupForms forms with
      | (b', rests) :: groups =>
          if b == b' then (b, rest :: rests) :: groups
          else (b, [rest]) :: (b', rests) :: groups
      | [] => [(b, [rest])]

/-- The tree of forms with at most `depth` bytes. -/
def treeOf : (depth : Nat) → List ByteForm → ByteTree
  | 0, _ => .node []
  | depth + 1, forms =>
      .node ((groupForms forms).map fun (b, rests) => (b, treeOf depth rests))

/-- What a reading state does: for each interval the state to go on
with. -/
abbrev Reading := List (ByteRange × Nat)

/-- The numbers that tell readings apart. -/
def Reading.key (r : Reading) : List Nat := r.flatMap fun (b, next) => [b.lo, b.hi, next]

/-- The tally while a set is laid down, with the states remembered. -/
structure Layout (κ : Type) where
  tally : Tally
  slots : Slots κ

/-- The state that does a reading, laid down if it is not remembered. -/
def Layout.reading (w : Layout (List Nat)) (r : Reading) : Layout (List Nat) × Nat :=
  let key := r.key
  let slot := slotOf 10000 key
  match w.slots.recall? slot key with
  | some state => (w, state)
  | none =>
      let state := w.tally.states
      (⟨w.tally.addReading r.length, w.slots.insert slot (key, state)⟩, state)

mutual

/-- Lay down the states of a tree, those that are read last first;
`stop` is the state at the end of an encoding. -/
def ByteTree.lay (stop : Nat) : ByteTree → Layout (List Nat) → Layout (List Nat) × Nat
  | .node [], w => (w, stop)
  | .node (e :: es), w =>
      let (w, r) := ByteTree.layEdges stop (e :: es) w
      w.reading r

/-- Lay down the trees below several edges. -/
def ByteTree.layEdges (stop : Nat) :
    List (ByteRange × ByteTree) → Layout (List Nat) → Layout (List Nat) × Reading
  | [], w => (w, [])
  | (b, t) :: es, w =>
      let (w, next) := t.lay stop w
      let (w, r) := ByteTree.layEdges stop es w
      (w, (b, next) :: r)

end

/-- Lay down a set that is read forwards. -/
def layForwards (s : CharSet) (t : Tally) : Tally :=
  ((treeOf 4 (byteForms s)).lay t.states ⟨t.add 0, ∅⟩).1.tally

/-! ### Sets, backwards -/

/-- Lay down the bytes of a form, each before the state `next`, as far
as they are not remembered. -/
def layForm (next : Nat) : ByteForm → Layout (List Nat) → Layout (List Nat)
  | [], w => w
  | b :: rest, w =>
      let key := [next, b.lo, b.hi]
      let slot := slotOf 1000 key
      match w.slots.recall? slot key with
      | some state => layForm state rest w
      | none =>
          let state := w.tally.states
          layForm state rest ⟨w.tally.add 0, w.slots.insert slot (key, state)⟩

/-- Lay down a set that is read backwards: a branch for each form. -/
def layBackwards (s : CharSet) (t : Tally) : Tally :=
  let forms := byteForms s
  let stop := t.states + 1
  (forms.foldl (fun w f => layForm stop f w)
    ⟨(t.addBranching forms.length).add 0, ∅⟩).tally

/-- Lay down a set. One of ASCII characters is read by a single
state. -/
def laySet (back : Bool) (s : CharSet) (t : Tally) : Tally :=
  if s.intervals.all (·.hi ≤ 0x7F) then (t.add 0).addReading s.intervals.length
  else if back then layBackwards s t
  else layForwards s t

/-! ### Choices between texts -/

/-- Texts cut into runs where one of them is empty. -/
def runsOf : List (List Nat) → List (List (List Nat))
  | [] => [[]]
  | [] :: texts => [] :: runsOf texts
  | (b :: bs) :: texts =>
      match runsOf texts with
      | run :: runs => ((b :: bs) :: run) :: runs
      | [] => [[b :: bs]]

/-- One more text among texts grouped by their first byte. -/
def addToGroup (b : Nat) (bs : List Nat) :
    List (Nat × List (List Nat)) → List (Nat × List (List Nat))
  | [] => [(b, [bs])]
  | (b', rests) :: groups =>
      if b == b' then (b', rests ++ [bs]) :: groups
      else (b', rests) :: addToGroup b bs groups

/-- Texts grouped by their first byte. -/
def groupTexts (texts : List (List Nat)) : List (Nat × List (List Nat)) :=
  texts.foldl (fun groups text =>
    match text with
    | [] => groups
    | b :: bs => addToGroup b bs groups) []

/-- How often an empty text ends a run. Before the first byte it does so
once. -/
def endings (texts : List (List Nat)) : Nat :=
  let before := texts.takeWhile List.isEmpty
  min 1 before.length + ((texts.drop before.length).filter List.isEmpty).length

/-- Lay down the states for texts that begin alike, without what they
begin with: one that branches to the runs, and for each run one that
reads the next byte. -/
def layTexts : (fuel : Nat) → List (List Nat) → Tally → Tally
  | 0, _, t => t
  | fuel + 1, texts, t =>
      if texts.all List.isEmpty then t
      else
        let runs := (runsOf texts).map groupTexts
        let ways := (runs.filter (!·.isEmpty)).length + endings texts
        runs.foldl (fun t groups =>
          let t := match groups with
            | [] => t
            | [_] => t.add 0
            | _ => t.addReading groups.length
          groups.foldl (fun t (_, rests) => layTexts fuel rests t) t) (t.addBranching ways)

/-- The bytes of a text in the order they are read. -/
def textBytes (back : Bool) (cs : List Char) : List Nat :=
  let bytes := cs.flatMap fun c => (String.utf8EncodeChar c).map UInt8.toNat
  if back then bytes.reverse else bytes

/-- Lay down a choice between texts. -/
def layChoice (back : Bool) (texts : List (List Char)) (t : Tally) : Tally :=
  let texts := texts.map (textBytes back)
  layTexts (texts.flatten.length + 1) texts (t.add 0)

/-! ### Patterns -/

/-- The texts, if all of several parts are texts. -/
def Part.texts? : List Part → Option (List (List Char))
  | [] => some []
  | .text cs :: ps => (Part.texts? ps).map (cs :: ·)
  | _ => none

mutual

/-- Lay down the states of a part; `back` for the program that reads
backwards, which keeps no matches of groups. -/
def Part.lay (back : Bool) : Part → Tally → Tally
  | .nothing, t => t.add 0
  | .text cs, t => t.addPlain (textBytes back cs).length
  | .chars s, t => laySet back s t
  | .look _, t => t.add 0
  | .kept p, t => if back then p.lay back t else (p.lay back (t.add 0)).add 0
  | .rep p least none, t =>
      match least with
      | 0 =>
          if 0 < p.leastLength?.getD 0 then p.lay back (t.addBranching 2)
          else (((p.lay back t).addBranching 2).addBranching 2).add 0
      | n => (layCopies (p.lay back) n t).addBranching 2
  | .rep p 0 (some 1), t => (p.lay back (t.addBranching 2)).add 0
  | .rep p least (some most), t =>
      let t := if least == 0 then t.add 0 else layCopies (p.lay back) least t
      if least == most then t
      else layCopies (fun t => p.lay back (t.addBranching 2)) (most - least) (t.add 0)
  | .row ps, t => Part.layRow back ps t
  | .choice ps, t =>
      match Part.texts? ps with
      | some texts => layChoice back texts t
      | none => Part.layBranches back ps.length 2 ps t

/-- Lay down parts in a row, from the end if `back` is set. -/
def Part.layRow (back : Bool) : List Part → Tally → Tally
  | [], t => t
  | p :: ps, t =>
      if back then p.lay back (Part.layRow back ps t) else Part.layRow back ps (p.lay back t)

/-- Lay down the branches of a choice `width` wide. The state that
branches to them and the one that they join in come after the first
two; `due` counts the branches up to there. -/
def Part.layBranches (back : Bool) (width : Nat) :
    (due : Nat) → List Part → Tally → Tally
  | _, [], t => t
  | 1, p :: ps, t =>
      Part.layBranches back width 0 ps (((p.lay back t).addBranching width).add 0)
  | due, p :: ps, t => Part.layBranches back width (due - 1) ps (p.lay back t)

end

/-- Lay down the whole program of a pattern. It begins with a loop over
all bytes, so that a match may begin anywhere, unless every match is
bound to the place where the reading begins. -/
def Part.program (back : Bool) (p : Part) : Tally :=
  let t : Tally := ⟨0, 0⟩
  let bound := p.isBound (if back then .stop else .start) back
  let t := if bound then t.add 0 else ((t.addBranching 2).add 0).addReading 1
  ((Part.kept p).lay back t).add 0

/-- Whether a pattern takes too much space. -/
def Regex.isTooLarge (r : Regex) : Bool :=
  let p := Part.ofRegex r
  (p.program false).isFull || (p.program true).isFull

end PipeShell.Pattern
