import PipeShell.Pattern.Regex

/-!
# `PipeShell.Pattern.Motion`: deciding whether a line matches

A pattern carries a set of places of a line to the set of places that
its matches from there can end at. Sets of places are kept as the bits
of a number, so that one character of the pattern moves all places of
the line in a single shift. A line is first looked through for the
places of each of its characters; `Motion.onLine` then gives every set
of characters and every condition in the pattern the bits of the places
where they hold, and `Motion.reach` works on bits alone.

A repetition without an upper bound goes round until it meets no new
place. One that stands inside another is set out on many times, and each
time from places some of which it has met before: `Memory` keeps what it
has met, so that over all rounds it takes every place once. What it
reached from there was handed on when it was reached.
-/

set_option autoImplicit false

namespace PipeShell.Pattern

open Unicode

/-! ### Places of a line -/

/-- The index with one more place of a character, given as a bit. -/
def notePlace (c : Char) (bit : Nat) : List (Char × Nat) → List (Char × Nat)
  | [] => [(c, bit)]
  | (d, places) :: rest =>
      if d == c then (d, places ||| bit) :: rest else (d, places) :: notePlace c bit rest

/-- The characters of a line, each once, with the bits of the places
before it; the first place has the bit given. -/
def charIndex (bit : Nat) : List Char → List (Char × Nat)
  | [] => []
  | c :: cs => notePlace c bit (charIndex (2 * bit) cs)

/-- The bits of the places whose next character is in the set. -/
def setBits (index : List (Char × Nat)) (s : CharSet) : Nat :=
  index.foldl (fun bits (c, places) => if s.has c then bits ||| places else bits) 0

/-- The bits of the places, the last one included, between whose
neighbours `q` holds; `left` is the neighbour of the first. -/
def placeBits (q : Option Char → Option Char → Bool) (left : Option Char) : List Char → Nat
  | [] => (q left none).toNat
  | c :: cs => 2 * placeBits q (some c) cs + (q left (some c)).toNat

/-- The places of the first set that are not in the second. -/
def without (places others : Nat) : Nat := places ^^^ (places &&& others)

/-! ### Motions -/

/-- A pattern on a given line. -/
inductive Motion where
  | stay
  /-- One character on, from the places given. -/
  | step (places : Nat)
  /-- Nowhere, and only at the places given. -/
  | gate (places : Nat)
  | seq (a b : Motion)
  | alt (a b : Motion)
  /-- At least `least` and at most `most` times; nothing in the body is
  repeated without an upper bound. -/
  | times (m : Motion) (least most : Nat)
  /-- Once or more. -/
  | more (m : Motion)

/-- What the repetitions of a motion have met. -/
inductive Memory where
  | blank
  | fork (a b : Memory)
  | loop (met : Nat) (inner : Memory)

namespace Memory

/-- The memory of the first of two parts. -/
def first : Memory → Memory
  | fork a _ => a
  | _ => blank

/-- The memory of the second of two parts. -/
def second : Memory → Memory
  | fork _ b => b
  | _ => blank

/-- The places that a repetition has met. -/
def met : Memory → Nat
  | loop places _ => places
  | _ => 0

/-- The memory of the body of a repetition. -/
def inner : Memory → Memory
  | loop _ m => m
  | _ => blank

end Memory

namespace Motion

/-- Apply `f` a number of times, stopping early on the empty set. -/
def iterate (f : Nat → Nat) : Nat → Nat → Nat
  | 0, places => places
  | n + 1, places => if places == 0 then 0 else iterate f n (f places)

/-- Everything reached from `fresh` by at most `n` rounds of `f`,
together with `seen`. Only places not seen before go into the next
round: what was seen earlier had more rounds left. -/
def spread (f : Nat → Nat) : (n seen fresh : Nat) → Nat
  | 0, seen, _ => seen
  | n + 1, seen, fresh =>
      let new := without (f fresh) seen
      if new == 0 then seen else spread f n (seen ||| new) new

/-- Rounds of `f` from the places in `fresh`, which were not met before,
until no new place is met; `n` bounds the rounds. Gives what all rounds
reached, and the memory with all places met. -/
def rounds (f : Memory → Nat → Nat × Memory) :
    (n reached met fresh : Nat) → Memory → Nat × Memory
  | 0, reached, met, _, inner => (reached, .loop met inner)
  | n + 1, reached, met, fresh, inner =>
      if fresh == 0 then (reached, .loop met inner)
      else
        let (next, inner) := f inner fresh
        let met := met ||| fresh
        rounds f n (reached ||| next) met (without next met) inner

/-- The places where matches from `places` can end, on a line with
`length` characters, up to those that were handed on before; and the
memory after that. -/
def reach (length : Nat) : Motion → Memory → (places : Nat) → Nat × Memory
  | stay, memory, places => (places, memory)
  | step here, memory, places => ((places &&& here) <<< 1, memory)
  | gate here, memory, places => (places &&& here, memory)
  | seq a b, memory, places =>
      if places == 0 then (0, memory)
      else
        let (between, first) := reach length a memory.first places
        let (ends, second) := reach length b memory.second between
        (ends, .fork first second)
  | alt a b, memory, places =>
      if places == 0 then (0, memory)
      else
        let (endsA, first) := reach length a memory.first places
        let (endsB, second) := reach length b memory.second places
        (endsA ||| endsB, .fork first second)
  | times m least most, memory, places =>
      let once places := (reach length m .blank places).1
      let start := iterate once least places
      (spread once (min (most - least) (length + 1)) start start, memory)
  | more m, memory, places =>
      rounds (reach length m) (length + 2) 0 memory.met (without places memory.met)
        memory.inner

/-- `n` copies in a row, built by halves. -/
def copies (m : Motion) (n : Nat) : Motion :=
  if n = 0 then stay
  else if n = 1 then m
  else
    let half := copies m (n / 2)
    if n % 2 = 0 then seq half half else seq m (seq half half)
termination_by n

/-- A counted repetition. Copies of a body that has repetitions without
an upper bound need memories of their own. -/
def counted (unbounded : Bool) (m : Motion) (least most : Nat) : Motion :=
  if unbounded then seq (copies m least) (copies (alt stay m) (most - least))
  else times m least most

/-- The pattern on a line, of which the index is given too. To repeat
what matches only the empty stretch is to match it once, or not to ask
for it at all. -/
def onLine (line : List Char) (index : List (Char × Nat)) : Regex → Motion
  | .empty => stay
  | .one s => step (setBits index s)
  | .look l => gate (placeBits l.holds none line)
  | .seq a b => seq (onLine line index a) (onLine line index b)
  | .alt a b => alt (onLine line index a) (onLine line index b)
  | .rep r least most =>
      let m := onLine line index r
      if r.matchesOnlyEmpty then if least = 0 then stay else m
      else match least, most with
        | 0, none => alt stay (more m)
        | 1, none => more m
        | n, none => seq (counted r.hasLoop m (n - 1) (n - 1)) (more m)
        | 0, some 1 => alt stay m
        | n, some most => counted r.hasLoop m n most
  | .group _ r => onLine line index r

end Motion

/-- Whether the pattern matches some stretch of the line. -/
def Regex.matchesLine (r : Regex) (line : List Char) : Bool :=
  let m := Motion.onLine line (charIndex 1 line) r
  (m.reach line.length .blank (Nat.pow 2 (line.length + 1) - 1)).1 != 0

end PipeShell.Pattern
