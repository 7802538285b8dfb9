import PipeShell.Unicode.Property

/-!
# `PipeShell.Pattern.Regex`: patterns as sets of stretches

A `Regex` is what is left of a pattern once its flags have been given a
meaning: sets of characters, conditions on places, sequence, choice and
repetition. Which match is preferred plays no part, since only the
existence of a match is asked for.

`Matches r before s after` says that `r` matches the stretch `s` of a
line in which `before` stands to the left of it, nearest character
first, and `after` to the right.
-/

set_option autoImplicit false

namespace PipeShell.Pattern

open Unicode

/-- A condition on a place; `ascii` asks for ASCII words. -/
inductive Look where
  | start
  | stop
  | startLine
  | stopLine
  | startLineCrlf
  | stopLineCrlf
  | boundary (ascii : Bool)
  | notBoundary (ascii : Bool)
  | wordStart (ascii : Bool)
  | wordEnd (ascii : Bool)
  | wordStartHalf (ascii : Bool)
  | wordEndHalf (ascii : Bool)
deriving Repr, DecidableEq

/-- ASCII letters, digits and the underscore. -/
def asciiWord : CharSet :=
  .unions [.range 0x30 0x39, .range 0x41 0x5A, .range 0x5F 0x5F, .range 0x61 0x7A]

/-- Whether there is a neighbour and it belongs to a word. -/
def wordAt (ascii : Bool) : Option Char → Bool
  | none => false
  | some c => if ascii then asciiWord.has c else wordChars.has c

/-- Whether the condition holds between two neighbours. -/
def Look.holds (l : Look) (left right : Option Char) : Bool :=
  match l with
  | .start => left.isNone
  | .stop => right.isNone
  | .startLine => left.isNone || left == some '\n'
  | .stopLine => right.isNone || right == some '\n'
  | .startLineCrlf =>
      left.isNone || left == some '\n' || (left == some '\r' && right != some '\n')
  | .stopLineCrlf =>
      right.isNone || right == some '\r' || (right == some '\n' && left != some '\r')
  | .boundary a => wordAt a left != wordAt a right
  | .notBoundary a => wordAt a left == wordAt a right
  | .wordStart a => !wordAt a left && wordAt a right
  | .wordEnd a => wordAt a left && !wordAt a right
  | .wordStartHalf a => !wordAt a left
  | .wordEndHalf a => !wordAt a right

/-- A pattern without flags and spans. -/
inductive Regex where
  | empty
  | one (s : CharSet)
  | look (l : Look)
  | seq (a b : Regex)
  | alt (a b : Regex)
  /-- At least `least` times, and at most `most` times if given. -/
  | rep (r : Regex) (least : Nat) (most : Option Nat)
  /-- A group, which matters for the space that a matcher takes: the
  match of a group can be `kept`. -/
  | group (kept : Bool) (r : Regex)

namespace Regex

/-- Matching a stretch between its surroundings. A bounded repetition
takes one of its copies at a time. -/
inductive Matches : Regex → List Char → List Char → List Char → Prop where
  | empty {before after} : Matches .empty before [] after
  | one {s c before after} : s.has c = true → Matches (.one s) before [c] after
  | look {l} {before after : List Char} :
      l.holds before.head? after.head? = true → Matches (.look l) before [] after
  | seq {a b before s t after} :
      Matches a before s (t ++ after) → Matches b (s.reverse ++ before) t after →
      Matches (.seq a b) before (s ++ t) after
  | altLeft {a b before s after} : Matches a before s after → Matches (.alt a b) before s after
  | altRight {a b before s after} :
      Matches b before s after → Matches (.alt a b) before s after
  | repNone {r most before after} : Matches (.rep r 0 most) before [] after
  | repMore {r least before s t after} :
      Matches r before s (t ++ after) →
      Matches (.rep r (least - 1) none) (s.reverse ++ before) t after →
      Matches (.rep r least none) before (s ++ t) after
  | repBounded {r least most before s t after} :
      Matches r before s (t ++ after) →
      Matches (.rep r (least - 1) (some most)) (s.reverse ++ before) t after →
      Matches (.rep r least (some (most + 1))) before (s ++ t) after
  | group {kept r before s after} :
      Matches r before s after → Matches (.group kept r) before s after

/-- Nothing but empty stretches can match. -/
def matchesOnlyEmpty : Regex → Bool
  | empty => true
  | one _ => false
  | look _ => true
  | seq a b => a.matchesOnlyEmpty && b.matchesOnlyEmpty
  | alt a b => a.matchesOnlyEmpty && b.matchesOnlyEmpty
  | rep r _ most => r.matchesOnlyEmpty || most == some 0
  | group _ r => r.matchesOnlyEmpty

/-- Something is repeated without an upper bound. -/
def hasLoop : Regex → Bool
  | empty => false
  | one _ => false
  | look _ => false
  | seq a b => a.hasLoop || b.hasLoop
  | alt a b => a.hasLoop || b.hasLoop
  | rep r _ most => most.isNone || r.hasLoop
  | group _ r => r.hasLoop

end Regex

end PipeShell.Pattern
