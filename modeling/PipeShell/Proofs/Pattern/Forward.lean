import PipeShell.Proofs.Pattern.Step
import Std.Tactic.Do

/-!
# `PipeShell.Proofs.Pattern.Forward`: reading goes from left to right

Whatever is read, what is left afterwards is the end of what was left
before (`Forward`). A step that `Takes` leaves at least one character
less, if there is any.
-/

set_option autoImplicit false
set_option mvcgen.warning false

namespace PipeShell.Pattern

open Std.Do

/-- What is left is an end of a text. -/
abbrev Left (r : List Char) : Assertion (.arg Cursor (.except Fault .pure)) :=
  fun s => ⌜s.rest <:+ r⌝

/-- What is left without its first character is an end of a text. -/
abbrev LeftAfterOne (r : List Char) : Assertion (.arg Cursor (.except Fault .pure)) :=
  fun s => ⌜s.rest.tail <:+ r⌝

theorem suffix_of_suffix_tail {cs ds : List Char} (h : cs <:+ ds.tail) : cs <:+ ds :=
  h.trans (List.tail_suffix ds)

theorem tail_suffix_tail {cs ds : List Char} (h : cs <:+ ds) : cs.tail <:+ ds.tail := by
  obtain ⟨es, rfl⟩ := h
  cases es with
  | nil => exact List.suffix_rfl
  | cons e es => exact (List.tail_suffix cs).trans (List.suffix_append es cs)

attribute [local grind →] List.IsSuffix.trans suffix_of_suffix_tail
attribute [local grind .] List.suffix_rfl

namespace Reader

attribute [spec] peek? peekSecond? pos spot charSpan remaining peekLoosely?

@[spec]
theorem never_fail {α : Type} (t : Trouble) (span : Span) :
    ⦃⌜True⌝⦄ (fail t span : Reader α) ⦃⇓? _ => ⌜False⌝⦄ := by
  intro s _
  trivial

@[spec]
theorem never_clash {α : Type} (t : Trouble) (span earlier : Span) :
    ⦃⌜True⌝⦄ (clash t span earlier : Reader α) ⦃⇓? _ => ⌜False⌝⦄ := by
  intro s _
  trivial

@[spec]
theorem forward_ofExcept (r : List Char) {α : Type} (x : Except Fault α) :
    ⦃Left r⦄ (MonadExcept.ofExcept x : Reader α) ⦃⇓? _ => Left r⦄ := by
  intro s hs
  cases x with
  | error e => trivial
  | ok a => exact hs

@[spec]
theorem takes_bump (r : List Char) :
    ⦃LeftAfterOne r⦄ bump ⦃⇓? _ => Left r⦄ := by
  mvcgen [bump] <;> simp_all

@[spec]
theorem forward_skipLoosely (r : List Char) :
    ⦃Left r⦄ skipLoosely ⦃⇓? _ => Left r⦄ := by
  mvcgen [skipLoosely]
  exact (passBlanks_suffix _ _ _).trans ‹_›

@[spec]
theorem takes_bumpLoosely (r : List Char) :
    ⦃LeftAfterOne r⦄ bumpLoosely ⦃⇓? _ => Left r⦄ := by
  mvcgen [bumpLoosely] with grind

@[spec]
theorem forward_bumpIf (r : List Char) (text : List Char) :
    ⦃Left r⦄ bumpIf text ⦃⇓? _ => Left r⦄ := by
  mvcgen [bumpIf]
  exact (List.drop_suffix _ _).trans ‹_›

@[spec]
theorem forward_bumpAny (r : List Char) (texts : List (List Char)) :
    ⦃Left r⦄ bumpAny texts ⦃⇓? _ => Left r⦄ := by
  induction texts with
  | nil => mvcgen [bumpAny]
  | cons text texts ih => mvcgen [bumpAny, ih] with grind

@[spec]
theorem forward_takeLoosely (r : List Char) (p : Char → Bool) (n : Nat) :
    ⦃Left r⦄ takeLoosely p n ⦃⇓? _ => Left r⦄ := by
  induction n with
  | zero => mvcgen [takeLoosely]
  | succ n ih => mvcgen [takeLoosely, ih] with grind

end Reader

open Reader

/-! ### Escapes -/

@[spec]
theorem forward_readHexDigits (r : List Char) (k : Nat) :
    ⦃Left r⦄ readHexDigits k ⦃⇓? _ => Left r⦄ := by
  induction k with
  | zero => mvcgen [readHexDigits]
  | succ k ih => mvcgen [readHexDigits, ih] with grind

@[spec]
theorem forward_readHexFixed (r : List Char) (start : Position) (k : Nat) :
    ⦃Left r⦄ readHexFixed start k ⦃⇓? _ => Left r⦄ := by
  mvcgen [readHexFixed] with grind

@[spec]
theorem forward_readHexBraced (r : List Char) (start : Position) :
    ⦃Left r⦄ readHexBraced start ⦃⇓? _ => Left r⦄ := by
  mvcgen [readHexBraced] with grind

@[spec]
theorem forward_readHex (r : List Char) (start : Position) (letter : Char) :
    ⦃Left r⦄ readHex start letter ⦃⇓? _ => Left r⦄ := by
  mvcgen [readHex] with grind

@[spec]
theorem forward_readProperty (r : List Char) (start : Position) (negated : Bool) :
    ⦃Left r⦄ readProperty start negated ⦃⇓? _ => Left r⦄ := by
  mvcgen [readProperty] with grind

@[spec]
theorem forward_readBoundaryName? (r : List Char) (start : Position) :
    ⦃Left r⦄ readBoundaryName? start ⦃⇓? _ => Left r⦄ := by
  mvcgen [readBoundaryName?] with grind

@[spec]
theorem takes_readEscape (r : List Char) :
    ⦃LeftAfterOne r⦄ readEscape ⦃⇓? _ => Left r⦄ := by
  mvcgen [readEscape] with grind

/-! ### Classes -/

@[spec]
theorem forward_readHyphens (r : List Char) (start : Position) (n : Nat) (run : ItemRun) :
    ⦃Left r⦄ readHyphens start n run ⦃⇓? _ => Left r⦄ := by
  induction n generalizing run with
  | zero => mvcgen [readHyphens]
  | succ n ih => mvcgen [readHyphens, ih] with grind

@[spec]
theorem takes_readClassOpening (r : List Char) :
    ⦃LeftAfterOne r⦄ readClassOpening ⦃⇓? _ => Left r⦄ := by
  mvcgen [readClassOpening] with grind

@[spec]
theorem forward_readPosix? (r : List Char) : ⦃Left r⦄ readPosix? ⦃⇓? _ => Left r⦄ := by
  mvcgen [readPosix?] with grind

@[spec]
theorem takes_readClassAtom (r : List Char) (opening : Span) :
    ⦃LeftAfterOne r⦄ readClassAtom opening ⦃⇓? _ => Left r⦄ := by
  mvcgen [readClassAtom] with grind

@[spec]
theorem forward_itemOfAtom (r : List Char) (n : Node) :
    ⦃Left r⦄ itemOfAtom n ⦃⇓? _ => Left r⦄ := by
  mvcgen [itemOfAtom] with grind

@[spec]
theorem forward_literalOfAtom (r : List Char) (n : Node) :
    ⦃Left r⦄ literalOfAtom n ⦃⇓? _ => Left r⦄ := by
  mvcgen [literalOfAtom] with grind

@[spec]
theorem takes_readItem (r : List Char) (opening : Span) :
    ⦃LeftAfterOne r⦄ readItem opening ⦃⇓? _ => Left r⦄ := by
  mvcgen [readItem] with grind

@[spec]
theorem forward_readSetOp? (r : List Char) : ⦃Left r⦄ readSetOp? ⦃⇓? _ => Left r⦄ := by
  mvcgen [readSetOp?] with grind

@[spec]
theorem forward_readClassBody (r : List Char) (fuel : Nat) (o : ClassOpening) (run : ItemRun)
    (pending : Option (SetOp × ClassNode)) :
    ⦃Left r⦄ readClassBody fuel o run pending ⦃⇓? _ => Left r⦄ := by
  induction fuel generalizing o run pending with
  | zero =>
      mvcgen [readClassBody]
      grind
  | succ fuel ih => mvcgen [readClassBody, ih] with grind

@[spec]
theorem takes_readClass (r : List Char) : ⦃LeftAfterOne r⦄ readClass ⦃⇓? _ => Left r⦄ := by
  mvcgen [readClass] with grind

/-! ### Repetitions, groups and bodies -/

@[spec]
theorem forward_readDecimal (r : List Char) : ⦃Left r⦄ readDecimal ⦃⇓? _ => Left r⦄ := by
  mvcgen [readDecimal] with grind

@[spec]
theorem takes_readBounds (r : List Char) (start : Position) :
    ⦃LeftAfterOne r⦄ readBounds start ⦃⇓? _ => Left r⦄ := by
  mvcgen [readBounds] with grind

@[spec]
theorem forward_skipLazyMark (r : List Char) : ⦃Left r⦄ skipLazyMark ⦃⇓? _ => Left r⦄ := by
  mvcgen [skipLazyMark] with grind

attribute [spec] operand

@[spec]
theorem takes_readUncounted (r : List Char) (least : Nat) (most : Option Nat)
    (parts : List Node) :
    ⦃LeftAfterOne r⦄ readUncounted least most parts ⦃⇓? _ => Left r⦄ := by
  mvcgen [readUncounted] with grind

@[spec]
theorem takes_readCounted (r : List Char) (parts : List Node) :
    ⦃LeftAfterOne r⦄ readCounted parts ⦃⇓? _ => Left r⦄ := by
  mvcgen [readCounted] with grind

@[spec]
theorem forward_readNameChars (r : List Char) (n : Nat) (first : Bool) :
    ⦃Left r⦄ readNameChars n first ⦃⇓? _ => Left r⦄ := by
  induction n generalizing first with
  | zero => mvcgen [readNameChars]
  | succ n ih => mvcgen [readNameChars, ih] with grind

@[spec]
theorem forward_readGroupName (r : List Char) : ⦃Left r⦄ readGroupName ⦃⇓? _ => Left r⦄ := by
  mvcgen [readGroupName] with grind

@[spec]
theorem forward_readFlags (r : List Char) (n : Nat) (items : List (Span × Option Flag))
    (dangling : Option Span) :
    ⦃Left r⦄ readFlags n items dangling ⦃⇓? _ => Left r⦄ := by
  induction n generalizing items dangling with
  | zero =>
      mvcgen [readFlags]
      grind
  | succ n ih => mvcgen [readFlags, ih] with grind

@[spec]
theorem takes_readGroupHead (r : List Char) :
    ⦃LeftAfterOne r⦄ readGroupHead ⦃⇓? _ => Left r⦄ := by
  mvcgen [readGroupHead] with grind

@[spec]
theorem takes_readAtom (r : List Char) (c : Char) :
    ⦃LeftAfterOne r⦄ readAtom c ⦃⇓? _ => Left r⦄ := by
  mvcgen [readAtom] with grind

@[spec]
theorem forward_readBody (r : List Char) (opening : Option Span) (fuel : Nat) (run : BodyRun) :
    ⦃Left r⦄ readBody opening fuel run ⦃⇓? _ => Left r⦄ := by
  induction fuel generalizing opening run with
  | zero => mvcgen [readBody]
  | succ fuel ih => mvcgen [readBody, ih] with grind

/-! ### Runs -/

section
variable {α : Type} {x : Reader α} {s s' : Cursor} {a : α}

/-- A run of a step that goes forward. -/
theorem suffix_of_run (h : ∀ r, ⦃Left r⦄ x ⦃⇓? _ => Left r⦄) (hrun : x s = .ok (a, s')) :
    s'.rest <:+ s.rest := by
  have hs := h s.rest s List.suffix_rfl
  simp only [wp, PredTrans.apply_pushArg, StateT.run, hrun] at hs
  exact hs

/-- A run of a step that takes a character. -/
theorem suffix_tail_of_run (h : ∀ r, ⦃LeftAfterOne r⦄ x ⦃⇓? _ => Left r⦄)
    (hrun : x s = .ok (a, s')) : s'.rest <:+ s.rest.tail := by
  have hs := h s.rest.tail s List.suffix_rfl
  simp only [wp, PredTrans.apply_pushArg, StateT.run, hrun] at hs
  exact hs

end

end PipeShell.Pattern
