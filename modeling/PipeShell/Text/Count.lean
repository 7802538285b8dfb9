/-!
# `PipeShell.Text.Count`: numbers given by a user

A count is written in decimal digits, with a plus sign in front if one
likes, and fits in 64 bits. Faults are found from left to right.
-/

set_option autoImplicit false

namespace PipeShell.Text.Count

/-- The largest count. -/
def largest : Nat := 0xFFFFFFFFFFFFFFFF

/-- Why a text is no count. -/
inductive Fault where
  | empty
  | invalidDigit
  | tooLarge
deriving Repr, DecidableEq

/-- The words for a fault. -/
def Fault.message : Fault → String
  | empty => "cannot parse integer from empty string"
  | invalidDigit => "invalid digit found in string"
  | tooLarge => "number too large to fit in target type"

/-- Read further digits after the value of those before them. -/
def digits (value : Nat) : List Char → Except Fault Nat
  | [] => .ok value
  | c :: cs =>
      if !c.isDigit then .error .invalidDigit
      else
        let more := 10 * value + (c.toNat - '0'.toNat)
        if largest < more then .error .tooLarge else digits more cs

/-- Read a count. A sign needs a digit after it. -/
def read (text : String) : Except Fault Nat :=
  match text.toList with
  | [] => .error .empty
  | ['+'] => .error .invalidDigit
  | '+' :: cs => digits 0 cs
  | cs => digits 0 cs

end PipeShell.Text.Count
