import PipeShell.Line.Expand

/-!
# `PipeShell.Line.Assignment`: setting a variable by a word

`NAME=value` sets a variable. The name ends at the first equals sign and
is made of the characters that a reference can name, so whatever is set
this way can be read back.
-/

set_option autoImplicit false

namespace PipeShell.Line

/-- A variable and its value to be. -/
structure Assignment where
  name : String
  value : String
deriving Repr, DecidableEq

namespace Assignment

/-- A name that a reference can name. -/
def isName (cs : List Char) : Bool := !cs.isEmpty && cs.all isNameChar

/-- The assignment that a text is, if it is one. -/
def ofText? (text : String) : Option Assignment :=
  let name := text.toList.takeWhile (· != '=')
  match text.toList.dropWhile (· != '=') with
  | [] => none
  | _ :: value =>
      if isName name then some ⟨String.ofList name, String.ofList value⟩ else none

/-- The assignment as it is written. -/
def text (a : Assignment) : String := a.name ++ "=" ++ a.value

end Assignment

end PipeShell.Line
