import PipeShell.Unicode.Property

/-!
# `PipeShell.Unicode.Alphanumeric`: letters and numbers in names

Which letters and numbers may stand in a name is settled by the edition
of the character database that follows the one of the properties. What
that edition adds is listed here.
-/

set_option autoImplicit false

namespace PipeShell.Unicode

/-- Letters of the following edition. -/
def addedLetters : CharSet := .ofText [
  "88F C5C CDC A7CE-A7CF A7D2 A7D4 A7F1 10940-10959 10EC5-10EC7 10EFA-10EFB 11B60-11B67",
  "11DB0-11DDB 16EA0-16EB8 16EBB-16ED3 16FF2-16FF6 187F8-187FF 18D09-18D1E 18D80-18DF2",
  "1E6C0-1E6DE 1E6E0-1E6F5 1E6FE-1E6FF 2B73A-2B73F 2CEA2-2CEAD 323B0-33479"]

/-- Numbers of the following edition. -/
def addedNumbers : CharSet := .ofText ["11DE0-11DE9 16FF4-16FF6"]

/-- The letters of names. -/
def nameLetters : CharSet := .union alphabetic addedLetters

/-- The numbers of names. -/
def nameNumbers : CharSet := .union (categoryUnion ["Nd", "Nl", "No"]) addedNumbers

/-- A letter of a name. -/
def isAlphabetic (c : Char) : Bool := nameLetters.has c

/-- A letter or number of a name. -/
def isAlphanumeric (c : Char) : Bool := nameLetters.has c || nameNumbers.has c

end PipeShell.Unicode
