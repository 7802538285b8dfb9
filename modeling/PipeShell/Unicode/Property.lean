import PipeShell.Unicode.Binary
import PipeShell.Unicode.Category
import PipeShell.Unicode.Folding
import PipeShell.Unicode.Script

/-!
# `PipeShell.Unicode.Property`: sets of characters by name

General categories, scripts and the properties that hold or do not,
each under its names. Names are compared loosely: case, spaces, hyphens,
underscores and a leading `is` do not count.
-/

set_option autoImplicit false

namespace PipeShell.Unicode

/-! ### Loose names -/

/-- The characters of a name that count, in lower case. -/
def countedChars (cs : List Char) : List Char :=
  (cs.filter fun c => c.toNat ≤ 0x7F && c != ' ' && c != '_' && c != '-').map Char.toLower

/-- A name as it is compared. A leading `is` is left out, except where
only a `c` would remain: `isc` is a name of its own. -/
def looseName (name : String) : String :=
  match name.toList with
  | i :: s :: rest =>
      if i.toLower == 'i' && s.toLower == 's' then
        let kept := countedChars rest
        String.ofList (if kept == ['c'] then ['i', 's', 'c'] else kept)
      else String.ofList (countedChars (i :: s :: rest))
  | cs => String.ofList (countedChars cs)

/-- Whether the table goes by the name, given as it is compared. -/
def NamedTable.isNamed (t : NamedTable) (name : String) : Bool :=
  t.names.any fun n => looseName n == name

/-- The set of the table. -/
def NamedTable.set (t : NamedTable) : CharSet := .ofText t.text

/-- The set of the table that goes by the name. -/
def setNamed? (tables : List NamedTable) (name : String) : Option CharSet :=
  (tables.find? (·.isNamed name)).map NamedTable.set

/-- The set of the table that goes by the name, empty without one. -/
def setNamed (tables : List NamedTable) (name : String) : CharSet :=
  (setNamed? tables (looseName name)).getD .empty

/-! ### General categories -/

/-- The union of the categories named. -/
def categoryUnion (names : List String) : CharSet :=
  .unions (names.map (setNamed categories))

/-- The letters of the name groups: a group is the union of the
categories that start with its letter, and of the cased letters. -/
def categoryGroups : List (List String × List String) := [
  (["c", "other"], ["Cc", "Cf", "Cn", "Co"]),
  (["l", "letter"], ["Lu", "Ll", "Lt", "Lm", "Lo"]),
  (["lc", "casedletter"], ["Lu", "Ll", "Lt"]),
  (["m", "mark", "combiningmark"], ["Mn", "Mc", "Me"]),
  (["n", "number"], ["Nd", "Nl", "No"]),
  (["p", "punctuation", "punct"], ["Pc", "Pd", "Ps", "Pe", "Pi", "Pf", "Po"]),
  (["s", "symbol"], ["Sm", "Sc", "Sk", "So"]),
  (["z", "separator"], ["Zs", "Zl", "Zp"])]

/-- The set of a general category or of a group of them. -/
def category? (name : String) : Option CharSet :=
  if name == "any" then some .all
  else if name == "assigned" then some (.compl (categoryUnion ["Cn"]))
  else if name == "ascii" then some (.range 0 0x7F)
  else match categoryGroups.find? (·.1.contains name) with
    | some (_, members) => some (categoryUnion members)
    | none => setNamed? categories name

/-! ### Scripts -/

/-- The set of the characters filed under a script. -/
def script? (name : String) : Option CharSet := setNamed? scripts name

/-- The set of the characters that a script uses. -/
def scriptExtension? (name : String) : Option CharSet :=
  (scripts.find? (·.isNamed name)).map fun t =>
    let code := looseName (t.names.headD "")
    let more := (setNamed? sharedScripts code).getD .empty
    let less := (setNamed? soleScripts code).getD .empty
    .diff (.union t.set more) less

/-! ### Properties that hold or do not -/

/-- The letters and the letter numbers. -/
def letterLike : CharSet := categoryUnion ["Lu", "Ll", "Lt", "Lm", "Lo", "Nl"]

/-- The property `Alphabetic`. -/
def alphabetic : CharSet := .union letterLike (setNamed binaries "Other_Alphabetic")

/-- The property `Lowercase`. -/
def lowercase : CharSet :=
  .union (categoryUnion ["Ll"]) (setNamed binaries "Other_Lowercase")

/-- The property `Uppercase`. -/
def uppercase : CharSet :=
  .union (categoryUnion ["Lu"]) (setNamed binaries "Other_Uppercase")

/-- The property `Grapheme_Extend`. -/
def graphemeExtend : CharSet :=
  .union (categoryUnion ["Mn", "Me"]) (setNamed binaries "Other_Grapheme_Extend")

/-- The characters kept apart for the syntax of patterns. -/
def patternReserved : CharSet :=
  .union (setNamed binaries "Pattern_Syntax") (setNamed binaries "Pattern_White_Space")

/-- The property `ID_Start`. -/
def idStart : CharSet :=
  .diff (.union letterLike (setNamed binaries "Other_ID_Start")) patternReserved

/-- The property `ID_Continue`. -/
def idContinue : CharSet :=
  .diff (.unions [idStart, categoryUnion ["Mn", "Mc", "Nd", "Pc"],
    setNamed binaries "Other_ID_Continue"]) patternReserved

/-- The set of a property that follows from others. -/
def derived? (name : String) : Option CharSet :=
  match name with
  | "alphabetic" | "alpha" => some alphabetic
  | "lowercase" | "lower" => some lowercase
  | "uppercase" | "upper" => some uppercase
  | "cased" => some (.unions [lowercase, uppercase, categoryUnion ["Lt"]])
  | "caseignorable" | "ci" =>
      some (.union (categoryUnion ["Mn", "Me", "Cf", "Lm", "Sk"])
        (setNamed remainders "Word_Break_Medial"))
  | "changeswhencasemapped" | "cwcm" =>
      some (.unions [setNamed binaries "CWL", setNamed binaries "CWT",
        setNamed binaries "CWU"])
  | "graphemeextend" | "grext" => some graphemeExtend
  | "graphemebase" | "grbase" =>
      some (.compl (.union graphemeExtend
        (categoryUnion ["Cc", "Cf", "Co", "Cn", "Zl", "Zp"])))
  | "idstart" | "ids" => some idStart
  | "idcontinue" | "idc" => some idContinue
  | "xidstart" | "xids" => some (.diff idStart (setNamed remainders "Not_XID_Start"))
  | "xidcontinue" | "xidc" =>
      some (.diff idContinue (setNamed remainders "Not_XID_Continue"))
  | "math" => some (.union (categoryUnion ["Sm"]) (setNamed binaries "Other_Math"))
  | _ => none

/-- The set of a property that holds or does not. -/
def binary? (name : String) : Option CharSet :=
  match derived? name with
  | some s => some s
  | none => setNamed? binaries name

/-! ### The classes of patterns -/

/-- Decimal digits of all scripts. -/
def decimalDigits : CharSet := categoryUnion ["Nd"]

/-- The characters that words are made of: letters, marks, digits,
connecting punctuation and joiners. -/
def wordChars : CharSet :=
  .unions [alphabetic, categoryUnion ["Mn", "Mc", "Me", "Nd", "Pc"],
    setNamed binaries "Join_Control"]

/-- The property `White_Space`. -/
def whiteSpace : CharSet := setNamed binaries "White_Space"

end PipeShell.Unicode
