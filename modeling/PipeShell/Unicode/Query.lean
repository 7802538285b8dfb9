import PipeShell.Unicode.Age
import PipeShell.Unicode.Break

/-!
# `PipeShell.Unicode.Query`: asking for a property

A property class asks for a set of characters by the name of a
property, of a general category or of a script, or by the name of a
property and one of its values. `Query.find` answers with the set, or
says which of the two names it does not know.
-/

set_option autoImplicit false

namespace PipeShell.Unicode

/-- What a property class asks for. -/
inductive Query where
  | named (name : String)
  | valued (name value : String)
deriving Repr, DecidableEq

/-- Which name of a query is not known. -/
inductive QueryFault where
  | property
  | value
deriving Repr, DecidableEq

/-- The names, as they are compared, of the one category that has no
characters. -/
def isSurrogateName (name : String) : Bool := name == "cs" || name == "surrogate"

/-- The names, as they are compared, of script values without
characters. -/
def isEmptyScriptName (name : String) : Bool :=
  ["zzzz", "unknown", "hrkt", "katakanaorhiragana"].contains name

/-- The characters of an edition and of all before it. -/
def assignedBy? (edition : String) : Option CharSet :=
  let earlier := editions.takeWhile (!·.isNamed edition)
  match editions.drop earlier.length with
  | [] => none
  | last :: _ => some (.unions ((earlier ++ [last]).map NamedTable.set))

/-- Properties that have no set under any value, as they are
compared. -/
def otherProperties : List String := [
  "bidiclass", "bc", "bidimirroringglyph", "bmg", "bidipairedbracket", "bpb",
  "bidipairedbrackettype", "bpt", "block", "blk", "canonicalcombiningclass", "ccc",
  "casefolding", "cf", "changeswhennfkccasefolded", "cwkcf", "compositionexclusion", "ce",
  "decompositionmapping", "dm", "decompositiontype", "dt", "eastasianwidth", "ea",
  "equivalentunifiedideograph", "equideo", "expandsonnfc", "xonfc", "expandsonnfd",
  "xonfd", "expandsonnfkc", "xonfkc", "expandsonnfkd", "xonfkd", "fcnfkcclosure", "fcnfkc",
  "fullcompositionexclusion", "compex", "hangulsyllabletype", "hst", "indicconjunctbreak",
  "incb", "indicpositionalcategory", "inpc", "indicsyllabiccategory", "insc", "isocomment",
  "isc", "jamoshortname", "jsn", "joininggroup", "jg", "joiningtype", "jt",
  "kaccountingnumeric", "cjkaccountingnumeric", "kcompatibilityvariant",
  "cjkcompatibilityvariant", "kehcat", "kehdesc", "kehhg", "kehifao", "kehjsesh",
  "kehnomirror", "kehnorotate", "kiicore", "cjkiicore", "kirggsource", "cjkirggsource",
  "kirghsource", "cjkirghsource", "kirgjsource", "cjkirgjsource", "kirgksource",
  "cjkirgksource", "kirgkpsource", "cjkirgkpsource", "kirgmsource", "cjkirgmsource",
  "kirgssource", "cjkirgssource", "kirgtsource", "cjkirgtsource", "kirguksource",
  "cjkirguksource", "kirgusource", "cjkirgusource", "kirgvsource", "cjkirgvsource",
  "kmandarin", "cjkmandarin", "kothernumeric", "cjkothernumeric", "kprimarynumeric",
  "cjkprimarynumeric", "krsunicode", "cjkrsunicode", "unicoderadicalstroke", "urs",
  "ktotalstrokes", "cjktotalstrokes", "kunihancore2020", "cjkunihancore2020", "linebreak",
  "lb", "lowercasemapping", "lc", "name", "na", "namealias", "nfcquickcheck",
  "nfcqc", "nfdquickcheck", "nfdqc", "nfkccasefold", "nfkccf", "nfkcquickcheck", "nfkcqc",
  "nfkcsimplecasefold", "nfkcscf", "nfkdquickcheck", "nfkdqc", "numerictype", "nt",
  "numericvalue", "nv", "simplecasefolding", "scf", "sfc", "simplelowercasemapping", "slc",
  "simpletitlecasemapping", "stc", "simpleuppercasemapping", "suc", "titlecasemapping",
  "tc", "unicode1name", "na1", "uppercasemapping", "uc", "verticalorientation", "vo"]

/-- The sets of a property by its values, if it is one that has values;
both names are given as they are compared. -/
def valueSet? (name value : String) : Option (Option CharSet) :=
  match name with
  | "generalcategory" | "gc" => some (category? value)
  | "script" | "sc" => some (script? value)
  | "scriptextensions" | "scx" => some (scriptExtension? value)
  | "age" => some (assignedBy? value)
  | "graphemeclusterbreak" | "gcb" => some (clusterClass? value)
  | "wordbreak" | "wb" => some (wordClass? value)
  | "sentencebreak" | "sb" => some (sentenceClass? value)
  | _ => if otherProperties.contains name || (binary? name).isSome then some none else none

/-- The set that a query asks for. Three short names of properties are
taken for those of categories. -/
def Query.find : Query → Except QueryFault CharSet
  | .named name =>
      let n := looseName name
      let plain := if n == "cf" || n == "sc" || n == "lc" then none else binary? n
      match plain <|> category? n <|> script? n with
      | some s => .ok s
      | none => .error (if isSurrogateName n || isEmptyScriptName n then .value else .property)
  | .valued name value =>
      match valueSet? (looseName name) (looseName value) with
      | some (some s) => .ok s
      | some none => .error .value
      | none => .error .property

end PipeShell.Unicode
