import PipeShell.Pattern.ClassReader
import PipeShell.Unicode.Alphanumeric

/-!
# `PipeShell.Pattern.Reader`: reading a whole pattern

`read` turns the text of a pattern into a `Node`, or stops at the first
fault from the left. Only after the whole text has been read is the
depth of nesting looked at.
-/

set_option autoImplicit false

namespace PipeShell.Pattern

open Reader

/-! ### Repetitions -/

/-- Read a decimal number between blanks. A missing number is a fault of
its own kind, which is left to the caller to report. -/
def readDecimal : Reader (Except Fault Nat) := do
  let c ← get
  let blanks := c.rest.takeWhile Text.isBlank
  let _ ← bumpIf blanks
  let start ← pos
  let digits ← takeLoosely Char.isDigit (← remaining)
  let span : Span := ⟨start, ← pos⟩
  let _ ← takeLoosely Text.isBlank (← remaining)
  let n := digits.foldl (fun n d => 10 * n + (d.toNat - '0'.toNat)) 0
  if digits.isEmpty then return .error ⟨.repetitionCountDecimalEmpty, span, none⟩
  else if 4294967295 < n then return .error ⟨.decimalInvalid, span, none⟩
  else return .ok n

/-- The bounds of a counted repetition; the cursor is on the brace and
is left on the closing one. -/
def readBounds (start : Position) : Reader (Nat × Option Nat) := do
  if !(← bumpLoosely) then fail .repetitionCountUnclosed ⟨start, ← pos⟩
  else
    let least ← readDecimal
    match ← peek? with
    | none => fail .repetitionCountUnclosed ⟨start, ← pos⟩
    | some ',' =>
        if !(← bumpLoosely) then fail .repetitionCountUnclosed ⟨start, ← pos⟩
        else
          let n ← MonadExcept.ofExcept least
          if (← peek?) == some '}' then return (n, none)
          else
            let m ← MonadExcept.ofExcept (← readDecimal)
            return (n, some m)
    | some _ =>
        let n ← MonadExcept.ofExcept least
        return (n, some n)

/-- What a repetition operator applies to: the last part read, which has
to be there and to be more than flags. -/
def operand : List Node → Reader (Node × List Node)
  | [] => do fail .repetitionMissing (← spot)
  | .empty _ :: _ => do fail .repetitionMissing (← spot)
  | .flags _ _ :: _ => do fail .repetitionMissing (← spot)
  | n :: before => return (n, before)

/-- Take the question mark after a repetition, which changes only which
match is preferred. -/
def skipLazyMark : Reader Unit := do
  if (← peek?) == some '?' then
    let _ ← bump

/-- The parts with the last one repeated by `?`, `*` or `+`. -/
def readUncounted (least : Nat) (most : Option Nat) (parts : List Node) :
    Reader (List Node) := do
  let (n, before) ← operand parts
  let _ ← bump
  skipLazyMark
  return .repeated ⟨n.span.start, ← pos⟩ least most n :: before

/-- The parts with the last one repeated a number of times. -/
def readCounted (parts : List Node) : Reader (List Node) := do
  let start ← pos
  let (n, before) ← operand parts
  let (least, most) ← readBounds start
  if (← peek?) != some '}' then fail .repetitionCountUnclosed ⟨start, ← pos⟩
  else
    let _ ← bumpLoosely
    skipLazyMark
    let stop ← pos
    if (most.getD least) < least then fail .repetitionCountInvalid ⟨start, stop⟩
    else return .repeated ⟨n.span.start, stop⟩ least most n :: before

/-! ### Groups -/

/-- Characters of a group name. -/
def isNameChar (first : Bool) (c : Char) : Bool :=
  if first then c == '_' || Unicode.isAlphabetic c
  else c == '_' || c == '.' || c == '[' || c == ']' || Unicode.isAlphanumeric c

/-- The characters of a group name up to its end, at most `n`. -/
def readNameChars : (n : Nat) → (first : Bool) → Reader (List Char)
  | 0, _ => return []
  | n + 1, first => do
      match ← peek? with
      | none => return []
      | some '>' => return []
      | some c =>
          if isNameChar first c then
            let _ ← bump
            return c :: (← readNameChars n false)
          else fail .groupNameInvalid (← charSpan)

/-- The name of a group, which no other group may have. -/
def readGroupName : Reader Unit := do
  let start ← pos
  let name ← readNameChars (← remaining) true
  let span : Span := ⟨start, ← pos⟩
  if (← peek?).isNone then fail .groupNameUnexpectedEnd (← spot)
  else
    let _ ← bump
    if name.isEmpty then fail .groupNameEmpty (.at start)
    else
      let c ← get
      match c.names.find? (·.1 == name) with
      | some (_, earlier) => clash .groupNameDuplicate span earlier
      | none => set { c with names := (name, span) :: c.names }

/-- Flags up to a colon or a parenthesis, with where each stands; no
flag stands for the sign of negation. -/
def readFlags : (n : Nat) → List (Span × Option Flag) → (dangling : Option Span) →
    Reader (List (Span × Option Flag))
  | 0, _, _ => do fail .flagUnexpectedEnd (← spot)
  | n + 1, items, dangling => do
      match ← peek? with
      | none => fail .flagUnexpectedEnd (← spot)
      | some c =>
          if c == ':' || c == ')' then
            match dangling with
            | some s => fail .flagDanglingNegation s
            | none => return items.reverse
          else
            let span ← charSpan
            let item := if c == '-' then none else Flag.ofChar? c
            if c != '-' && item.isNone then fail .flagUnrecognized span
            else
              let twice : Trouble :=
                if c == '-' then .flagRepeatedNegation else .flagDuplicate
              match items.find? (·.2 == item) with
              | some (earlier, _) => clash twice span earlier
              | none =>
                  if !(← bump) then fail .flagUnexpectedEnd (← spot)
                  else readFlags n ((span, item) :: items) (if c == '-' then some span else none)

/-- Flags before the sign of negation are turned on, those after it
off. -/
def changesOf : (on : Bool) → List (Span × Option Flag) → FlagChanges
  | _, [] => []
  | _, (_, none) :: rest => changesOf false rest
  | on, (_, some f) :: rest => (f, on) :: changesOf on rest

/-- What an opening parenthesis begins. -/
inductive GroupHead where
  /-- A setting of flags, closed again. -/
  | setting (span : Span) (changes : FlagChanges)
  /-- A group whose body follows. -/
  | group (span : Span) (kept : Bool) (changes : FlagChanges)

/-- The head of a group; the cursor is on the parenthesis. -/
def readGroupHead : Reader GroupHead := do
  let opening ← charSpan
  let _ ← bump
  skipLoosely
  if ← bumpAny [['?', '='], ['?', '!'], ['?', '<', '='], ['?', '<', '!']] then
    fail .lookAround ⟨opening.start, ← pos⟩
  else
    let inner ← spot
    if ← bumpAny [['?', 'P', '<'], ['?', '<']] then
      readGroupName
      return .group opening true []
    else if ← bumpIf ['?'] then
      if (← peek?).isNone then fail .groupUnclosed opening
      else
        let items ← readFlags ((← remaining) + 1) [] none
        let changes := changesOf true items
        let closed := (← peek?) == some ')'
        let _ ← bump
        if !closed then return .group opening false changes
        else if items.isEmpty then fail .repetitionMissing inner
        else return .setting ⟨opening.start, ← pos⟩ changes
    else return .group opening true []

/-! ### Sequences and alternatives -/

/-- What has been read of a body: where its current branch started, the
parts of that branch, the last first, and, after a bar, where the body
started and its earlier branches, the last first. -/
structure BodyRun where
  start : Position
  parts : List Node
  earlier : Option (Position × List Node)

/-- A body that starts at a place. -/
def BodyRun.at (p : Position) : BodyRun := ⟨p, [], none⟩

/-- The body with one more part. -/
def BodyRun.push (r : BodyRun) (n : Node) : BodyRun := { r with parts := n :: r.parts }

/-- The current branch, ended at a place. -/
def BodyRun.branch (r : BodyRun) (stop : Position) : Node :=
  .ofParts ⟨r.start, stop⟩ r.parts.reverse

/-- The body with a bar at a place, after which the next branch starts. -/
def BodyRun.bar (r : BodyRun) (stop next : Position) : BodyRun :=
  match r.earlier with
  | none => ⟨next, [], some (r.start, [r.branch stop])⟩
  | some (start, branches) => ⟨next, [], some (start, r.branch stop :: branches)⟩

/-- The whole body, ended at a place. -/
def BodyRun.node (r : BodyRun) (stop : Position) : Node :=
  match r.earlier with
  | none => r.branch stop
  | some (start, branches) =>
      .alternation ⟨start, stop⟩ (r.branch stop :: branches).reverse

/-- One character, anchor, dot or escape. -/
def readAtom (c : Char) : Reader Node := do
  let span ← charSpan
  if c == '\\' then readEscape
  else
    let _ ← bump
    match c with
    | '.' => return .dot span
    | '^' => return .anchor span .startLine
    | '$' => return .anchor span .endLine
    | _ => return .literal ⟨span, c, false⟩

/-- The rest of a body. The body of a group ends before its closing
parenthesis, the outermost one at the end of the pattern; `opening` is
the span of the parenthesis that opened the group. -/
def readBody (opening : Option Span) : (fuel : Nat) → BodyRun → Reader Node
  | 0, run => do return run.node (← pos)
  | fuel + 1, run => do
      skipLoosely
      match ← peek? with
      | none =>
          match opening with
          | some span => fail .groupUnclosed span
          | none => return run.node (← pos)
      | some '(' =>
          match ← readGroupHead with
          | .setting span changes =>
              let c ← get
              set { c with loose := (changes.state? .ignoreSpace).getD c.loose }
              readBody opening fuel (run.push (.flags span changes))
          | .group span kept changes =>
              let outside := (← get).loose
              modify fun c => { c with loose := (changes.state? .ignoreSpace).getD outside }
              let body ← readBody (some span) fuel (.at (← pos))
              let _ ← bump
              modify fun c => { c with loose := outside }
              readBody opening fuel (run.push (.group ⟨span.start, ← pos⟩ kept changes body))
      | some ')' =>
          match opening with
          | some _ => return run.node (← pos)
          | none => fail .groupUnopened (← charSpan)
      | some '|' =>
          let stop ← pos
          let _ ← bump
          readBody opening fuel (run.bar stop (← pos))
      | some '[' => do readBody opening fuel (run.push (← readClass))
      | some '?' => do
          readBody opening fuel { run with parts := ← readUncounted 0 (some 1) run.parts }
      | some '*' => do
          readBody opening fuel { run with parts := ← readUncounted 0 none run.parts }
      | some '+' => do
          readBody opening fuel { run with parts := ← readUncounted 1 none run.parts }
      | some '{' => do
          readBody opening fuel { run with parts := ← readCounted run.parts }
      | some c => do readBody opening fuel (run.push (← readAtom c))

/-- Read the text of a pattern. -/
def read (pattern : List Char) : Except Fault Node := do
  let start : Cursor := ⟨.origin, pattern, false, []⟩
  let (node, _) ← (readBody none (pattern.length + 1) (.at .origin)).run start
  match node.overdeep? nestLimit with
  | some span => .error ⟨.nestLimitExceeded, span, none⟩
  | none => .ok node

end PipeShell.Pattern
