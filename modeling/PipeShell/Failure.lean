import PipeShell.Pattern.Fault
import PipeShell.Host.Cause

/-!
# `PipeShell.Failure`: what can go wrong with a command

A `Failure` is a cause of this program's own; its kind is what a caller
can tell apart and its message is what a user reads. On the way out a
failure is wrapped in the names of the places it passed, the outermost
first: a `Report`. Anything else that goes wrong is a plain note, whose
kind is that of a failed command.

Seen from outside a report is a chain of links, the outermost place
first. `kindOf` looks along it for the first link that is a failure, and
`messageOf` joins the texts of all links. `Report.kind` and
`Report.message` say the same without the chain.
-/

set_option autoImplicit false

namespace PipeShell

/-- What kind of failure it was. -/
inductive Kind where
  | missingPattern
  | missingSource
  | sourceUnavailable
  | invalidPattern
  | unknownOption
  | spawnFailure
  | commandFailed
deriving Repr, DecidableEq

/-- The failures that this program tells apart. -/
inductive Failure where
  | missingPattern
  | missingSource
  | sourceUnavailable (path : String) (cause : Host.Cause)
  | invalidPattern (refusal : Pattern.Refusal)
  | unknownOption (text : String)
  | commandNotFound (name : String)
  | spawnFailure (program : String) (cause : Host.Cause)
deriving Repr, DecidableEq

/-- The kind of a failure. -/
def Failure.kind : Failure → Kind
  | missingPattern => .missingPattern
  | missingSource => .missingSource
  | sourceUnavailable _ _ => .sourceUnavailable
  | invalidPattern _ => .invalidPattern
  | unknownOption _ => .unknownOption
  | commandNotFound _ => .spawnFailure
  | spawnFailure _ _ => .spawnFailure

/-- The text of a failure. -/
def Failure.message : Failure → String
  | missingPattern => "missing pattern"
  | missingSource => "missing file parameter"
  | sourceUnavailable path cause => path ++ ": " ++ cause.message
  | invalidPattern refusal => "invalid pattern: " ++ refusal.message
  | unknownOption text => text
  | commandNotFound name => "command not found: " ++ name
  | spawnFailure program cause => "failed to run " ++ program ++ ": " ++ cause.message

/-- What a report is about at its core. -/
inductive Report.Root where
  | failure (f : Failure)
  | note (text : String)
deriving Repr, DecidableEq

/-- A failure or a note with the places it passed, outermost first. -/
structure Report where
  contexts : List String
  root : Report.Root
deriving Repr, DecidableEq

namespace Report

/-- A failure that passed no place yet. -/
def ofFailure (f : Failure) : Report := ⟨[], .failure f⟩

/-- A note that passed no place yet. -/
def ofNote (text : String) : Report := ⟨[], .note text⟩

/-- The report after it passed one more place. -/
def within (place : String) (r : Report) : Report := { r with contexts := place :: r.contexts }

/-- The kind that the report can be told by. -/
def kind (r : Report) : Kind :=
  match r.root with
  | .failure f => f.kind
  | .note _ => .commandFailed

/-- The text of the core. -/
def Root.message : Root → String
  | .failure f => f.message
  | .note text => text

/-- The places and the core, divided by colons. -/
def message (r : Report) : String :=
  r.contexts.foldr (fun place text => place ++ ": " ++ text) r.root.message

/-! ### Reports as chains -/

/-- The failure that a link is. -/
def Root.failure? : Root → Option Failure
  | .failure f => some f
  | .note _ => none

/-- The links of a report, outermost first. -/
def chain (r : Report) : List Root := r.contexts.map .note ++ [r.root]

/-- The kind of the first failure among the links. Without one a command
failed in some other way. -/
def kindOf (links : List Root) : Kind :=
  match links.findSome? Root.failure? with
  | some f => f.kind
  | none => .commandFailed

/-- The texts of all links. -/
def messageOf (links : List Root) : String := ": ".intercalate (links.map Root.message)

end Report

end PipeShell
