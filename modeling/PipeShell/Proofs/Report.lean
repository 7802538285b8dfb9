import PipeShell.Program
import PipeShell.Proofs.Search.Dispatch

/-!
# `PipeShell.Proofs.Report`: what a report says of its failure

A failure is wrapped in the names of the places it passes. Two walks go
over the chain of its report: one looks for the first link that is a
failure and takes its kind, the other joins the texts of all links. A
report keeps its places and its core apart, and here it is shown to say
the same.

Places are notes. So the search for the kind passes all of them, and it
finds none where there is no failure. A failure is the last link: its
cause is part of its text and no link of its own, so that the second walk
meets it once.

* `Report.kind_eq_kindOf`, `Report.message_eq_messageOf`: a report and
  its chain.
* `Failure.Because`: the cause within the text of a failure.
* `Search.dispatch_search_error`: a search that fails, as a command.
* `Outcome.render_failure`: how a failure is shown.
* `failure_survives_wrapping`: all of it together.
-/

set_option autoImplicit false

namespace PipeShell

open Host (World Launcher)
open Line (searchName)

/-! ### Reports as chains -/

namespace Report

/-- One more place is one more link. -/
theorem chain_within (place : String) (r : Report) :
    (r.within place).chain = .note place :: r.chain := rfl

theorem chain_ne_nil (r : Report) : r.chain ≠ [] :=
  List.append_ne_nil_of_right_ne_nil _ (List.cons_ne_nil r.root [])

/-- The search for the kind passes a note. -/
theorem kindOf_note_cons (text : String) (links : List Root) :
    kindOf (.note text :: links) = kindOf links := rfl

/-- The walk for the text does not. -/
theorem messageOf_cons (link : Root) {links : List Root} (h : links ≠ []) :
    messageOf (link :: links) = link.message ++ ": " ++ messageOf links := by
  have hne : links.map Root.message ≠ [] := fun hnil => h (List.map_eq_nil_iff.mp hnil)
  exact String.intercalate_cons_of_ne_nil hne

/-- The kind of a report is the one that is found in its chain. -/
theorem kind_eq_kindOf (r : Report) : r.kind = kindOf r.chain := by
  obtain ⟨contexts, root⟩ := r
  induction contexts with
  | nil => cases root <;> rfl
  | cons place contexts ih =>
      show kind ⟨contexts, root⟩ = kindOf (within place ⟨contexts, root⟩).chain
      rw [chain_within, kindOf_note_cons, ih]

/-- The text of a report is what is met along its chain. -/
theorem message_eq_messageOf (r : Report) : r.message = messageOf r.chain := by
  obtain ⟨contexts, root⟩ := r
  induction contexts with
  | nil =>
      show root.message = ": ".intercalate [root.message]
      rw [String.intercalate_singleton]
  | cons place contexts ih =>
      show place ++ ": " ++ message ⟨contexts, root⟩
        = messageOf (within place ⟨contexts, root⟩).chain
      rw [chain_within, messageOf_cons _ (chain_ne_nil _), ih]
      rfl

/-- So an outcome can be read off the chain. -/
theorem ofReport_eq_chain (r : Report) :
    Outcome.ofReport r = .failure (kindOf r.chain) (messageOf r.chain) := by
  rw [Outcome.ofReport, kind_eq_kindOf, message_eq_messageOf]

/-- Places around a report are links in front of its own. -/
theorem chain_foldr_within (contexts : List String) (r : Report) :
    (contexts.foldr within r).chain = contexts.map .note ++ r.chain := by
  induction contexts with
  | nil => rfl
  | cons place contexts ih =>
      rw [List.foldr_cons, chain_within, ih, List.map_cons, List.cons_append]

/-- Notes in front of a failure keep its kind. -/
theorem kindOf_notes_append (contexts : List String) (f : Failure) :
    kindOf (contexts.map .note ++ [.failure f]) = f.kind := by
  induction contexts with
  | nil => rfl
  | cons place contexts ih => rw [List.map_cons, List.cons_append, kindOf_note_cons, ih]

/-- Their texts stand in front of its own. -/
theorem messageOf_notes_append (contexts : List String) (root : Root) :
    messageOf (contexts.map .note ++ [root]) = ": ".intercalate (contexts ++ [root.message]) := by
  have htexts : (contexts.map Root.note).map Root.message = contexts := by
    rw [List.map_map]
    exact List.map_id contexts
  rw [messageOf, List.map_append, htexts, List.map_singleton]

/-- Links without a failure are those of a command that failed in some
other way. -/
theorem kindOf_of_forall {links : List Root} (h : ∀ f, .failure f ∉ links) :
    kindOf links = .commandFailed := by
  have hnone : links.findSome? Root.failure? = none := by
    rw [List.findSome?_eq_none_iff]
    intro link hlink
    cases link with
    | failure f => exact absurd hlink (h f)
    | note text => rfl
  rw [kindOf, hnone]

end Report

/-! ### Causes -/

/-- The failure has a cause: its text is what is said of the failure and,
behind that, what is said of the cause. -/
inductive Failure.Because : Failure → (said cause : String) → Prop
  | source (path : String) (cause : Host.Cause) :
      Because (.sourceUnavailable path cause) path cause.message
  | pattern (refusal : Pattern.Refusal) :
      Because (.invalidPattern refusal) "invalid pattern" refusal.message
  | spawn (program : String) (cause : Host.Cause) :
      Because (.spawnFailure program cause) ("failed to run " ++ program) cause.message

theorem Failure.Because.message_eq {f : Failure} {said cause : String} (h : f.Because said cause) :
    f.message = said ++ ": " ++ cause := by
  cases h with
  | source path cause => rfl
  | pattern refusal => rfl
  | spawn program cause => rfl

/-! ### Failures as outcomes -/

namespace Report

section
variable (contexts : List String)

/-- A failure that has passed some places is the last link behind
them. -/
theorem chain_wrapped (f : Failure) :
    (contexts.foldr within (ofFailure f)).chain = contexts.map .note ++ [.failure f] :=
  chain_foldr_within contexts (ofFailure f)

/-- It keeps its kind, and its text stands behind their names. -/
theorem ofReport_wrapped (f : Failure) :
    Outcome.ofReport (contexts.foldr within (ofFailure f))
      = .failure f.kind (": ".intercalate (contexts ++ [f.message])) := by
  rw [ofReport_eq_chain, chain_wrapped, kindOf_notes_append, messageOf_notes_append]
  rfl

/-- Its cause is said at the end, and what stands in front of that does
not depend on the cause. -/
theorem message_wrapped_of_because {f : Failure} {said cause : String} (h : f.Because said cause) :
    (contexts.foldr within (ofFailure f)).message
      = ": ".intercalate (contexts ++ [said, cause]) := by
  have hlast : ": ".intercalate [said ++ ": " ++ cause] = ": ".intercalate [said, cause] := by
    rw [String.intercalate_singleton, String.intercalate_cons_cons, String.intercalate_singleton]
  rw [message_eq_messageOf, chain_wrapped, messageOf_notes_append]
  show ": ".intercalate (contexts ++ [f.message]) = _
  rw [h.message_eq]
  cases contexts with
  | nil => exact hlast
  | cons place contexts =>
      have hplaces : place :: contexts ≠ [] := List.cons_ne_nil place contexts
      rw [String.intercalate_append_of_ne_nil hplaces (List.cons_ne_nil _ []), hlast,
        String.intercalate_append_of_ne_nil hplaces (List.cons_ne_nil said [cause])]

end

end Report

/-- A search that fails, as a command: its arguments are accepted and
have no more than two operands among them. -/
theorem Search.dispatch_search_error {launch : Launcher} {c : Command} {given : Args.Given}
    {input : Option String} {env : Environment} {world : World} {f : Failure}
    (hname : c.name = searchName) (hread : Builtin.grep.spec.read c.args = .ok given)
    (hlength : given.operands.length ≤ 2)
    (hsearch : search ((Builtin.Call.mk given c.literal input env world).searchOptions
      given.operands.head?) world.read input (given.operands[1]?.map env.resolve) = .error f) :
    launch.shell.dispatch c input env world
      = (.ofReport ((Report.ofFailure f).within searchName), env, world) := by
  have hact := grep_act_of_length_le ⟨given, c.literal, input, env, world⟩ hlength
  rw [hsearch] at hact
  rw [Builtin.dispatch_of_mem (b := Builtin.grep) (by simp [Builtin.all]) hname]
  exact Builtin.handler_of_report hread hact

/-! ### What a user sees -/

/-- A mark stands in front of a failure: one for options, and another for
anything else. -/
theorem Outcome.render_failure (kind : Kind) (message : String) :
    (Outcome.failure kind message).render
      = (if kind = .unknownOption then "ERR: " else "ERROR: ") ++ message := by
  cases kind <;> rfl

/-- Neither mark begins like the other. -/
theorem Outcome.mark_iff (kind : Kind) (message : String) :
    ("ERR: ".toList <+: (Outcome.failure kind message).render.toList ↔ kind = .unknownOption) ∧
    ("ERROR: ".toList <+: (Outcome.failure kind message).render.toList ↔
      kind ≠ .unknownOption) := by
  rw [Outcome.render_failure, String.toList_append]
  by_cases h : kind = .unknownOption
  · simp [h]
  · simp [h]

/-- A failure that is wrapped in the names of places keeps its kind. Its
text stands behind those names and has its cause in it once, since the
chain of the report ends with it. A chain without a failure is that of a
command that failed in some other way. So a search that fails is reported
under the name of its command, and shown with the mark for its kind. -/
theorem failure_survives_wrapping :
    (∀ (f : Failure) (contexts : List String),
      let r := contexts.foldr Report.within (.ofFailure f)
      Outcome.ofReport r = .failure f.kind (": ".intercalate (contexts ++ [f.message])) ∧
      r.chain = contexts.map .note ++ [.failure f] ∧
      ∀ said cause, f.Because said cause →
        r.message = ": ".intercalate (contexts ++ [said, cause])) ∧
    (∀ r : Report,
      Outcome.ofReport r = .failure (Report.kindOf r.chain) (Report.messageOf r.chain) ∧
      ((∀ f, .failure f ∉ r.chain) →
        Outcome.ofReport r = .failure .commandFailed (Report.messageOf r.chain))) ∧
    (∀ (launch : Launcher) (c : Command) (given : Args.Given) (input : Option String)
      (env : Environment) (world : World) (f : Failure), c.name = searchName →
      Builtin.grep.spec.read c.args = .ok given → given.operands.length ≤ 2 →
      search ((Builtin.Call.mk given c.literal input env world).searchOptions given.operands.head?)
        world.read input (given.operands[1]?.map env.resolve) = .error f →
      launch.shell.dispatch c input env world
        = (.failure f.kind ("grep: " ++ f.message), env, world)) ∧
    ∀ (kind : Kind) (message : String),
      let shown := (Outcome.failure kind message).render
      shown = (if kind = .unknownOption then "ERR: " else "ERROR: ") ++ message ∧
      ("ERR: ".toList <+: shown.toList ↔ kind = .unknownOption) ∧
      ("ERROR: ".toList <+: shown.toList ↔ kind ≠ .unknownOption) := by
  refine ⟨?wrapped, ?chain, ?search, ?shown⟩
  case wrapped =>
    intro f contexts
    exact ⟨Report.ofReport_wrapped contexts f, Report.chain_wrapped contexts f,
      fun said cause h => Report.message_wrapped_of_because contexts h⟩
  case chain =>
    intro r
    refine ⟨Report.ofReport_eq_chain r, fun hnone => ?_⟩
    rw [Report.ofReport_eq_chain, Report.kindOf_of_forall hnone]
  case search =>
    intro launch c given input env world f hname hread hlength hsearch
    rw [Search.dispatch_search_error hname hread hlength hsearch]
    rfl
  case shown =>
    intro kind message
    exact ⟨Outcome.render_failure kind message, Outcome.mark_iff kind message⟩

/-- A file that is not there, reported from within two places and from a
search, and a search without a pattern. -/
theorem failure_survives_wrapping_missing_file :
    let env : Environment := .within "/"
    let world : World := ⟨.empty, [], [], []⟩
    let missing : Failure := .sourceUnavailable "/f" .noEntry
    let places : List String := ["rc", "line 2"]
    Outcome.ofReport (places.foldr Report.within (.ofFailure missing))
        = .failure .sourceUnavailable "rc: line 2: /f: No such file or directory (os error 2)" ∧
      shell.dispatch ⟨"grep", ["a", "f"], false⟩ none env world
        = (.failure .sourceUnavailable "grep: /f: No such file or directory (os error 2)",
            env, world) ∧
      shell.dispatch ⟨"grep", [], false⟩ none env world
        = (.failure .missingPattern "grep: missing pattern", env, world) := by
  intro env world missing places
  obtain ⟨hwrapped, -, hsearch, -⟩ := failure_survives_wrapping
  have hfile : Builtin.grep.spec.read ["a", "f"] = .ok ⟨[], [], ["a", "f"]⟩ := by decide +kernel
  have hnone : Builtin.grep.spec.read [] = .ok ⟨[], [], []⟩ := by decide +kernel
  refine ⟨(hwrapped missing places).1.trans (by decide +kernel), ?_, ?_⟩
  · exact hsearch Host.standIn ⟨"grep", ["a", "f"], false⟩ _ none env world missing rfl hfile
      (by decide) (by decide +kernel)
  · exact hsearch Host.standIn ⟨"grep", [], false⟩ _ none env world .missingPattern rfl hnone
      (by decide) rfl

end PipeShell
