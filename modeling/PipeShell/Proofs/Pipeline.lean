import PipeShell.Pipeline
import PipeShell.Proofs.Dispatch

/-!
# `PipeShell.Proofs.Pipeline`: what runs in a pipeline

A `Stage` is one command of a run with its server and all it was given.
`IsRun` says which stages make up the run of a pipeline: they take the
commands in order, the first gets no input, each of the others gets what
the one before it left, and they stop at the first failure or at the
end. `stages` lists the stages of a run as it goes.

* `runFrom_eq_lastLeft`: a run leaves what its last stage left.
* `isRun_stages`: the stages of a run are as they should be.
* `runFrom_logged`: when every handler notes down its calls, the notes
  of a run are the stages that call a handler, each once and in order.
* `runFrom_append`: a run of two pipelines in a row is a run of the
  first and, if that succeeds, of the second on its output.
* `run_eq_run_of_stages`: all of this for the dispatchers that come
  about by registering handlers.
-/

set_option autoImplicit false

namespace PipeShell

/-- A call of a handler. -/
structure Call (w : Type) where
  handler : Handler w
  command : Command
  input : Option String
  env : Environment
  world : w

/-- The handler that notes down its calls, the latest one last. -/
def Handler.logged {w : Type} (h : Handler w) : Handler (w × List (Call w)) :=
  fun c input env (world, log) =>
    let (outcome, env', world') := h c input env world
    (outcome, env', world', log ++ [⟨h, c, input, env, world⟩])

namespace Dispatcher

variable {w : Type}

/-- The dispatcher whose handlers note down their calls. -/
def logged (d : Dispatcher w) : Dispatcher (w × List (Call w)) where
  handlers := d.handlers.map fun (name, h) => (name, h.logged)
  fallback := d.fallback.logged

/-! ### The stages of a run -/

/-- One command of a run, who serves it, and what it is given. -/
structure Stage (w : Type) where
  command : Command
  server : Server w
  input : Option String
  env : Environment
  world : w

namespace Stage

/-- What the stage leaves. -/
def left (s : Stage w) : Outcome × Environment × w :=
  s.server.act s.command s.input s.env s.world

/-- The call that the stage makes, unless it sets a variable. -/
def call? (s : Stage w) : Option (Call w) :=
  match s.server with
  | .handler h => some ⟨h, s.command, s.input, s.env, s.world⟩
  | .assignment _ => none

/-- Stage `t` is given what stage `s` left, even an empty output. -/
def Feeds (s t : Stage w) : Prop :=
  ∃ output, s.left = (.success output, t.env, t.world) ∧ t.input = some output

end Stage

/-- What the last stage left, or what there was before any stage. -/
def lastLeft (before : Outcome × Environment × w) (stages : List (Stage w)) :
    Outcome × Environment × w :=
  (stages.getLast?.map Stage.left).getD before

/-- The stages of a run, the first of them with the given input. -/
def stages (d : Dispatcher w) : (input : Option String) → List Command → Environment → w →
    List (Stage w)
  | _, [], _, _ => []
  | input, c :: cs, env, world =>
      let s : Stage w := ⟨c, d.server c, input, env, world⟩
      match s.left with
      | (.success output, env', world') => s :: d.stages (some output) cs env' world'
      | (.failure _ _, _, _) => [s]

section
variable (d : Dispatcher w) {c : Command} {cs : List Command} {input : Option String}
  {env env' : Environment} {world world' : w} {output : String} {kind : Kind} {message : String}

theorem stages_of_success
    (h : (d.server c).act c input env world = (.success output, env', world')) :
    d.stages input (c :: cs) env world
      = ⟨c, d.server c, input, env, world⟩ :: d.stages (some output) cs env' world' := by
  simp only [stages, Stage.left, h]

theorem stages_of_failure
    (h : (d.server c).act c input env world = (.failure kind message, env', world')) :
    d.stages input (c :: cs) env world = [⟨c, d.server c, input, env, world⟩] := by
  simp only [stages, Stage.left, h]

theorem runFrom_of_success
    (h : (d.server c).act c input env world = (.success output, env', world')) :
    d.runFrom input (c :: cs) env world = d.runFrom (some output) cs env' world' := by
  simp only [runFrom, dispatch_eq_act, h]

theorem runFrom_of_failure
    (h : (d.server c).act c input env world = (.failure kind message, env', world')) :
    d.runFrom input (c :: cs) env world = (.failure kind message, env', world') := by
  simp only [runFrom, dispatch_eq_act, h]

end

section
variable (d : Dispatcher w)

theorem lastLeft_cons (before : Outcome × Environment × w) (s : Stage w)
    (rest : List (Stage w)) : lastLeft before (s :: rest) = lastLeft s.left rest := by
  rw [lastLeft, List.getLast?_cons, lastLeft]
  cases rest.getLast? <;> rfl

/-- A run leaves what its last stage left. -/
theorem runFrom_eq_lastLeft (commands : List Command) (input : Option String)
    (env : Environment) (world : w) :
    d.runFrom input commands env world
      = lastLeft (.success (input.getD ""), env, world) (d.stages input commands env world) := by
  induction commands generalizing input env world with
  | nil => rfl
  | cons c cs ih =>
      rcases h : (d.server c).act c input env world with ⟨output | ⟨kind, message⟩, env', world'⟩
      · rw [runFrom_of_success d h, stages_of_success d h, lastLeft_cons, ih]
        show _ = lastLeft ((d.server c).act c input env world) _
        rw [h]
        rfl
      · rw [runFrom_of_failure d h, stages_of_failure d h, lastLeft_cons]
        exact h.symm

/-- A run of a single command. -/
theorem runFrom_singleton (c : Command) (input : Option String) (env : Environment) (world : w) :
    d.runFrom input [c] env world = d.dispatch c input env world := by
  rcases h : (d.server c).act c input env world with ⟨output | ⟨kind, message⟩, env', world'⟩
  · rw [runFrom_of_success d h, dispatch_eq_act, h]
    rfl
  · rw [runFrom_of_failure d h, dispatch_eq_act, h]

/-- A run of two commands of which the first succeeds. -/
theorem runFrom_pair {c c' : Command} {input : Option String} {env env' : Environment}
    {world world' : w} {output : String}
    (h : d.dispatch c input env world = (.success output, env', world')) :
    d.runFrom input [c, c'] env world = d.dispatch c' (some output) env' world' := by
  rw [dispatch_eq_act] at h
  rw [runFrom_of_success d h]
  exact runFrom_singleton d c' (some output) env' world'

/-- A run of two pipelines in a row. -/
theorem runFrom_append (xs ys : List Command) (input : Option String) (env : Environment)
    (world : w) (hxs : xs ≠ []) :
    d.runFrom input (xs ++ ys) env world
      = match d.runFrom input xs env world with
        | (.success output, env', world') => d.runFrom (some output) ys env' world'
        | (.failure kind message, env', world') => (.failure kind message, env', world') := by
  induction xs generalizing input env world with
  | nil => exact absurd rfl hxs
  | cons c cs ih =>
      rw [List.cons_append]
      rcases h : (d.server c).act c input env world with ⟨output | ⟨kind, message⟩, env', world'⟩
      · rw [runFrom_of_success d h, runFrom_of_success d h]
        -- Past its last command `xs` has an input, and that input is its output.
        cases cs with
        | nil => rfl
        | cons c' cs => exact ih (some output) env' world' (List.cons_ne_nil c' cs)
      · rw [runFrom_of_failure d h, runFrom_of_failure d h]

end

/-! ### What makes up a run -/

/-- The stages make up a run of the commands from the given input,
session and world on, when `serves` says who serves a command. -/
structure IsRun (serves : Command → Server w → Prop) (input : Option String)
    (commands : List Command) (env : Environment) (world : w) (stages : List (Stage w)) :
    Prop where
  /-- The stages take the commands in order, each of them once. -/
  inOrder : stages.map Stage.command <+: commands
  served : ∀ s ∈ stages, serves s.command s.server
  first : ∀ s ∈ stages.head?, s.input = input ∧ s.env = env ∧ s.world = world
  /-- Each stage but the last succeeds and feeds the next one. -/
  linked : ∀ i s t, stages[i]? = some s → stages[i + 1]? = some t → s.Feeds t
  /-- The stages only stop at the end of the pipeline or at a failure. -/
  complete : stages.map Stage.command = commands ∨
    ∃ s ∈ stages.getLast?, s.left.1.isFailure = true

section
variable {serves : Command → Server w → Prop} {commands : List Command}

/-- Without commands there are no stages. -/
theorem isRun_nil (input : Option String) (env : Environment) (world : w) :
    IsRun serves input [] env world [] where
  inOrder := List.nil_prefix
  served := by simp
  first := by simp
  linked := by simp
  complete := .inl rfl

/-- A stage that fails is the last one. -/
theorem isRun_of_failure {s : Stage w} (hserves : serves s.command s.server)
    (hleft : s.left.1.isFailure = true) :
    IsRun serves s.input (s.command :: commands) s.env s.world [s] where
  inOrder := by simp
  served := by simpa using hserves
  first := by simp
  linked := by simp
  complete := .inr ⟨s, rfl, hleft⟩

/-- A stage that succeeds is followed by a run on what it left. -/
theorem IsRun.cons {s : Stage w} {rest : List (Stage w)} {output : String} {env' : Environment}
    {world' : w} (hserves : serves s.command s.server)
    (hleft : s.left = (.success output, env', world'))
    (h : IsRun serves (some output) commands env' world' rest) :
    IsRun serves s.input (s.command :: commands) s.env s.world (s :: rest) where
  inOrder := List.cons_prefix_cons.mpr ⟨rfl, h.inOrder⟩
  served := List.forall_mem_cons.mpr ⟨hserves, h.served⟩
  first := by simp
  linked := by
    intro i a b ha hb
    cases i with
    | zero =>
        -- The first link is the only one that is not among those of the rest.
        cases ha
        obtain ⟨hinput, henv, hworld⟩ := h.first b (by rw [List.head?_eq_getElem?]; exact hb)
        exact ⟨output, by rw [hleft, henv, hworld], hinput⟩
    | succ i => exact h.linked i a b ha hb
  complete := by
    rcases h.complete with hall | ⟨last, hlast, hfails⟩
    · exact .inl (by rw [List.map_cons, hall])
    · -- A failure at the end of the rest is one at the end of the whole.
      refine .inr ⟨last, ?_, hfails⟩
      rw [List.getLast?_cons, Option.mem_def.mp hlast]
      rfl

/-- The stages of a dispatcher make up its runs. -/
theorem isRun_stages (d : Dispatcher w) (hserves : ∀ c, serves c (d.server c))
    (commands : List Command) (input : Option String) (env : Environment) (world : w) :
    IsRun serves input commands env world (d.stages input commands env world) := by
  induction commands generalizing input env world with
  | nil => exact isRun_nil input env world
  | cons c cs ih =>
      rcases h : (d.server c).act c input env world with ⟨output | ⟨kind, message⟩, env', world'⟩
      · rw [stages_of_success d h]
        exact IsRun.cons (s := ⟨c, d.server c, input, env, world⟩) (hserves c) h
          (ih (some output) env' world')
      · rw [stages_of_failure d h]
        exact isRun_of_failure (s := ⟨c, d.server c, input, env, world⟩) (hserves c)
          (by rw [Stage.left, h]; rfl)

end

/-! ### Calls noted down -/

/-- The server that notes down its calls. -/
def Server.logged : Server w → Server (w × List (Call w))
  | handler h => handler h.logged
  | assignment a => assignment a

/-- Handlers under the same names, each of them changed. -/
theorem lookup_map_handler {v : Type} (f : Handler w → Handler v)
    (entries : List (String × Handler w)) (name : String) :
    (entries.map fun (n, h) => (n, f h)).lookup name = (entries.lookup name).map f := by
  induction entries with
  | nil => rfl
  | cons r entries ih =>
      rw [List.map_cons, List.lookup_cons, List.lookup_cons, ih]
      cases name == r.1 <;> rfl

/-- Noting down calls does not change who serves a command. -/
theorem server_logged (d : Dispatcher w) (c : Command) :
    d.logged.server c = (d.server c).logged := by
  rw [server, server, handler?, handler?, logged, lookup_map_handler]
  cases d.handlers.lookup c.name with
  | some h => rfl
  | none => cases assignment? c <;> rfl

/-- A stage leaves the same, and its call is noted down. -/
theorem act_logged (s : Stage w) (log : List (Call w)) :
    s.server.logged.act s.command s.input s.env (s.world, log)
      = (s.left.1, s.left.2.1, s.left.2.2, log ++ s.call?.toList) := by
  obtain ⟨c, server, input, env, world⟩ := s
  cases server with
  | handler h => rfl
  | assignment a => simp [Server.logged, Server.act, Stage.left, Stage.call?]

/-- The notes of a run are the calls of its stages. -/
theorem runFrom_logged (d : Dispatcher w) (commands : List Command) (input : Option String)
    (env : Environment) (world : w) (log : List (Call w)) :
    d.logged.runFrom input commands env (world, log)
      = ((d.runFrom input commands env world).1, (d.runFrom input commands env world).2.1,
          (d.runFrom input commands env world).2.2,
          log ++ (d.stages input commands env world).filterMap Stage.call?) := by
  induction commands generalizing input env world log with
  | nil => simp [runFrom, stages]
  | cons c cs ih =>
      -- The first command writes its own call, and the notes of the rest come after it.
      have hact := act_logged ⟨c, d.server c, input, env, world⟩ log
      rw [← server_logged] at hact
      rcases h : (d.server c).act c input env world with ⟨output | ⟨kind, message⟩, env', world'⟩
      · simp only [Stage.left, h] at hact
        rw [runFrom_of_success d.logged hact, ih, runFrom_of_success d h, stages_of_success d h]
        rw [List.filterMap_cons, List.append_assoc]
        cases Stage.call? ⟨c, d.server c, input, env, world⟩ <;> rfl
      · simp only [Stage.left, h] at hact
        rw [runFrom_of_failure d.logged hact, runFrom_of_failure d h, stages_of_failure d h]
        rw [List.filterMap_cons]
        cases Stage.call? ⟨c, d.server c, input, env, world⟩ <;> rfl

/-! ### Dispatchers that come about by registering -/

/-- Whatever handlers there were from the start and whatever was
registered after that, a pipeline runs through its stages and leaves
what the last of them left. Its handlers are called for those stages
and no others. A pipeline that begins with another one goes on from what
that one left, unless it failed. -/
theorem run_eq_run_of_stages (start regs : List (String × Handler w)) (fallback : Handler w)
    (commands : List Command) (env : Environment) (world : w) :
    let d := (Dispatcher.mk start fallback).registerAll regs
    (∃ stages : List (Stage w),
      let left := lastLeft (.success "", env, world) stages
      IsRun (Serves start regs fallback) none commands env world stages ∧
      d.run commands env world = left ∧
      d.logged.run commands env (world, [])
        = (left.1, left.2.1, left.2.2, stages.filterMap Stage.call?)) ∧
    ∀ xs ys : List Command, xs ≠ [] →
      d.run (xs ++ ys) env world
        = match d.run xs env world with
          | (.success output, env', world') => d.runFrom (some output) ys env' world'
          | (.failure kind message, env', world') => (.failure kind message, env', world') := by
  intro d
  have hrun : d.run commands env world
      = lastLeft (.success "", env, world) (d.stages none commands env world) :=
    runFrom_eq_lastLeft d commands none env world
  refine ⟨⟨d.stages none commands env world, ?_, hrun, ?_⟩, ?_⟩
  · exact isRun_stages d (serves_server start regs fallback) commands none env world
  · rw [← hrun]
    exact runFrom_logged d commands none env world []
  · intro xs ys hxs
    exact runFrom_append d xs ys none env world hxs

end Dispatcher

end PipeShell
