import PipeShell.Proofs.Builtin
import PipeShell.Proofs.Pipeline
import PipeShell.Program

/-!
# `PipeShell.Proofs.Session`: what a session can turn into

A session is handed to every command of every line. `Leaves` says what a
command may leave of it when it succeeds: `cd` moves it to a directory,
an assignment sets one variable, `exit` asks it to end, and nothing else
changes it. A command that fails leaves it as it was. `Extends` is what
this comes to over many commands: a request to end stays, variables stay
set, and a variable that was not there before has a name that a
reference can name.

* `env_of_dispatch_failure`, `leaves_of_dispatch_success`: one command.
* `Leaves.extends`, `runFrom_rel`, `extends_runLine`,
  `extends_sessionAfter`: from one command to a pipeline, and from a
  line to any number of lines.
* `runFrom_eq_failure`: where a pipeline stops.
* `expand_reference`: a reference reads back what was set.
* `shell_session`: all of this together.
-/

set_option autoImplicit false

namespace PipeShell

open Host (World Place Launcher)

/-! ### Variables -/

namespace Environment

theorem lookup_cons_pair (n m v : String) (rest : List (String × String)) :
    ((m, v) :: rest).lookup n = if n = m then some v else rest.lookup n := by
  rw [List.lookup_cons]
  by_cases h : n = m
  · simp [h]
  · rw [beq_eq_false_iff_ne.mpr h, if_neg h]

/-- Setting a variable changes what is found under its name, and nothing
else. -/
theorem lookup_assignIn (name value n : String) (vars : List (String × String)) :
    (assignIn name value vars).lookup n = if n = name then some value else vars.lookup n := by
  induction vars with
  | nil => exact lookup_cons_pair n name value []
  | cons entry rest ih =>
      obtain ⟨m, v⟩ := entry
      rw [assignIn]
      by_cases hm : m = name
      · subst hm
        rw [if_pos (beq_self_eq_true m), lookup_cons_pair, lookup_cons_pair]
        split <;> rfl
      · rw [if_neg (by simpa using hm), lookup_cons_pair, lookup_cons_pair, ih]
        by_cases hn : n = m
        · rw [if_pos hn, if_pos hn, if_neg (hn ▸ hm)]
        · rw [if_neg hn, if_neg hn]

/-- The second session is the first one with one variable set. -/
structure Sets (env : Environment) (a : Line.Assignment) (env' : Environment) : Prop where
  lookup : ∀ name, env'.lookup name = if name = a.name then some a.value else env.lookup name
  dir : env'.dir = env.dir
  exiting : env'.exiting = env.exiting

theorem sets_assign (env : Environment) (a : Line.Assignment) :
    env.Sets a (env.assign a.name a.value) where
  lookup := fun name => lookup_assignIn a.name a.value name env.vars
  dir := rfl
  exiting := rfl

end Environment

/-! ### One command -/

/-- The command makes an assignment to a variable that a reference can
name: it consists of the assignment alone, or it is `set` with the
assignment as its operand. -/
def MakesAssignment (c : Command) (a : Line.Assignment) : Prop :=
  Dispatcher.Assigns c a ∨
    c.name = "set" ∧ Line.Assignment.isName a.name.toList = true ∧
      ∃ given, Builtin.set.spec.read c.args = .ok given ∧ given.operands.head? = some a.text

/-- What a command that succeeds leaves of the session. -/
inductive Leaves (c : Command) (env : Environment) (world : World) : Environment → Prop where
  /-- A built-in command that is asked for help does nothing. -/
  | helped {b : Builtin} :
      b ∈ Builtin.all → c.name = b.name → b.spec.read c.args = .error .help →
      Leaves c env world env
  /-- `cd` changes the directory, to the path of a directory. There is no
  link on that path; for a target that is seen from the program's own
  directory this takes that directory to be one itself. -/
  | moved {given : Args.Given} {target : String} {place : Place} :
      c.name = "cd" → Builtin.cd.spec.read c.args = .ok given →
      Builtin.Call.target? ⟨given, c.literal, none, env, world⟩ = some target →
      world.locate (env.resolve target) = .ok place → world.isDir place.path = true →
      (Host.Path.isAbsolute (env.resolve target) = true ∨ world.tree.Holds world.dir .dir →
        world.tree.Holds place .dir) →
      Leaves c env world { env with dir := place.path }
  /-- An assignment changes one variable. -/
  | assigned {a : Line.Assignment} {env' : Environment} :
      MakesAssignment c a → env.Sets a env' → Leaves c env world env'
  /-- `exit` leaves a request to end. -/
  | asked {given : Args.Given} :
      c.name = "exit" → Builtin.exit.spec.read c.args = .ok given →
      Leaves c env world { env with exiting := true }
  /-- Every other command does nothing. -/
  | untouched :
      c.name ≠ "cd" → c.name ≠ "set" → c.name ≠ "exit" → (∀ a, ¬ Dispatcher.Assigns c a) →
      Leaves c env world env

section
variable {launch : Launcher} {c : Command} {input : Option String} {env env' : Environment}
  {world world' : World} {output message : String} {kind : Kind}

/-- The names that the shell knows are those of the built-in commands. -/
theorem exists_builtin_of_handler? {name : String} {h : Handler World}
    (hh : launch.shell.handler? name = some h) :
    ∃ b ∈ Builtin.all, name = b.name ∧ h = b.handler := by
  obtain ⟨before, after, hsplit, -⟩ := List.lookup_eq_some_iff.mp hh
  have hmem : (name, h) ∈ Builtin.all.map fun b => (b.name, b.handler) := by
    rw [show (Builtin.all.map fun b => (b.name, b.handler)) = launch.shell.handlers from rfl,
      hsplit]
    simp
  obtain ⟨b, hb, heq⟩ := List.mem_map.mp hmem
  cases heq
  exact ⟨b, hb, rfl, rfl⟩

/-- No built-in command has a name that is an assignment. -/
theorem not_assigns_of_mem {b : Builtin} (hb : b ∈ Builtin.all) (hname : c.name = b.name)
    (a : Line.Assignment) : ¬ Dispatcher.Assigns c a := by
  rintro ⟨-, htext, -⟩
  have hnone : ∀ b ∈ Builtin.all, '=' ∉ b.name.toList := by decide
  refine hnone b hb ?_
  rw [← hname, htext, Line.Assignment.text]
  simp

/-- A program cannot touch the session. -/
theorem env_of_external {outcome : Outcome}
    (h : External.handler launch c input env world = (outcome, env', world')) : env' = env := by
  rw [External.handler] at h
  split at h
  · cases h
    rfl
  · split at h
    · cases h
      rfl
    · cases h
      rfl

/-- A command that fails leaves the session as it was. -/
theorem env_of_dispatch_failure
    (h : launch.shell.dispatch c input env world = (.failure kind message, env', world')) :
    env' = env := by
  rw [Dispatcher.dispatch] at h
  cases hh : launch.shell.handler? c.name with
  | some hd =>
      obtain ⟨b, hb, -, rfl⟩ := exists_builtin_of_handler? hh
      rw [hh] at h
      exact Builtin.handler_of_failure hb h
  | none =>
      rw [hh] at h
      cases ha : Dispatcher.assignment? c with
      | some a => simp only [ha] at h; cases h
      | none =>
          simp only [ha] at h
          exact env_of_external h

/-- What a built-in command leaves of the session when it acts on its
arguments and succeeds. -/
theorem leaves_of_act {b : Builtin} {given : Args.Given} (hb : b ∈ Builtin.all)
    (hname : c.name = b.name) (hread : b.spec.read c.args = .ok given)
    (hact : b.act ⟨given, c.literal, input, env, world⟩ = (.ok output, env')) :
    Leaves c env world env' := by
  by_cases hcd : b.name = "cd"
  · obtain rfl : b = Builtin.cd := Builtin.eq_of_name hb (by simp [Builtin.all]) hcd
    obtain ⟨target, place, htarget, hplace, hdir, rfl⟩ := Builtin.cd_act hact
    exact .moved hname hread htarget hplace hdir
      fun hbase => World.holds_of_locate hbase hplace hdir
  by_cases hset : b.name = "set"
  · obtain rfl : b = Builtin.set := Builtin.eq_of_name hb (by simp [Builtin.all]) hset
    obtain ⟨a, htext, ha, rfl⟩ := Builtin.set_act hact
    exact .assigned (.inr ⟨hname, ha, given, hread, htext⟩) (env.sets_assign a)
  by_cases hexit : b.name = "exit"
  · obtain rfl : b = Builtin.exit := Builtin.eq_of_name hb (by simp [Builtin.all]) hexit
    obtain rfl := Builtin.exit_act hact
    exact .asked hname hread
  · have hkeeps := Builtin.keeps_of_mem hb hcd hset hexit ⟨given, c.literal, input, env, world⟩
    rw [hact] at hkeeps
    obtain rfl : env' = env := hkeeps
    exact .untouched (hname ▸ hcd) (hname ▸ hset) (hname ▸ hexit) (not_assigns_of_mem hb hname)

/-- What a command leaves of the session when it succeeds. -/
theorem leaves_of_dispatch_success
    (h : launch.shell.dispatch c input env world = (.success output, env', world')) :
    Leaves c env world env' := by
  rw [Dispatcher.dispatch] at h
  cases hh : launch.shell.handler? c.name with
  | some hd =>
      obtain ⟨b, hb, hname, rfl⟩ := exists_builtin_of_handler? hh
      rw [hh] at h
      rcases Builtin.handler_of_success h with ⟨hhelp, rfl⟩ | ⟨given, hread, hact⟩
      · exact .helped hb hname hhelp
      · exact leaves_of_act hb hname hread hact
  | none =>
      rw [hh] at h
      cases ha : Dispatcher.assignment? c with
      | some a =>
          simp only [ha] at h
          cases h
          exact .assigned (.inl (Dispatcher.assignment?_eq_some.mp ha)) (env.sets_assign a)
      | none =>
          simp only [ha] at h
          obtain rfl := env_of_external h
          -- The three names that could have changed the session are taken.
          have hother : ∀ b ∈ Builtin.all, c.name ≠ b.name := fun b hb hname =>
            Dispatcher.lookup_eq_none.mp hh _ (List.mem_map_of_mem hb) hname.symm
          have hassigns : ∀ a, ¬ Dispatcher.Assigns c a := by
            intro a hassign
            rw [Dispatcher.assignment?_eq_some.mpr hassign] at ha
            cases ha
          exact .untouched (hother Builtin.cd (by simp [Builtin.all]))
            (hother Builtin.set (by simp [Builtin.all]))
            (hother Builtin.exit (by simp [Builtin.all])) hassigns

end

/-! ### Many commands -/

/-- What may become of a session in the long run. -/
structure Environment.Extends (env env' : Environment) : Prop where
  /-- A request to end is never taken back. -/
  exiting : env.exiting = true → env'.exiting = true
  /-- No variable is removed. -/
  kept : ∀ name, (env.lookup name).isSome = true → (env'.lookup name).isSome = true
  /-- A variable that is new has a name that a reference can name. -/
  fresh : ∀ name, env.lookup name = none → (env'.lookup name).isSome = true →
    Line.Assignment.isName name.toList = true

namespace Environment.Extends

theorem refl (env : Environment) : env.Extends env where
  exiting := id
  kept := fun _ => id
  fresh := fun name hnone hsome => by simp [hnone] at hsome

theorem trans {env env' env'' : Environment} (h : env.Extends env') (h' : env'.Extends env'') :
    env.Extends env'' where
  exiting := h'.exiting ∘ h.exiting
  kept := fun name hname => h'.kept name (h.kept name hname)
  fresh := by
    intro name hnone hsome
    -- A new variable came in either the first stretch or the second.
    cases hmid : env'.lookup name with
    | none => exact h'.fresh name hmid hsome
    | some value => exact h.fresh name hnone (by simp [hmid])

end Environment.Extends

/-- The name of an assignment that a command makes. -/
theorem MakesAssignment.isName {c : Command} {a : Line.Assignment} (h : MakesAssignment c a) :
    Line.Assignment.isName a.name.toList = true := by
  rcases h with ⟨-, -, hname⟩ | ⟨-, hname, -⟩
  · exact hname
  · exact hname

/-- One command extends the session. -/
theorem Leaves.extends {c : Command} {env env' : Environment} {world : World}
    (h : Leaves c env world env') : env.Extends env' := by
  cases h with
  | helped => exact .refl env
  | moved => exact ⟨id, fun _ => id, (Environment.Extends.refl env).fresh⟩
  | assigned hmakes hsets =>
      refine ⟨fun hexit => hsets.exiting ▸ hexit, fun name hname => ?_, fun name hnone hsome => ?_⟩
      · rw [hsets.lookup]
        split
        · rfl
        · exact hname
      · rw [hsets.lookup] at hsome
        split at hsome
        · rename_i heq
          exact heq ▸ hmakes.isName
        · simp [hnone] at hsome
  | asked => exact ⟨fun _ => rfl, fun _ => id, (Environment.Extends.refl env).fresh⟩
  | untouched => exact .refl env

namespace Dispatcher

variable {w : Type} (d : Dispatcher w)

/-- What every command does to a session, if it can be chained, a
pipeline does to it. -/
theorem runFrom_rel {R : Environment → Environment → Prop} (refl : ∀ env, R env env)
    (trans : ∀ {env env' env''}, R env env' → R env' env'' → R env env'')
    (step : ∀ c input env world, R env (d.dispatch c input env world).2.1)
    (commands : List Command) (input : Option String) (env : Environment) (world : w) :
    R env (d.runFrom input commands env world).2.1 := by
  induction commands generalizing input env world with
  | nil => exact refl env
  | cons c cs ih =>
      have hstep := step c input env world
      rcases hc : d.dispatch c input env world with ⟨output | ⟨kind, message⟩, env', world'⟩
      · rw [hc] at hstep
        rw [runFrom, hc]
        exact trans hstep (ih (some output) env' world')
      · rw [hc] at hstep
        rw [runFrom, hc]
        exact hstep

/-- A pipeline that fails has a first stage that fails. The stages before
it succeed, and their output is its input, if there are any. -/
theorem runFrom_eq_failure {commands : List Command} {input : Option String}
    {env env' : Environment} {world world' : w} {kind : Kind} {message : String}
    (h : d.runFrom input commands env world = (.failure kind message, env', world')) :
    ∃ before c after output env₁ world₁, commands = before ++ c :: after ∧
      d.runFrom input before env world = (.success output, env₁, world₁) ∧
      d.dispatch c (if before.isEmpty then input else some output) env₁ world₁
        = (.failure kind message, env', world') := by
  induction commands generalizing input env world with
  | nil => cases h
  | cons c cs ih =>
      rcases hc : d.dispatch c input env world with ⟨output | ⟨kind', message'⟩, env₁, world₁⟩
      · rw [runFrom, hc] at h
        obtain ⟨before, c', after, output', env₂, world₂, rfl, hbefore, hfails⟩ := ih h
        have hran : d.runFrom input (c :: before) env world = (.success output', env₂, world₂) := by
          rw [runFrom, hc]
          exact hbefore
        refine ⟨c :: before, c', after, output', env₂, world₂, rfl, hran, ?_⟩
        -- With no stage between them, the failing one reads what the first one wrote.
        cases before with
        | nil =>
            cases hbefore
            exact hfails
        | cons c'' before => exact hfails
      · rw [runFrom, hc] at h
        cases h
        exact ⟨[], c, cs, input.getD "", env, world, rfl, rfl, hc⟩

end Dispatcher

/-! ### Many lines -/

/-- The session after lines were run in it one after the other. The world
may change in any way between two lines. -/
def sessionAfter (launch : Launcher) (env : Environment) (calls : List (String × World)) :
    Environment :=
  calls.foldl (fun env call => (launch.shell.runLine call.1 env call.2).2.1) env

section
variable (launch : Launcher)

/-- One command extends the session, whether or not it succeeds. -/
theorem extends_dispatch (c : Command) (input : Option String) (env : Environment)
    (world : World) : env.Extends (launch.shell.dispatch c input env world).2.1 := by
  rcases h : launch.shell.dispatch c input env world with ⟨output | ⟨kind, message⟩, env', world'⟩
  · exact (leaves_of_dispatch_success h).extends
  · rw [env_of_dispatch_failure h]
    exact .refl env

/-- A line extends the session. -/
theorem extends_runLine (line : String) (env : Environment) (world : World) :
    env.Extends (launch.shell.runLine line env world).2.1 := by
  rw [Dispatcher.runLine, Dispatcher.run]
  exact launch.shell.runFrom_rel .refl .trans (extends_dispatch launch)
    (Line.parse env.lookup line) none env world

/-- Any number of lines extend the session. -/
theorem extends_sessionAfter (calls : List (String × World)) (env : Environment) :
    env.Extends (sessionAfter launch env calls) := by
  induction calls generalizing env with
  | nil => exact .refl env
  | cons call calls ih =>
      rw [sessionAfter, List.foldl_cons]
      have hline := extends_runLine launch call.1 env call.2
      exact hline.trans (ih (launch.shell.runLine call.1 env call.2).2.1)

end

/-- A reference to a variable reads back its value. -/
theorem expand_reference {lookup : String → Option String} {name value : String}
    (hname : Line.Assignment.isName name.toList = true) (hvalue : lookup name = some value) :
    Line.expand lookup ("$" ++ name) = value := by
  have hsource : ("$" ++ name).toList = '$' :: (name.toList ++ []) := by simp
  have hends : Line.EndsName [] := fun c hc => nomatch hc
  have hsegments : Line.segments ("$" ++ name).toList = [.ref name.toList] := by
    rw [hsource, Line.segments_ref hname hends]
    rfl
  rw [Line.expand, hsegments]
  simp [Line.expandFrom, hvalue]

/-- A command that fails leaves the session as it was, and one that
succeeds leaves of it what `Leaves` says. So over any number of lines a
request to end is never taken back and no variable is removed, a
variable that is new can be read back by a reference, and a line that
fails leaves the session that the stages before the failing one left.
All this is so whatever programs do, since none is handed the session. -/
theorem shell_session (launch : Launcher) :
    (∀ c input env world kind message env' world',
      launch.shell.dispatch c input env world = (.failure kind message, env', world') →
        env' = env) ∧
    (∀ c input env world output env' world',
      launch.shell.dispatch c input env world = (.success output, env', world') →
        Leaves c env world env') ∧
    (∀ env calls, let later := sessionAfter launch env calls
      (env : Environment).Extends later ∧
      ∀ name value, env.lookup name = none → later.lookup name = some value →
        Line.expand later.lookup ("$" ++ name) = value) ∧
    (∀ line env world kind message env' world',
      launch.shell.runLine line env world = (.failure kind message, env', world') →
        ∃ before c after output world₁,
          Line.parse (env : Environment).lookup line = before ++ c :: after ∧
          launch.shell.run before env world = (.success output, env', world₁) ∧
          launch.shell.dispatch c (if before.isEmpty then none else some output) env' world₁
            = (.failure kind message, env', world')) := by
  refine ⟨?_, ?_, ?_, ?_⟩
  · intro c input env world kind message env' world' h
    exact env_of_dispatch_failure h
  · intro c input env world output env' world' h
    exact leaves_of_dispatch_success h
  · intro env calls later
    have hext := extends_sessionAfter launch calls env
    refine ⟨hext, fun name value hnone hvalue => ?_⟩
    have hname := hext.fresh name hnone (by rw [hvalue]; rfl)
    exact expand_reference hname hvalue
  · intro line env world kind message env' world' h
    obtain ⟨before, c, after, output, env₁, world₁, hparse, hbefore, hfails⟩ :=
      launch.shell.runFrom_eq_failure h
    obtain rfl := env_of_dispatch_failure hfails
    exact ⟨before, c, after, output, world₁, hparse, hbefore, hfails⟩

/-- A line whose second stage fails keeps what its first stage set. -/
theorem shell_session_half_line :
    let env := Environment.within "/"
    let world : World := ⟨.empty, [], [], []⟩
    let left := shell.runLine "X=1 | cd" env world
    left.2.1 = ⟨[("X", "1")], "/", false⟩ ∧
      ∃ before c after output world₁, Line.parse env.lookup "X=1 | cd" = before ++ c :: after ∧
        shell.run before env world = (.success output, left.2.1, world₁) ∧
        shell.dispatch c (if before.isEmpty then none else some output) left.2.1 world₁ = left := by
  intro env world left
  have hfails : left = (.failure .commandFailed "cd: no target and HOME not set",
      ⟨[("X", "1")], "/", false⟩, world) := by decide
  have hkept := (shell_session Host.standIn).2.2.2 _ env world _ _ _ _ hfails
  rw [hfails]
  exact ⟨rfl, hkept⟩

end PipeShell
