import PipeShell.Proofs.Dispatch
import PipeShell.Proofs.Host.Canonical
import PipeShell.Shell
import Mathlib.Data.List.Nodup

/-!
# `PipeShell.Proofs.Builtin`: what built-in commands do to a session

A built-in command is handed the session and gives one back beside its
result. Here it is said, command by command, which one that is.

* `dispatch_of_mem`, `handler_of_act`, `handler_of_report`: the shell
  leaves a command to the built-in one of its name, and that does what it
  does with its arguments.
* `handler_of_help`, `handler_of_fault`: or it comes to no arguments.
* `keeps_of_mem`: all commands but three give the session back as it
  was.
* `cd_cases`, `set_cases`: all that the others can do. Each looks at what
  can go wrong before it changes anything.
* `restores_of_mem`: so every command gives the session back as it was
  when it fails.
* `handler_of_failure`, `handler_of_success`: the session changes only
  where a command acts on its arguments and succeeds.
* `cd_act`, `set_act`, `exit_act`: what it is then.
-/

set_option autoImplicit false

namespace PipeShell.Builtin

open Host (World Launcher)

section
variable {launch : Launcher} {b : Builtin} {c : Command} {input : Option String}
  {env env' : Environment} {world world' : World} {output : String} {kind : Kind} {message : String}

/-- The shell leaves a command to the built-in command of its name. -/
theorem dispatch_of_mem (hb : b ∈ all) (hname : c.name = b.name) :
    launch.shell.dispatch c = b.handler c := by
  have hhandler : launch.shell.handler? b.name = some b.handler := by
    simp only [all, List.mem_cons, List.not_mem_nil, or_false] at hb
    rcases hb with rfl | rfl | rfl | rfl | rfl | rfl | rfl | rfl | rfl <;> rfl
  funext input env world
  rw [Dispatcher.dispatch, hname, hhandler]

section
variable {given : Args.Given} (hread : b.spec.read c.args = .ok given)
include hread

/-- A built-in command that is content with its arguments leaves what it
does with them. -/
theorem handler_of_act
    (hact : b.act ⟨given, c.literal, input, env, world⟩ = (.ok output, env')) :
    b.handler c input env world = (.success output, env', world) := by
  simp only [handler, hread, hact]

/-- What it has to report against them is reported under its name. -/
theorem handler_of_report {r : Report}
    (hact : b.act ⟨given, c.literal, input, env, world⟩ = (.error r, env')) :
    b.handler c input env world = (.ofReport (r.within b.name), env', world) := by
  simp only [handler, hread, hact]

end

/-- A built-in command that is asked for help shows how it is used. -/
theorem handler_of_help (hread : b.spec.read c.args = .error .help) :
    b.handler c input env world = (.success b.spec.usage, env, world) := by
  simp only [handler, hread]

/-- A built-in command that is not content with its arguments fails for
the reason, which is reported under its name. -/
theorem handler_of_fault {f : Args.Fault} (hread : b.spec.read c.args = .error (.fault f)) :
    b.handler c input env world
      = (.failure .unknownOption (b.name ++ ": " ++ Text.trimEnd f.message), env, world) := by
  simp only [handler, hread]
  rfl

/-- A built-in command that succeeds was asked for help and did nothing,
or it acted on its arguments. -/
theorem handler_of_success
    (h : b.handler c input env world = (.success output, env', world')) :
    (b.spec.read c.args = .error .help ∧ env' = env) ∨
      ∃ given, b.spec.read c.args = .ok given ∧
        b.act ⟨given, c.literal, input, env, world⟩ = (.ok output, env') := by
  rw [handler] at h
  split at h
  · rename_i hread
    cases h
    exact .inl ⟨hread, rfl⟩
  · cases h
  · rename_i given hread
    split at h
    · rename_i hact
      cases h
      exact .inr ⟨given, hread, hact⟩
    · cases h

end

/-! ### Commands that keep the session -/

/-- The command gives the session back as it was, whatever becomes of
it. -/
def Keeps (b : Builtin) : Prop := ∀ call, (b.act call).2 = call.env

theorem keeps_pwd : Keeps pwd := fun _ => rfl

theorem keeps_echo : Keeps echo := fun _ => rfl

theorem keeps_cat : Keeps cat := fun _ => rfl

theorem keeps_wc : Keeps wc := fun _ => rfl

theorem keeps_ls : Keeps ls := fun _ => rfl

theorem keeps_grep : Keeps grep := fun _ => rfl

/-- All but three of the built-in commands keep the session. -/
theorem keeps_of_mem {b : Builtin} (hb : b ∈ all) (hcd : b.name ≠ "cd") (hset : b.name ≠ "set")
    (hexit : b.name ≠ "exit") : Keeps b := by
  simp only [all, List.mem_cons, List.not_mem_nil, or_false] at hb
  rcases hb with rfl | rfl | rfl | rfl | rfl | rfl | rfl | rfl | rfl
  · exact keeps_pwd
  · exact absurd rfl hcd
  · exact keeps_echo
  · exact absurd rfl hexit
  · exact keeps_cat
  · exact keeps_wc
  · exact keeps_ls
  · exact absurd rfl hset
  · exact keeps_grep

/-- A built-in command is known by its name. -/
theorem eq_of_name {b b' : Builtin} (hb : b ∈ all) (hb' : b' ∈ all) (h : b.name = b'.name) :
    b = b' := by
  have hnodup : (all.map name).Nodup := by decide
  exact List.inj_on_of_nodup_map hnodup hb hb' h

/-! ### Commands that change the session -/

/-- Whenever the command has something to report, it gives the session
back as it was. -/
def Restores (b : Builtin) : Prop :=
  ∀ call r env', b.act call = (.error r, env') → env' = call.env

theorem Keeps.restores {b : Builtin} (h : Keeps b) : Restores b := by
  intro call r env' hact
  rw [← h call, hact]

/-- `cd` has something to report before it moves, or it moves to a place
that its target leads to. The path of that place leads to a directory. -/
theorem cd_cases (call : Call) :
    (∃ r, cd.act call = (.error r, call.env)) ∨
      ∃ target place, call.target? = some target ∧
        call.world.locate (call.env.resolve target) = .ok place ∧
        call.world.isDir place.path = true ∧
        cd.act call = (.ok "", { call.env with dir := place.path }) := by
  rcases htarget : call.target? with _ | target
  · exact .inl (by simp [cd, htarget])
  rcases hplace : call.world.locate (call.env.resolve target) with cause | place
  · exact .inl (by simp [cd, htarget, hplace])
  by_cases hdir : call.world.isDir place.path = true
  · refine .inr ⟨target, place, rfl, hplace, hdir, ?_⟩
    simp only [cd, htarget, hplace, if_pos hdir]
    rfl
  · exact .inl (by simp [cd, htarget, hplace, hdir])

/-- `set` has something to report before it changes anything, or it makes
the assignment that its operand is. -/
theorem set_cases (call : Call) :
    (∃ r, set.act call = (.error r, call.env)) ∨
      ∃ a : Line.Assignment, call.operand? = some a.text ∧
        Line.Assignment.isName a.name.toList = true ∧
        set.act call = (.ok "", call.env.assign a.name a.value) := by
  rcases htext : call.operand? with _ | text
  · exact .inl (by simp [set, htext])
  rcases ha : Line.Assignment.ofText? text with _ | a
  · exact .inl (by simp [set, htext, ha])
  · obtain ⟨rfl, hname⟩ := Line.Assignment.ofText?_eq_some.mp ha
    exact .inr ⟨a, rfl, hname, by simp only [set, htext, ha]⟩

theorem restores_cd : Restores cd := by
  intro call r env' hact
  obtain ⟨_, hreports⟩ | ⟨_, _, -, -, -, hmoves⟩ := cd_cases call
  · rw [hreports] at hact
    cases hact
    rfl
  · rw [hmoves] at hact
    cases hact

theorem restores_set : Restores set := by
  intro call r env' hact
  obtain ⟨_, hreports⟩ | ⟨_, -, -, hassigns⟩ := set_cases call
  · rw [hreports] at hact
    cases hact
    rfl
  · rw [hassigns] at hact
    cases hact

/-- `exit` has nothing to report. -/
theorem restores_exit : Restores exit := by
  intro call r env' hact
  cases hact

/-- Every built-in command gives the session back as it was when it
fails. -/
theorem restores_of_mem {b : Builtin} (hb : b ∈ all) : Restores b := by
  simp only [all, List.mem_cons, List.not_mem_nil, or_false] at hb
  rcases hb with rfl | rfl | rfl | rfl | rfl | rfl | rfl | rfl | rfl
  · exact keeps_pwd.restores
  · exact restores_cd
  · exact keeps_echo.restores
  · exact restores_exit
  · exact keeps_cat.restores
  · exact keeps_wc.restores
  · exact keeps_ls.restores
  · exact restores_set
  · exact keeps_grep.restores

/-- A built-in command that fails leaves the session as it was. Either it
did not act, or it gave the session back with its report. -/
theorem handler_of_failure {b : Builtin} {c : Command} {input : Option String}
    {env env' : Environment} {world world' : World} {kind : Kind} {message : String}
    (hb : b ∈ all)
    (h : b.handler c input env world = (.failure kind message, env', world')) : env' = env := by
  rw [handler] at h
  split at h
  · cases h
  · cases h
    rfl
  · split at h
    · cases h
    · rename_i r left hact
      cases h
      exact restores_of_mem hb _ _ _ hact

section
variable {call : Call} {output : String} {env' : Environment}

theorem cd_act (h : cd.act call = (.ok output, env')) :
    ∃ target place, call.target? = some target ∧
      call.world.locate (call.env.resolve target) = .ok place ∧
      call.world.isDir place.path = true ∧ env' = { call.env with dir := place.path } := by
  obtain ⟨_, hreports⟩ | ⟨target, place, htarget, hplace, hdir, hmoves⟩ := cd_cases call
  · rw [hreports] at h
    cases h
  · rw [hmoves] at h
    cases h
    exact ⟨target, place, htarget, hplace, hdir, rfl⟩

theorem set_act (h : set.act call = (.ok output, env')) :
    ∃ a : Line.Assignment, call.operand? = some a.text ∧
      Line.Assignment.isName a.name.toList = true ∧
      env' = call.env.assign a.name a.value := by
  obtain ⟨_, hreports⟩ | ⟨a, htext, hname, hassigns⟩ := set_cases call
  · rw [hreports] at h
    cases h
  · rw [hassigns] at h
    cases h
    exact ⟨a, htext, hname, rfl⟩

/-- `exit` asks the session to end. -/
theorem exit_act (h : exit.act call = (.ok output, env')) :
    env' = { call.env with exiting := true } := by
  cases h
  rfl

end

end PipeShell.Builtin
