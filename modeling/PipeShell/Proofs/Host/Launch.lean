import PipeShell.Host.Launch
import Mathlib.Data.List.Infix

/-!
# `PipeShell.Proofs.Host.Launch`: programs that stand in only read

The launcher that comes with this library starts scripts and a few
programs, which start each other. They take from the standard input that
they share, and none of them puts anything back.

* `Script.State.stdin_command`, `Script.stdin_runAll`: a command of a
  script, and from it all its statements.
* `Tool.stdin_run`, `onlyReads_launchWithin`: a program, and from it all
  that start each other.
* `onlyReads_standIn`: the launcher.
-/

set_option autoImplicit false

namespace PipeShell

open Host (Setting Channels Cause Tool)

/-- Programs that are started so only read their input. -/
def Script.Starter.OnlyReads (start : Script.Starter) : Prop :=
  ∀ setting path args c after, start setting path args c = .ok after → after.stdin <:+ c.stdin

/-! ### Scripts -/

namespace Script

variable {start : Starter} (hstart : start.OnlyReads)

namespace State
include hstart

theorem stdin_launchFirst (s : State) (name : String) (args dirs : List String) :
    (s.launchFirst start name args dirs).channels.stdin <:+ s.channels.stdin := by
  induction dirs with
  | nil => exact List.suffix_rfl
  | cons dir dirs ih =>
      rw [launchFirst]
      split
      · split
        · rename_i channels hok
          exact hstart _ _ _ _ _ hok
        · exact List.suffix_rfl
      · exact ih

theorem stdin_command (s : State) (words : List String) :
    (s.command start words).channels.stdin <:+ s.channels.stdin := by
  fun_cases s.command start words with
  | case7 | case8 =>
      split
      · exact s.stdin_launchFirst hstart ..
      · exact s.stdin_launchFirst hstart ..
  | _ => exact List.suffix_rfl

/-- Where the output goes makes no difference to the input. -/
theorem stdin_directed (s : State) (words : List String) (target : Target) :
    (s.directed start words target).channels.stdin <:+ s.channels.stdin := by
  have hcommand := ({ s with channels := { s.channels with stdout := [] } }).stdin_command
    hstart words
  cases target with
  | out => exact s.stdin_command hstart words
  | err => exact hcommand
  | file name => exact hcommand

omit hstart in
theorem stdin_each {body : State → State}
    (hbody : ∀ s, (body s).channels.stdin <:+ s.channels.stdin) (var : String)
    (values : List String) (s : State) :
    (each body var values s).channels.stdin <:+ s.channels.stdin := by
  induction values generalizing s with
  | nil => exact List.suffix_rfl
  | cons v vs ih =>
      rw [each]
      split
      · exact List.suffix_rfl
      · exact (ih _).trans (hbody _)

end State

-- A loop runs statements, so the two go by one induction over the script.
mutual

theorem stdin_statement {start : Starter} (hstart : start.OnlyReads) (t : Statement) (s : State) :
    (t.run start s).channels.stdin <:+ s.channels.stdin := by
  cases t with
  | command words target => exact s.stdin_directed hstart (words.flatMap s.fields) target
  | loop var among body => exact State.stdin_each (stdin_runAll hstart body) var _ s

theorem stdin_runAll {start : Starter} (hstart : start.OnlyReads) (ts : List Statement)
    (s : State) : (runAll start ts s).channels.stdin <:+ s.channels.stdin := by
  cases ts with
  | nil => exact List.suffix_rfl
  | cons t ts =>
      rw [runAll]
      split
      · exact List.suffix_rfl
      · exact (stdin_runAll hstart ts _).trans (stdin_statement hstart t s)

end

end Script

/-! ### Programs -/

namespace Host

theorem Tool.stdin_foldl {α : Type} {act : Channels → α → Channels}
    (hact : ∀ c x, (act c x).stdin = c.stdin) (xs : List α) (c : Channels) :
    (xs.foldl act c).stdin = c.stdin := by
  induction xs generalizing c with
  | nil => rfl
  | cons x xs ih => exact (ih (act c x)).trans (hact c x)

/-- Files are passed on without a look at the input. -/
theorem Tool.stdin_passOn (setting : Setting) (files : List String) (c : Channels) :
    (Tool.passOn setting files c).stdin <:+ c.stdin := by
  cases files with
  | nil => exact List.nil_suffix
  | cons file files =>
      have hfiles : (Tool.passOn setting (file :: files) c).stdin = c.stdin := by
        refine Tool.stdin_foldl (fun c name => ?_) (file :: files) c
        split <;> rfl
      rw [hfiles]

theorem Tool.stdin_makeAll (setting : Setting) (paths : List String) (c : Channels) :
    (Tool.makeAll setting paths c).stdin <:+ c.stdin := by
  have hmade : (Tool.makeAll setting paths c).stdin = c.stdin := by
    refine Tool.stdin_foldl (fun c path => ?_) paths c
    split <;> rfl
  rw [hmade]

section
variable {start : Script.Starter} (hstart : start.OnlyReads)
include hstart

theorem Tool.stdin_runScript (setting : Setting) (args : List String) (c : Channels) :
    (Tool.runScript start setting args c).stdin <:+ c.stdin := by
  have hscript : ∀ name args text (c : Channels),
      (Script.run start setting name args text c).stdin <:+ c.stdin :=
    fun name args text c => Script.stdin_runAll hstart _ ⟨setting, name, args, [], c, false⟩
  fun_cases Tool.runScript start setting args c with
  | case1 bytes drained hdrain =>
      -- A script on the standard input leaves nothing for its commands to read.
      have hdrained : drained.stdin <:+ c.stdin := by
        cases hdrain
        exact List.nil_suffix
      exact (hscript ..).trans hdrained
  | case2 | case3 => exact hscript ..
  | case4 => exact List.suffix_rfl

theorem Tool.stdin_run (t : Tool) (setting : Setting) (args : List String) (c : Channels) :
    (t.run start setting args c).stdin <:+ c.stdin := by
  cases t with
  | shell => exact Tool.stdin_runScript hstart setting args c
  | concatenate => exact Tool.stdin_passOn setting args c
  | makeDirectory => exact Tool.stdin_makeAll setting _ c
  | translate =>
      simp only [Tool.run]
      split
      · exact List.nil_suffix
      · exact List.suffix_rfl

end

/-- However deep programs start each other, they only read. -/
theorem onlyReads_launchWithin (depth : Nat) : (launchWithin depth).OnlyReads := by
  induction depth with
  | zero => intro setting path args c after h; cases h
  | succ depth ih =>
      intro setting path args c after h
      rw [launchWithin] at h
      split at h
      · cases h
      · cases h
      · cases h
        exact Tool.stdin_run ih _ setting args c
      · split at h
        · cases h
        · exact ih _ _ _ _ _ h
      · cases h

theorem stdin_launchIn {shellFallback : Bool} {setting : Setting} {name : String}
    {args : List String} {c after : Channels} {refused : Cause} {dirs : List String}
    (h : launchIn shellFallback setting name args c refused dirs = .ok after) :
    after.stdin <:+ c.stdin := by
  induction dirs generalizing refused with
  | nil => cases h
  | cons dir dirs ih =>
      -- It was started from this directory, by the shell in its place, or from a later one.
      unfold launchIn at h
      dsimp only at h
      split at h
      · rename_i hok
        cases h
        exact onlyReads_launchWithin _ _ _ _ _ _ hok
      · split at h
        · exact onlyReads_launchWithin _ _ _ _ _ _ h
        split at h
        · exact ih h
        split at h
        · exact ih h
        · cases h

theorem onlyReads_launchFound : Script.Starter.OnlyReads launchFound := by
  intro setting program args c after h
  rw [launchFound] at h
  split at h
  · exact onlyReads_launchWithin _ _ _ _ _ _ h
  · split at h <;> exact stdin_launchIn h

/-- The programs that stand in only read. -/
theorem onlyReads_standIn : standIn.OnlyReads := by
  intro setting program args c
  rw [standIn]
  split
  · rename_i hok
    exact onlyReads_launchFound _ _ _ _ _ hok
  · exact List.suffix_rfl

end Host

end PipeShell
