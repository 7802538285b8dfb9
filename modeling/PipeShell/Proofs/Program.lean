import PipeShell.Program
import PipeShell.Proofs.Host.Effect
import PipeShell.Proofs.Host.Launch
import PipeShell.Proofs.ReadLoop

/-!
# `PipeShell.Proofs.Program`: what the program prints

The program either runs one line or reads lines, and both come to
running lines in a session. Reading prints what the lines of the input
print one after the other and succeeds whatever they come to; a single
line prints the same as if it were read, and its failure is the
program's.

* `keepsEmpty_shell`: the shell never fills the standard input, if no
  program does.
* `runInput_of_unshared`: reading lines.
* `stdout_runInput_line`, `runCommand_eq`: one line, read or given.
* `program_runs_session`: both ways to run the program.
-/

set_option autoImplicit false

namespace PipeShell

open Host (World Launcher)
open ReadLoop (IgnoresInput)

theorem keepsEmpty_shell {launch : Launcher} (hlaunch : launch.OnlyReads) :
    ReadLoop.KeepsEmpty launch.shell := by
  intro x hx
  rw [Execution.worldAfter]
  have hsuffix := (follows_runLine hlaunch x.line x.env x.world).stdin
  rw [hx, List.suffix_nil] at hsuffix
  exact hsuffix

namespace Program

section
variable {launch : Launcher} (hlaunch : launch.OnlyReads)
include hlaunch

section
variable {config : Config} {env : Environment} {world : World}
  (hhistory : config.history = none) (hprompt : prompts env = false)
include hhistory hprompt

/-- Reading lines is running them in a session, if no line takes from
the input that the program reads. -/
theorem runInput_of_unshared {text : String}
    (hstdin : world.stdin = Text.Utf8.encode text) (hplain : Char.ofNat 8 ∉ text.toList)
    (hunshared : ReadLoop.Unshared launch.shell
      (session launch.shell (inputLines text) env { world with stdin := [] }) [] world.stdin) :
    let xs := session launch.shell (inputLines text) env { world with stdin := [] }
    (runInput launch config env world).stdout = transcript launch.shell xs ∧
      (runInput launch config env world).code = 0 ∧
      ∃ bytes, (runInput launch config env world).world
        = { worldAfter launch.shell { world with stdin := [] } xs with stdin := bytes } := by
  intro xs
  have hstands : ReadLoop.Stands launch.shell text.toList { world with stdin := [] }
      ⟨env, world, startHistory config.history world, "", []⟩ := by
    refine ⟨rfl, rfl, ?_, hplain, ?_⟩
    · rw [List.nil_append, String.ofList_toList, hstdin]
    · rw [String.ofList_toList]
      exact hunshared
  have hruns := ReadLoop.run_eq_session (keepsEmpty_shell hlaunch) (2 * world.stdin.length + 1)
    hstands (by simp [ReadLoop.State.rounds])
  rw [runInput, hprompt, if_neg Bool.false_ne_true]
  rcases hloop : ReadLoop.run launch.shell World.takeChunk "" (2 * world.stdin.length + 1)
    ⟨env, world, startHistory config.history world, "", []⟩ with ⟨ending, s⟩
  rw [hloop] at hruns
  obtain ⟨hdone, houtput, hworld⟩ := hruns
  obtain rfl : ending = .done := hdone
  rw [String.ofList_toList] at houtput hworld
  simp only [hhistory, saveHistory, finish]
  exact ⟨by rw [houtput, String.empty_append], trivial, hworld⟩

end

end

/-! ### A single line -/

/-- Variables do not ask a session to end. -/
theorem exiting_foldl_assign (given : List (String × String)) (env : Environment) :
    (given.foldl (fun e (n, v) => e.assign n v) env).exiting = env.exiting := by
  induction given generalizing env with
  | nil => rfl
  | cons entry given ih => exact ih (env.assign entry.1 entry.2)

/-- The sessions that the program starts are open. -/
theorem exiting_startEnv (vars : List (String × String)) (world : World) :
    (startEnv vars world).exiting = false := by
  rw [startEnv, exiting_foldl_assign]
  rfl

section
variable {line : String} (hblank : Text.allBlank line = false) (hnewline : '\n' ∉ line.toList)
  (hreturn : line.toList.getLast? ≠ some '\r')
include hblank hnewline hreturn

/-- A line that is not blank is the only one of its text, whether or not
a newline ends it. -/
theorem inputLines_line {ending : String} (hending : ending = "" ∨ ending = "\n") :
    inputLines (line ++ ending) = [line] := by
  have hne : line.toList ≠ [] := by
    intro hnil
    rw [Text.allBlank, hnil] at hblank
    cases hblank
  have hlines : Text.lines (line ++ ending).toList = line.toList :: Text.lines [] := by
    rcases hending with rfl | rfl
    · rw [String.append_empty, Text.lines_of_notMem hnewline hne, Text.lines_nil]
    · have hkept : Text.dropReturn line.toList = line.toList := by
        rw [Text.dropReturn, if_neg (by simpa using hreturn)]
      have hchars : (line ++ "\n").toList = line.toList ++ '\n' :: [] := String.toList_append
      rw [hchars, Text.lines_newline hnewline, hkept]
  have hinput := inputLines_append hlines
  rw [String.ofList_toList, hblank, if_neg Bool.false_ne_true] at hinput
  exact hinput

end

/-- The only newline of such a text is its last byte. -/
theorem newline_notMem_before {line ending : String} (hnewline : '\n' ∉ line.toList)
    (hending : ending = "" ∨ ending = "\n") (before rest : List UInt8)
    (hsplit : Text.Utf8.encode (line ++ ending) = before ++ rest) (hrest : rest ≠ []) :
    0x0A ∉ before := by
  have hline : 0x0A ∉ Text.Utf8.encode line := by
    rw [Text.Utf8.newline_mem_encode]
    exact hnewline
  have hshort : (Text.Utf8.encode ending).length ≤ 1 := by
    rcases hending with rfl | rfl <;> decide
  rw [Text.Utf8.encode_append, List.append_eq_append_iff] at hsplit
  rcases hsplit with ⟨more, rfl, htail⟩ | ⟨more, hfront, -⟩
  · have hnone : more = [] := by
      rw [htail, List.length_append] at hshort
      have hpos := List.length_pos_iff.mpr hrest
      exact List.eq_nil_of_length_eq_zero (by omega)
    rw [hnone, List.append_nil]
    exact hline
  · rw [hfront] at hline
    exact fun hmem => hline (List.mem_append_left more hmem)

section
variable {launch : Launcher}

/-- What a single line prints, and its code. -/
theorem runCommand_eq (line : String) (env : Environment) (world : World) :
    (runCommand launch line env world).stdout = (launch.shell.runLine line env world).1.printed ∧
      (runCommand launch line env world).code
        = if (launch.shell.runLine line env world).1.isFailure then 1 else 0 := by
  rcases hrun : launch.shell.runLine line env world with ⟨outcome, env', world'⟩
  simp only [runCommand, hrun, finish]
  exact ⟨trivial, trivial⟩

/-- A line comes to the same whatever is unread, if it ignores that. -/
theorem outcome_eq {line : String} {env : Environment} {world : World}
    (hinput : world.stdin = [] ∨
      IgnoresInput launch.shell ⟨line, env, { world with stdin := [] }⟩) :
    (launch.shell.runLine line env world).1
      = Execution.outcome launch.shell ⟨line, env, { world with stdin := [] }⟩ := by
  rw [Execution.outcome]
  rcases hinput with hnil | hignores
  · rw [← hnil]
  · have hrun : launch.shell.runLine line env world = _ := hignores world.stdin
    rw [hrun, Execution.outcome]

/-- A single line that is read prints what it comes to. -/
theorem stdout_runInput_line (hlaunch : launch.OnlyReads) {line ending : String}
    {config : Config} {env : Environment} {world : World} (hhistory : config.history = none)
    (hprompt : prompts env = false) (hopen : env.exiting = false)
    (hblank : Text.allBlank line = false) (hnewline : '\n' ∉ line.toList)
    (hplain : Char.ofNat 8 ∉ line.toList) (hreturn : line.toList.getLast? ≠ some '\r')
    (hending : ending = "" ∨ ending = "\n")
    (hstdin : world.stdin = Text.Utf8.encode (line ++ ending)) :
    (runInput launch config env world).stdout
      = (Execution.outcome launch.shell ⟨line, env, { world with stdin := [] }⟩).printed := by
  have hplain' : Char.ofNat 8 ∉ (line ++ ending).toList := by
    rw [String.toList_append, List.mem_append, not_or]
    refine ⟨hplain, ?_⟩
    rcases hending with rfl | rfl <;> decide
  have hunshared : ReadLoop.Unshared launch.shell
      (session launch.shell (inputLines (line ++ ending)) env { world with stdin := [] }) []
      world.stdin := by
    rw [hstdin]
    exact .inr (.inr ⟨List.not_mem_nil, .inr (newline_notMem_before hnewline hending)⟩)
  have hsession : session launch.shell (inputLines (line ++ ending)) env
      { world with stdin := [] } = [⟨line, env, { world with stdin := [] }⟩] := by
    rw [inputLines_line hblank hnewline hreturn hending, session,
      if_neg (by rw [hopen]; exact Bool.false_ne_true)]
    simp only [session]
  have hout := (runInput_of_unshared hlaunch hhistory hprompt hstdin hplain' hunshared).1
  rw [hout, hsession, transcript, List.map_singleton, String.join_cons, String.join_nil,
    String.append_empty]

end

/-- The program run in both ways. Reading lines: those that are not blank
are run as a session, until one of them asks the session to end; what
they print is printed, and the program succeeds. Nobody may take lines
from the program, so the input is read in one go or the lines leave it
alone. Running one line: it prints what it prints when it is the line
that is read, and the program fails just when the line does. Of other
programs it is only asked that they put nothing back into their input. -/
theorem program_runs_session {launch : Launcher} (hlaunch : launch.OnlyReads) :
    (∀ (config : Config) (env : Environment) (world : World) (text : String),
      config.history = none → prompts env = false →
      world.stdin = Text.Utf8.encode text → Char.ofNat 8 ∉ text.toList →
      let xs := session launch.shell (inputLines text) env { world with stdin := [] }
      (world.stdin.length ≤ World.chunkSize ∨ ∀ x ∈ xs, IgnoresInput launch.shell x) →
      (runInput launch config env world).stdout = transcript launch.shell xs ∧
        (runInput launch config env world).code = 0 ∧
        ∃ bytes, (runInput launch config env world).world
          = { worldAfter launch.shell { world with stdin := [] } xs with stdin := bytes }) ∧
    (∀ (line ending : String) (vars : List (String × String)) (world : World),
      let env := startEnv vars world
      prompts env = false →
      Text.allBlank line = false → '\n' ∉ line.toList → Char.ofNat 8 ∉ line.toList →
      line.toList.getLast? ≠ some '\r' → ending = "" ∨ ending = "\n" →
      world.stdin = [] ∨ IgnoresInput launch.shell ⟨line, env, { world with stdin := [] }⟩ →
      let once := runBy launch ["-c", line] vars world
      let fed := { world with stdin := Text.Utf8.encode (line ++ ending) }
      once.stdout = (runBy launch [] vars fed).stdout ∧
        once.code = if (launch.shell.runLine line env world).1.isFailure then 1 else 0) := by
  refine ⟨?_, ?_⟩
  · intro config env world text hhistory hprompt hstdin hplain xs hinput
    refine runInput_of_unshared hlaunch hhistory hprompt hstdin hplain ?_
    rcases hinput with hshort | hignores
    · exact .inr (.inr ⟨List.not_mem_nil, .inl hshort⟩)
    · exact .inr (.inl hignores)
  · intro line ending vars world env hprompt hblank hnewline hplain hreturn hending hinput once fed
    have honce : once = runCommand launch line env world := rfl
    have hfed : runBy launch [] vars fed = runInput launch Config.default env fed := rfl
    have hopen := exiting_startEnv vars world
    rw [honce, hfed, stdout_runInput_line hlaunch rfl hprompt hopen hblank hnewline hplain hreturn
      hending rfl, ← outcome_eq hinput]
    exact runCommand_eq line env world

/-- A blank line is passed over, and a line that asks for the end is the
last, although it fails. The same line run alone fails the program. -/
theorem program_runs_session_to_exit :
    let text := "echo a\r\n  \nexit | cat missing\necho b"
    let failed := "ERROR: cat: missing: No such file or directory (os error 2)\n"
    let env := Environment.within "/"
    let world : World := ⟨.empty, [], [], []⟩
    let read :=
      runInput Host.standIn Config.default env { world with stdin := Text.Utf8.encode text }
    let fed := { world with stdin := Text.Utf8.encode ("exit | cat missing" ++ "\n") }
    let once := run ["-c", "exit | cat missing"] [] world
    Host.standIn.OnlyReads ∧ (read.stdout = "a\n" ++ failed ∧ read.code = 0) ∧
      once.stdout = failed ∧ (run [] [] fed).stdout = failed ∧ once.code = 1 := by
  intro text failed env world read fed once
  have hstandIn := Host.onlyReads_standIn
  have hread := (program_runs_session hstandIn).1 Config.default env
    { world with stdin := Text.Utf8.encode text } text rfl (by decide) rfl (by decide)
    (.inl (by decide))
  have honce := (program_runs_session hstandIn).2 "exit | cat missing" "\n" [] world
    (by decide +kernel) (by decide) (by decide) (by decide) (by decide) (.inr rfl) (.inl rfl)
  have hxs : transcript shell (session shell (inputLines text) env world) = "a\n" ++ failed := by
    decide +kernel
  have hout : once.stdout = failed := by decide +kernel
  refine ⟨hstandIn, ⟨hread.1.trans hxs, hread.2.1⟩, hout, honce.1.symm.trans hout, ?_⟩
  exact honce.2.trans (by decide +kernel)

end Program

end PipeShell
