import PipeShell.Proofs.Args.Refusal
import PipeShell.Proofs.Builtin
import PipeShell.Program

/-!
# `PipeShell.Proofs.Builtin.Echo`: which arguments are printed

`echo` prints words, but the first of its arguments may be for itself. A
run of switches at the front does away with the newline, and the first
argument behind the run decides about all the others: it is the first
word to be printed, or the mark that ends the options and is not printed
itself, or a request for help, or refused.

* `readFrom_echo`: the run of switches is passed over.
* `handler_echo_of_reads`, `handler_echo_of_helpWord`,
  `handler_echo_of_error`: what becomes of the rest.
* `dispatch_echo`: all that can stand behind the run.
-/

set_option autoImplicit false

namespace PipeShell.Builtin

open Args (Progress isHelpWord isDashed trailsOption)
open Host (World Launcher)

/-- The switch of `echo`, as a letter or with its long name. -/
def isNoNewline (arg : String) : Bool := arg == "-n" || arg == "--no-newline"

/-- What is printed behind the words: nothing if there is a switch at
the front. -/
def lineEnd (args : List String) : String :=
  if args.takeWhile isNoNewline = [] then "\n" else ""

/-- How far a reading has come behind the switches at the front. -/
def afterSwitches (args : List String) : Progress :=
  ⟨⟨(args.takeWhile isNoNewline).map fun _ => "no-newline", [], []⟩, false, false⟩

/-! ### Behind the switches -/

/-- Each switch of a run is read as one more. -/
theorem reads_switches {run : List String} (hrun : ∀ arg ∈ run, isNoNewline arg = true)
    (switches : List String) :
    echo.spec.Reads ⟨⟨switches, [], []⟩, false, false⟩ run
      ⟨⟨switches ++ run.map fun _ => "no-newline", [], []⟩, false, false⟩ := by
  induction run generalizing switches with
  | nil =>
      rw [List.map_nil, List.append_nil]
      exact .nil _
  | cons arg run ih =>
      have hswitch := hrun arg List.mem_cons_self
      -- Both ways to write the switch call one option.
      have hcalls : ∃ o, echo.spec.Calls ⟨⟨switches, [], []⟩, false, false⟩ arg o ∧
          o.kind = .switch ∧ o.long = "no-newline" := by
        simp only [isNoNewline, Bool.or_eq_true, beq_iff_eq] at hswitch
        rcases hswitch with rfl | rfl <;>
          exact ⟨_, ⟨rfl, rfl, by decide, by decide, by decide, rfl⟩, rfl, rfl⟩
      obtain ⟨o, hcalls, hkind, hlong⟩ := hcalls
      have hrest := ih (fun arg' harg' => hrun arg' (List.mem_cons_of_mem arg harg'))
        (switches ++ ["no-newline"])
      rw [List.append_assoc, List.singleton_append, ← hlong] at hrest
      rw [List.map_cons, ← hlong]
      exact .switch hcalls hkind hrest

theorem readFrom_echo (args : List String) :
    echo.spec.readFrom .start args
      = echo.spec.readFrom (afterSwitches args) (args.dropWhile isNoNewline) := by
  have hswitches : ∀ arg ∈ args.takeWhile isNoNewline, isNoNewline arg = true :=
    fun _ harg => List.all_eq_true.mp List.all_takeWhile _ harg
  have hrun := reads_switches hswitches []
  have hsplit := Args.readFrom_append hrun (args.dropWhile isNoNewline)
  rw [List.takeWhile_append_dropWhile] at hsplit
  exact hsplit

/-- There is no other option. -/
theorem option?_echo {arg : String} (hswitch : isNoNewline arg = false) :
    echo.spec.option? arg = none := by
  simp only [isNoNewline, Bool.or_eq_false_iff, beq_eq_false_iff_ne] at hswitch
  have hlong : ("--" ++ "no-newline") = "--no-newline" := by decide
  simp [echo, Args.Spec.option?, Args.OptionSpec.isCalled, Args.OptionSpec.longForm,
    Args.OptionSpec.shortForm?, hlong, hswitch, Ne.symm hswitch.1]

/-- There is a newline just where no switch was read. -/
theorem has_noNewline (args : List String) :
    (afterSwitches args).given.has "no-newline" = !(args.takeWhile isNoNewline).isEmpty := by
  show List.contains ((args.takeWhile isNoNewline).map fun _ => "no-newline") "no-newline" = _
  cases args.takeWhile isNoNewline with
  | nil => rfl
  | cons arg run => simp

section
variable {args words : List String} {literal : Bool} {input : Option String} {env : Environment}
  {world : World}

/-- Words that are read behind the switches are printed as they are. -/
theorem handler_echo_of_reads {ended : Bool}
    (h : echo.spec.Reads (afterSwitches args) (args.dropWhile isNoNewline)
      ⟨{ (afterSwitches args).given with operands := words }, false, ended⟩) :
    echo.handler ⟨"echo", args, literal⟩ input env world
      = (.success (String.intercalate " " words ++ lineEnd args), env, world) := by
  have hread : echo.spec.read args
      = .ok { (afterSwitches args).given with operands := words } := by
    rw [Args.Spec.read, readFrom_echo, Args.readFrom_eq_ok_iff.mpr h]
    rfl
  refine handler_of_act hread ?_
  have hswitch := has_noNewline args
  simp only [Args.Given.has] at hswitch
  simp only [echo, Call.keeping, Args.Given.has, hswitch, lineEnd]
  cases args.takeWhile isNoNewline with
  | nil => rfl
  | cons arg run => simp

/-- Behind a word for help nothing is printed that was written: the
command shows how it is used, unless an option trails. -/
theorem handler_echo_of_helpWord {word : String} (hword : isHelpWord word = true)
    (hrest : args.dropWhile isNoNewline = word :: words) :
    echo.handler ⟨"echo", args, literal⟩ input env world
      = (if trailsOption words then
          .failure .unknownOption "echo: Trailing arguments are not allowed after `help`."
        else .success echo.spec.usage, env, world) := by
  have hstep : echo.spec.readFrom .start args
      = echo.spec.readFrom ⟨(afterSwitches args).given, true, false⟩ words := by
    rw [readFrom_echo, hrest]
    simp [Args.Spec.readFrom, afterSwitches, hword]
  have hafter := Args.readFrom_afterHelp (s := echo.spec) rfl rfl words (afterSwitches args).given
  split at hafter
  · rename_i htrails
    rw [if_pos htrails]
    have hread : echo.spec.read args = .error (.fault .optionAfterHelp) := by
      rw [Args.Spec.read, hstep, hafter]
    have hmessage : "echo: " ++ Text.trimEnd Args.Fault.optionAfterHelp.message
        = "echo: Trailing arguments are not allowed after `help`." := by decide
    rw [← hmessage]
    exact handler_of_fault hread
  · rename_i htrails
    rw [if_neg htrails]
    obtain ⟨q, hq, hhelp⟩ := hafter
    have hread : echo.spec.read args = .error .help := by
      rw [Args.Spec.read, hstep, hq]
      simp [hhelp]
    exact handler_of_help hread

/-- A refusal behind the switches is reported. -/
theorem handler_echo_of_error {f : Args.Fault}
    (h : echo.spec.readFrom (afterSwitches args) (args.dropWhile isNoNewline) = .error f) :
    echo.handler ⟨"echo", args, literal⟩ input env world
      = (.failure .unknownOption ("echo: " ++ Text.trimEnd f.message), env, world) := by
  refine handler_of_fault ?_
  show echo.spec.read args = .error (.fault f)
  rw [Args.Spec.read, readFrom_echo, h]

end

/-! ### The whole command -/

/-- Blanks at the end of a text are all that is trimmed from it, if they
are not all there is. -/
theorem trimEnd_append {before text : String} (h : ∃ c ∈ text.toList, Text.isBlank c = false) :
    Text.trimEnd (before ++ text) = before ++ Text.trimEnd text := by
  have hne : (text.toList.reverse.dropWhile Text.isBlank).isEmpty = false := by
    obtain ⟨c, hc, hblank⟩ := h
    rw [List.isEmpty_eq_false_iff, ne_eq, List.dropWhile_eq_nil_iff]
    intro hall
    simpa [hblank] using hall c (List.mem_reverse.mpr hc)
  simp [Text.trimEnd, List.dropWhile_append, hne, String.ofList_append]

/-- The message of a refused argument is that argument, without the
blanks at its end. -/
theorem trimEnd_unrecognized {arg : String} (hdash : isDashed arg = true) :
    Text.trimEnd (Args.Fault.unrecognized arg).message
      = "Unrecognized argument: " ++ Text.trimEnd arg := by
  have hchar : ∃ c ∈ arg.toList, Text.isBlank c = false := by
    simp only [isDashed, beq_iff_eq] at hdash
    exact ⟨'-', List.mem_of_mem_head? hdash, by decide⟩
  have hnewline : Text.trimEnd (arg ++ "\n") = Text.trimEnd arg := by
    have hblank : Text.isBlank '\n' = true := by decide
    simp [Text.trimEnd, hblank]
  show Text.trimEnd ("Unrecognized argument: " ++ arg ++ "\n") = _
  rw [String.append_assoc, trimEnd_append, hnewline]
  obtain ⟨c, hc, hblank⟩ := hchar
  exact ⟨c, by simp [hc], hblank⟩

/-- What `echo` comes to, by the first argument behind its switches: the
words from there on, or those behind the end of the options, as they
are; nothing of what was written, where it asks for help; or a failure
that says which argument was no option. -/
theorem dispatch_echo (launch : Launcher) (args : List String) (literal : Bool)
    (input : Option String) (env : Environment) (world : World) :
    let rest := args.dropWhile isNoNewline
    let result := launch.shell.dispatch ⟨"echo", args, literal⟩ input env world
    (rest = [] → result = (.success (lineEnd args), env, world)) ∧
    (∀ words, rest = "--" :: words →
      result = (.success (String.intercalate " " words ++ lineEnd args), env, world)) ∧
    (∀ word words, rest = word :: words → isDashed word = false → word ≠ "help" →
      result = (.success (String.intercalate " " (word :: words) ++ lineEnd args), env, world)) ∧
    (∀ word words, rest = word :: words → word = "help" ∨ word = "--help" →
      result = (if trailsOption words then
          .failure .unknownOption "echo: Trailing arguments are not allowed after `help`."
        else .success echo.spec.usage, env, world)) ∧
    ∀ word words, rest = word :: words → isDashed word = true → word ≠ "--" → word ≠ "--help" →
      result = (.failure .unknownOption ("echo: Unrecognized argument: " ++ Text.trimEnd word),
        env, world) := by
  intro rest result
  have hserves : launch.shell.dispatch ⟨"echo", args, literal⟩
      = echo.handler ⟨"echo", args, literal⟩ :=
    dispatch_of_mem (b := echo) (by simp [all]) rfl
  have hecho : result = echo.handler ⟨"echo", args, literal⟩ input env world := by
    rw [← hserves]
  have hpos : echo.spec.positional
      = some ⟨"args", .greedy, "values to print as-is, separated by spaces."⟩ := rfl
  rw [hecho]
  refine ⟨fun hrest => ?_, fun words hrest => ?_, fun word words hrest hdash hhelp => ?_,
    fun word words hrest hhelp => ?_, fun word words hrest hdash hends hhelp => ?_⟩
  · have hreads : echo.spec.Reads (afterSwitches args) (args.dropWhile isNoNewline)
        ⟨{ (afterSwitches args).given with operands := [] }, false, false⟩ := by
      rw [show args.dropWhile isNoNewline = [] from hrest]
      exact .nil _
    simpa using handler_echo_of_reads hreads
  · have hreads : echo.spec.Reads (afterSwitches args) (args.dropWhile isNoNewline)
        ⟨{ (afterSwitches args).given with operands := words }, false, true⟩ := by
      rw [show args.dropWhile isNoNewline = "--" :: words from hrest]
      exact .ends rfl (Args.reads_greedy hpos rfl _ false)
    exact handler_echo_of_reads hreads
  · have hreads : echo.spec.Reads (afterSwitches args) (args.dropWhile isNoNewline)
        ⟨{ (afterSwitches args).given with operands := word :: words }, false, true⟩ := by
      rw [show args.dropWhile isNoNewline = word :: words from hrest]
      exact .operand (Args.positional_of_not_dashed _ hdash hhelp) rfl
        (Args.reads_greedy hpos rfl { (afterSwitches args).given with operands := [word] } false)
    exact handler_echo_of_reads hreads
  · have hword : isHelpWord word = true := by
      rcases hhelp with rfl | rfl <;> decide
    exact handler_echo_of_helpWord hword hrest
  · -- The word is not in the run of switches, so it calls no option.
    have hswitch : isNoNewline word = false := by
      have := List.head?_dropWhile_not isNoNewline args
      rw [show args.dropWhile isNoNewline = word :: words from hrest] at this
      simpa using this
    have hword : isHelpWord word = false := by
      have hplain : word ≠ "help" := by
        rintro rfl
        exact absurd hdash (by decide)
      simp [isHelpWord, hhelp, hplain]
    have hrefused : echo.spec.readFrom (afterSwitches args) (args.dropWhile isNoNewline)
        = .error (.unrecognized word) := by
      rw [show args.dropWhile isNoNewline = word :: words from hrest]
      exact Args.readFrom_of_unknown rfl rfl hword hdash hends (option?_echo hswitch)
    rw [handler_echo_of_error hrefused, trimEnd_unrecognized hdash, ← String.append_assoc]
    rfl

/-- What looks like a switch is printed behind the first word, and so is
a word for help. In front of it they are read, and an option behind a
request for help is refused, as is one with blanks at its end. -/
theorem dispatch_echo_switches_behind_word :
    let env : Environment := .within "/"
    let world : World := ⟨.empty, [], [], []⟩
    let printed := fun args => (shell.dispatch ⟨"echo", args, false⟩ none env world).1
    printed ["-n", "--no-newline", "a", "-n", "help"] = .success "a -n help" ∧
      printed ["--", "-n", "--help"] = .success "-n --help\n" ∧
      printed ["-n", "help", "--help", "-n"]
        = .failure .unknownOption "echo: Trailing arguments are not allowed after `help`." ∧
      printed ["-n", "-na  "] = .failure .unknownOption "echo: Unrecognized argument: -na" := by
  intro env world printed
  obtain ⟨-, -, hwords, -⟩ :=
    dispatch_echo Host.standIn ["-n", "--no-newline", "a", "-n", "help"] false none env world
  obtain ⟨-, hends, -⟩ := dispatch_echo Host.standIn ["--", "-n", "--help"] false none env world
  obtain ⟨-, -, -, hhelp, -⟩ :=
    dispatch_echo Host.standIn ["-n", "help", "--help", "-n"] false none env world
  obtain ⟨-, -, -, -, hrefused⟩ := dispatch_echo Host.standIn ["-n", "-na  "] false none env world
  refine ⟨?_, ?_, ?_, ?_⟩
  · exact congrArg Prod.fst (hwords "a" ["-n", "help"] (by decide) (by decide) (by decide))
  · exact congrArg Prod.fst (hends ["-n", "--help"] (by decide))
  · exact congrArg Prod.fst (hhelp "help" ["--help", "-n"] (by decide) (.inl rfl))
  · exact (congrArg Prod.fst (hrefused "-na  " [] (by decide) (by decide) (by decide)
      (by decide))).trans (by decide)

end PipeShell.Builtin
