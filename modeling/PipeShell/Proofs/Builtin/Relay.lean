import PipeShell.Proofs.Builtin.Files
import PipeShell.Proofs.Pipeline
import PipeShell.Proofs.Search.Dispatch

/-!
# `PipeShell.Proofs.Builtin.Relay`: `cat` in a pipeline

A command that works on a text can be given it in two ways: as the name
of a file, or as the output of the command before. `cat` turns the first
into the second. It decodes a file as the others do, and without files it
hands on what it gets, even an empty text.

* `run_append_cat`: so a `cat` without files can stand behind any command
  of a pipeline, and changes nothing.
* `run_through_cat`: and a file that is handed on by `cat` is searched
  and counted as the file itself would be. A search that is refused for
  its pattern is refused either way.
-/

set_option autoImplicit false

namespace PipeShell

open Host (World Launcher)
open Line (searchName)

/-! ### Texts that are handed on -/

section
variable (launch : Launcher)

/-- Without files `cat` gives back its input. -/
theorem dispatch_cat_input (literal : Bool) (text : String) (env : Environment) (world : World) :
    launch.shell.dispatch ⟨"cat", [], literal⟩ (some text) env world
      = (.success text, env, world) := by
  rw [Builtin.dispatch_of_mem (b := Builtin.cat) (by simp [Builtin.all]) rfl]
  have hread : Builtin.cat.spec.read [] = .ok ⟨[], [], []⟩ := rfl
  exact Builtin.handler_of_act hread rfl

/-- Without files `wc` counts its input. -/
theorem dispatch_wc_input (literal : Bool) (text : String) (env : Environment) (world : World) :
    launch.shell.dispatch ⟨"wc", [], literal⟩ (some text) env world
      = (.success ((Text.Counts.of text).render ++ "\n"), env, world) := by
  rw [Builtin.dispatch_of_mem (b := Builtin.wc) (by simp [Builtin.all]) rfl]
  have hread : Builtin.wc.spec.read [] = .ok ⟨[], [], []⟩ := rfl
  exact Builtin.handler_of_act hread rfl

end

/-- Behind commands that are there, a `cat` without files changes neither
the outcome nor what is left of the session and the world. Where those
before it fail it does not run, and where they succeed the next command
gets the same input, if only an empty one. -/
theorem run_append_cat (launch : Launcher) {xs : List Command} (hxs : xs ≠ [])
    (ys : List Command) (literal : Bool) (env : Environment) (world : World) :
    launch.shell.run (xs ++ [⟨"cat", [], literal⟩] ++ ys) env world
      = launch.shell.run (xs ++ ys) env world := by
  rw [List.append_assoc, Dispatcher.run, Dispatcher.run,
    Dispatcher.runFrom_append launch.shell xs _ none env world hxs,
    Dispatcher.runFrom_append launch.shell xs ys none env world hxs]
  rcases launch.shell.runFrom none xs env world with ⟨text | ⟨kind, message⟩, env', world'⟩
  · have hcat := dispatch_cat_input launch literal text env' world'
    simp only [List.singleton_append, Dispatcher.runFrom, hcat]
  · rfl

/-- Behind a command with output, and behind one without, whose output
is counted all the same. -/
theorem run_append_cat_counted :
    let env : Environment := .within "/"
    let world : World := ⟨.empty, [], [], []⟩
    let spoken : Command := ⟨"echo", ["a b"], false⟩
    let silent : Command := ⟨"echo", ["-n"], false⟩
    let cat : Command := ⟨"cat", [], false⟩
    let count : Command := ⟨"wc", [], false⟩
    ([spoken] ≠ [] ∧ [silent] ≠ []) ∧
      shell.run [spoken, cat, count] env world = (.success "1 2 4\n", env, world) ∧
      shell.run [silent, cat, count] env world = (.success "0 0 0\n", env, world) := by
  intro env world spoken silent cat count
  have hspoken : [spoken] ≠ [] := List.cons_ne_nil spoken []
  have hsilent : [silent] ≠ [] := List.cons_ne_nil silent []
  refine ⟨⟨hspoken, hsilent⟩, ?_, ?_⟩
  · exact (run_append_cat Host.standIn hspoken [count] false env world).trans (by decide +kernel)
  · exact (run_append_cat Host.standIn hsilent [count] false env world).trans (by decide +kernel)

/-! ### Files that are handed on -/

/-- A search of a file is a search of its text. -/
theorem search_file {o : SearchOptions} {read : String → Except Host.Cause (List UInt8)}
    {path : String} {bytes : List UInt8} (h : read path = .ok bytes) :
    search o read none (some path) = search o read (some (Text.Utf8.lossy bytes)) none := by
  simp only [search, Search.source, h]

section
variable {launch : Launcher} {file : String} {bytes : List UInt8} {env : Environment}
  {world : World}
  (hdash : Args.isDashed file = false) (hhelp : file ≠ "help")
  (hreads : env.Reads world file bytes)
include hdash hhelp hreads

/-- A command that goes over files gives what it writes for the file. -/
theorem Builtin.GoesOver.dispatch_file {b : Builtin} {write : (name text : String) → String}
    (hb : b.GoesOver write) (hmem : b ∈ Builtin.all) (literal : Bool) (input : Option String) :
    launch.shell.dispatch ⟨b.name, [file], literal⟩ input env world
      = (.success (write file (Text.Utf8.lossy bytes)), env, world) := by
  have hread : b.spec.read [file] = .ok ⟨[], [], [file]⟩ := hb.read_args hdash hhelp []
  rw [Builtin.dispatch_of_mem hmem rfl,
    hb.handler_of_reads hread (List.cons_ne_nil file []) input (.cons hreads .nil)]
  simp

/-- A search whose one operand is its pattern does the same with a file
behind its arguments as with the text of the file for input. -/
theorem dispatch_search_file {args : List String} {given : Args.Given}
    (hread : Builtin.grep.spec.read args = .ok given) (hone : given.operands.length = 1)
    (literal : Bool) :
    launch.shell.dispatch ⟨searchName, args ++ [file], literal⟩ none env world
      = launch.shell.dispatch ⟨searchName, args, literal⟩ (some (Text.Utf8.lossy bytes))
          env world := by
  obtain ⟨pattern, hpattern⟩ := List.length_eq_one_iff.mp hone
  have hboth : Builtin.grep.spec.read (args ++ [file])
      = .ok { given with operands := [pattern, file] } := by
    rw [Args.read_append_operand rfl rfl hread hdash hhelp, hpattern]
    rfl
  have hnone : given.operands = pattern :: (none : Option String).toList := hpattern
  have hsome : [pattern, file] = pattern :: (some file).toList := rfl
  have hread' : world.read (env.resolve file) = .ok bytes := hreads
  rw [Search.dispatch_search rfl hboth hsome, Search.dispatch_search rfl hread hnone,
    Option.map_some, search_file hread']
  rfl

end

/-- A file that can be read is handed on by `cat` as it is read by others.
A search with one operand, its pattern, does the same with the text that
it is given as it does when the file stands behind its arguments, and
`wc` counts the same, but does not know the name. -/
theorem run_through_cat (launch : Launcher) {file : String} {bytes : List UInt8}
    {env : Environment} {world : World} (hdash : Args.isDashed file = false)
    (hhelp : file ≠ "help") (hreads : env.Reads world file bytes) (catFlag wcFlag : Bool) :
    let cat : Command := ⟨"cat", [file], catFlag⟩
    (∀ (args : List String) (given : Args.Given) (literal : Bool),
      Builtin.grep.spec.read args = .ok given → given.operands.length = 1 →
      launch.shell.run [cat, ⟨searchName, args, literal⟩] env world
        = launch.shell.run [⟨searchName, args ++ [file], literal⟩] env world) ∧
    (∀ counts : Text.Counts,
      (launch.shell.run [cat, ⟨"wc", [], wcFlag⟩] env world).1 = .success (counts.render ++ "\n") ↔
        (launch.shell.run [⟨"wc", [file], wcFlag⟩] env world).1
          = .success (counts.render ++ " " ++ file ++ "\n")) ∧
    ∃ counts : Text.Counts,
      launch.shell.run [cat, ⟨"wc", [], wcFlag⟩] env world
        = (.success (counts.render ++ "\n"), env, world) ∧
      launch.shell.run [⟨"wc", [file], wcFlag⟩] env world
        = (.success (counts.render ++ " " ++ file ++ "\n"), env, world) := by
  intro cat
  have hcat : launch.shell.dispatch cat none env world
      = (.success (Text.Utf8.lossy bytes), env, world) :=
    Builtin.goesOver_cat.dispatch_file hdash hhelp hreads (by simp [Builtin.all]) catFlag none
  have hwc : launch.shell.dispatch ⟨"wc", [file], wcFlag⟩ none env world
      = (.success (Builtin.countRow file (Text.Utf8.lossy bytes)), env, world) :=
    Builtin.goesOver_wc.dispatch_file hdash hhelp hreads (by simp [Builtin.all]) wcFlag none
  have hpiped : launch.shell.run [cat, ⟨"wc", [], wcFlag⟩] env world
      = (.success ((Text.Counts.of (Text.Utf8.lossy bytes)).render ++ "\n"), env, world) :=
    (Dispatcher.runFrom_pair launch.shell hcat).trans (dispatch_wc_input launch wcFlag _ env world)
  have hnamed : launch.shell.run [⟨"wc", [file], wcFlag⟩] env world
      = (.success (Builtin.countRow file (Text.Utf8.lossy bytes)), env, world) :=
    (Dispatcher.runFrom_singleton launch.shell _ none env world).trans hwc
  refine ⟨fun args given literal hread hone => ?_, fun counts => ?_, _, hpiped, hnamed⟩
  · rw [Dispatcher.run, Dispatcher.runFrom_pair launch.shell hcat, Dispatcher.run,
      Dispatcher.runFrom_singleton, dispatch_search_file hdash hhelp hreads hread hone]
  · rw [hpiped, hnamed, Builtin.countRow, Outcome.success.injEq, Outcome.success.injEq,
      String.append_left_inj, String.append_left_inj, String.append_left_inj,
      String.append_left_inj]

/-- A file that is no text throughout, searched with a line after each
match, searched for a pattern that is refused, and counted. -/
theorem run_through_cat_no_text :
    let env : Environment := .within "/"
    let world : World :=
      ⟨⟨[(["f"], .file [0x42, 0xFF, 0x0A, 0x63, 0x0A, 0x61, 0x0A] false)], []⟩, [], [], []⟩
    let cat : Command := ⟨"cat", ["f"], false⟩
    (Args.isDashed "f" = false ∧ "f" ≠ "help" ∧
      env.Reads world "f" [0x42, 0xFF, 0x0A, 0x63, 0x0A, 0x61, 0x0A]) ∧
      shell.run [cat, ⟨searchName, ["-A", "1", "B"], false⟩] env world
        = (.success "B\uFFFD\nc\n", env, world) ∧
      shell.run [cat, ⟨searchName, ["("], false⟩] env world
        = shell.run [⟨searchName, ["(", "f"], false⟩] env world ∧
      (shell.run [cat, ⟨"wc", [], false⟩] env world).1 = .success "3 3 9\n" := by
  intro env world cat
  have hdash : Args.isDashed "f" = false := by decide
  have hhelp : "f" ≠ "help" := by decide
  have hreads : env.Reads world "f" [0x42, 0xFF, 0x0A, 0x63, 0x0A, 0x61, 0x0A] := by
    decide +kernel
  obtain ⟨hsearch, hcount, -⟩ := run_through_cat Host.standIn hdash hhelp hreads false false
  have hread : Builtin.grep.spec.read ["-A", "1", "B"]
      = .ok ⟨[], [("after-context", "1")], ["B"]⟩ := by decide +kernel
  have hrefused : Builtin.grep.spec.read ["("] = .ok ⟨[], [], ["("]⟩ := by decide +kernel
  have hfound : shell.run [⟨searchName, ["-A", "1", "B", "f"], false⟩] env world
      = (.success "B\uFFFD\nc\n", env, world) := by
    decide +kernel
  have hcounted : (shell.run [⟨"wc", ["f"], false⟩] env world).1 = .success "3 3 9 f\n" := by
    decide +kernel
  exact ⟨⟨hdash, hhelp, hreads⟩, (hsearch _ _ false hread rfl).trans hfound,
    hsearch _ _ false hrefused rfl, (hcount ⟨3, 3, 9⟩).mpr hcounted⟩

end PipeShell
