import PipeShell.Proofs.Args.Operand
import PipeShell.Proofs.Builtin
import PipeShell.Proofs.Text.Utf8
import PipeShell.Program
import Mathlib.Data.List.Forall2

/-!
# `PipeShell.Proofs.Builtin.Files`: commands that go over files

`cat` and `wc` are given names of files. They read the files one after
the other and write something for each: its text, or a row with its
counts. `GoesOver` says this of a command, with what it writes for one
file left open, and the rest is the same for both.

The first file that cannot be read ends the command. Nothing is printed
of the files before it, since a failure has only a message.

* `all_or_first`: the elements of a list are all fine, or there is a
  first one that is not.
* `goesOver_cat`, `goesOver_wc`: the two commands.
* `GoesOver.handler_of_reads`, `GoesOver.handler_of_firstUnreadable`:
  what comes of files that can be read, and of others.
* `dispatch_files`: both commands in the shell.
-/

set_option autoImplicit false

namespace PipeShell

open Host (World Cause Launcher)

/-! ### Going over a list -/

section
variable {ε α β : Type} {f : α → Except ε β}

/-- Going over a list gives what its elements give, if all give
something. -/
theorem mapM_of_forall₂ {xs : List α} {ys : List β}
    (h : List.Forall₂ (fun x y => f x = .ok y) xs ys) : xs.mapM f = .ok ys := by
  induction h with
  | nil => rfl
  | cons hx _ ih =>
      rw [List.mapM_cons, hx, ih]
      rfl

/-- It ends at the first element that gives a fault. -/
theorem mapM_of_first {before : List α} {x : α} {e : ε}
    (hbefore : ∀ b ∈ before, ∃ y, f b = .ok y) (hx : f x = .error e) (after : List α) :
    (before ++ x :: after).mapM f = .error e := by
  induction before with
  | nil =>
      rw [List.nil_append, List.mapM_cons, hx]
      rfl
  | cons b before ih =>
      obtain ⟨y, hy⟩ := hbefore b List.mem_cons_self
      have hrest := ih fun b' hb' => hbefore b' (List.mem_cons_of_mem b hb')
      rw [List.cons_append, List.mapM_cons, hy, hrest]
      rfl

/-- There is no third case. -/
theorem all_or_first (f : α → Except ε β) (xs : List α) :
    (∃ ys, List.Forall₂ (fun x y => f x = .ok y) xs ys) ∨
      ∃ before x after e, xs = before ++ x :: after ∧ (∀ b ∈ before, ∃ y, f b = .ok y) ∧
        f x = .error e := by
  induction xs with
  | nil => exact .inl ⟨[], .nil⟩
  | cons x xs ih =>
      cases hx : f x with
      | error e => exact .inr ⟨[], x, xs, e, rfl, by simp, hx⟩
      | ok y =>
          rcases ih with ⟨ys, hys⟩ | ⟨before, z, after, e, rfl, hbefore, hz⟩
          · exact .inl ⟨y :: ys, .cons hx hys⟩
          · exact .inr ⟨x :: before, z, after, e, rfl,
              List.forall_mem_cons.mpr ⟨⟨y, hx⟩, hbefore⟩, hz⟩

end

/-! ### Files that can be read -/

/-- The name leads to a file with these bytes, seen from the directory of
the session. -/
def Environment.Reads (env : Environment) (world : World) (name : String) (bytes : List UInt8) :
    Prop :=
  world.read (env.resolve name) = .ok bytes

instance (env : Environment) (world : World) (name : String) (bytes : List UInt8) :
    Decidable (env.Reads world name bytes) :=
  inferInstanceAs (Decidable (_ = _))

/-- The name is the first of the files that cannot be read. -/
def Environment.FirstUnreadable (env : Environment) (world : World) (files : List String)
    (name : String) (cause : Cause) : Prop :=
  ∃ before after, files = before ++ name :: after ∧
    (∀ f ∈ before, ∃ bytes, env.Reads world f bytes) ∧
    world.read (env.resolve name) = .error cause

/-- All files can be read, or one of them is the first that cannot. -/
theorem Environment.reads_or_firstUnreadable (env : Environment) (world : World)
    (files : List String) :
    (∃ contents, List.Forall₂ (env.Reads world) files contents) ∨
      ∃ name cause, env.FirstUnreadable world files name cause := by
  rcases all_or_first (fun name => world.read (env.resolve name)) files with
    hall | ⟨before, name, after, cause, hfiles, hbefore, hname⟩
  · exact .inl hall
  · exact .inr ⟨name, cause, before, after, hfiles, hbefore, hname⟩

namespace Builtin

/-! ### Commands that go over files -/

/-- All arguments of the command are files from the first on, and it
gives what `write` makes of the name and the text of each. -/
structure GoesOver (b : Builtin) (write : (name text : String) → String) : Prop where
  greedy : ∃ pos, b.spec.positional = some pos ∧ pos.arity = .greedy
  act : ∀ call : Call, call.given.operands ≠ [] →
    b.act call = call.keeping do
      let rows ← call.given.operands.mapM fun name => (call.text name).map (write name)
      return String.join rows

/-- The row that `wc` writes for a file. -/
def countRow (name text : String) : String :=
  (Text.Counts.of text).render ++ " " ++ name ++ "\n"

theorem goesOver_cat : cat.GoesOver fun _ text => text where
  greedy := ⟨_, rfl, rfl⟩
  act := by
    intro call hne
    have htext : (fun name => (call.text name).map fun text => text) = call.text := by
      funext name
      cases call.text name <;> rfl
    obtain ⟨name, names, hfiles⟩ := List.exists_cons_of_ne_nil hne
    simp only [cat, hfiles, htext]

theorem goesOver_wc : wc.GoesOver countRow where
  greedy := ⟨_, rfl, rfl⟩
  act := by
    intro call hne
    have hrow : (fun name => do
          return (Text.Counts.of (← call.text name)).render ++ " " ++ name ++ "\n")
        = fun name => (call.text name).map (countRow name) := by
      funext name
      cases call.text name <;> rfl
    obtain ⟨name, names, hfiles⟩ := List.exists_cons_of_ne_nil hne
    simp only [wc, hfiles, hrow]

section
variable (call : Call) {name : String}

/-- The text of a file that can be read. -/
theorem Call.text_of_reads {bytes : List UInt8} (h : call.env.Reads call.world name bytes) :
    call.text name = .ok (Text.Utf8.lossy bytes) := by
  have hread : call.world.read (call.env.resolve name) = .ok bytes := h
  -- An equation for `Call.text` would be slow to make: Lean looks for it down the whole tree.
  delta Call.text
  simp only [hread]

/-- The report of one that cannot be read. -/
theorem Call.text_of_unreadable {cause : Cause}
    (h : call.world.read (call.env.resolve name) = .error cause) :
    call.text name = .error ((Report.ofNote cause.message).within name) := by
  delta Call.text
  simp only [h]

/-- What is written for files that can all be read. -/
theorem Call.forall₂_rows (write : (name text : String) → String) {files : List String}
    {contents : List (List UInt8)} (h : List.Forall₂ (call.env.Reads call.world) files contents) :
    List.Forall₂ (fun name row => (call.text name).map (write name) = .ok row) files
      (List.zipWith write files (contents.map Text.Utf8.lossy)) := by
  induction h with
  | nil => exact .nil
  | cons hname _ ih =>
      refine .cons ?_ ih
      rw [call.text_of_reads hname]
      rfl

end

namespace GoesOver

variable {b : Builtin} {write : (name text : String) → String} (hb : b.GoesOver write)
  {c : Command} {files : List String} {env : Environment} {world : World}
include hb

/-- The files begin with the first argument that is no option, and later
ones may look like options. -/
theorem read_args {first : String} (hdash : Args.isDashed first = false)
    (hhelp : first ≠ "help") (rest : List String) :
    b.spec.read (first :: rest) = .ok ⟨[], [], first :: rest⟩ := by
  obtain ⟨pos, hpos, hgreedy⟩ := hb.greedy
  exact Args.read_greedy hpos hgreedy hdash hhelp

section
variable (hread : b.spec.read c.args = .ok ⟨[], [], files⟩) (hne : files ≠ [])
  (input : Option String)
include hread hne

/-- Files that can all be read give something each, in their order. -/
theorem handler_of_reads {contents : List (List UInt8)}
    (h : List.Forall₂ (env.Reads world) files contents) :
    b.handler c input env world
      = (.success (String.join (List.zipWith write files (contents.map Text.Utf8.lossy))), env,
          world) := by
  let call : Call := ⟨⟨[], [], files⟩, c.literal, input, env, world⟩
  have hrows := call.forall₂_rows write h
  refine handler_of_act hread ?_
  rw [hb.act call hne, mapM_of_forall₂ hrows]
  rfl

/-- The first file that cannot be read is named in the report, and
nothing else comes of the command. -/
theorem handler_of_firstUnreadable {name : String} {cause : Cause}
    (h : env.FirstUnreadable world files name cause) :
    b.handler c input env world
      = (.failure .commandFailed (b.name ++ ": " ++ name ++ ": " ++ cause.message), env,
          world) := by
  let call : Call := ⟨⟨[], [], files⟩, c.literal, input, env, world⟩
  obtain ⟨before, after, hfiles, hbefore, hname⟩ := h
  have hrows : ∀ f ∈ before, ∃ row, (call.text f).map (write f) = .ok row := by
    intro f hf
    obtain ⟨bytes, hbytes⟩ := hbefore f hf
    rw [call.text_of_reads hbytes]
    exact ⟨_, rfl⟩
  have hfault : (call.text name).map (write name)
      = .error ((Report.ofNote cause.message).within name) := by
    rw [call.text_of_unreadable hname]
    rfl
  have hact : b.act call = (.error ((Report.ofNote cause.message).within name), env) := by
    have hoperands : call.given.operands = before ++ name :: after := hfiles
    rw [hb.act call hne, hoperands, mapM_of_first hrows hfault]
    rfl
  rw [handler_of_report hread hact]
  simp [Outcome.ofReport, Report.kind, Report.message, Report.within, Report.ofNote,
    Report.Root.message, String.append_assoc]

end

end GoesOver

end Builtin

/-! ### The two commands in the shell -/

/-- Files whose names and texts are given, of which only the texts are
written. -/
theorem zipWith_text {files texts : List String} (h : files.length = texts.length) :
    List.zipWith (fun _ text => text) files texts = texts :=
  List.map_zip_eq_zipWith.symm.trans (List.map_snd_zip h.ge)

/-- `cat` and `wc` are given one file or more, the first of which is no
option and no word for help. If all of them can be read, `cat` joins
their texts and `wc` writes a row for each of them, in their order, and
a file with the bytes of a text has that text and is counted by its
bytes. If not, both fail for the first that cannot be read, and print
nothing. -/
theorem dispatch_files (launch : Launcher) {first : String}
    (hdash : Args.isDashed first = false) (hhelp : first ≠ "help") (rest : List String)
    (literal : Bool) (input : Option String) (env : Environment) (world : World) :
    let files := first :: rest
    let cat : Command := ⟨"cat", files, literal⟩
    let wc : Command := ⟨"wc", files, literal⟩
    (∀ contents, List.Forall₂ (env.Reads world) files contents →
      let texts := contents.map Text.Utf8.lossy
      launch.shell.dispatch cat input env world = (.success (String.join texts), env, world) ∧
      launch.shell.dispatch wc input env world
        = (.success (String.join (List.zipWith Builtin.countRow files texts)), env, world) ∧
      ∀ (i : Nat) (text : String), contents[i]? = some (Text.Utf8.encode text) →
        texts[i]? = some text ∧
        (Text.Counts.of text).bytes = (Text.Utf8.encode text).length) ∧
    ((¬∃ contents, List.Forall₂ (env.Reads world) files contents) →
      ∃ name cause, env.FirstUnreadable world files name cause ∧
        launch.shell.dispatch cat input env world
          = (.failure .commandFailed ("cat: " ++ name ++ ": " ++ cause.message), env, world) ∧
        launch.shell.dispatch wc input env world
          = (.failure .commandFailed ("wc: " ++ name ++ ": " ++ cause.message), env, world)) := by
  intro files cat wc
  have hcat : launch.shell.dispatch cat = Builtin.cat.handler cat :=
    Builtin.dispatch_of_mem (b := Builtin.cat) (by simp [Builtin.all]) rfl
  have hwc : launch.shell.dispatch wc = Builtin.wc.handler wc :=
    Builtin.dispatch_of_mem (b := Builtin.wc) (by simp [Builtin.all]) rfl
  have hcatArgs : Builtin.cat.spec.read cat.args = .ok ⟨[], [], files⟩ :=
    Builtin.goesOver_cat.read_args hdash hhelp rest
  have hwcArgs : Builtin.wc.spec.read wc.args = .ok ⟨[], [], files⟩ :=
    Builtin.goesOver_wc.read_args hdash hhelp rest
  have hne : files ≠ [] := List.cons_ne_nil first rest
  rw [hcat, hwc]
  refine ⟨fun contents hreads => ⟨?_, ?_, fun i text htext => ⟨?_, ?_⟩⟩, fun hnone => ?_⟩
  · have htexts : files.length = (contents.map Text.Utf8.lossy).length := by
      rw [List.length_map]
      exact hreads.length_eq
    have hjoined := Builtin.goesOver_cat.handler_of_reads hcatArgs hne input hreads
    rw [zipWith_text htexts] at hjoined
    exact hjoined
  · exact Builtin.goesOver_wc.handler_of_reads hwcArgs hne input hreads
  · rw [List.getElem?_map, htext, Option.map_some, Text.Utf8.lossy_encode]
  · exact (Text.Utf8.length_encode text).symm
  · rcases env.reads_or_firstUnreadable world files with hall | ⟨name, cause, hfirst⟩
    · exact absurd hall hnone
    · exact ⟨name, cause, hfirst,
        Builtin.goesOver_cat.handler_of_firstUnreadable hcatArgs hne input hfirst,
        Builtin.goesOver_wc.handler_of_firstUnreadable hwcArgs hne input hfirst⟩

/-- A text of more than one byte for a character, bytes that are no text
in a file that is called like an option, and the first file a second
time; then a name among them that may not be read. -/
theorem dispatch_files_named_like_options :
    let env : Environment := .within "/"
    let tree : Host.FileTree := ⟨[(["a"], .file [0xC3, 0xA9, 0x20, 0xE2, 0x82, 0xAC, 0x0A] false),
      (["--help"], .file [0x62, 0xFF] false), (["-n"], .file [0x63] false)],
      [((["-n"], .reading), .permission)]⟩
    let world : World := ⟨tree, [], [], []⟩
    let refused := "cat: -n: Permission denied (os error 13)"
    (Args.isDashed "a" = false ∧ "a" ≠ "help") ∧
      shell.dispatch ⟨"cat", ["a", "--help", "a"], false⟩ none env world
        = (.success "é €\nb\uFFFDé €\n", env, world) ∧
      shell.dispatch ⟨"wc", ["a", "--help", "a"], false⟩ none env world
        = (.success "1 2 7 a\n1 1 4 --help\n1 2 7 a\n", env, world) ∧
      ∃ name cause, env.FirstUnreadable world ["a", "-n", "help"] name cause ∧
        shell.dispatch ⟨"cat", ["a", "-n", "help"], false⟩ none env world
          = (.failure .commandFailed ("cat: " ++ name ++ ": " ++ cause.message), env, world) ∧
        "cat: " ++ name ++ ": " ++ cause.message = refused := by
  intro env tree world refused
  have hdash : Args.isDashed "a" = false := by decide
  have hhelp : "a" ≠ "help" := by decide
  obtain ⟨hall, -⟩ :=
    dispatch_files Host.standIn hdash hhelp ["--help", "a"] false none env world
  obtain ⟨-, hnone⟩ := dispatch_files Host.standIn hdash hhelp ["-n", "help"] false none env world
  have ha : env.Reads world "a" [0xC3, 0xA9, 0x20, 0xE2, 0x82, 0xAC, 0x0A] := by decide +kernel
  have hoption : env.Reads world "--help" [0x62, 0xFF] := by decide +kernel
  obtain ⟨hcat, hwc, -⟩ := hall _ (.cons ha (.cons hoption (.cons ha .nil)))
  have hforbidden : world.read (env.resolve "-n") = .error Cause.permission := by decide +kernel
  obtain ⟨name, cause, hfirst, hfails, -⟩ := hnone fun ⟨contents, hreads⟩ => by
    cases hreads with
    | cons _ hreads =>
        cases hreads with
        | cons h _ => cases hforbidden.symm.trans h
  have hshown : shell.dispatch ⟨"cat", ["a", "-n", "help"], false⟩ none env world
      = (.failure .commandFailed refused, env, world) := by
    decide +kernel
  have hmessage := (Outcome.failure.inj (Prod.mk.inj (hfails.symm.trans hshown)).1).2
  refine ⟨⟨hdash, hhelp⟩, hcat.trans ?_, hwc.trans ?_, name, cause, hfirst, hfails, hmessage⟩
  · decide +kernel
  · decide +kernel

end PipeShell
