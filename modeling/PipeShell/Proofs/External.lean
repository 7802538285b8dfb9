import PipeShell.External
import PipeShell.Proofs.Host.Path

/-!
# `PipeShell.Proofs.External`: which file a command names

A command that is no command of the shell names a file, in one of three
ways: by a path from the root, by a plain name that is looked for along
the search path, or by any other path, which is seen from the directory
of the session. What decides is the name alone, and a name of one kind is
never tried as one of another.

* `find?_plain_iff`: a plain name names the first file of that name along
  the search path.
* `find?_of_not_plain`: the other paths.
* `outcome_handler_eq_notFound_iff`: a command is not found just when it
  names no file.
* `find?_by_kind`: all of this together.
-/

set_option autoImplicit false

namespace PipeShell.External

open Host (World Launcher)
open Host.Path (IsPlain IsEntries isAbsolute)

variable {isFile : String → Bool} {searchPath dir name plain p : String}

/-! ### The file that a name stands for -/

/-- What is found is a file. -/
theorem isFile_of_find? (h : find? isFile searchPath dir name = some p) : isFile p = true := by
  -- Each of the three ways asks whether there is a file before it gives a path.
  unfold find? at h
  split at h
  · split at h
    · cases h
      assumption
    · cases h
  · split at h
    · cases h
    · exact List.find?_some h
    · dsimp only at h
      split at h
      · cases h
        assumption
      · cases h

/-- A plain name stands for the first file of that name along the search
path. -/
theorem find?_plain_iff {entries : List String} (hplain : IsPlain name plain)
    (hentries : IsEntries searchPath entries) :
    find? isFile searchPath dir name = some p ↔
      ∃ before entry after, entries = before ++ entry :: after ∧
        p = Host.Path.join entry plain ∧ isFile p = true ∧
        ∀ e ∈ before, isFile (Host.Path.join e plain) = false := by
  have hcomponents := Host.Path.components_eq_name_iff.mpr hplain
  rw [find?, hplain.relative, if_neg Bool.false_ne_true, hcomponents,
    ← Host.Path.isEntries_iff.mp hentries]
  show (entries.map fun d => Host.Path.join d plain).find? isFile = some p ↔ _
  rw [List.find?_map, Option.map_eq_some_iff]
  constructor
  · rintro ⟨entry, hfind, rfl⟩
    obtain ⟨hfile, before, after, rfl, hbefore⟩ := List.find?_eq_some_iff_append.mp hfind
    exact ⟨before, entry, after, rfl, rfl, hfile, by simpa using hbefore⟩
  · rintro ⟨before, entry, after, rfl, rfl, hfile, hbefore⟩
    exact ⟨entry, List.find?_eq_some_iff_append.mpr
      ⟨hfile, before, after, rfl, by simpa using hbefore⟩, rfl⟩

/-- A path that is no plain name and does not start at the root is seen
from the directory of the session. -/
theorem find?_of_not_plain (hrel : isAbsolute name = false) (hne : name ≠ "")
    (hplain : ¬∃ plain, IsPlain name plain) :
    find? isFile searchPath dir name
      = if isFile (Host.Path.join dir name) then some (Host.Path.join dir name) else none := by
  rw [find?, hrel, if_neg Bool.false_ne_true]
  -- The two other branches ask for no part at all and for a plain name.
  split
  · rename_i hnil
    exact absurd ((Host.Path.components_eq_nil_iff hrel).mp hnil) hne
  · rename_i plain hname
    exact absurd ⟨plain, Host.Path.components_eq_name_iff.mp hname⟩ hplain
  · rfl

/-! ### The command -/

/-- That a command was not found. -/
def notFound (name : String) : Outcome := .failure .spawnFailure ("command not found: " ++ name)

/-- The two messages that a program can fail with differ in their first
character. -/
theorem message_spawnFailure_ne (program name : String) (cause : Host.Cause) :
    (Failure.spawnFailure program cause).message ≠ "command not found: " ++ name := by
  have hfirst (text : String) : ("failed to run " ++ text) ≠ "command not found: " ++ name := by
    intro h
    have hhead := congrArg (fun text : String => text.toList.head?) h
    simp at hhead
  show "failed to run " ++ program ++ ": " ++ cause.message ≠ _
  rw [String.append_assoc, String.append_assoc]
  exact hfirst _

theorem ofReport_ofFailure (f : Failure) :
    Outcome.ofReport (.ofFailure f) = .failure f.kind f.message := rfl

/-- A command is not found just when it names no file. Whatever goes
wrong with a file that was found is reported otherwise. -/
theorem outcome_handler_eq_notFound_iff (launch : Launcher) (c : Command) (input : Option String)
    (env : Environment) (world : World) :
    (handler launch c input env world).1 = notFound c.name ↔
      find? world.isFile (env.value "PATH") env.dir c.name = none := by
  cases hfind : find? world.isFile (env.value "PATH") env.dir c.name with
  | none =>
      have hout : handler launch c input env world
          = (.ofReport (.ofFailure (.commandNotFound c.name)), env, world) := by
        simp only [handler, hfind]
      rw [hout]
      exact iff_of_true (ofReport_ofFailure _) rfl
  | some program =>
      -- A program was found, so what is reported is its output or why it did not run.
      refine iff_of_false ?_ (Option.some_ne_none program)
      rcases hrun : run launch program c.args input env world with ⟨cause | output, world'⟩
      · have hout : handler launch c input env world
            = (.ofReport (.ofFailure (.spawnFailure program cause)), env, world') := by
          simp only [handler, hfind, hrun]
        rw [hout, ofReport_ofFailure, notFound, Outcome.failure.injEq]
        exact fun h => message_spawnFailure_ne program c.name cause h.2
      · have hout : handler launch c input env world = (.success output, env, world') := by
          simp only [handler, hfind, hrun]
        rw [hout, notFound]
        simp

/-- A name stands for a file or for nothing. From the root it stands for
itself. A plain name, with whatever adds nothing to it, stands for the
first file of that name along the search path, wherever the session is.
Any other name stands for a file seen from the directory of the session,
whatever the search path is. A command whose name stands for nothing is
not found, and no other command is reported so, whatever programs do. -/
theorem find?_by_kind (isFile : String → Bool) (searchPath dir name : String) :
    (∀ p, find? isFile searchPath dir name = some p → isFile p = true) ∧
    (isAbsolute name = true →
      find? isFile searchPath dir name = if isFile name then some name else none) ∧
    (∀ plain, IsPlain name plain → ∃ entries, IsEntries searchPath entries ∧
      ∀ p, find? isFile searchPath dir name = some p ↔
        ∃ before entry after, entries = before ++ entry :: after ∧
          p = Host.Path.join entry plain ∧ isFile p = true ∧
          ∀ e ∈ before, isFile (Host.Path.join e plain) = false) ∧
    (isAbsolute name = false → name ≠ "" → (¬∃ plain, IsPlain name plain) →
      find? isFile searchPath dir name
        = if isFile (Host.Path.join dir name) then some (Host.Path.join dir name) else none) ∧
    (name = "" → find? isFile searchPath dir name = none) ∧
    ∀ (launch : Launcher) (c : Command) (input : Option String) (env : Environment)
      (world : World), (handler launch c input env world).1 = notFound c.name ↔
        find? world.isFile (env.value "PATH") env.dir c.name = none := by
  refine ⟨fun p h => isFile_of_find? h, fun habs => ?_, fun plain hplain => ?_,
    find?_of_not_plain, fun hnil => ?_, outcome_handler_eq_notFound_iff⟩
  · rw [find?, habs, if_pos rfl]
  · have hentries : IsEntries searchPath (Host.Path.searchList searchPath) :=
      Host.Path.isEntries_iff.mpr rfl
    exact ⟨_, hentries, fun p => find?_plain_iff hplain hentries⟩
  · subst hnil
    rfl

/-- A name with slashes and a dot behind it is plain, and is looked for in
the entries of the search path in their order. With a dot in front it is
no plain name, although the file is there in both places. -/
theorem find?_by_kind_dots :
    let isFile : String → Bool := fun p => ["/b/run", "/c/run", "/here/./run"].contains p
    (IsPlain "run//." "run" ∧ ¬∃ plain, IsPlain "./run" plain) ∧
      find? isFile "/a:/b::/c" "/here" "run//." = some "/b/run" ∧
      find? isFile "/a:/b::/c" "/here" "./run" = some "/here/./run" := by
  intro isFile
  have hplain : IsPlain "run//." "run" := Host.Path.components_eq_name_iff.mp (by decide)
  have hdot : ¬∃ plain, IsPlain "./run" plain := by
    rintro ⟨plain, h⟩
    have hone := Host.Path.components_eq_name_iff.mpr h
    have htwo : Host.Path.components "./run" = [.here, .name "run"] := by decide
    rw [htwo] at hone
    cases hone
  obtain ⟨-, -, hfirst, -⟩ := find?_by_kind isFile "/a:/b::/c" "/here" "run//."
  obtain ⟨-, -, -, hother, -⟩ := find?_by_kind isFile "/a:/b::/c" "/here" "./run"
  obtain ⟨entries, hentries, hfound⟩ := hfirst "run" hplain
  have hcut : entries = ["/a", "/b", "", "/c"] :=
    (Host.Path.isEntries_iff.mp hentries).trans (by decide)
  refine ⟨⟨hplain, hdot⟩, (hfound _).mpr ?_, ?_⟩
  · exact ⟨["/a"], "/b", ["", "/c"], hcut, by decide, by decide, by decide⟩
  · exact (hother (by decide) (by decide) hdot).trans (by decide)

end PipeShell.External
