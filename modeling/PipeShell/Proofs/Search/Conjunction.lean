import PipeShell.Program
import PipeShell.Proofs.Pipeline
import PipeShell.Proofs.Search.Dispatch
import PipeShell.Proofs.Search.Lines

/-!
# `PipeShell.Proofs.Search.Conjunction`: one search after another

A search without lines after a match keeps the lines that match. A
second search of what the first one found keeps those of them that match
its pattern too, so together they keep the lines that match both, and it
makes no difference which of them comes first.

Between the two the lines are written to a text and cut again, and there
blank lines at the end are lost. They may have come to stand at the end
only because the first search left out the lines after them. No harm is
done unless both patterns match a blank line: if the first does not, then
there are no blank lines in its text, and if the second does not, then it
would leave them out itself.

* `Finds`, `Asks`: the options of such a search, and the commands that
  ask for it.
* `filter_splitLines_unlines`: what is lost between two searches would
  not be found.
* `Finds.search_then`: two searches, one after the other.
* `search_both`: they are a conjunction, for texts and in pipelines.
-/

set_option autoImplicit false

namespace PipeShell.Search

open Host (World Launcher)
open Line (searchName)
open Pattern (Matcher)

/-! ### Searches that keep the lines that match -/

/-- The options have a pattern, which compiles to the matcher, and ask
for no lines after a match. -/
structure Finds (o : SearchOptions) (m : Matcher) : Prop where
  compiles : ∃ pattern, o.pattern = some pattern ∧ matcher o pattern.toList = .ok m
  alone : o.after = 0

/-- The command is a search, and its arguments ask for these options. It
may name a file as well. -/
structure Asks (c : Command) (o : SearchOptions) : Prop where
  named : c.name = searchName
  accepted : ∃ given pattern, ∃ file : Option String,
    Builtin.grep.spec.read c.args = .ok given ∧ given.operands = pattern :: file.toList ∧
      ∀ input env world,
        (Builtin.Call.mk given c.literal input env world).searchOptions (some pattern) = o

/-- The lines of a text that are kept, each of them ended. -/
def keeping (keep : List Char → Bool) (content : String) : String :=
  String.ofList (unlines ((splitLines content.toList).filter keep))

section
variable {p q : SearchOptions} {m n : Matcher}

/-- The search keeps the lines that match, whatever file it is given. -/
theorem Finds.search_eq (hp : Finds p m) (read : String → Except Host.Cause (List UInt8))
    (content : String) (file : Option String) :
    search p read (some content) file = .ok (keeping m.accepts content) := by
  obtain ⟨pattern, hpattern, hmatcher⟩ := hp.compiles
  rw [search_eq_filter hpattern hmatcher, filter, hp.alone, select_zero, keeping]

/-- So does a command that asks for it, if it is given a text. -/
theorem Asks.dispatch_eq {launch : Launcher} {c : Command} (hc : Asks c p) (hp : Finds p m)
    (content : String) (env : Environment) (world : World) :
    launch.shell.dispatch c (some content) env world
      = (.success (keeping m.accepts content), env, world) := by
  obtain ⟨given, pattern, file, hread, hoperands, hasks⟩ := hc.accepted
  rw [dispatch_search hc.named hread hoperands, hasks, hp.search_eq]
  rfl

/-! ### What is lost between two searches -/

section
variable {other keep : List Char → Bool} {ls : List (List Char)}

/-- Without blank lines none are lost. -/
theorem rdropWhile_filter_of_blank (hblank : other [] = false) :
    (ls.filter other).rdropWhile List.isEmpty = ls.filter other := by
  rw [List.rdropWhile_eq_self_iff]
  intro hne hempty
  have hlast : other ((ls.filter other).getLast hne) = true :=
    (List.mem_filter.mp (List.getLast_mem hne)).2
  rw [List.isEmpty_iff.mp hempty, hblank] at hlast
  cases hlast

/-- Blank lines that are lost would not have been kept. -/
theorem filter_rdropWhile_of_blank (hblank : keep [] = false) :
    (ls.rdropWhile List.isEmpty).filter keep = ls.filter keep := by
  obtain ⟨n, hn⟩ := exists_eq_append_blanks ls
  have hnone : (List.replicate n []).filter keep = [] := by
    rw [List.filter_replicate, hblank]
    rfl
  conv_rhs => rw [hn, List.filter_append, hnone, List.append_nil]

/-- Lines that are kept, written, read back and kept once more are those
that are kept for two reasons. -/
theorem filter_splitLines_unlines (hls : ∀ l ∈ ls, '\n' ∉ l)
    (hblank : other [] = false ∨ keep [] = false) :
    (splitLines (unlines (ls.filter other))).filter keep
      = ls.filter fun l => other l && keep l := by
  have hkept : ∀ l ∈ ls.filter other, '\n' ∉ l := fun l hl => hls l (List.mem_of_mem_filter hl)
  have hsame : ((ls.filter other).rdropWhile List.isEmpty).filter keep
      = (ls.filter other).filter keep := by
    rcases hblank with hother | hkeep
    · rw [rdropWhile_filter_of_blank hother]
    · exact filter_rdropWhile_of_blank hkeep
  rw [splitLines_unlines hkept, hsame, List.filter_filter]
  exact List.filter_congr fun l _ => Bool.and_comm (keep l) (other l)

/-- The same for texts. -/
theorem keeping_keeping (hblank : other [] = false ∨ keep [] = false) (content : String) :
    keeping keep (keeping other content) = keeping (fun l => other l && keep l) content := by
  rw [keeping, keeping, String.toList_ofList,
    filter_splitLines_unlines (fun _ hl => newline_notMem_of_mem_splitLines hl) hblank]
  rfl

end

/-! ### Two searches -/

section
variable (hp : Finds p m) (hq : Finds q n)
include hp hq

/-- A search of what another one found. -/
theorem Finds.search_then (hblank : m.accepts [] = false ∨ n.accepts [] = false)
    (read : String → Except Host.Cause (List UInt8)) (content : String)
    (file file' : Option String) :
    (search p read (some content) file >>= fun found => search q read (some found) file')
      = .ok (keeping (fun l => m.accepts l && n.accepts l) content) := by
  rw [hp.search_eq]
  show search q read (some (keeping m.accepts content)) file' = _
  rw [hq.search_eq, keeping_keeping hblank]

/-- Two commands behind others. -/
theorem run_append_searches (launch : Launcher) {c d : Command} (hc : Asks c p) (hd : Asks d q)
    (hblank : m.accepts [] = false ∨ n.accepts [] = false) {xs : List Command} (hxs : xs ≠ [])
    (env : Environment) (world : World) :
    launch.shell.run (xs ++ [c, d]) env world
      = match launch.shell.run xs env world with
        | (.success content, env', world') =>
            (.success (keeping (fun l => m.accepts l && n.accepts l) content), env', world')
        | (.failure kind message, env', world') => (.failure kind message, env', world') := by
  rw [Dispatcher.run, Dispatcher.run,
    Dispatcher.runFrom_append launch.shell xs _ none env world hxs]
  rcases launch.shell.runFrom none xs env world with ⟨content | ⟨kind, message⟩, env', world'⟩
  · -- The first search is given what `xs` left, the second what the first found.
    show launch.shell.runFrom (some content) [c, d] env' world' = _
    rw [Dispatcher.runFrom_pair launch.shell (hc.dispatch_eq hp content env' world'),
      hd.dispatch_eq hq, keeping_keeping hblank]
  · rfl

/-- Two searches without lines after a match, of which at most one
matches a blank line, find the lines of a text that match both patterns,
in their order. Either may come first, for a text that is given and in a
pipeline. Where the commands before them fail neither runs. -/
theorem search_both (launch : Launcher)
    (hblank : m.accepts [] = false ∨ n.accepts [] = false) :
    let both (content : String) : String :=
      String.ofList (unlines ((splitLines content.toList).filter fun l =>
        m.accepts l && n.accepts l))
    (∀ (read : String → Except Host.Cause (List UInt8)) (content : String)
        (file file' : Option String),
      (search p read (some content) file >>= fun found => search q read (some found) file')
        = .ok (both content) ∧
      (search q read (some content) file' >>= fun found => search p read (some found) file)
        = .ok (both content)) ∧
    ∀ (c d : Command), Asks c p → Asks d q → ∀ xs : List Command, xs ≠ [] → ∀ env world,
      launch.shell.run (xs ++ [c, d]) env world = launch.shell.run (xs ++ [d, c]) env world ∧
      ∀ content env' world', launch.shell.run xs env world = (.success content, env', world') →
        launch.shell.run (xs ++ [c, d]) env world = (.success (both content), env', world') := by
  intro both
  -- The other way round the same lines are asked for.
  have hswap : (fun l => n.accepts l && m.accepts l) = fun l => m.accepts l && n.accepts l :=
    funext fun l => Bool.and_comm (n.accepts l) (m.accepts l)
  constructor
  · intro read content file file'
    have hlater := hq.search_then hp hblank.symm read content file' file
    rw [hswap] at hlater
    exact ⟨hp.search_then hq hblank read content file file', hlater⟩
  · intro c d hc hd xs hxs env world
    have hfirst := run_append_searches hp hq launch hc hd hblank hxs env world
    have hlater := run_append_searches hq hp launch hd hc hblank.symm hxs env world
    rw [hswap] at hlater
    refine ⟨hfirst.trans hlater.symm, ?_⟩
    intro content env' world' hrun
    rw [hfirst, hrun]
    rfl

end

end

/-- A pattern and a literal text that holds an operator, with a blank
line among the lines. -/
theorem search_both_literal :
    let p : SearchOptions := ⟨some "a", false, false, false, 0⟩
    let q : SearchOptions := ⟨some "b.", false, false, true, 0⟩
    let c : Command := ⟨searchName, ["a"], false⟩
    let d : Command := ⟨searchName, ["b.", "-A", "0"], true⟩
    let echo : Command := ⟨"echo", ["a b.\n\nabb\nb.\nb.a"], false⟩
    let env : Environment := .within "/"
    let world : World := ⟨.empty, [], [], []⟩
    ∃ m n, (Finds p m ∧ Finds q n ∧ (m.accepts [] = false ∨ n.accepts [] = false)) ∧
      (Asks c p ∧ Asks d q ∧ [echo] ≠ []) ∧
      (search q (fun _ => .ok []) (some "b.a\n\na\nb.") none >>= fun found =>
        search p (fun _ => .ok []) (some found) none) = .ok "b.a\n" ∧
      shell.run [echo, d, c] env world = (.success "a b.\nb.a\n", env, world) := by
  intro p q c d echo env world
  obtain ⟨m, hm, hblank⟩ : ∃ m, matcher p ['a'] = .ok m ∧ m.accepts [] = false := by
    have hcompiles : ((matcher p ['a']).map fun m => m.accepts []).toOption = some false := by
      decide +kernel
    cases hm : matcher p ['a'] with
    | error refusal =>
        rw [hm] at hcompiles
        cases hcompiles
    | ok m =>
        rw [hm] at hcompiles
        exact ⟨m, rfl, Option.some.inj hcompiles⟩
  have hsize : Pattern.compile (Pattern.escape ['b', '.']) q.ignoreCase ≠ .error .tooLarge := by
    rw [Pattern.compile_escape, if_neg (by decide +kernel)]
    rintro ⟨⟩
  obtain ⟨n, hn, -⟩ := matcher_literal (o := q) rfl hsize
  have hp : Finds p m := ⟨⟨"a", rfl, hm⟩, rfl⟩
  have hq : Finds q n := ⟨⟨"b.", rfl, hn⟩, rfl⟩
  have hnumber : (Text.Count.read "0").toOption.getD 0 = 0 := by decide +kernel
  have hc : Asks c p :=
    ⟨rfl, ⟨[], [], ["a"]⟩, "a", none, by decide +kernel, rfl, fun _ _ _ => rfl⟩
  have hd : Asks d q :=
    ⟨rfl, ⟨[], [("after-context", "0")], ["b."]⟩, "b.", none, by decide +kernel, rfl,
      fun _ _ _ => congrArg (SearchOptions.mk (some "b.") false false true) hnumber⟩
  have hne : [echo] ≠ [] := List.cons_ne_nil echo []
  obtain ⟨htexts, hpipelines⟩ := search_both hp hq Host.standIn (.inl hblank)
  have hfound : (search p (fun _ => .ok []) (some "b.a\n\na\nb.") none >>= fun found =>
      search q (fun _ => .ok []) (some found) none) = .ok "b.a\n" := by
    decide +kernel
  have hrun : shell.run [echo, c, d] env world = (.success "a b.\nb.a\n", env, world) := by
    decide +kernel
  obtain ⟨hfirst, hlater⟩ := htexts (fun _ => .ok []) "b.a\n\na\nb." none none
  exact ⟨m, n, ⟨hp, hq, .inl hblank⟩, ⟨hc, hd, hne⟩, hlater.trans (hfirst.symm.trans hfound),
    (hpipelines c d hc hd [echo] hne env world).1.symm.trans hrun⟩

/-- Where both patterns match a blank line it can make a difference. -/
example :
    let p : SearchOptions := ⟨some "^$|a", false, false, false, 0⟩
    let q : SearchOptions := ⟨some "^$|b", false, false, false, 0⟩
    (search p (fun _ => .ok []) (some "a\n\nb") none >>= fun found =>
        search q (fun _ => .ok []) (some found) none) = .ok "" ∧
      (search q (fun _ => .ok []) (some "a\n\nb") none >>= fun found =>
        search p (fun _ => .ok []) (some found) none) = .ok "\n" := by
  decide +kernel

end PipeShell.Search
