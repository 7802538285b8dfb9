import PipeShell.Proofs.Builtin.Relay
import PipeShell.Proofs.Search.Again
import PipeShell.Proofs.Text.Counts

/-!
# `PipeShell.Proofs.Search.Counting`: counting what was found

`wc` gives three numbers for a text. They are those of the text itself
(`Text.Counts.IsOf`), and where a text is cut behind a newline they are
the sums of those of its two parts.

A search ends each line that it gives with a newline, and no such line
holds another one. So its text consists of whole lines, and the lines
that are counted in it are the lines that were selected: there is no
piece after the last newline to count, and no blank line is left out.

* `source_and_matcher_of_search`: what a search that succeeds goes by.
* `counts_of_whole_lines`: the counts of texts, of texts in two parts,
  and of what was found.
-/

set_option autoImplicit false

namespace PipeShell.Search

open Host (World Launcher)
open Text (Counts WholeLines)

/-- A search that succeeds has a pattern that is accepted and a text to
look at, and gives the lines of that text which the matcher keeps. -/
theorem source_and_matcher_of_search {o : SearchOptions}
    {read : String → Except Host.Cause (List UInt8)} {input file : Option String} {text : String}
    (h : search o read input file = .ok text) :
    ∃ pattern content m, o.pattern = some pattern ∧ source read input file = .ok content ∧
      matcher o pattern.toList = .ok m ∧ text = filter m o.after content := by
  rw [search] at h
  cases hpattern : o.pattern with
  | none =>
      rw [hpattern] at h
      cases h
  | some pattern =>
      cases hsource : source read input file with
      | error f =>
          simp only [hpattern, hsource] at h
          cases h
      | ok content =>
          cases hmatcher : matcher o pattern.toList with
          | error refusal =>
              simp only [hpattern, hsource, hmatcher] at h
              cases h
          | ok m =>
              simp only [hpattern, hsource, hmatcher] at h
              exact ⟨pattern, content, m, rfl, rfl, hmatcher, (Except.ok.inj h).symm⟩

/-- As many lines are counted in what was found as were selected. -/
theorem counts_filter (m : Pattern.Matcher) (after : Nat) (content : String) :
    (Counts.of (filter m after content)).lines
      = (select m.accepts after 0 (splitLines content.toList)).length := by
  unfold filter
  exact counts_unlines fun l hl => newline_notMem_of_mem_select hl

/-- The counts of a text behind whole lines are added to those of the
lines. The counts of any text are its newlines, and one more line if the
last one is not ended, its maximal runs without blanks, and the bytes
that it is written in. So `wc` says of what a search gives that it has as
many lines as the search selected. -/
theorem counts_of_whole_lines :
    (∀ a b : String, WholeLines a.toList → Counts.of (a ++ b) = Counts.of a + Counts.of b) ∧
    (∀ s : String, (Counts.of s).IsOf s) ∧
    ∀ (o : SearchOptions) (read : String → Except Host.Cause (List UInt8))
      (input file : Option String) (text : String), search o read input file = .ok text →
      ∃ pattern content m, o.pattern = some pattern ∧ source read input file = .ok content ∧
        matcher o pattern.toList = .ok m ∧
        let selected := select m.accepts o.after 0 (splitLines content.toList)
        text = String.ofList (unlines selected) ∧
        (Counts.of text).lines = selected.length ∧
        ∀ (launch : Launcher) (literal : Bool) (env : Environment) (world : World),
          ∃ words bytes : Nat, launch.shell.dispatch ⟨"wc", [], literal⟩ (some text) env world
            = (.success (toString selected.length ++ " " ++ toString words ++ " "
                ++ toString bytes ++ "\n"), env, world) := by
  refine ⟨fun a b ha => Counts.of_append ha b, Counts.isOf_of, ?_⟩
  intro o read input file text h
  obtain ⟨pattern, content, m, hpattern, hsource, hmatcher, rfl⟩ := source_and_matcher_of_search h
  have hlines := counts_filter m o.after content
  refine ⟨pattern, content, m, hpattern, hsource, hmatcher, rfl, hlines, ?_⟩
  intro launch literal env world
  refine ⟨(Counts.of (filter m o.after content)).words,
    (Counts.of (filter m o.after content)).bytes, ?_⟩
  rw [dispatch_wc_input, Counts.render, hlines]

/-- A text that is cut behind its first line, and a search that finds
two lines, one of them blank. -/
theorem counts_of_whole_lines_blank :
    let o : SearchOptions := ⟨some "b", false, false, false, 1⟩
    let env : Environment := .within "/"
    let world : World := ⟨.empty, [], [], []⟩
    (WholeLines "a b\n".toList ∧ Counts.of ("a b\n" ++ "c") = ⟨1, 2, 4⟩ + ⟨1, 1, 1⟩) ∧
      search o (fun _ => .ok []) (some "a b\n\nc") none = .ok "a b\n\n" ∧
      ∃ words bytes : Nat,
        shell.dispatch ⟨"wc", [], false⟩ (some "a b\n\n") env world
          = (.success ("2 " ++ toString words ++ " " ++ toString bytes ++ "\n"), env, world) := by
  intro o env world
  obtain ⟨hadd, -, hfound⟩ := counts_of_whole_lines
  have hwhole : WholeLines "a b\n".toList := by decide
  have hsearch : search o (fun _ => .ok []) (some "a b\n\nc") none = .ok "a b\n\n" := by
    decide +kernel
  obtain ⟨pattern, content, m, -, -, -, -, hlines, hwc⟩ := hfound o _ _ _ _ hsearch
  have htwo : (Counts.of "a b\n\n").lines = 2 := by decide
  refine ⟨⟨hwhole, (hadd "a b\n" "c" hwhole).trans (by decide)⟩, hsearch, ?_⟩
  have hreport := hwc Host.standIn false env world
  rw [← hlines, htwo] at hreport
  exact hreport

end PipeShell.Search
