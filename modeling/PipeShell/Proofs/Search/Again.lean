import PipeShell.Proofs.Search.Lines

/-!
# `PipeShell.Proofs.Search.Again`: searching what was found

In what a search has found the lines that were left out are gone, and
the others stand at new places. Searched again, it still gives the same
lines: every line after a match was kept together with all lines between
it and that match, so the distances that count are the old ones.

`select` shows this by its counter. Over the lines that were kept the
counter of the second run is never below that of the first one
(`select_of_prefix`), so nothing is owed in the first run that is not
owed in the second.

What can be lost are blank lines at the end of what was found, since a
search does not see those of its text.

* `select_of_prefix`: the beginning of a selection is kept as a whole.
* `filter_filter`: what a search gives for what it has found before.
* `search_again`: it gives the same again exactly when the last line
  found is not blank.
-/

set_option autoImplicit false

namespace PipeShell.Search

/-- The last of the lines of a text, each of which a newline ends. What
follows the last newline is no line. -/
def lastLine? (text : String) : Option (List Char) :=
  (Text.pieces text.toList).dropLast.getLast?

/-! ### Lines that are kept a second time -/

section
variable {keep : List Char → Bool} {after : Nat}

/-- The counter that is ahead stays ahead, whatever the line is. -/
theorem owedAfter_mono {pending pending' : Nat} (h : pending' ≤ pending) (line : List Char) :
    owedAfter keep after pending' line ≤ owedAfter keep after pending line := by
  rw [owedAfter, owedAfter]
  split
  · exact Nat.le_refl after
  · exact Nat.sub_le_sub_right h 1

/-- Lines from the beginning of a selection are kept, all of them, when
at least as many are owed before them as in the selection itself. A line
that was left out owes nothing, so it is not missed. -/
theorem select_of_prefix {lines xs : List (List Char)} {pending pending' : Nat}
    (hxs : xs <+: select keep after pending' lines) (hpending : pending' ≤ pending) :
    select keep after pending xs = xs := by
  induction lines generalizing xs pending pending' with
  | nil =>
      have hnil : xs = [] := List.prefix_nil.mp hxs
      rw [hnil]
      rfl
  | cons line rest ih =>
      rw [select_cons] at hxs
      by_cases hline : keep line = true ∨ 0 < pending'
      · -- The line was kept, so it is the first of `xs`, unless there is none.
        rw [if_pos hline, List.singleton_append] at hxs
        cases xs with
        | nil => rfl
        | cons x xs =>
            obtain ⟨rfl, hrest⟩ := List.cons_prefix_cons.mp hxs
            have hagain : keep x = true ∨ 0 < pending :=
              hline.imp_right fun hpos => Nat.lt_of_lt_of_le hpos hpending
            rw [select_cons, if_pos hagain, ih hrest (owedAfter_mono hpending x),
              List.singleton_append]
      · -- The line was left out with nothing owed, and nothing is owed after it.
        rw [if_neg hline, List.nil_append] at hxs
        obtain ⟨hkeep, hzero⟩ := not_or.mp hline
        have howed : owedAfter keep after pending' line ≤ pending := by
          rw [owedAfter, if_neg hkeep]
          omega
        exact ih hxs howed

/-- The lines kept are among those there are. -/
theorem select_sublist (lines : List (List Char)) (pending : Nat) :
    (select keep after pending lines).Sublist lines := by
  induction lines generalizing pending with
  | nil => exact .slnil
  | cons line rest ih =>
      rw [select_cons]
      split
      · exact (ih _).cons_cons line
      · exact (ih _).cons line

end

/-- So no line that was kept holds a newline. -/
theorem newline_notMem_of_mem_select {keep : List Char → Bool} {after : Nat}
    {content l : List Char} (h : l ∈ select keep after 0 (splitLines content)) : '\n' ∉ l :=
  newline_notMem_of_mem_splitLines ((select_sublist _ 0).subset h)

/-! ### Texts that were found -/

/-- What was found is searched again line by line, but for the blank
lines at its end. -/
theorem filter_filter (m : Pattern.Matcher) (after : Nat) (content : String) :
    filter m after (filter m after content)
      = String.ofList (unlines
          ((select m.accepts after 0 (splitLines content.toList)).rdropWhile List.isEmpty)) := by
  have hlines : ∀ l ∈ select m.accepts after 0 (splitLines content.toList), '\n' ∉ l :=
    fun l hl => newline_notMem_of_mem_select hl
  have hprefix := List.rdropWhile_prefix List.isEmpty
    (select m.accepts after 0 (splitLines content.toList))
  rw [filter, filter, String.toList_ofList, splitLines_unlines hlines,
    select_of_prefix hprefix (Nat.le_refl 0)]

/-- The last line of a text that is written line by line. -/
theorem lastLine?_unlines {ls : List (List Char)} (hls : ∀ l ∈ ls, '\n' ∉ l) :
    lastLine? (String.ofList (unlines ls)) = ls.getLast? := by
  rw [lastLine?, String.toList_ofList, pieces_unlines hls, List.dropLast_concat]

/-- Without a blank line at the end no line is dropped there. -/
theorem rdropWhile_eq_self_iff_lastLine {ls : List (List Char)} :
    ls.rdropWhile List.isEmpty = ls ↔ ls = [] ∨ ∃ l ∈ ls.getLast?, l ≠ [] := by
  rw [List.rdropWhile_eq_self_iff]
  constructor
  · intro h
    by_cases hne : ls = []
    · exact .inl hne
    · refine .inr ⟨ls.getLast hne, List.getLast?_eq_some_getLast hne, ?_⟩
      simpa using h hne
  · rintro (rfl | ⟨l, hlast, hl⟩) hne
    · exact absurd rfl hne
    · have hsame : ls.getLast hne = l :=
        Option.some.inj ((List.getLast?_eq_some_getLast hne).symm.trans hlast)
      simpa [hsame] using hl

/-- A search of what the same search has found gives the same text again
if nothing was found or the last line found is not blank, and only then.
It does not matter how many lines are kept after each match. -/
theorem search_again {o : SearchOptions} {pattern : String} {m : Pattern.Matcher}
    (hpattern : o.pattern = some pattern) (hmatcher : matcher o pattern.toList = .ok m)
    (read : String → Except Host.Cause (List UInt8)) (content : String) (file : Option String) :
    ∃ out, search o read (some content) file = .ok out ∧
      (search o read (some out) file = .ok out ↔
        out = "" ∨ ∃ l ∈ lastLine? out, l ≠ []) := by
  have hfound : ∀ text, search o read (some text) file = .ok (filter m o.after text) :=
    fun text => search_eq_filter hpattern hmatcher read text file
  refine ⟨filter m o.after content, hfound content, ?_⟩
  rw [hfound, filter_filter, Except.ok.injEq, filter]
  generalize hkept : select m.accepts o.after 0 (splitLines content.toList) = kept
  have hlines : ∀ l ∈ kept, '\n' ∉ l := by
    intro l hl
    rw [← hkept] at hl
    exact newline_notMem_of_mem_select hl
  have hfull : ∀ l ∈ kept.rdropWhile List.isEmpty, '\n' ∉ l :=
    fun l hl => hlines l ((List.rdropWhile_prefix _ _).subset hl)
  have hnone : ∀ l ∈ ([] : List (List Char)), '\n' ∉ l := fun l hl => absurd hl List.not_mem_nil
  have hempty : String.ofList (unlines kept) = "" ↔ kept = [] := by
    rw [← ofList_unlines_inj hlines hnone]
    rfl
  rw [ofList_unlines_inj hfull hlines, lastLine?_unlines hlines, hempty]
  exact rdropWhile_eq_self_iff_lastLine

/-- Two stretches of lines, and between them lines that are left out,
some of them blank. -/
theorem search_again_stretches :
    let o : SearchOptions := ⟨some "b", false, false, false, 2⟩
    ∃ m, matcher o ['b'] = .ok m ∧
      search o (fun _ => .ok []) (some "a\nb\n\n\n\nx\nb\ny\n") none = .ok "b\n\n\nb\ny\n" ∧
      search o (fun _ => .ok []) (some "b\n\n\nb\ny\n") none = .ok "b\n\n\nb\ny\n" := by
  intro o
  have hcompiles : (matcher ⟨some "b", false, false, false, 2⟩ ['b']).toBool = true := by
    decide +kernel
  have hfirst : search o (fun _ => .ok []) (some "a\nb\n\n\n\nx\nb\ny\n") none
      = .ok "b\n\n\nb\ny\n" := by
    decide +kernel
  cases hmatcher : matcher o ['b'] with
  | error refusal =>
      rw [show matcher _ _ = _ from hmatcher] at hcompiles
      cases hcompiles
  | ok m =>
      have hpattern : o.pattern = some "b" := rfl
      obtain ⟨out, hout, hagain⟩ := search_again hpattern hmatcher (fun _ => .ok [])
        "a\nb\n\n\n\nx\nb\ny\n" none
      obtain rfl : "b\n\n\nb\ny\n" = out := Except.ok.inj (hfirst.symm.trans hout)
      exact ⟨m, rfl, hfirst, hagain.mpr (.inr ⟨['y'], by decide, by decide⟩)⟩

end PipeShell.Search
