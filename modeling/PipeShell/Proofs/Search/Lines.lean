import PipeShell.Proofs.Search.Holding
import PipeShell.Proofs.Text.Lines

/-!
# `PipeShell.Proofs.Search.Lines`: the lines that a search sees

A search cuts its text at the newlines, drops the empty pieces at the
end, and writes the lines it keeps with a newline after each. Writing
and cutting undo each other up to one thing: the piece after a last
newline is empty, but so are the blank lines before it, and all of them
are dropped. A count of lines leaves out that one piece only.

`search_every_line` says what becomes of a text of which every line
matches: it loses the blank lines at its end and nothing else. It comes
back as it was, and has as many lines for the search as for the count,
exactly when there are none.

* `pieces_unlines`, `lines_unlines`: lines that are written are read
  back, piece by piece and for the count.
* `splitLines_unlines`: for a search without the blank ones at the end.
* `matcher_empty`: the empty pattern matches every line.
* `search_every_line`: a search in which every line matches.
-/

set_option autoImplicit false

namespace PipeShell.Search

/-! ### Lines that are written and cut again -/

theorem unlines_cons (l : List Char) (ls : List (List Char)) :
    unlines (l :: ls) = l ++ '\n' :: unlines ls := by
  simp [unlines]

section
variable {ls : List (List Char)} (hls : ∀ l ∈ ls, '\n' ∉ l)
include hls

/-- Cutting a written text gives its lines, and an empty piece after the
last newline. -/
theorem pieces_unlines : Text.pieces (unlines ls) = ls ++ [[]] := by
  induction ls with
  | nil => rfl
  | cons l ls ih =>
      have hl : '\n' ∉ l := hls l List.mem_cons_self
      have hrest : Text.pieces (unlines ls) = ls ++ [[]] :=
        ih fun k hk => hls k (List.mem_cons_of_mem l hk)
      rw [Text.pieces, Text.splitOn_eq] at hrest ⊢
      rw [unlines_cons, List.splitOn_append_cons_self_of_not_mem hl, hrest, List.cons_append]

/-- Lines can be read back from the text they were written to, so
different lines make different texts. -/
theorem ofList_unlines_inj {ks : List (List Char)} (hks : ∀ l ∈ ks, '\n' ∉ l) :
    String.ofList (unlines ls) = String.ofList (unlines ks) ↔ ls = ks := by
  constructor
  · intro h
    have hpieces := congrArg Text.pieces (String.ofList_injective h)
    rw [pieces_unlines hls, pieces_unlines hks] at hpieces
    exact List.append_cancel_right hpieces
  · rintro rfl
    rfl

/-- The count sees each line that was written, without a carriage return
at its end. -/
theorem lines_unlines : Text.lines (unlines ls) = ls.map Text.dropReturn := by
  induction ls with
  | nil => rfl
  | cons l ls ih =>
      have hl : '\n' ∉ l := hls l List.mem_cons_self
      have hrest := ih fun k hk => hls k (List.mem_cons_of_mem l hk)
      rw [unlines_cons, Text.lines_newline hl, hrest, List.map_cons]

/-- As many lines are counted as were written. -/
theorem counts_unlines : (Text.Counts.of (String.ofList (unlines ls))).lines = ls.length := by
  show (Text.lines (String.ofList (unlines ls)).toList).length = ls.length
  rw [String.toList_ofList, lines_unlines hls, List.length_map]

/-- A search sees the lines that were written up to the last one that is
not blank. -/
theorem splitLines_unlines : splitLines (unlines ls) = ls.rdropWhile List.isEmpty := by
  show (Text.pieces (unlines ls)).rdropWhile List.isEmpty = _
  rw [pieces_unlines hls, List.rdropWhile_concat_pos _ _ _ rfl]

end

/-- No line holds a newline. -/
theorem newline_notMem_of_mem_splitLines {content l : List Char} (h : l ∈ splitLines content) :
    '\n' ∉ l := by
  have hpieces : l ∈ (Text.pieces content).rdropWhile List.isEmpty := h
  exact Text.notMem_of_mem_splitOn ((List.rdropWhile_prefix _ _).subset hpieces)

/-- Every list of lines ends in some number of blank ones. -/
theorem exists_eq_append_blanks (ls : List (List Char)) :
    ∃ n, ls = ls.rdropWhile List.isEmpty ++ List.replicate n [] := by
  induction ls using List.reverseRecOn with
  | nil => exact ⟨0, rfl⟩
  | append_singleton ls l ih =>
      obtain ⟨n, hn⟩ := ih
      rw [List.rdropWhile_concat]
      split
      · -- One more blank line behind those there are.
        rename_i hblank
        have hl : l = [] := List.isEmpty_iff.mp hblank
        refine ⟨n + 1, ?_⟩
        rw [List.replicate_succ', ← List.append_assoc, ← hn, hl]
      · exact ⟨0, (List.append_nil _).symm⟩

/-- The last line before them is not blank. -/
theorem getLast?_rdropWhile_ne (ls : List (List Char)) :
    (ls.rdropWhile List.isEmpty).getLast? ≠ some [] := by
  intro hlast
  obtain ⟨init, hinit⟩ := List.getLast?_eq_some_iff.mp hlast
  have hne : ls.rdropWhile List.isEmpty ≠ [] := by
    rw [hinit]
    exact List.concat_ne_nil [] init
  have hfull := List.rdropWhile_last_not List.isEmpty ls hne
  simp [hinit] at hfull

/-! ### Searches in which every line matches -/

/-- A search of a given text is a filter, once its pattern is
compiled. -/
theorem search_eq_filter {o : SearchOptions} {pattern : String} {m : Pattern.Matcher}
    (hpattern : o.pattern = some pattern) (hmatcher : matcher o pattern.toList = .ok m)
    (read : String → Except Host.Cause (List UInt8)) (content : String) (file : Option String) :
    search o read (some content) file = .ok (filter m o.after content) := by
  rw [search, hpattern]
  simp only [source, hmatcher]

/-- Lines that all match are all kept. -/
theorem select_of_forall {keep : List Char → Bool} {after : Nat} {ls : List (List Char)}
    (hall : ∀ l ∈ ls, keep l = true) (pending : Nat) : select keep after pending ls = ls := by
  induction ls generalizing pending with
  | nil => rfl
  | cons l ls ih =>
      have hl : keep l = true := hall l List.mem_cons_self
      have hrest := ih fun k hk => hall k (List.mem_cons_of_mem l hk)
      rw [select_cons, if_pos (.inl hl), hrest, List.singleton_append]

/-- The empty pattern matches every line, as a literal text and as a
pattern, unless it is bound to whole words. -/
theorem matcher_empty {o : SearchOptions} (h : o.literal = true ∨ o.wholeWord = false) :
    ∃ m, matcher o [] = .ok m ∧ ∀ line, m.accepts line = true := by
  have hempty : matcher o [] = matcher { o with literal := true } [] := by
    rw [matcher, matcher, effectivePattern, effectivePattern]
    rcases h with h | h <;> simp [h, Pattern.escape]
  have hsize : Pattern.compile (Pattern.escape []) o.ignoreCase ≠ .error .tooLarge := by
    have hfits : ((Pattern.Modes.initial o.ignoreCase).row []).isTooLarge = false := by
      cases o.ignoreCase <;> cbv
    rw [Pattern.compile_escape, hfits]
    rintro ⟨⟩
  obtain ⟨m, hm, hholds⟩ := matcher_literal (o := { o with literal := true }) rfl hsize
  refine ⟨m, hempty.trans hm, fun line => (hholds line).mpr ?_⟩
  -- The empty text stands in every line, whether or not case counts.
  cases o.ignoreCase with
  | false => exact List.nil_infix
  | true => exact ⟨[], List.nil_infix, .nil⟩

/-- A search in which every line matches, of a text with a newline after
each of its lines. What it loses are the blank lines at the end of the
text: those pieces are dropped together with the empty one after the
last newline. So the text comes back as it was, and has as many lines
for the search as are counted, exactly when it has no such lines. -/
theorem search_every_line {o : SearchOptions} {pattern : String} {m : Pattern.Matcher}
    (hpattern : o.pattern = some pattern) (hmatcher : matcher o pattern.toList = .ok m)
    (hall : ∀ line, m.accepts line = true) {ls : List (List Char)} (hls : ∀ l ∈ ls, '\n' ∉ l)
    (read : String → Except Host.Cause (List UInt8)) (file : Option String) :
    let text := String.ofList (unlines ls)
    ∃ kept n, ls = kept ++ List.replicate n [] ∧ kept.getLast? ≠ some [] ∧
      search o read (some text) file = .ok (String.ofList (unlines kept)) ∧
      (search o read (some text) file = .ok text ↔ n = 0) ∧
      splitLines text.toList = kept ∧
      Text.pieces text.toList = kept ++ List.replicate (n + 1) [] ∧
      (Text.Counts.of text).lines = (splitLines text.toList).length + n := by
  intro text
  obtain ⟨n, hn⟩ := exists_eq_append_blanks ls
  have hchars : text.toList = unlines ls := String.toList_ofList
  have hkept : splitLines text.toList = ls.rdropWhile List.isEmpty := by
    rw [hchars, splitLines_unlines hls]
  have hsearch : search o read (some text) file
      = .ok (String.ofList (unlines (ls.rdropWhile List.isEmpty))) := by
    rw [search_eq_filter hpattern hmatcher, filter, hkept, select_of_forall fun l _ => hall l]
  have hlength : ls.length = (ls.rdropWhile List.isEmpty).length + n := by
    conv_lhs => rw [hn]
    rw [List.length_append, List.length_replicate]
  refine ⟨ls.rdropWhile List.isEmpty, n, hn, getLast?_rdropWhile_ne ls, hsearch, ?_, hkept, ?_, ?_⟩
  · have hlines : ∀ l ∈ ls.rdropWhile List.isEmpty, '\n' ∉ l :=
      fun l hl => hls l ((List.rdropWhile_prefix _ _).subset hl)
    rw [hsearch, Except.ok.injEq, ofList_unlines_inj hlines hls]
    -- The same lines are left just when none are dropped.
    constructor
    · intro hsame
      rw [hsame] at hlength
      omega
    · intro hzero
      rw [hzero, List.replicate_zero, List.append_nil] at hn
      exact hn.symm
  · rw [hchars, pieces_unlines hls, List.replicate_succ', ← List.append_assoc, ← hn]
  · rw [counts_unlines hls, hkept, hlength]

/-- Blank lines in the middle stay, and a carriage return makes no line
blank. -/
theorem search_every_line_blank_middle :
    let o : SearchOptions := ⟨some "", false, true, false, 3⟩
    ∃ m, matcher o [] = .ok m ∧ (∀ line, m.accepts line = true) ∧
      search o (fun _ => .ok []) (some "\n\na\n\n\r\n") none = .ok "\n\na\n\n\r\n" := by
  intro o
  obtain ⟨m, hm, hall⟩ := matcher_empty (o := o) (.inr rfl)
  have hpattern : o.pattern = some "" := rfl
  have hls : ∀ l ∈ [[], [], ['a'], [], ['\r']], '\n' ∉ l := by decide
  obtain ⟨kept, n, hsplit, -, -, hiff, hkept, -, -⟩ :=
    search_every_line hpattern hm hall hls (fun _ => .ok []) none
  refine ⟨m, hm, hall, hiff.mpr ?_⟩
  -- All five lines are seen, so none are left for the end.
  have hlength := congrArg List.length hsplit
  rw [← hkept, List.length_append, List.length_replicate] at hlength
  have hseen : (splitLines (String.ofList (unlines
      [[], [], ['a'], [], ['\r']])).toList).length = 5 := by
    decide +kernel
  simp only [hseen, List.length_cons, List.length_nil] at hlength
  omega

/-- A search with the empty pattern, of a text whose last line is blank:
the line is lost, though it is counted. -/
theorem search_loses_blank_line :
    let o : SearchOptions := ⟨some "", false, false, false, 0⟩
    (∃ m, matcher o [] = .ok m ∧ ∀ line, m.accepts line = true) ∧
      (∀ l ∈ [['a'], []], '\n' ∉ l) ∧ String.ofList (unlines [['a'], []]) = "a\n\n" ∧
      search o (fun _ => .ok []) (some "a\n\n") none = .ok "a\n" ∧
      Text.pieces "a\n\n".toList = [['a'], [], []] ∧ splitLines "a\n\n".toList = [['a']] ∧
      (Text.Counts.of "a\n\n").lines = 2 := by
  intro o
  exact ⟨matcher_empty (.inr rfl), by decide, by decide, by decide +kernel, by decide, by decide,
    by decide⟩

end PipeShell.Search
