import PipeShell.Proofs.Line.Joining
import Mathlib.Data.List.Forall2

/-!
# `PipeShell.Proofs.Line.Grouping`: which words make a command

The commands of a line are the runs of words between its bars. `Runs`
says what a run is without going over the tokens one by one: it has
words, it ends at a bar or with the line, and between two runs there are
only bars. `stages` also lists the empty stretches between bars; those
give no command, so they do not matter.

Which bars count is settled by the quotes of the expanded line. One
outside quotes ends the words before it. One inside quotes is a
character of a word, and the words on both sides of it belong to one
command.

* `runs_iff`: the tokens of a line have runs in one way only, which are
  the stretches that are not empty.
* `forall₂_madeOf`: each run makes one command.
* `tokens_of_bar`: what a bar does, by the mask of quoted characters.
* `parse_groups`: all of this for the commands of a line.
-/

set_option autoImplicit false

namespace PipeShell.Line

/-- The value of a word. A bar has none. -/
def Token.value? : Token → Option String
  | word w => some w.value
  | pipe => none

/-- The runs of words among tokens, in order. A run has at least one
word, and either a bar or nothing comes after it. -/
inductive Runs : List (List Word) → List Token → Prop where
  | nil : Runs [] []
  | bar {runs : List (List Word)} {ts : List Token} : Runs runs ts → Runs runs (.pipe :: ts)
  | run {ws : List Word} {runs : List (List Word)} {ts : List Token} :
      ws ≠ [] → (∀ t ∈ ts.head?, t = .pipe) → Runs runs ts →
      Runs (ws :: runs) (ws.map .word ++ ts)

/-- The command has these words, the first as its name and the rest as
its arguments. -/
def MadeOf (ws : List Word) (c : Command) : Prop := c.words = ws.map Word.value

/-- The bar between `left` and `right` is a character of a quoted word.
The word begins in `left` and ends at the same quote in `right`, or with
the line. The tokens are those before it, the word, and those after
it. -/
def BarInWord (left right : List Char) (ts : List Token) : Prop :=
  ∃ (q : Quote) (before start rest after : List Char),
    left = before ++ q.char :: start ∧
    (right = rest ++ q.char :: after ∨ right = rest ∧ after = []) ∧
    ts = scan .gap [] before
      ++ .word ⟨String.ofList (start ++ '|' :: rest), some q⟩ :: scan .gap [] after

/-! ### Runs and stretches -/

/-- Words without a bar are one stretch. -/
theorem stages_words (ws : List Word) : stages (ws.map .word) = [ws] := by
  induction ws with
  | nil => rfl
  | cons w ws ih => rw [List.map_cons, stages, ih]

/-- Words before a bar or before the end are the first stretch. -/
theorem stages_words_append (ws : List Word) {ts : List Token}
    (hts : ∀ t ∈ ts.head?, t = .pipe) :
    stages (ws.map .word ++ ts) = ws :: (stages ts).tail := by
  cases ts with
  | nil => rw [List.append_nil, stages_words]; rfl
  | cons t ts =>
      obtain rfl : t = .pipe := hts t rfl
      rw [stages_append, stages_words]
      rfl

/-- Before a bar, and at the end, the first stretch is empty. -/
theorem stages_eq_nil_cons {ts : List Token} (hts : ∀ t ∈ ts.head?, t = .pipe) :
    stages ts = [] :: (stages ts).tail :=
  stages_words_append [] hts

/-- The runs are the stretches that are not empty. -/
theorem Runs.eq_filter {runs : List (List Word)} {ts : List Token} (h : Runs runs ts) :
    runs = (stages ts).filter fun ws => !ws.isEmpty := by
  induction h with
  | nil => rfl
  | bar _ ih =>
      rw [stages]
      exact ih
  | @run ws runs ts hne hts _ ih =>
      -- The empty stretch before the bar does not count, so the rest is as it was.
      rw [stages_eq_nil_cons hts] at ih
      rw [stages_words_append ws hts, List.filter_cons_of_pos (by simp [hne]), ih]
      rfl

/-- All tokens have runs. A word joins the run after it, if there is one
right there. -/
theorem exists_runs (ts : List Token) : ∃ runs, Runs runs ts := by
  induction ts with
  | nil => exact ⟨[], .nil⟩
  | cons t ts ih =>
      obtain ⟨runs, hruns⟩ := ih
      cases t with
      | pipe => exact ⟨runs, .bar hruns⟩
      | word w =>
          cases hruns with
          | nil => exact ⟨[[w]], .run (by simp) (by simp) .nil⟩
          | bar hrest => exact ⟨[w] :: runs, .run (by simp) (by simp) (.bar hrest)⟩
          | @run ws rest ts hne hts hrest =>
              exact ⟨(w :: ws) :: rest, .run (List.cons_ne_nil w ws) hts hrest⟩

/-- There is one way to have runs. -/
theorem runs_iff {runs : List (List Word)} {ts : List Token} :
    Runs runs ts ↔ runs = (stages ts).filter fun ws => !ws.isEmpty := by
  constructor
  · exact Runs.eq_filter
  · rintro rfl
    obtain ⟨runs, hruns⟩ := exists_runs ts
    exact hruns.eq_filter ▸ hruns

/-- The runs hold all words, each where it was. -/
theorem Runs.flatMap_value {runs : List (List Word)} {ts : List Token} (h : Runs runs ts) :
    runs.flatMap (List.map Word.value) = ts.filterMap Token.value? := by
  induction h with
  | nil => rfl
  | bar _ ih => exact ih
  | @run ws runs ts _ _ _ ih =>
      have hws : (ws.map Token.word).filterMap Token.value? = ws.map Word.value := by
        rw [List.filterMap_map, ← List.filterMap_eq_map]
        rfl
      rw [List.flatMap_cons, List.filterMap_append, hws, ih]

/-! ### Commands -/

/-- Words make a command, unless there are none. -/
theorem madeOf_of_command? {ws : List Word} {c : Command} (h : command? ws = some c) :
    MadeOf ws c := by
  cases ws with
  | nil => cases h
  | cons name rest =>
      cases h
      rfl

/-- Each stretch that is not empty makes one command, and an empty one
makes none. -/
theorem forall₂_madeOf (stretches : List (List Word)) :
    List.Forall₂ MadeOf (stretches.filter fun ws => !ws.isEmpty)
      (stretches.filterMap command?) := by
  induction stretches with
  | nil => exact .nil
  | cons ws stretches ih =>
      cases ws with
      | nil => exact ih
      | cons name rest =>
          obtain ⟨c, hc⟩ : ∃ c, command? (name :: rest) = some c := ⟨_, rfl⟩
          rw [List.filter_cons_of_pos rfl, List.filterMap_cons_some hc]
          exact .cons (madeOf_of_command? hc) ih

/-- Commands that are made of runs have all their words. -/
theorem flatMap_words_of_forall₂ {runs : List (List Word)} {commands : List Command}
    (h : List.Forall₂ MadeOf runs commands) :
    commands.flatMap Command.words = runs.flatMap (List.map Word.value) := by
  induction h with
  | nil => rfl
  | @cons ws c _ _ hmade _ ih =>
      have hwords : c.words = ws.map Word.value := hmade
      rw [List.flatMap_cons, List.flatMap_cons, hwords, ih]

/-- Only a search can be literal. -/
theorem literal_eq_false {ws : List Word} {c : Command} (h : command? ws = some c)
    (hname : c.name ≠ searchName) : c.literal = false := by
  cases ws with
  | nil => cases h
  | cons name rest =>
      cases h
      have hother : (name.value == searchName) = false := beq_eq_false_iff_ne.mpr hname
      simp only [hother, Bool.false_and]

/-! ### Bars in the expanded line -/

/-- A text that ends inside quotes ends in a word whose quote was opened
between words. -/
theorem exists_opening {left : List Char} {q : Quote} (h : Mode.gap.after left = .quoted q) :
    ∃ before start, left = before ++ q.char :: start ∧ q.char ∉ start ∧
      Mode.gap.after before = .gap := by
  obtain ⟨ps, hps⟩ := exists_divides left
  have hlast := hps.after_eq
  rw [h] at hlast
  -- Of all pieces only a word whose quote is still open leaves this mode.
  obtain ⟨p, hp, hmode⟩ : ∃ p, ps.getLast? = some p ∧ p.modeAfter = .quoted q := by
    cases hp : ps.getLast? with
    | none => rw [hp] at hlast; cases hlast
    | some p => rw [hp] at hlast; exact ⟨p, rfl, hlast.symm⟩
  obtain ⟨start, rfl⟩ : ∃ start, p = .unclosed q start := by
    cases p with
    | unclosed q' start =>
        cases hmode
        exact ⟨start, rfl⟩
    | _ => cases hmode
  obtain ⟨init, rfl⟩ := List.getLast?_eq_some_iff.mp hp
  obtain ⟨before, right, rfl, hinit, hright, hfits⟩ := hps.split
  obtain rfl : q.char :: start = right := by
    simpa [Piece.source] using hright.source_eq
  have hproper : q.char ∉ start := hright.proper _ List.mem_cons_self
  exact ⟨before, start, rfl, hproper, hinit.after_eq_gap hfits q.isDivider_char⟩

/-- The tokens of two texts, when the first one ends between words. -/
theorem scan_append_of_gap {left : List Char} (hgap : Mode.gap.after left = .gap)
    (right : List Char) :
    scan .gap [] (left ++ right) = scan .gap [] left ++ scan .gap [] right := by
  obtain ⟨ps, hps⟩ := exists_divides left
  obtain ⟨qs, hqs⟩ := exists_divides right
  rw [(hps.append hgap hqs).scan_eq, hps.scan_eq, hqs.scan_eq, List.filterMap_append]

/-- Inside quotes a bar is a character of the word. -/
theorem barInWord_of_isQuoted {left : List Char} (h : (Mode.gap.after left).isQuoted = true)
    (right : List Char) : BarInWord left right (scan .gap [] (left ++ '|' :: right)) := by
  cases hmode : Mode.gap.after left with
  | gap => rw [hmode] at h; cases h
  | bare => rw [hmode] at h; cases h
  | quoted q =>
      obtain ⟨before, start, rfl, hstart, hgap⟩ := exists_opening hmode
      have hbar : q.char ≠ '|' := (isDivider_eq_false.mp q.isDivider_char).2
      have hword : ∀ rest, q.char ∉ rest → q.char ∉ start ++ '|' :: rest := by
        intro rest hrest
        simp [hstart, hbar, hrest]
      have hline : before ++ q.char :: start ++ '|' :: right
          = before ++ q.char :: (start ++ '|' :: right) := by
        simp
      rw [hline, scan_append_of_gap hgap, scan_gap_quote]
      by_cases hmem : q.char ∈ right
      · obtain ⟨rest, after, rfl, hrest⟩ := List.eq_append_cons_of_mem hmem
        refine ⟨q, before, start, rest, after, rfl, .inl rfl, ?_⟩
        have hclosed : scan (.quoted q) [] ((start ++ '|' :: rest) ++ q.char :: after) = _ :=
          scan_quoted_append [] (hword rest hrest)
        rw [List.append_assoc, List.cons_append] at hclosed
        rw [hclosed]
        rfl
      · -- The quote is never closed, so the word takes the whole rest.
        refine ⟨q, before, start, right, [], rfl, .inr ⟨rfl, rfl⟩, ?_⟩
        rw [scan_quoted_unclosed [] (hword right hmem)]
        rfl

/-- A bar of a line is part of a word where the mask says that it is
quoted. Anywhere else it stands between the tokens of the two sides. -/
theorem tokens_of_bar {line : String} {left right : List Char}
    (h : line.toList = left ++ '|' :: right) :
    if (quotedMask line)[left.length]? = some true then BarInWord left right (tokens line)
    else tokens line = scan .gap [] left ++ .pipe :: scan .gap [] right := by
  have hmask : (quotedMask line)[left.length]? = some (Mode.gap.after left).isQuoted := by
    rw [getElem?_quotedMask line left.length (by simp [h]), h, List.take_left]
  rw [hmask, tokens, h]
  cases hquoted : (Mode.gap.after left).isQuoted with
  | true =>
      rw [if_pos rfl]
      exact barInWord_of_isQuoted hquoted right
  | false =>
      rw [if_neg (by simp), scan_append hquoted (by rfl)]
      simp [scan]

/-! ### The commands of a line -/

/-- The commands of a line are made of the runs of words in its tokens,
one of each and in order, and there is one way to have such runs. So
taken together the commands have all words of the line, each in its
place. A bar inside quotes divides nothing; it is part of a word. No
command but a search is literal. To pass over a blank line is to expand
it and scan it, as all others are. -/
theorem parse_groups (lookup : String → Option String) (line : String) :
    let text := expand lookup line
    let commands := parse lookup line
    (∃ runs, (∀ rs, Runs rs (tokens text) ↔ rs = runs) ∧ List.Forall₂ MadeOf runs commands) ∧
      commands.flatMap Command.words = (tokens text).filterMap Token.value? ∧
      (∀ left right, text.toList = left ++ '|' :: right →
        if (quotedMask text)[left.length]? = some true then BarInWord left right (tokens text)
        else tokens text = scan .gap [] left ++ .pipe :: scan .gap [] right) ∧
      (∀ c ∈ commands, c.name ≠ searchName → c.literal = false) ∧
      commands = (stages (tokens text)).filterMap command? := by
  intro text commands
  have hcommands : commands = (stages (tokens text)).filterMap command? :=
    parse_eq_commandsOf lookup line
  have hmade := forall₂_madeOf (stages (tokens text))
  rw [← hcommands] at hmade
  have hruns : Runs _ (tokens text) := runs_iff.mpr rfl
  refine ⟨⟨_, fun rs => runs_iff, hmade⟩, ?_, ?_, ?_, hcommands⟩
  · show commands.flatMap Command.words = _
    rw [← hruns.flatMap_value]
    exact flatMap_words_of_forall₂ hmade
  · exact fun left right => @tokens_of_bar text left right
  · intro c hc hname
    rw [hcommands] at hc
    obtain ⟨ws, -, hcommand⟩ := List.mem_filterMap.mp hc
    exact literal_eq_false hcommand hname

/-- Bars at both ends and side by side, one in quotes, an empty word for
a name, and a value that brings in a bar. -/
example :
    parse (fun name => if name = "P" then some "a|b" else none) "| grep '|' \"\" || \"\" $P |"
      = [⟨"grep", ["|", ""], true⟩, ⟨"", ["a"], false⟩, ⟨"b", [], false⟩] := by
  decide +kernel

end PipeShell.Line
