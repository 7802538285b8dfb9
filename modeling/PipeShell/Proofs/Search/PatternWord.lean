import PipeShell.Builtin.Texts
import PipeShell.Proofs.Args.Operand

/-!
# `PipeShell.Proofs.Search.PatternWord`: which word is the pattern of a search

The pattern of a search is looked for twice. `patternWord?` looks for it
in the words of the line, which still have their quotes, and
`Command.literal` comes from there. The arguments are read later as
plain texts, and the pattern that is searched for is their first
operand. The two part ways over a word that looks like an option: in
quotes it is the pattern for the one and an option for the other, and
bare behind `--` it is an option for the one and the pattern for the
other.

* `patternWord?_append`: behind words that give no operand the pattern
  is the first one among them in disguise, else it is looked for in the
  words that follow.
* `picks_iff`: the two agree on a word just when no word before it is in
  disguise and it is no bare word that looks like an option.
* `literal_iff_of_firstOperand`: where they agree, a search is literal just
  when its first operand stood in single quotes.
-/

set_option autoImplicit false

namespace PipeShell.Line

open Args (Progress isDashed)

/-- A word in quotes with a hyphen in front. -/
def Word.isDisguised (w : Word) : Bool := w.quote.isSome && isDashed w.value

/-- After the words `before` the pattern has not been found, and with `w`
it has: it is `w`. -/
def Picks (before : List Word) (w : Word) : Prop :=
  patternWord? before = none ∧ patternWord? (before ++ [w]) = some w

/-- No word before `w` is in disguise, and `w` is no bare word that looks
like an option. -/
def Undisguised (before : List Word) (w : Word) : Prop :=
  (∀ v ∈ before, ¬v.isDisguised) ∧ ¬w.isOption

/-! ### The options of a search -/

/-- An option of a search is written with more than a hyphen. It is a
switch, or it comes with a count and is known to take a value. -/
theorem takesValue_of_option {arg : String} {o : Args.OptionSpec}
    (h : Builtin.grep.spec.option? arg = some o) :
    arg ≠ "-" ∧ (o.kind = .switch ∧ takesValue arg = false
      ∨ o.kind = .count ∧ takesValue arg = true) := by
  have hforms : ∀ o ∈ Builtin.grep.spec.options, ∀ form ∈ o.longForm :: o.shortForm?.toList,
      form ≠ "-" ∧ (o.kind = .switch ∧ takesValue form = false
        ∨ o.kind = .count ∧ takesValue form = true) := by
    decide
  have hform : arg ∈ o.longForm :: o.shortForm?.toList := by
    have hcalled : o.isCalled arg = true := by simpa using List.find?_some h
    rw [Args.OptionSpec.isCalled, Bool.or_eq_true, beq_iff_eq, beq_iff_eq] at hcalled
    exact List.mem_cons.mpr (hcalled.imp id Option.mem_toList.mpr)
  exact hforms o (List.mem_of_find?_eq_some h) arg hform

/-- What can be read as a count has no hyphen in front. -/
theorem isDashed_of_count {text : String} {n : Nat} (h : Text.Count.read text = .ok n) :
    isDashed text = false := by
  rw [isDashed]
  rw [Text.Count.read] at h
  cases htext : text.toList with
  | nil => rfl
  | cons c cs =>
      rw [htext] at h
      by_cases hc : c = '-'
      · subst hc
        cases h
      · simpa using hc

/-- The value that an option of a search takes has no hyphen in front. -/
theorem isDashed_of_takeValue {p r : Progress} {arg value : String} {o : Args.OptionSpec}
    (hkind : o.kind = .count) (h : o.takeValue p arg value = .ok r) : isDashed value = false := by
  have hfault := (Args.takeValue_eq_ok h).1
  rw [hkind, Args.OptionKind.fault?] at hfault
  cases hread : Text.Count.read value with
  | ok n => exact isDashed_of_count hread
  | error f => simp [hread] at hfault

/-! ### The scan over words that give no operand -/

/-- A word with a hyphen and more is an option, or else in disguise. -/
theorem isOption_of_dashed {w : Word} (hdash : isDashed w.value = true) (hlong : w.value ≠ "-") :
    w.isOption = !w.isDisguised := by
  have hhead : (w.value.toList.head? == some '-') = true := hdash
  cases hquote : w.quote <;> simp [Word.isOption, Word.isDisguised, hquote, hhead, hdash, hlong]

/-- The scan over a word that looks like an option. -/
theorem patternWord?_cons_of_dashed {w : Word} (ws : List Word) (hdash : isDashed w.value = true)
    (hlong : w.value ≠ "-") :
    patternWord? (w :: ws) = if w.isDisguised then some w
      else patternWord? (if takesValue w.value then ws.tail else ws) := by
  have hoption := isOption_of_dashed hdash hlong
  cases ws <;> cases hquoted : w.isDisguised <;> cases hvalue : takesValue w.value <;>
    simp [patternWord?, hoption, hquoted, hvalue]

/-- What holds behind a word that looks like an option holds from there
on as well. -/
theorem patternWord?_or_of_dashed {w : Word} {rest ws ys : List Word}
    (hdash : isDashed w.value = true) (hlong : w.value ≠ "-")
    (hrest : (if takesValue w.value then rest.tail else rest) = ws ++ ys)
    (h : patternWord? (ws ++ ys) = (ws.find? Word.isDisguised).or (patternWord? ys)) :
    patternWord? (w :: rest) = ((w :: ws).find? Word.isDisguised).or (patternWord? ys) := by
  rw [patternWord?_cons_of_dashed rest hdash hlong, hrest, h, List.find?_cons]
  cases w.isDisguised <;> rfl

/-- Words that give no operand: the first of them in disguise is the
pattern, and without one the scan goes on behind them. -/
theorem patternWord?_append {p q : Progress} {ws : List Word}
    (h : Builtin.grep.spec.Reads p (ws.map Word.value) q) (hhelp : q.help = false)
    (hnone : q.given.operands = []) (ys : List Word) :
    patternWord? (ws ++ ys) = (ws.find? Word.isDisguised).or (patternWord? ys) := by
  generalize hxs : ws.map Word.value = xs at h
  induction h generalizing ws with
  | nil p =>
      cases List.map_eq_nil_iff.mp hxs
      rfl
  | help _ _ hrest => cases hrest.help_eq_false hhelp
  | ends _ _ ih =>
      -- `--` looks like an option without a value to the scan.
      obtain ⟨w, ws, rfl, hw, hws⟩ := List.map_eq_cons_iff.mp hxs
      refine patternWord?_or_of_dashed ?_ ?_ ?_ (ih hhelp hnone hws)
      · rw [hw]
        decide
      · rw [hw]
        decide
      · rw [hw]
        rfl
  | switch hcalls hkind _ ih =>
      obtain ⟨w, ws, rfl, rfl, hws⟩ := List.map_eq_cons_iff.mp hxs
      obtain ⟨hlong, ⟨-, hvalue⟩ | ⟨hcount, -⟩⟩ := takesValue_of_option hcalls.found
      · refine patternWord?_or_of_dashed hcalls.dashed hlong ?_ (ih hhelp hnone hws)
        rw [hvalue]
        rfl
      · cases hkind.symm.trans hcount
  | value hcalls hkind htake _ ih =>
      obtain ⟨w, _, rfl, rfl, hrest⟩ := List.map_eq_cons_iff.mp hxs
      obtain ⟨v, ws, rfl, rfl, hws⟩ := List.map_eq_cons_iff.mp hrest
      obtain ⟨hlong, ⟨hswitch, -⟩ | ⟨hcount, hvalue⟩⟩ := takesValue_of_option hcalls.found
      · exact absurd hswitch hkind
      · -- The value is a count, so it is not in disguise itself.
        have hplain : v.isDisguised = false := by
          rw [Word.isDisguised, isDashed_of_takeValue hcount htake, Bool.and_false]
        have hfind : (w :: v :: ws).find? Word.isDisguised = (w :: ws).find? Word.isDisguised := by
          rw [List.find?_cons, List.find?_cons, List.find?_cons, hplain]
        rw [hfind]
        refine patternWord?_or_of_dashed hcalls.dashed hlong ?_ (ih hhelp hnone hws)
        rw [hvalue]
        rfl
  | operand _ htake hrest _ =>
      have hgrow := hrest.operands_isPrefix
      rw [(Args.takeOperand_eq_ok htake).1, hnone, List.prefix_nil] at hgrow
      simp at hgrow

/-! ### Where the two agree -/

/-- The scan stops at a word that looks like no option. -/
theorem patternWord?_cons_of_not_isOption {w : Word} (hw : ¬w.isOption) (ws : List Word) :
    patternWord? (w :: ws) = some w := by
  cases ws <;> simp [patternWord?, hw]

/-- The scan of a single word. -/
theorem patternWord?_singleton (w : Word) :
    patternWord? [w] = if w.isOption then none else some w := by
  cases hoption : w.isOption <;> simp [patternWord?, hoption]

section
variable {before : List Word} {w : Word}
  (h : Builtin.grep.spec.FirstOperand .start (before.map Word.value) w.value)
include h

/-- The scan over the words before the first operand. -/
theorem patternWord?_of_firstOperand (ys : List Word) :
    patternWord? (before ++ ys) = (before.find? Word.isDisguised).or (patternWord? ys) := by
  obtain ⟨q, -, hread, hnone, hhelp, -⟩ := h
  exact patternWord?_append (Args.readFrom_eq_ok_iff.mp hread) hhelp hnone ys

/-- The scan comes to rest on the word that is read as the first operand
just when neither kind of word misleads it. -/
theorem picks_iff : Picks before w ↔ Undisguised before w := by
  have hbefore : patternWord? before = before.find? Word.isDisguised := by
    have := patternWord?_of_firstOperand h []
    rwa [List.append_nil, patternWord?, Option.or_none] at this
  rw [Picks, Undisguised, patternWord?_of_firstOperand h, hbefore, patternWord?_singleton,
    List.find?_eq_none]
  refine and_congr_right fun hplain => ?_
  rw [List.find?_eq_none.mpr hplain, Option.none_or]
  cases w.isOption <;> simp

/-- Then it is the pattern, whatever follows. -/
theorem patternWord?_of_undisguised (hu : Undisguised before w) (ys : List Word) :
    patternWord? (before ++ w :: ys) = some w := by
  rw [patternWord?_of_firstOperand h, List.find?_eq_none.mpr hu.1, Option.none_or]
  exact patternWord?_cons_of_not_isOption hu.2 ys

end

/-- A search is literal just when the word taken for its pattern stood in
single quotes. -/
theorem literal_iff_of_patternWord? {name v : Word} {rest : List Word} {c : Command}
    (hc : command? (name :: rest) = some c) (hname : c.name = searchName)
    (hpattern : patternWord? rest = some v) : c.literal = true ↔ v.quote = some .single := by
  cases hc
  have hsearch : (name.value == searchName) = true := beq_iff_eq.mpr hname
  simp only [hpattern, hsearch, Bool.true_and, beq_iff_eq]

/-- A command of a line is made of one of its stages. -/
theorem exists_stage_of_mem_parse {lookup : String → Option String} {line : String} {c : Command}
    (hc : c ∈ parse lookup line) :
    ∃ words ∈ stages (tokens (expand lookup line)), command? words = some c := by
  rw [parse] at hc
  split at hc
  · cases hc
  · exact List.mem_filterMap.mp hc

/-- Arguments of a search that are read with an operand: the word of the
line that becomes the first operand is the one that was taken for the
pattern just when `Undisguised` holds there, and then the search is
literal just when that word stood in single quotes. A word in disguise
before it decides in its place. -/
theorem literal_iff_of_firstOperand {lookup : String → Option String} {line : String}
    {c : Command} (hc : c ∈ parse lookup line) (hname : c.name = searchName) :
    ∃ name rest, name :: rest ∈ stages (tokens (expand lookup line)) ∧
      command? (name :: rest) = some c ∧
      ∀ given op ops, Builtin.grep.spec.read c.args = .ok given → given.operands = op :: ops →
        ∃ before w after, rest = before ++ w :: after ∧ w.value = op ∧
          Builtin.grep.spec.FirstOperand .start (before.map Word.value) w.value ∧
          (Picks before w ↔ Undisguised before w) ∧
          (Undisguised before w → (c.literal = true ↔ w.quote = some .single)) ∧
          (∀ v, before.find? Word.isDisguised = some v →
            (c.literal = true ↔ v.quote = some .single)) := by
  obtain ⟨words, hmem, hcommand⟩ := exists_stage_of_mem_parse hc
  cases words with
  | nil => cases hcommand
  | cons name rest =>
      refine ⟨name, rest, hmem, hcommand, fun given op ops hread hops => ?_⟩
      have hargs : rest.map Word.value = c.args := by
        cases hcommand
        rfl
      obtain ⟨q, hreads, hhelp, rfl⟩ := Args.read_eq_ok hread
      obtain ⟨xs, ys, hsplit, hfirst⟩ := hreads.exists_firstOperand hhelp rfl hops
      -- The arguments are split at the operand, and so are the words.
      obtain ⟨before, _, rfl, rfl, htail⟩ := List.map_eq_append_iff.mp (hargs.trans hsplit)
      obtain ⟨w, after, rfl, rfl, -⟩ := List.map_eq_cons_iff.mp htail
      refine ⟨before, w, after, rfl, rfl, hfirst, picks_iff hfirst, fun hu => ?_, fun v hv => ?_⟩
      · exact literal_iff_of_patternWord? hcommand hname
          (patternWord?_of_undisguised hfirst hu after)
      · have hpattern := patternWord?_of_firstOperand hfirst (w :: after)
        rw [hv, Option.some_or] at hpattern
        exact literal_iff_of_patternWord? hcommand hname hpattern

/-- Options, one of them with its value, and the end of options before a
pattern in single quotes. -/
theorem literal_iff_behind_options :
    let c : Command := ⟨"grep", ["-i", "-A", "2", "--", "a.c", "f"], true⟩
    c ∈ parse (fun _ => none) "grep -i -A 2 -- 'a.c' f" ∧ c.name = searchName ∧
      Builtin.grep.spec.read c.args
        = .ok ⟨["ignore-case"], [("after-context", "2")], ["a.c", "f"]⟩ ∧
      ∃ before w, w.value = "a.c" ∧ (Picks before w ↔ Undisguised before w) ∧
        Builtin.grep.spec.FirstOperand .start (before.map Word.value) w.value ∧
        (Undisguised before w → (c.literal = true ↔ w.quote = some .single)) := by
  intro c
  have hc : c ∈ parse (fun _ => none) "grep -i -A 2 -- 'a.c' f" := by decide +kernel
  have hread : Builtin.grep.spec.read c.args
      = .ok ⟨["ignore-case"], [("after-context", "2")], ["a.c", "f"]⟩ := by decide
  obtain ⟨name, rest, -, -, hall⟩ := literal_iff_of_firstOperand hc rfl
  obtain ⟨before, w, after, -, hw, hfirst, hpicks, hliteral, -⟩ := hall _ _ _ hread rfl
  exact ⟨hc, rfl, hread, before, w, hw, hpicks, hfirst, hliteral⟩

/-- In `grep -- -x 'y'` the first operand is the bare word `-x`, and in
`grep '-i' x` the bare word `x`. Both searches are literal. -/
theorem literal_of_bare_operand :
    tokens (expand (fun _ => none) "grep -- -x 'y'")
        = [.word ⟨"grep", none⟩, .word ⟨"--", none⟩, .word ⟨"-x", none⟩,
          .word ⟨"y", some .single⟩] ∧
      parse (fun _ => none) "grep -- -x 'y'" = [⟨"grep", ["--", "-x", "y"], true⟩] ∧
      Builtin.grep.spec.read ["--", "-x", "y"] = .ok ⟨[], [], ["-x", "y"]⟩ ∧
      tokens (expand (fun _ => none) "grep '-i' x")
        = [.word ⟨"grep", none⟩, .word ⟨"-i", some .single⟩, .word ⟨"x", none⟩] ∧
      parse (fun _ => none) "grep '-i' x" = [⟨"grep", ["-i", "x"], true⟩] ∧
      Builtin.grep.spec.read ["-i", "x"] = .ok ⟨["ignore-case"], [], ["x"]⟩ := by
  decide +kernel

end PipeShell.Line
