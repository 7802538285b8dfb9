import PipeShell.Args.Reading
import Mathlib.Data.List.Infix

/-!
# `PipeShell.Proofs.Args.Operand`: which argument becomes the first operand

`Spec.readFrom` refuses arguments in several places. `Spec.Reads` keeps
only what it accepts, with one constructor for each thing that an
argument can be: a word for help, the end of options, a switch, an
option with its value, an operand. An accepted reading is then taken
apart by induction.

* `readFrom_append`: what is accepted moves a reading on.
* `readFrom_eq_ok_iff`: a reading is accepted just when it `Reads`.
* `read_singleton`: a single argument that is no option is an operand.
* `read_append_operand`: one more operand behind arguments that are
  accepted.
* `read_greedy`: operands that take in all that stands behind them.
* `Reads.operands_isPrefix`: operands are only ever added.
* `Reads.exists_firstOperand`: of arguments that give an operand, one
  becomes the first.
-/

set_option autoImplicit false

namespace PipeShell.Args

/-- At this point of a reading an argument calls an option. -/
structure Spec.Calls (s : Spec) (p : Progress) (arg : String) (o : OptionSpec) : Prop where
  opened : p.ended = false
  noHelp : p.help = false
  noHelpWord : isHelpWord arg = false
  dashed : isDashed arg = true
  goesOn : arg ≠ "--"
  found : s.option? arg = some o

/-- At this point of a reading an argument is positional. -/
def Progress.Positional (p : Progress) (arg : String) : Prop :=
  p.ended = false → isHelpWord arg = false ∧ isDashed arg = false

/-- Arguments are accepted and take a reading from one point to
another. -/
inductive Spec.Reads (s : Spec) : Progress → List String → Progress → Prop where
  | nil (p : Progress) : s.Reads p [] p
  | help {p q : Progress} {arg : String} {rest : List String} :
      p.ended = false → isHelpWord arg = true →
      s.Reads { p with help := true } rest q → s.Reads p (arg :: rest) q
  | ends {p q : Progress} {rest : List String} :
      p.ended = false → s.Reads { p with ended := true } rest q → s.Reads p ("--" :: rest) q
  | switch {p q : Progress} {arg : String} {o : OptionSpec} {rest : List String} :
      s.Calls p arg o → o.kind = .switch →
      s.Reads (p.withSwitch o.long) rest q → s.Reads p (arg :: rest) q
  | value {p q r : Progress} {arg value : String} {o : OptionSpec} {rest : List String} :
      s.Calls p arg o → o.kind ≠ .switch → o.takeValue p arg value = .ok r →
      s.Reads r rest q → s.Reads p (arg :: value :: rest) q
  | operand {p q r : Progress} {arg : String} {rest : List String} :
      p.Positional arg → s.takeOperand p arg = .ok r →
      s.Reads r rest q → s.Reads p (arg :: rest) q

variable {s : Spec} {p q r : Progress} {arg : String} {xs : List String}

/-! ### What is accepted -/

private theorem reads_of_readFrom (h : s.readFrom p xs = .ok q) : s.Reads p xs q := by
  fun_induction s.readFrom p xs with
  | case1 p =>
      cases h
      exact .nil _
  | case2 p arg rest hhelp ih =>
      simp only [Bool.and_eq_true, Bool.not_eq_true'] at hhelp
      exact .help hhelp.1 hhelp.2 (ih h)
  | case3 p arg rest hhelp hdash hends ih =>
      simp only [Bool.and_eq_true, Bool.not_eq_true'] at hdash
      cases beq_iff_eq.mp hends
      exact .ends hdash.1 (ih h)
  | case4 | case5 => cases h
  | case6 p arg hhelp hdash hends hask o hfound rest hkind ih =>
      simp only [Bool.and_eq_true, Bool.not_eq_true', not_and, Bool.not_eq_true, beq_iff_eq]
        at hhelp hdash hends hask
      exact .switch ⟨hdash.1, hask, hhelp hdash.1, hdash.2, hends, hfound⟩ hkind (ih h)
  | case7 | case8 => cases h
  | case9 p arg hhelp hdash hends hask o hfound value rest r htake hkind ih =>
      simp only [Bool.and_eq_true, Bool.not_eq_true', not_and, Bool.not_eq_true, beq_iff_eq]
        at hhelp hdash hends hask
      exact .value ⟨hdash.1, hask, hhelp hdash.1, hdash.2, hends, hfound⟩ hkind htake (ih h)
  | case10 => cases h
  | case11 p arg rest hhelp hdash r htake ih =>
      simp only [Bool.and_eq_true, Bool.not_eq_true', not_and, Bool.not_eq_true] at hhelp hdash
      exact .operand (fun hopen => ⟨hhelp hopen, hdash hopen⟩) htake (ih h)

/-- What is accepted only moves a reading on, whatever stands behind
it. -/
theorem readFrom_append (h : s.Reads p xs q) (ys : List String) :
    s.readFrom p (xs ++ ys) = s.readFrom q ys := by
  induction h with
  | nil p => rfl
  | help hopen hhelp _ ih => simpa [Spec.readFrom, hopen, hhelp] using ih
  | ends hopen _ ih => simpa [Spec.readFrom, hopen, isHelpWord, isDashed] using ih
  | switch hcalls hkind _ ih =>
      simpa [Spec.readFrom, hcalls.opened, hcalls.noHelpWord, hcalls.dashed, hcalls.goesOn,
        hcalls.noHelp, hcalls.found, hkind] using ih
  | value hcalls hkind htake _ ih =>
      simpa [Spec.readFrom, hcalls.opened, hcalls.noHelpWord, hcalls.dashed, hcalls.goesOn,
        hcalls.noHelp, hcalls.found, htake] using ih
  | @operand p _ _ arg _ hpos htake _ ih =>
      cases hended : p.ended with
      | true => simpa [Spec.readFrom, hended, htake] using ih
      | false => simpa [Spec.readFrom, hpos hended, htake] using ih

/-- A reading is accepted just when it is made up of what an argument
can be. -/
theorem readFrom_eq_ok_iff : s.readFrom p xs = .ok q ↔ s.Reads p xs q := by
  refine ⟨reads_of_readFrom, fun h => ?_⟩
  have hall := readFrom_append h []
  rw [List.append_nil] at hall
  exact hall

/-- Arguments come of a reading that is accepted and asks for no help. -/
theorem read_eq_ok {given : Given} (h : s.read xs = .ok given) :
    ∃ q, s.Reads .start xs q ∧ q.help = false ∧ q.given = given := by
  unfold Spec.read at h
  split at h
  · cases h
  · rename_i q hread
    split at h
    · cases h
    · rename_i hhelp
      cases h
      exact ⟨q, readFrom_eq_ok_iff.mp hread, Bool.eq_false_iff.mpr hhelp, rfl⟩

/-- And they do come of it. -/
theorem read_of_reads (h : s.Reads .start xs q) (hhelp : q.help = false) :
    s.read xs = .ok q.given := by
  rw [Spec.read, readFrom_eq_ok_iff.mpr h]
  simp [hhelp]

/-- An argument that does not look like an option is positional, if it is
not the word for help. -/
theorem positional_of_not_dashed (p : Progress) (hdash : isDashed arg = false)
    (hhelp : arg ≠ "help") : p.Positional arg := by
  intro _
  have hlong : arg ≠ "--help" := by
    rintro rfl
    exact absurd hdash (by decide)
  have hword : isHelpWord arg = false := by simp [isHelpWord, hlong, hhelp]
  exact ⟨hword, hdash⟩

/-- Where there may be positional arguments, a single one is the only
operand. -/
theorem read_singleton {pos : PositionalSpec} (hpos : s.positional = some pos)
    (hdash : isDashed arg = false) (hhelp : arg ≠ "help") : s.read [arg] = .ok ⟨[], [], [arg]⟩ := by
  have htake : ∃ r, s.takeOperand .start arg = .ok r ∧ r.given = ⟨[], [], [arg]⟩ ∧
      r.help = false := by
    simp only [Spec.takeOperand, hpos]
    cases pos.arity with
    | repeated => exact ⟨Progress.start.withOperand arg, rfl, rfl, rfl⟩
    | greedy => exact ⟨{ Progress.start.withOperand arg with ended := true }, rfl, rfl, rfl⟩
    | optional => exact ⟨Progress.start.withOperand arg, rfl, rfl, rfl⟩
  obtain ⟨r, htake, hgiven, hask⟩ := htake
  have hpositional : Progress.start.Positional arg := positional_of_not_dashed .start hdash hhelp
  rw [read_of_reads (.operand hpositional htake (.nil r)) hask, hgiven]

/-- Arguments that are accepted one stretch after the other are accepted
together. -/
theorem Spec.Reads.append {ys : List String} (h : s.Reads p xs q) (h' : s.Reads q ys r) :
    s.Reads p (xs ++ ys) r := by
  induction h with
  | nil p => exact h'
  | help hopen hhelp _ ih => exact .help hopen hhelp (ih h')
  | ends hopen _ ih => exact .ends hopen (ih h')
  | switch hcalls hkind _ ih => exact .switch hcalls hkind (ih h')
  | value hcalls hkind htake _ ih => exact .value hcalls hkind htake (ih h')
  | operand hpos htake _ ih => exact .operand hpos htake (ih h')

section
variable {pos : PositionalSpec} (hpos : s.positional = some pos)
include hpos

/-- Where there may be any number of operands, one more may stand behind
all that is accepted. -/
theorem read_append_operand (hmany : pos.arity = .repeated) {given : Given}
    (h : s.read xs = .ok given) (hdash : isDashed arg = false) (hhelp : arg ≠ "help") :
    s.read (xs ++ [arg]) = .ok { given with operands := given.operands ++ [arg] } := by
  obtain ⟨q, hreads, hask, rfl⟩ := read_eq_ok h
  have htake : s.takeOperand q arg = .ok (q.withOperand arg) := by
    simp only [Spec.takeOperand, hpos, hmany]
  have hone : s.Reads q [arg] (q.withOperand arg) :=
    .operand (positional_of_not_dashed q hdash hhelp) htake (.nil _)
  exact read_of_reads (hreads.append hone) hask

/-- Once options have ended, every argument is one more greedy operand,
whatever it looks like. -/
theorem reads_greedy (hgreedy : pos.arity = .greedy) (given : Given) (help : Bool) :
    s.Reads ⟨given, help, true⟩ xs
      ⟨{ given with operands := given.operands ++ xs }, help, true⟩ := by
  induction xs generalizing given with
  | nil =>
      rw [List.append_nil]
      exact .nil _
  | cons arg xs ih =>
      have htake : s.takeOperand ⟨given, help, true⟩ arg
          = .ok ⟨{ given with operands := given.operands ++ [arg] }, help, true⟩ := by
        simp only [Spec.takeOperand, hpos, hgreedy]
        rfl
      have hrest := ih { given with operands := given.operands ++ [arg] }
      rw [List.append_assoc, List.singleton_append] at hrest
      exact .operand (fun hopen => nomatch hopen) htake hrest

/-- So greedy operands begin with the first argument that is no option,
and go on to the end. -/
theorem read_greedy (hgreedy : pos.arity = .greedy) (hdash : isDashed arg = false)
    (hhelp : arg ≠ "help") : s.read (arg :: xs) = .ok ⟨[], [], arg :: xs⟩ := by
  have htake : s.takeOperand .start arg = .ok ⟨⟨[], [], [arg]⟩, false, true⟩ := by
    simp only [Spec.takeOperand, hpos, hgreedy]
    rfl
  have hrest : s.Reads ⟨⟨[], [], [arg]⟩, false, true⟩ xs ⟨⟨[], [], arg :: xs⟩, false, true⟩ :=
    reads_greedy hpos hgreedy _ false
  exact read_of_reads (.operand (positional_of_not_dashed .start hdash hhelp) htake hrest) rfl

end

/-- An operand goes behind those before it and asks for no help. -/
theorem takeOperand_eq_ok (h : s.takeOperand p arg = .ok r) :
    r.given.operands = p.given.operands ++ [arg] ∧ r.help = p.help := by
  unfold Spec.takeOperand at h
  split at h
  · cases h
  · split at h
    · cases h
      exact ⟨rfl, rfl⟩
    · cases h
      exact ⟨rfl, rfl⟩
    · split at h
      · cases h
        exact ⟨rfl, rfl⟩
      · cases h

/-- A value that is taken has nothing against it. -/
theorem takeValue_eq_ok {o : OptionSpec} {value : String}
    (h : o.takeValue p arg value = .ok r) :
    o.kind.fault? value = none ∧ r = p.withValue o.long value := by
  unfold OptionSpec.takeValue at h
  split at h
  · cases h
  · split at h
    · cases h
    · rename_i hfault
      cases h
      exact ⟨hfault, rfl⟩

namespace Spec.Reads

/-- Once help is asked for, it stays so. -/
theorem help_eq_false (h : s.Reads p xs q) (hq : q.help = false) : p.help = false := by
  induction h with
  | nil p => exact hq
  | help _ _ _ ih => cases ih hq
  | ends _ _ ih => exact ih hq
  | switch _ _ _ ih => exact ih hq
  | value _ _ htake _ ih =>
      cases (takeValue_eq_ok htake).2
      exact ih hq
  | operand _ htake _ ih => exact (takeOperand_eq_ok htake).2 ▸ ih hq

/-- Operands are only ever added. -/
theorem operands_isPrefix (h : s.Reads p xs q) : p.given.operands <+: q.given.operands := by
  induction h with
  | nil p => exact List.prefix_rfl
  | help _ _ _ ih => exact ih
  | ends _ _ ih => exact ih
  | switch _ _ _ ih => exact ih
  | value _ _ htake _ ih =>
      cases (takeValue_eq_ok htake).2
      exact ih
  | operand _ htake _ ih =>
      rw [(takeOperand_eq_ok htake).1] at ih
      exact (List.prefix_append _ _).trans ih

end Spec.Reads

/-! ### The first operand -/

/-- From `p` on, the arguments `before` give no operand and no request
for help, and then `arg` is taken as an operand. -/
def Spec.FirstOperand (s : Spec) (p : Progress) (before : List String) (arg : String) : Prop :=
  ∃ q r, s.readFrom p before = .ok q ∧ q.given.operands = [] ∧ q.help = false ∧
    s.readFrom q [arg] = .ok r ∧ r.given.operands = [arg]

/-- One argument further back, if it takes a reading to where the first
operand is found. -/
theorem Spec.FirstOperand.of_reads {before : List String} (more : List String)
    (hstep : ∀ {ys t}, s.Reads q ys t → s.Reads p (more ++ ys) t)
    (h : s.FirstOperand q before arg) : s.FirstOperand p (more ++ before) arg := by
  obtain ⟨t, u, hbefore, hnone, hhelp, harg, hone⟩ := h
  exact ⟨t, u, readFrom_eq_ok_iff.mpr (hstep (readFrom_eq_ok_iff.mp hbefore)), hnone, hhelp,
    harg, hone⟩

/-- Of arguments that give an operand, one becomes the first. -/
theorem Spec.Reads.exists_firstOperand {op : String} {ops : List String} (h : s.Reads p xs q)
    (hhelp : q.help = false) (hp : p.given.operands = []) (hq : q.given.operands = op :: ops) :
    ∃ before after, xs = before ++ op :: after ∧ s.FirstOperand p before op := by
  induction h with
  | nil p => simp [hp] at hq
  | help hopen hword _ ih =>
      obtain ⟨before, after, rfl, hfirst⟩ := ih hhelp hp hq
      exact ⟨_, after, rfl, hfirst.of_reads [_] fun h => .help hopen hword h⟩
  | ends hopen _ ih =>
      obtain ⟨before, after, rfl, hfirst⟩ := ih hhelp hp hq
      exact ⟨_, after, rfl, hfirst.of_reads [_] fun h => .ends hopen h⟩
  | switch hcalls hkind _ ih =>
      obtain ⟨before, after, rfl, hfirst⟩ := ih hhelp hp hq
      exact ⟨_, after, rfl, hfirst.of_reads [_] fun h => .switch hcalls hkind h⟩
  | value hcalls hkind htake _ ih =>
      cases (takeValue_eq_ok htake).2
      obtain ⟨before, after, rfl, hfirst⟩ := ih hhelp hp hq
      exact ⟨_, after, rfl, hfirst.of_reads [_, _] fun h => .value hcalls hkind htake h⟩
  | @operand p q r arg rest hpos htake hrest ih =>
      obtain ⟨hops, hsame⟩ := takeOperand_eq_ok htake
      rw [hp, List.nil_append] at hops
      -- What was added first is the head of the operands at the end.
      have hhead : arg = op := by
        have := hrest.operands_isPrefix
        rw [hops, hq] at this
        exact (List.cons_prefix_cons.mp this).1
      subst hhead
      have hone : s.readFrom p [arg] = .ok r :=
        readFrom_eq_ok_iff.mpr (.operand hpos htake (.nil r))
      have hask : p.help = false := hsame ▸ hrest.help_eq_false hhelp
      exact ⟨[], rest, rfl, p, r, rfl, hp, hask, hone, hops⟩

end PipeShell.Args
