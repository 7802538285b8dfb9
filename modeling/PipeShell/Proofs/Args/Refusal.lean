import PipeShell.Proofs.Args.Operand

/-!
# `PipeShell.Proofs.Args.Refusal`: where a reading ends early

What an argument is can be told from how far a reading has come, so a
reading that is not accepted ends at one argument, for a reason that can
be told there. With `readFrom_append` such a refusal can be moved behind
any arguments that are accepted.

* `readFrom_of_unknown`, `readFrom_of_valueless`, `readFrom_of_repeated`:
  an option that there is not, one without its value, and one that had a
  value already.
* `readFrom_afterHelp`: once help is asked for, no option may follow. A
  reading with greedy operands is accepted otherwise, and asks for help.
-/

set_option autoImplicit false

namespace PipeShell.Args

variable {s : Spec} {p : Progress} {arg value : String} {o : OptionSpec} {rest : List String}

/-! ### Options -/

/-- An argument that looks like an option has to be one. -/
theorem readFrom_of_unknown (hopen : p.ended = false) (hhelp : p.help = false)
    (hword : isHelpWord arg = false) (hdash : isDashed arg = true) (hends : arg ≠ "--")
    (hfound : s.option? arg = none) :
    s.readFrom p (arg :: rest) = .error (.unrecognized arg) := by
  simp [Spec.readFrom, hopen, hhelp, hword, hdash, hends, hfound]

/-- An option whose value is missing is refused. -/
theorem readFrom_of_valueless (hcalls : s.Calls p arg o) (hkind : o.kind ≠ .switch) :
    s.readFrom p [arg] = .error (.noValue arg) := by
  simp [Spec.readFrom, hcalls.opened, hcalls.noHelpWord, hcalls.dashed, hcalls.goesOn,
    hcalls.noHelp, hcalls.found]

/-- An option that has a value already gets no second one, whatever
stands behind it. -/
theorem readFrom_of_repeated (hcalls : s.Calls p arg o) (hkind : o.kind ≠ .switch)
    (hgiven : (p.given.value? o.long).isSome = true) (value : String) (rest : List String) :
    s.readFrom p (arg :: value :: rest)
      = .error (.badValue arg value "duplicate values provided") := by
  simp [Spec.readFrom, hcalls.opened, hcalls.noHelpWord, hcalls.dashed, hcalls.goesOn,
    hcalls.noHelp, hcalls.found, OptionSpec.takeValue, hgiven]

/-! ### Behind a word for help -/

/-- The first of the arguments that does not ask for help looks like an
option, and does not end them. -/
def trailsOption (args : List String) : Bool :=
  (args.dropWhile isHelpWord).head?.any fun arg => isDashed arg && arg != "--"

theorem trailsOption_of_helpWord (hword : isHelpWord arg = true) :
    trailsOption (arg :: rest) = trailsOption rest := by
  rw [trailsOption, List.dropWhile_cons_of_pos hword, trailsOption]

theorem trailsOption_of_not_helpWord (hword : isHelpWord arg = false) :
    trailsOption (arg :: rest) = (isDashed arg && arg != "--") := by
  rw [trailsOption, List.dropWhile_cons_of_neg (by simp [hword])]
  rfl

/-- Once help is asked for, an option is refused. If none follows, greedy
operands take in all that is left, and help is what the reading asks
for. -/
theorem readFrom_afterHelp {pos : PositionalSpec} (hpos : s.positional = some pos)
    (hgreedy : pos.arity = .greedy) (args : List String) (given : Given) :
    if trailsOption args then s.readFrom ⟨given, true, false⟩ args = .error .optionAfterHelp
    else ∃ q, s.readFrom ⟨given, true, false⟩ args = .ok q ∧ q.help = true := by
  induction args with
  | nil => exact ⟨_, rfl, rfl⟩
  | cons arg rest ih =>
      cases hword : isHelpWord arg with
      | true =>
          have hstep : s.readFrom ⟨given, true, false⟩ (arg :: rest)
              = s.readFrom ⟨given, true, false⟩ rest := by
            simp [Spec.readFrom, hword]
          rw [trailsOption_of_helpWord hword, hstep]
          exact ih
      | false =>
          rw [trailsOption_of_not_helpWord hword]
          by_cases hends : arg = "--"
          · -- Options have ended, and the rest are operands.
            subst hends
            have hall : s.Reads ⟨given, true, true⟩ rest _ := reads_greedy hpos hgreedy given true
            exact ⟨_, readFrom_eq_ok_iff.mpr (.ends rfl hall), rfl⟩
          cases hdash : isDashed arg with
          | true => simp [Spec.readFrom, hword, hdash, hends]
          | false =>
              have htake : s.takeOperand ⟨given, true, false⟩ arg
                  = .ok ⟨{ given with operands := given.operands ++ [arg] }, true, true⟩ := by
                simp only [Spec.takeOperand, hpos, hgreedy]
                rfl
              have hpositional : Progress.Positional ⟨given, true, false⟩ arg :=
                fun _ => ⟨hword, hdash⟩
              have hall : s.Reads ⟨_, true, true⟩ rest _ :=
                reads_greedy hpos hgreedy { given with operands := given.operands ++ [arg] } true
              exact ⟨_, readFrom_eq_ok_iff.mpr (.operand hpositional htake hall), rfl⟩

end PipeShell.Args
