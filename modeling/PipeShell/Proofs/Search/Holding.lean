import PipeShell.Proofs.Pattern.Escape
import PipeShell.Proofs.Search.Window
import Mathlib

/-!
# `PipeShell.Proofs.Search.Holding`: a literal search finds the lines that hold its text

`Holds` says without patterns what a literal search looks for: the text
itself, or, where case is ignored, as many characters that are alike to
those of the text one by one. The text is written as a pattern, read
back and matched, and comes through unchanged whatever it is made of;
words are not asked for, even if the options ask for whole ones.

* `matcher_literal`: the text has a matcher, which keeps the lines that
  hold it.
* `search_eq_holding`: what a literal search gives.
-/

set_option autoImplicit false

namespace PipeShell.Search

open Unicode

/-- The text stands somewhere in the line, up to case if case is
ignored. -/
def Holds (ignoreCase : Bool) (text line : List Char) : Prop :=
  if ignoreCase then ∃ s, s <:+: line ∧ List.Forall₂ (fun c d => alike c d = true) text s
  else text <:+: line

theorem holds_false {text line : List Char} : Holds false text line ↔ text <:+: line := Iff.rfl

theorem holds_true {text line : List Char} :
    Holds true text line ↔
      ∃ s, s <:+: line ∧ List.Forall₂ (fun c d => alike c d = true) text s := Iff.rfl

instance (ignoreCase : Bool) (text line : List Char) : Decidable (Holds ignoreCase text line) :=
  match ignoreCase with
  | false => inferInstanceAs (Decidable (text <:+: line))
  | true =>
      -- A stretch of the line is a beginning of one of its ends.
      decidable_of_iff
        (∃ t ∈ line.tails, ∃ s ∈ t.inits, List.Forall₂ (fun c d => alike c d = true) text s) (by
          rw [holds_true]
          constructor
          · rintro ⟨t, ht, s, hs, halike⟩
            exact ⟨s, ((List.mem_inits s t).mp hs).isInfix.trans
              ((List.mem_tails t line).mp ht).isInfix, halike⟩
          · rintro ⟨s, ⟨before, after, rfl⟩, halike⟩
            exact ⟨s ++ after, (List.mem_tails _ _).mpr ⟨before, by simp⟩, s,
              (List.mem_inits _ _).mpr (List.prefix_append s after), halike⟩)

/-- Whatever a text is made of, its size is the only reason there is to
refuse it, and it stands for itself. -/
theorem matcher_literal {o : SearchOptions} {text : List Char} (hliteral : o.literal = true)
    (hsize : Pattern.compile (Pattern.escape text) o.ignoreCase ≠ .error .tooLarge) :
    ∃ m, matcher o text = .ok m ∧ ∀ line, m.accepts line = true ↔ Holds o.ignoreCase text line := by
  have hmatcher : matcher o text = Pattern.compile (Pattern.escape text) o.ignoreCase := by
    rw [matcher, effectivePattern, if_pos hliteral]
  obtain ⟨m, hm⟩ : ∃ m, Pattern.compile (Pattern.escape text) o.ignoreCase = .ok m := by
    rw [Pattern.compile_escape] at hsize ⊢
    split at hsize
    · exact absurd rfl hsize
    · rename_i hfits
      exact ⟨_, if_neg hfits⟩
  refine ⟨m, hmatcher.trans hm, fun line => ?_⟩
  rw [Pattern.accepts_of_compile_escape hm line]
  cases o.ignoreCase with
  | false => simp only [Pattern.standsFor_initial_false, exists_eq_right, holds_false]
  | true => simp only [Pattern.standsFor_initial_true, holds_true]

/-- Without lines after a match only the lines that match are kept. -/
theorem select_zero (keep : List Char → Bool) (ls : List (List Char)) :
    select keep 0 0 ls = ls.filter keep := by
  induction ls with
  | nil => rfl
  | cons l ls ih =>
      rw [select, ih, List.filter_cons]

/-- A literal search is never refused for its text, and the lines that
match are those that hold it, whether or not whole words are asked
for. -/
theorem search_eq_holding {o : SearchOptions} {text : String} (hpattern : o.pattern = some text)
    (hliteral : o.literal = true)
    (hsize : Pattern.compile (Pattern.escape text.toList) o.ignoreCase ≠ .error .tooLarge) :
    (∀ read input file refusal, search o read input file ≠ .error (.invalidPattern refusal)) ∧
      ∀ read input file content, source read input file = .ok content →
        search o read input file
          = .ok (String.ofList (unlines (window (fun line => Holds o.ignoreCase text.toList line)
              o.after (splitLines content.toList)))) := by
  obtain ⟨m, hm, hholds⟩ := matcher_literal hliteral hsize
  have hkeep : m.accepts = fun line => decide (Holds o.ignoreCase text.toList line) := by
    funext line
    rw [Bool.eq_iff_iff, decide_eq_true_iff, hholds]
  constructor
  · intro read input file refusal
    rw [search, hpattern]
    cases hsource : source read input file with
    | error f =>
        -- A text that cannot be had is a fault of its own kind.
        rintro ⟨rfl⟩
        cases input with
        | some content => cases hsource
        | none =>
            cases file with
            | none => cases hsource
            | some path =>
                rw [source] at hsource
                split at hsource <;> cases hsource
    | ok content =>
        simp [hm]
  · intro read input file content hcontent
    rw [search, hpattern, hcontent]
    simp only [hm, filter, select_eq_window, hkeep]

/-- An operator and a letter of the other case in the text, whole words
asked for, and a line after each match. -/
theorem search_eq_holding_folded :
    let o : SearchOptions := ⟨some "a.", true, true, true, 1⟩
    (o.pattern = some "a." ∧ o.literal = true ∧
      Pattern.compile (Pattern.escape "a.".toList) true ≠ .error .tooLarge) ∧
      search o (fun _ => .ok []) (some "bA.b\nab\nab\n") none = .ok "bA.b\nab\n" := by
  intro o
  have hfits : ((Pattern.Modes.initial true).row "a.".toList).isTooLarge = false := by cbv
  have hsize : Pattern.compile (Pattern.escape "a.".toList) true ≠ .error .tooLarge := by
    rw [Pattern.compile_escape, hfits]
    rintro ⟨⟩
  have hkept : String.ofList (unlines (window (fun line => Holds true "a.".toList line) 1
      (splitLines "bA.b\nab\nab\n".toList))) = "bA.b\nab\n" := by
    decide +kernel
  refine ⟨⟨rfl, rfl, hsize⟩, ?_⟩
  rw [← hkept]
  exact (search_eq_holding rfl rfl hsize).2 _ _ none _ rfl

end PipeShell.Search
