import PipeShell.Pattern.Reader

/-!
# `PipeShell.Proofs.Pattern.Step`: the steps of a reader

A reader is made of a few steps that look at the cursor or move it. Each
of them is told by the cursor after it (`Cursor.bumped`,
`Cursor.skipped`, `Cursor.past`, `Cursor.passed`), and an equation for
each carries a run over it to the next step.
-/

set_option autoImplicit false

namespace PipeShell.Pattern

open Reader

/-! ### Cursors after a step -/

/-- Blanks and comments are passed over to an end of the text. -/
theorem Reader.passBlanks_suffix (comment : Bool) (p : Position) (cs : List Char) :
    (passBlanks comment p cs).2 <:+ cs := by
  fun_induction passBlanks comment p cs with
  | case1 => exact List.nil_suffix
  | case2 p c cs ih => exact ih.trans (List.suffix_cons c cs)
  | case3 p c cs hblank ih => exact ih.trans (List.suffix_cons c cs)
  | case4 p c cs hblank hmark ih => exact ih.trans (List.suffix_cons c cs)
  | case5 => exact List.suffix_rfl

namespace Cursor

/-- The cursor after the character it stands at. -/
def bumped (s : Cursor) : Cursor :=
  match s.rest with
  | [] => s
  | c :: rest => { s with pos := s.pos.after c, rest }

/-- The cursor after blanks and comments, where spacing is free. -/
def skipped (s : Cursor) : Cursor :=
  if s.loose then
    { s with pos := (passBlanks false s.pos s.rest).1, rest := (passBlanks false s.pos s.rest).2 }
  else s

/-- The cursor after a character and what free spacing allows after
it. -/
def past (s : Cursor) : Cursor := s.bumped.skipped

/-- The cursor after a text that stands there. -/
def passed (s : Cursor) (text : List Char) : Cursor :=
  { s with pos := text.foldl Position.after s.pos, rest := s.rest.drop text.length }

/-- The span of the character at the cursor. -/
def here (s : Cursor) : Span :=
  match s.rest with
  | [] => .at s.pos
  | c :: _ => ⟨s.pos, s.pos.after c⟩

/-- The character after the one at the cursor, blanks passed over where
spacing is free. -/
def after? (s : Cursor) : Option Char :=
  if s.loose then peekPast false s.rest.tail else s.rest.tail.head?

variable (s : Cursor)

@[simp] theorem bumped_rest : s.bumped.rest = s.rest.tail := by
  unfold bumped
  split
  · rename_i h
    rw [h]
    rfl
  · rename_i h
    rw [h]
    rfl

@[simp] theorem bumped_loose : s.bumped.loose = s.loose := by
  unfold bumped
  split <;> rfl

@[simp] theorem bumped_names : s.bumped.names = s.names := by
  unfold bumped
  split <;> rfl

theorem skipped_rest :
    s.skipped.rest = if s.loose then (passBlanks false s.pos s.rest).2 else s.rest := by
  unfold skipped
  split <;> rfl

@[simp] theorem skipped_loose : s.skipped.loose = s.loose := by
  unfold skipped
  split <;> rfl

@[simp] theorem skipped_names : s.skipped.names = s.names := by
  unfold skipped
  split <;> rfl

theorem skipped_suffix : s.skipped.rest <:+ s.rest := by
  rw [skipped_rest]
  split
  · exact passBlanks_suffix _ _ _
  · exact List.suffix_rfl

/-- Nothing is skipped in front of a character that is neither a blank
nor the mark of a comment. -/
theorem skipped_of_head {c : Char} (hs : s.rest.head? = some c) (hblank : Text.isBlank c = false)
    (hmark : c ≠ '#') : s.skipped = s := by
  obtain ⟨p, rest, loose, names⟩ := s
  obtain ⟨cs, rfl⟩ := List.head?_eq_some_iff.mp hs
  cases loose with
  | false => rfl
  | true => simp [skipped, passBlanks, hblank, hmark]

theorem past_suffix : s.past.rest <:+ s.rest.tail :=
  bumped_rest s ▸ s.bumped.skipped_suffix

theorem passed_suffix {text : List Char} (htext : text ≠ []) :
    (s.passed text).rest <:+ s.rest.tail := by
  obtain ⟨c, cs, rfl⟩ := List.exists_cons_of_ne_nil htext
  show s.rest.drop (cs.length + 1) <:+ s.rest.tail
  rw [← List.drop_one, Nat.add_comm, ← List.drop_drop]
  exact List.drop_suffix _ _

/-- A loop that counts down from the length of the text has a round for
the character at the cursor, and enough of them are left behind it. -/
theorem exists_round {n : Nat} (hn : s.rest.length ≤ n) (hs : s.rest ≠ []) :
    ∃ m, n = m + 1 ∧ s.past.rest.length ≤ m := by
  have hpast := s.past_suffix.length_le
  have hpos := List.length_pos_iff.mpr hs
  rw [List.length_tail] at hpast
  exact ⟨n - 1, by omega, by omega⟩

/-- A round of such a loop that first passes over blanks has enough
rounds behind it for what follows them. -/
theorem length_skipped_le {n : Nat} (hs : s.rest.length < n + 1) : s.skipped.rest.length ≤ n :=
  Nat.le_trans s.skipped_suffix.length_le (Nat.le_of_lt_succ hs)

end Cursor

/-! ### Runs over a step -/

namespace Reader

/-- A step that succeeds hands its value and its cursor on. -/
theorem bind_of_ok {α β : Type} {x : Reader α} {f : α → Reader β} {s s' : Cursor} {a : α}
    (h : x s = .ok (a, s')) : (x >>= f) s = f a s' := by
  simp only [bind, StateT.bind, h, Except.bind]

/-- A sequence that succeeds is two steps that succeed. -/
theorem ok_of_bind {α β : Type} {x : Reader α} {f : α → Reader β} {s s'' : Cursor} {b : β}
    (h : (x >>= f) s = .ok (b, s'')) : ∃ a s', x s = .ok (a, s') ∧ f a s' = .ok (b, s'') := by
  simp only [bind, StateT.bind, Except.bind] at h
  split at h
  · cases h
  · rename_i r hx
    exact ⟨r.1, r.2, hx, h⟩

/-- A step that stops with a fault. -/
def Fails {α : Type} (x : Reader α) (s : Cursor) : Prop := ∃ e, x s = .error e

/-- A step that stops with a fault stops the sequence. -/
theorem bind_of_error {α β : Type} {x : Reader α} {s : Cursor} {e : Fault} (h : x s = .error e)
    (f : α → Reader β) : (x >>= f) s = .error e := by
  simp only [bind, StateT.bind, h, Except.bind]

theorem Fails.bind {α β : Type} {x : Reader α} {s : Cursor} (h : Fails x s)
    (f : α → Reader β) : Fails (x >>= f) s := by
  obtain ⟨e, he⟩ := h
  exact ⟨e, bind_of_error he f⟩

section
variable {α : Type} (s : Cursor)

theorem pos_bind (f : Position → Reader α) : (pos >>= f) s = f s.pos s := rfl

theorem spot_bind (f : Span → Reader α) : (spot >>= f) s = f (.at s.pos) s := rfl

theorem charSpan_bind (f : Span → Reader α) : (charSpan >>= f) s = f s.here s := by
  obtain ⟨p, rest, loose, names⟩ := s
  cases rest <;> rfl

theorem remaining_bind (f : Nat → Reader α) : (remaining >>= f) s = f s.rest.length s := rfl

theorem peek?_bind (f : Option Char → Reader α) : (peek? >>= f) s = f s.rest.head? s := rfl

theorem get_bind (f : Cursor → Reader α) : ((get : Reader Cursor) >>= f) s = f s s := rfl

theorem set_bind (s' : Cursor) (f : PUnit → Reader α) :
    ((set s' : Reader PUnit) >>= f) s = f ⟨⟩ s' := rfl

theorem modify_bind (g : Cursor → Cursor) (f : PUnit → Reader α) :
    ((modify g : Reader PUnit) >>= f) s = f ⟨⟩ (g s) := rfl

theorem bump_bind (f : Bool → Reader α) :
    (bump >>= f) s = f (!s.bumped.rest.isEmpty) s.bumped := by
  obtain ⟨p, rest, loose, names⟩ := s
  cases rest <;> rfl

theorem skipLoosely_bind (f : Unit → Reader α) : (skipLoosely >>= f) s = f () s.skipped := by
  obtain ⟨p, rest, loose, names⟩ := s
  cases loose <;> rfl

theorem bumpLoosely_bind (f : Bool → Reader α) :
    (bumpLoosely >>= f) s = f (!s.past.rest.isEmpty) s.past := by
  show ((bump >>= fun _ => skipLoosely >>= fun _ => get >>= fun c => pure (!c.rest.isEmpty)) >>= f)
    s = _
  rw [bind_assoc, bump_bind, bind_assoc, skipLoosely_bind]
  rfl

theorem bumpIf_bind (text : List Char) (f : Bool → Reader α) :
    (bumpIf text >>= f) s
      = if text.isPrefixOf s.rest then f true (s.passed text) else f false s := by
  show ((get >>= fun c => if text.isPrefixOf c.rest then _ else _) >>= f) s = _
  rw [bind_assoc, get_bind]
  split <;> rfl

theorem peekLoosely?_bind (f : Option Char → Reader α) :
    (peekLoosely? >>= f) s = f s.after? s := by
  obtain ⟨p, rest, loose, names⟩ := s
  cases loose <;> rfl

end

end Reader

end PipeShell.Pattern
