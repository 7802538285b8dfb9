import PipeShell.Proofs.Line.Division

/-!
# `PipeShell.Proofs.Line.Quoting`: the mode along a line

`Mode.next` decides how quoting evolves from one character to the next.
Here it is followed over stretches of a line.

* `Mode.after_bare`, `Mode.after_quoted`: a bare word keeps its mode up
  to the next divider, a quoted one up to its own quote.
* `Piece.after_source`: the mode that a whole piece leaves behind.
* `getElem?_quotedMask`: the mask tells, for each place of a line,
  whether the mode there is a quoted one.
-/

set_option autoImplicit false

namespace PipeShell.Line

namespace Mode

/-- The quote that has not been closed yet. -/
def quote? : Mode → Option Quote
  | quoted q => some q
  | _ => none

@[simp]
theorem after_nil (m : Mode) : m.after [] = m := rfl

@[simp]
theorem after_cons (m : Mode) (c : Char) (cs : List Char) :
    m.after (c :: cs) = (m.next c).after cs := rfl

theorem after_append (m : Mode) (cs ds : List Char) :
    m.after (cs ++ ds) = (m.after cs).after ds := List.foldl_append

/-- Outside quotes a divider leads between words. -/
theorem next_of_isDivider {m : Mode} {c : Char} (hm : m.isQuoted = false)
    (hc : isDivider c = true) : m.next c = gap := by
  cases m with
  | gap => simp [next, hc]
  | bare => simp [next, hc]
  | quoted q => cases hm

/-- A quote between words opens a quoted word. -/
@[simp]
theorem next_gap_quote (q : Quote) : gap.next q.char = quoted q := by
  simp [next]

/-- The same quote closes it. -/
@[simp]
theorem next_quoted_quote (q : Quote) : (quoted q).next q.char = gap := by
  simp [next]

/-- A bare word goes on until a divider. -/
theorem after_bare {run : List Char} (h : ∀ c ∈ run, isDivider c = false) :
    bare.after run = bare := by
  induction run with
  | nil => rfl
  | cons c run ih =>
      have hc : bare.next c = bare := by simp [next, h c List.mem_cons_self]
      rw [after_cons, hc, ih fun d hd => h d (List.mem_cons_of_mem c hd)]

/-- A bare word begins with a character that is neither a divider nor a
quote. -/
theorem next_gap_bare {c : Char} (hc : isDivider c = false) (hq : ∀ q : Quote, c ≠ q.char) :
    gap.next c = bare := by
  simp [next, hc, Quote.ofChar?_eq_none.mpr hq]

/-- A quoted word goes on until its own quote. -/
theorem after_quoted {q : Quote} {word : List Char} (h : q.char ∉ word) :
    (quoted q).after word = quoted q := by
  induction word with
  | nil => rfl
  | cons c word ih =>
      rw [List.mem_cons, not_or] at h
      have hc : (quoted q).next c = quoted q := by simp [next, Ne.symm h.1]
      rw [after_cons, hc, ih h.2]

end Mode

/-- The mode after a piece. A bare word is still under way, since only
what follows ends it. -/
def Piece.modeAfter : Piece → Mode
  | bare _ => .bare
  | unclosed q _ => .quoted q
  | _ => .gap

/-- A piece that is read from between words leaves its own mode
behind. -/
theorem Piece.after_source {p : Piece} (hp : p.Proper) :
    Mode.gap.after p.source = p.modeAfter := by
  cases p with
  | blank c =>
      show Mode.gap.next c = .gap
      exact Mode.next_of_isDivider rfl (isDivider_of_isBlank hp)
  | bar =>
      show Mode.gap.next '|' = .gap
      exact Mode.next_of_isDivider rfl (by decide)
  | bare cs =>
      obtain ⟨c, run, rfl, hc, hq, hrun⟩ := hp
      show Mode.gap.after (c :: run) = .bare
      rw [Mode.after_cons, Mode.next_gap_bare hc hq, Mode.after_bare hrun]
  | quoted q cs =>
      show Mode.gap.after (q.char :: (cs ++ [q.char])) = .gap
      rw [Mode.after_cons, Mode.next_gap_quote, Mode.after_append, Mode.after_quoted hp,
        Mode.after_cons, Mode.next_quoted_quote, Mode.after_nil]
  | unclosed q cs =>
      show Mode.gap.after (q.char :: cs) = .quoted q
      rw [Mode.after_cons, Mode.next_gap_quote, Mode.after_quoted hp]

/-- The mask of the rest of a line at one of its places. -/
theorem getElem?_maskFrom (m : Mode) (cs : List Char) (i : Nat) (hi : i < cs.length) :
    (maskFrom m cs)[i]? = some (m.after (cs.take i)).isQuoted := by
  induction cs generalizing m i with
  | nil => cases hi
  | cons c cs ih =>
      cases i with
      | zero => rfl
      | succ i =>
          rw [maskFrom, List.getElem?_cons_succ, ih (m.next c) i (Nat.lt_of_succ_lt_succ hi),
            List.take_succ_cons, Mode.after_cons]

/-- The mask of a line tells where the mode is a quoted one. -/
theorem getElem?_quotedMask (line : String) (i : Nat) (hi : i < line.toList.length) :
    (quotedMask line)[i]? = some (Mode.gap.after (line.toList.take i)).isQuoted :=
  getElem?_maskFrom .gap line.toList i hi

end PipeShell.Line
