import PipeShell.Proofs.Pattern.Beside

/-!
# `PipeShell.Proofs.Pattern.Beside.Escape`: escapes with something put behind them

A backslash that the text ends with takes the parenthesis of the tail,
and so does `\p`; a name of a property in braces that are not closed goes
on through the tail. Characters by number do not go into it, as it holds
no digit. Then there is a boundary that a brace follows: in front of
letters the brace opens a name, and at the end of the text it is a fault,
but in front of the tail it is left as it is (`Stuck`).

* `parallel_readHex`, `parallel_readProperty`, `parallel_readBoundaryName?`:
  the escapes that take more than one letter.
* `parallel_readEscape`: an escape.
* `BeyondEscape.past`: an escape that only the second reading can read
  takes characters of the tail, unless the step behind it fails.
-/

set_option autoImplicit false
set_option mvcgen.warning false

namespace PipeShell.Pattern

open Std.Do Reader

attribute [local grind →] List.IsSuffix.trans suffix_of_suffix_tail
attribute [local grind .] List.suffix_rfl

variable {t : List Char} {s u : Cursor}

/-! ### Characters by number -/

theorem readHexDigits_of_nil {k : Nat} (hk : k ≠ 0) (hs : s.rest = []) :
    Fails (readHexDigits k) s := by
  obtain ⟨k, rfl⟩ := Nat.exists_eq_succ_of_ne_zero hk
  rw [Fails, readHexDigits, peek?_bind, hs]
  exact ⟨_, rfl⟩

theorem readHexDigits_of_head {k : Nat} {c : Char} (hs : s.rest.head? = some c) :
    readHexDigits (k + 1) s
      = if !isHexDigit c then .error ⟨.escapeHexInvalidDigit, s.here, none⟩
        else if k == 0 then .ok ([c], s)
        else (bumpLoosely >>= fun more =>
          if !more then spot >>= fail .escapeUnexpectedEnd
          else readHexDigits k >>= fun ds => pure (c :: ds)) s := by
  rw [readHexDigits, peek?_bind, hs]
  show (if _ then charSpan >>= _ else if _ then pure _ else _ : Reader _) s = _
  split
  · exact charSpan_bind s _
  · split <;> rfl

/-- The last digit is not taken. -/
theorem ne_nil_of_readHexDigits {k : Nat} {ds : List Char} {s' : Cursor} (hk : k ≠ 0)
    (h : readHexDigits k s = .ok (ds, s')) : s'.rest ≠ [] := by
  induction k generalizing s ds with
  | zero => exact absurd rfl hk
  | succ k ih =>
      cases hs : s.rest.head? with
      | none =>
          obtain ⟨e, he⟩ := readHexDigits_of_nil hk (List.head?_eq_none_iff.mp hs)
          rw [he] at h
          cases h
      | some c =>
          rw [readHexDigits_of_head hs] at h
          split at h
          · cases h
          · split at h
            · cases h
              exact Beside.ne_nil_of_head hs
            · rename_i hk'
              rw [bumpLoosely_bind] at h
              split at h
              · cases h
              · obtain ⟨ds', s'', hrun, hpure⟩ := ok_of_bind h
                cases hpure
                exact ih (by simpa using hk') hrun

theorem parallel_readHexDigits (k : Nat) (h : Beside t s u) :
    Parallel t Eq Never (readHexDigits k s) (readHexDigits k u) := by
  induction k generalizing s u with
  | zero => exact .ok rfl h
  | succ k ih =>
      rcases h.head_cases with ⟨c, hs, hu⟩ | ⟨hs, hu⟩ | ⟨hs, hu, -⟩
      · rw [readHexDigits_of_head hs, readHexDigits_of_head hu]
        split
        · exact .faults
        · split
          · exact .ok rfl h
          · rename_i hk
            have hne := Beside.ne_nil_of_head hs
            refine .guard_of_fails h hne ⟨_, rfl⟩ ⟨_, rfl⟩ ?_ fun hnil => ?_
            · refine (ih (h.past hne)).bind_never ?_
              rintro ds _ s' u' - - rfl hbeside
              exact .ok rfl hbeside
            · exact (readHexDigits_of_nil (by simpa using hk) hnil).bind _
      · exact .of_fails (readHexDigits_of_nil k.succ_ne_zero hs)
          (readHexDigits_of_nil k.succ_ne_zero hu)
      · refine .of_fails (readHexDigits_of_nil k.succ_ne_zero hs) ?_
        rw [Fails, readHexDigits_of_head (c := ')') (by rw [hu]; rfl)]
        exact ⟨_, rfl⟩

theorem parallel_readHexFixed (start start' : Position) {k : Nat} (hk : k ≠ 0)
    (h : Beside t s u) :
    Parallel t Literal.Like Never (readHexFixed start k s)
      (readHexFixed start' k u) := by
  rw [readHexFixed, readHexFixed, pos_bind, pos_bind]
  refine (parallel_readHexDigits k h).bind_never ?_
  rintro ds _ s' u' hrun - rfl hbeside
  have hne := ne_nil_of_readHexDigits hk hrun
  rw [bumpLoosely_bind, bumpLoosely_bind, pos_bind, pos_bind]
  cases charOfCode? (hexValue ds) with
  | none => exact .faults
  | some c => exact .ok rfl (hbeside.past hne)

theorem readHexFixed_of_nil (start : Position) {k : Nat} (hk : k ≠ 0) (hs : s.rest = []) :
    Fails (readHexFixed start k) s := by
  rw [Fails, readHexFixed, pos_bind]
  exact (readHexDigits_of_nil hk hs).bind _

theorem parallel_readHexBraced (start start' : Position) (h : Beside t s u) (hs : s.rest ≠ []) :
    Parallel t Literal.Like Never (readHexBraced start s)
      (readHexBraced start' u) := by
  rw [readHexBraced, readHexBraced, pos_bind, pos_bind, charSpan_bind, charSpan_bind,
    bumpLoosely_bind, bumpLoosely_bind, remaining_bind, remaining_bind]
  refine (parallel_takeLoosely isHexDigit (by decide) (h.past hs) (Nat.le_refl _)
    (Nat.le_refl _)).bind_never ?_
  rintro ds _ s' u' - - rfl hbeside
  rw [peek?_bind, peek?_bind]
  rcases hbeside.head_cases with ⟨c, hs', hu'⟩ | ⟨hs', hu'⟩ | ⟨hs', hu', -⟩
  · simp only [hs', hu']
    by_cases hc : (c != '}') = true
    · rw [if_pos hc, if_pos hc]
      exact .of_fails ⟨_, charSpan_bind s' _⟩ ⟨_, charSpan_bind u' _⟩
    · have hne := Beside.ne_nil_of_head hs'
      rw [if_neg hc, if_neg hc, pos_bind, pos_bind, bumpLoosely_bind, bumpLoosely_bind, pos_bind,
        pos_bind]
      by_cases hds : ds.isEmpty = true
      · rw [if_pos hds, if_pos hds]
        exact .faults
      · rw [if_neg hds, if_neg hds]
        cases charOfCode? (hexValue ds) with
        | none => exact .faults
        | some c => exact .ok rfl (hbeside.past hne)
  · rw [hs', hu']
    exact .faults
  · rw [hs', hu']
    exact .of_fails ⟨_, rfl⟩ ⟨_, charSpan_bind u' _⟩

theorem parallel_readHex (start start' : Position) (letter : Char) (h : Beside t s u)
    (hs : s.rest ≠ []) :
    Parallel t Literal.Like Never (readHex start letter s) (readHex start' letter u) := by
  have hcount : (if letter == 'x' then 2 else if letter == 'u' then 4 else 8) ≠ 0 := by
    split
    · decide
    · split <;> decide
  rw [readHex, readHex]
  refine .guard_of_fails h hs ⟨_, rfl⟩ ⟨_, rfl⟩ ?_ fun hnil => ?_
  · have hpast := h.past hs
    rw [peek?_bind, peek?_bind, hpast.head_beq (by decide)]
    by_cases hbrace : (s.past.rest.head? == some '{') = true
    · rw [if_pos hbrace, if_pos hbrace]
      exact parallel_readHexBraced start start' hpast (Beside.ne_nil_of_head (eq_of_beq hbrace))
    · rw [if_neg hbrace, if_neg hbrace]
      exact parallel_readHexFixed start start' hcount hpast
  · rw [Fails, peek?_bind, hnil]
    exact readHexFixed_of_nil start hcount hnil

/-! ### Property classes -/

theorem parallel_readProperty (start start' : Position) (negated : Bool) (h : Beside t s u)
    (hs : s.rest ≠ []) :
    Parallel t Node.Like (Past t t.tail) (readProperty start negated s)
      (readProperty start' negated u) := by
  rw [readProperty, readProperty]
  refine .guard_of_fails h hs ⟨_, rfl⟩ ⟨_, rfl⟩ ?_ fun hnil => ?_
  · have hpast := h.past hs
    rw [peek?_bind, peek?_bind]
    rcases hpast.head_cases with ⟨c, hs', hu'⟩ | ⟨hs', hu'⟩ | ⟨hs', hu', ht⟩
    · have hne := Beside.ne_nil_of_head hs'
      by_cases hbrace : c = '{'
      · subst hbrace
        simp only [hs', hu']
        rw [bumpLoosely_bind, bumpLoosely_bind, remaining_bind, remaining_bind]
        rcases takesAlike_takeLoosely (· != '}') (hpast.past hne) (Nat.le_refl _) (Nat.le_refl _)
          with hpar | ⟨-, ⟨text, s', hrun, hnil⟩, hgo⟩
        · refine hpar.bind_never ?_
          rintro text _ s' u' - - rfl hbeside
          rw [peek?_bind, peek?_bind]
          rcases hbeside.head_cases with ⟨c, hc, hc'⟩ | ⟨hnil, hnil'⟩ | ⟨hnil, hu', ht⟩
          · rw [hc, hc', if_neg (by simp), if_neg (by simp), bump_bind, bump_bind, pos_bind, pos_bind]
            exact .ok rfl (hbeside.bumped (Beside.ne_nil_of_head hc))
          · rw [hnil, hnil']
            exact .faults
          · rw [hnil, hu']
            refine .of_fails_left ⟨_, rfl⟩ fun b u'' hrun => past_of_takes ht hu' (fun r => ?_) hrun
            show ⦃_⦄ (bump >>= _) ⦃_⦄
            mvcgen with grind
        · -- The text alone has no closing brace any more.
          refine .of_fails_left ?_ fun b u'' hrun' => ?_
          · rw [Fails, bind_of_ok hrun, peek?_bind, hnil]
            exact ⟨_, rfl⟩
          · obtain ⟨text', u', htext, hrest⟩ := ok_of_bind hrun'
            obtain ⟨ht, hu'⟩ := hgo text' u' htext
            refine ⟨ht, (suffix_of_run (fun r => ?_) hrest).trans hu'⟩
            mvcgen with grind
      · by_cases hslash : c = '\\'
        · subst hslash
          simp only [hs', hu']
          exact .of_fails ⟨_, charSpan_bind s.past _⟩ ⟨_, charSpan_bind u.past _⟩
        · simp only [hs', hu']
          rw [bumpLoosely_bind, bumpLoosely_bind, pos_bind, pos_bind]
          exact .ok rfl (hpast.past hne)
    · rw [hs', hu']
      exact .faults
    · rw [hs', hu']
      refine .of_fails_left ⟨_, rfl⟩ fun b u' hrun => past_of_takes ht hu' (fun r => ?_) hrun
      show ⦃_⦄ (bumpLoosely >>= _) ⦃_⦄
      mvcgen with grind
  · rw [Fails, peek?_bind, hnil]
    exact ⟨_, rfl⟩

/-! ### Word boundaries -/

/-- The cursor is on a brace that nothing but the tail follows. -/
def Stuck (t : List Char) (u : Cursor) : Prop :=
  t ≠ [] ∧ u.rest.head? = some '{' ∧ u.past.rest = closing

theorem parallel_readBoundaryName? (start start' : Position) (h : Beside t s u)
    (hs : s.rest ≠ []) :
    Parallel t Eq (fun kind u' => kind = none ∧ u' = u ∧ t ≠ [] ∧ u.past.rest = closing)
      (readBoundaryName? start s) (readBoundaryName? start' u) := by
  rw [readBoundaryName?, readBoundaryName?, get_bind, get_bind, pos_bind, pos_bind]
  refine .guard h hs ⟨_, rfl⟩ ⟨_, rfl⟩ ?_ fun hnil ht hu b u' hrun => ?_
  · rw [pos_bind, pos_bind, remaining_bind, remaining_bind]
    refine (parallel_takeLoosely isBoundaryNameChar (by decide) (h.past hs) (Nat.le_refl _)
      (Nat.le_refl _)).bind_never ?_
    rintro name _ s' u' - - rfl hbeside
    by_cases hname : name.isEmpty = true
    · rw [if_pos hname, if_pos hname]
      exact .ok rfl h
    · rw [if_neg hname, if_neg hname, peek?_bind, peek?_bind]
      rcases hbeside.head_cases with ⟨c, hc, hc'⟩ | ⟨hnil, hnil'⟩ | ⟨hnil, hu', -⟩
      · rw [hc, hc']
        by_cases hbrace : (some c != some '}') = true
        · rw [if_pos hbrace, if_pos hbrace]
          exact .of_fails ⟨_, rfl⟩ ⟨_, rfl⟩
        · rw [if_neg hbrace, if_neg hbrace, pos_bind, pos_bind, bump_bind, bump_bind]
          have hbumped := hbeside.bumped (Beside.ne_nil_of_head hc)
          generalize String.ofList name = text
          split
          · exact .ok rfl hbumped
          · exact .ok rfl hbumped
          · exact .ok rfl hbumped
          · exact .ok rfl hbumped
          · exact .faults
      · rw [hnil, hnil']
        exact .faults
      · rw [hnil, hu']
        exact .faults
  · -- The tail does not begin with a letter, so the brace is given back.
    rw [pos_bind, remaining_bind, hu] at hrun
    have hname : takeLoosely isBoundaryNameChar closing.length u.past = .ok ([], u.past) := by
      show takeLoosely isBoundaryNameChar (2 + 1) u.past = _
      rw [takeLoosely, peek?_bind, hu]
      rfl
    rw [bind_of_ok hname] at hrun
    cases hrun
    exact ⟨rfl, rfl, by simp [ht, closing], hu⟩

/-! ### Escapes -/

/-- What an escape that only the second reading can read comes to: it
takes characters of the tail, or it is a boundary with a brace behind
it. -/
def BeyondEscape (t : List Char) (n : Node) (u : Cursor) : Prop :=
  Past t t.tail n u ∨ (∃ span, n = .anchor span .boundary) ∧ Stuck t u

/-- After an escape that only the second reading can read, a step that
cannot follow a boundary with a brace behind it is beyond the first
character of the tail too. -/
theorem BeyondEscape.past {α : Type} {y : Reader α} {n : Node} {a : α} {u' : Cursor}
    (h : BeyondEscape t n u) (hforward : ∀ r, ⦃Left r⦄ y ⦃⇓? _ => Left r⦄)
    (hstuck : ∀ span, n = .anchor span .boundary → Stuck t u → Fails y u)
    (hrun : y u = .ok (a, u')) : Past t t.tail a u' := by
  rcases h with ⟨ht, hu⟩ | ⟨⟨span, hn⟩, hu⟩
  · exact ⟨ht, (suffix_of_run hforward hrun).trans hu⟩
  · obtain ⟨e, he⟩ := hstuck span hn hu
    rw [he] at hrun
    cases hrun

/-- A boundary behind its letter: with the name that follows in braces, if
there is one. -/
def readBoundary (start : Position) (span : Span) : Reader Node := do
  if (← peek?) == some '{' then
    match ← readBoundaryName? start with
    | some kind => return .anchor ⟨start, ← pos⟩ kind
    | none => return .anchor span .boundary
  else return .anchor span .boundary

theorem parallel_readBoundary (start start' : Position) (span span' : Span) (h : Beside t s u) :
    Parallel t Node.Like (BeyondEscape t) (readBoundary start span s)
      (readBoundary start' span' u) := by
  rw [readBoundary, readBoundary, peek?_bind, peek?_bind, h.head_beq (by decide)]
  by_cases hbrace : (s.rest.head? == some '{') = true
  · rw [if_pos hbrace, if_pos hbrace]
    have hs : s.rest ≠ [] := Beside.ne_nil_of_head (eq_of_beq hbrace)
    refine (parallel_readBoundaryName? start start' h hs).bind ?_ ?_
    · rintro kind _ s' u' - - rfl hbeside
      cases kind with
      | none => exact .ok rfl hbeside
      | some kind => exact .ok rfl hbeside
    · rintro _ _ ⟨rfl, rfl, ht, hclosing⟩ n u' hrun
      cases hrun
      exact .inr ⟨⟨_, rfl⟩, ht, eq_of_beq ((h.head_beq (by decide)).trans hbrace), hclosing⟩
  · rw [if_neg hbrace, if_neg hbrace]
    exact .ok rfl h

theorem parallel_readEscape (h : Beside t s u) (hs : s.rest ≠ []) :
    Parallel t Node.Like (BeyondEscape t) (readEscape s) (readEscape u) := by
  rw [readEscape, pos_bind, pos_bind, bump_bind, bump_bind, peek?_bind, peek?_bind]
  have hbumped := h.bumped hs
  rcases hbumped.head_cases with ⟨c, hc, hc'⟩ | ⟨hnil, hnil'⟩ | ⟨hnil, hu, ht⟩
  · have hne := Beside.ne_nil_of_head hc
    have hpassed := hbumped.bumped hne
    simp only [hc, hc']
    by_cases hdigit : c.isDigit = true
    · rw [if_pos hdigit, if_pos hdigit]
      exact .of_fails ⟨_, charSpan_bind s.bumped _⟩ ⟨_, charSpan_bind u.bumped _⟩
    rw [if_neg hdigit, if_neg hdigit]
    by_cases hhex : (c == 'x' || c == 'u' || c == 'U') = true
    · rw [if_pos hhex, if_pos hhex]
      refine (parallel_readHex s.pos u.pos c hbumped hne).bind_never ?_
      rintro l l' s' u' - - hl hbeside
      exact .ok (congrArg Node.literal hl) hbeside
    rw [if_neg hhex, if_neg hhex]
    by_cases hproperty : (c == 'p' || c == 'P') = true
    · rw [if_pos hproperty, if_pos hproperty]
      exact (parallel_readProperty s.pos u.pos _ hbumped hne).mono fun _ _ => .inl
    rw [if_neg hproperty, if_neg hproperty, bump_bind, bump_bind, pos_bind, pos_bind]
    rcases letterClass? c with _ | kind
    · rcases letterEscape? c with _ | ch
      · rcases letterAnchor? c with _ | kind
        · dsimp only
          by_cases hself : isEscapable c = true
          · rw [if_pos hself, if_pos hself]
            exact .ok rfl hpassed
          rw [if_neg hself, if_neg hself]
          by_cases hboundary : (c == 'b') = true
          · rw [if_pos hboundary, if_pos hboundary]
            exact parallel_readBoundary s.pos u.pos _ _ hpassed
          · rw [if_neg hboundary, if_neg hboundary]
            exact .faults
        · exact .ok rfl hpassed
      · exact .ok rfl hpassed
    · exact .ok rfl hpassed
  · rw [hnil, hnil']
    exact .faults
  · -- The second reading takes the parenthesis of the tail for escaped.
    rw [hnil, hu]
    refine .of_fails_left ⟨_, rfl⟩ fun n u' hrun => .inl ?_
    change (bump >>= _) u.bumped = _ at hrun
    rw [bump_bind] at hrun
    cases hrun
    rw [Past, Cursor.bumped_rest, hu, ht]
    exact ⟨by simp [closing], List.suffix_rfl⟩

end PipeShell.Pattern
