import PipeShell.Proofs.Pattern.Beside.Body
import PipeShell.Search

/-!
# `PipeShell.Proofs.Search.Wrapping`: a pattern with a group put around it

For whole words a pattern is put between `\b(?:` and `)\b`, as a text.
That makes one group of it only if the reading of the pattern ends just
in front of the closing parenthesis.

* `read_wholeWords_cases`: what becomes of the group.
-/

set_option autoImplicit false

namespace PipeShell.Search

open Pattern Pattern.Reader

/-! ### Where the readings start -/

/-- The cursor before a pattern. -/
def start (pattern : List Char) : Cursor := ⟨.origin, pattern, false, []⟩

/-- The cursor behind the opening of the group. -/
def opened (pattern : List Char) : Cursor :=
  ⟨['\\', 'b', '(', '?', ':'].foldl Position.after .origin, pattern ++ closing, false, []⟩

/-- The span of the parenthesis that opens the group. -/
def opening : Span :=
  ⟨['\\', 'b'].foldl Position.after .origin, ['\\', 'b', '('].foldl Position.after .origin⟩

theorem beside_opened (pattern : List Char) : Beside closing (start pattern) (opened pattern) :=
  ⟨.inr rfl, .inl rfl, rfl, rfl⟩

theorem beside_start (pattern : List Char) :
    Beside [] (opened pattern) (start (pattern ++ closing)) :=
  ⟨.inl rfl, .inr rfl, rfl, rfl⟩

/-- A whole pattern, not nested deeper than allowed. -/
def withinLimit (n : Node) : Except Fault Node :=
  match n.overdeep? nestLimit with
  | some span => .error ⟨.nestLimitExceeded, span, none⟩
  | none => .ok n

theorem withinLimit_of_le {n : Node} (h : n.depth ≤ nestLimit) : withinLimit n = .ok n := by
  rw [withinLimit, (n.overdeep?_eq_none_iff nestLimit).mpr h]

theorem withinLimit_of_lt {n : Node} (h : nestLimit < n.depth) :
    ∃ span, withinLimit n = .error ⟨.nestLimitExceeded, span, none⟩ := by
  cases hdeep : n.overdeep? nestLimit with
  | none => exact absurd ((n.overdeep?_eq_none_iff nestLimit).mp hdeep) (Nat.not_le_of_lt h)
  | some span => exact ⟨span, by rw [withinLimit, hdeep]⟩

theorem read_of_ok {pattern : List Char} {n : Node}
    (h : ∃ s', readBody none (pattern.length + 1) (.at .origin) (start pattern) = .ok (n, s')) :
    read pattern = withinLimit n := by
  obtain ⟨s', h⟩ := h
  show (readBody none (pattern.length + 1) (.at .origin) (start pattern) >>= fun p => _) = _
  rw [h]
  rfl

theorem read_of_error {pattern : List Char} {e : Fault}
    (h : readBody none (pattern.length + 1) (.at .origin) (start pattern) = .error e) :
    read pattern = .error e := by
  show (readBody none (pattern.length + 1) (.at .origin) (start pattern) >>= fun p => _) = _
  rw [h]
  rfl

/-! ### The group -/

/-- Parts are read up to a closing parenthesis or to the end. -/
theorem stop_of_readParts {n : Nat} {run run' : BodyRun} {s s' : Cursor} (hs : s.rest.length < n)
    (hrun : readParts n run s = .ok (run', s')) : s'.rest = [] ∨ s'.rest.head? = some ')' := by
  induction n generalizing s run with
  | zero => exact absurd hs (Nat.not_lt_zero _)
  | succ n ih =>
      rw [readParts, skipLoosely_bind, peek?_bind] at hrun
      have hlen := s.length_skipped_le hs
      cases hc : s.skipped.rest.head? with
      | none =>
          rw [hc] at hrun
          cases hrun
          exact .inl (List.head?_eq_none_iff.mp hc)
      | some c =>
          rw [hc] at hrun
          dsimp only at hrun
          split at hrun
          · rename_i hclose
            cases hrun
            exact .inr (hclose ▸ hc)
          · obtain ⟨r, s₁, hpart, hparts⟩ := ok_of_bind hrun
            have hlt := length_lt_of_suffix_tail (suffix_tail_of_run (takes_readPart · _ _ _) hpart)
              (Beside.ne_nil_of_head hc)
            exact ih (by omega) hparts

/-- Up to the end of the group. -/
theorem readBody_wholeWords (n : Nat) (pattern : List Char) :
    readBody none (n + 2) (.at .origin) (start (wholeWords pattern))
      = (readBody (some opening) n (.at (opened pattern).pos) >>= fun body => do
          let _ ← bump
          modify fun c => { c with loose := false }
          let run := (BodyRun.at .origin).push (.anchor ⟨.origin, opening.start⟩ .boundary)
          readBody none n (run.push (.group ⟨opening.start, ← pos⟩ false [] body)))
        (opened pattern) := rfl

/-- From behind the group. -/
theorem readBody_boundary (n : Nat) (run : BodyRun) (p : Position)
    (names : List (List Char × Span)) :
    ∃ span stop s', readBody none (n + 2) run ⟨p, ['\\', 'b'], false, names⟩
      = .ok ((run.push (.anchor span .boundary)).node stop, s') :=
  ⟨_, _, _, rfl⟩

/-- The second pattern is the first one as a group between two word
boundaries, places apart. -/
def IsWrapped (n w : Node) : Prop :=
  ∃ whole first around last n', n.Like n' ∧
    w = .concat whole [.anchor first .boundary, .group around false [] n', .anchor last .boundary]

theorem IsWrapped.depth_eq {n w : Node} (h : IsWrapped n w) : w.depth = n.depth + 2 := by
  obtain ⟨_, _, _, _, n', hn, rfl⟩ := h
  simp [Node.depth, Node.maxDepth, Node.depth_congr hn]

theorem length_wholeWords (pattern : List Char) :
    (wholeWords pattern).length + 1 = (pattern.length + 7) + 2 := by
  simp [wholeWords]

theorem read_wholeWords_of_fails {pattern : List Char}
    (h : Fails (readBody (some opening) (pattern.length + 7) (.at (opened pattern).pos))
      (opened pattern)) :
    ∃ e, read (wholeWords pattern) = .error e := by
  obtain ⟨e, he⟩ := h
  refine ⟨e, read_of_error ?_⟩
  rw [length_wholeWords, readBody_wholeWords, bind_of_error he]

theorem read_wholeWords_of_ok {pattern : List Char} {n n' : Node} {u' : Cursor} (hn : n.Like n')
    (h : readBody (some opening) (pattern.length + 7) (.at (opened pattern).pos) (opened pattern)
      = .ok (n', u')) (hu : u'.rest = closing) :
    ∃ w, IsWrapped n w ∧ read (wholeWords pattern) = withinLimit w := by
  have hbehind := readBody_boundary (pattern.length + 5)
    (((BodyRun.at .origin).push (.anchor ⟨.origin, opening.start⟩ .boundary)).push
      (.group ⟨opening.start, u'.pos.after ')'⟩ false [] n')) (u'.pos.after ')') u'.names
  obtain ⟨last, stop, v, hv⟩ := hbehind
  refine ⟨_, ⟨⟨.origin, stop⟩, ⟨.origin, opening.start⟩, ⟨opening.start, u'.pos.after ')'⟩, last, n',
    hn, rfl⟩, read_of_ok ⟨v, ?_⟩⟩
  rw [length_wholeWords, readBody_wholeWords, bind_of_ok h]
  obtain ⟨p, rest, loose, names⟩ := u'
  obtain rfl : rest = closing := hu
  exact hv

/-! ### What becomes of the group -/

/-- The text that ends the group is not read as such: the pattern ends
with a comment, which takes it in. -/
def HidesClosing (pattern : List Char) : Prop := ∃ n, read (pattern ++ closing) = .ok n

section
variable {run : BodyRun} {s : Cursor}

theorem finish_none_of_nil (hs : s.rest = []) : finish none run s = .ok (run.node s.pos, s) := by
  rw [finish, peek?_bind, hs]
  rfl

theorem finish_none_of_head {c : Char} (hs : s.rest.head? = some c) :
    ∃ e, finish none run s = .error e ∧ e.trouble = .groupUnopened := by
  rw [finish, peek?_bind, hs]
  exact ⟨_, charSpan_bind s _, rfl⟩

theorem finish_some_of_nil (span : Span) (hs : s.rest = []) : Fails (finish (some span) run) s := by
  rw [Fails, finish, peek?_bind, hs]
  exact ⟨_, rfl⟩

theorem finish_some_of_head (span : Span) {c : Char} (hs : s.rest.head? = some c) :
    finish (some span) run s = .ok (run.node s.pos, s) := by
  rw [finish, peek?_bind, hs]
  rfl

end

section
variable (pattern : List Char)

/-- The parts of a pattern up to a parenthesis that nothing opened or to
its end. -/
abbrev partsOf : Except Fault (BodyRun × Cursor) :=
  readParts (pattern.length + 1) (.at .origin) (start pattern)

/-- The parts of the group around a pattern. -/
abbrev groupParts : Except Fault (BodyRun × Cursor) :=
  readParts (pattern.length + 7) (.at (opened pattern).pos) (opened pattern)

theorem parallel_groupParts :
    Parallel closing BodyRun.Like (Past closing closing.tail) (partsOf pattern)
      (groupParts pattern) :=
  parallel_readParts (fun k _ => bodiesAlike k) (.at _ _) (beside_opened pattern)
    (Nat.lt_succ_self _) (by simp [opened, closing])

theorem parallel_partsOf_closing :
    Parallel [] BodyRun.Like (Past [] ([] : List Char).tail) (groupParts pattern)
      (partsOf (pattern ++ closing)) :=
  parallel_readParts (fun k _ => bodiesAlike k) (.at _ _) (beside_start pattern)
    (by simp [opened, closing]) (Nat.lt_succ_self _)

theorem readBody_start :
    readBody none (pattern.length + 1) (.at .origin) (start pattern)
      = (partsOf pattern >>= fun p => finish none p.1 p.2) :=
  readBody_eq none _ (Nat.lt_succ_self _)

theorem readBody_opened :
    readBody (some opening) (pattern.length + 7) (.at (opened pattern).pos) (opened pattern)
      = (groupParts pattern >>= fun p => finish (some opening) p.1 p.2) :=
  readBody_eq (some opening) _ (by simp [opened, closing])

end

section
variable {pattern : List Char}

/-- A pattern with a fault in one of its parts has one with the group
around it too. -/
theorem read_wholeWords_of_error {e : Fault} (hx : partsOf pattern = .error e) :
    ∃ e, read (wholeWords pattern) = .error e := by
  refine read_wholeWords_of_fails ?_
  rw [Fails, readBody_opened]
  cases hy : groupParts pattern with
  | error e => exact ⟨e, rfl⟩
  | ok p =>
      -- Nothing is left but what is behind the parenthesis, so nothing ends the group.
      have hpast := hx ▸ parallel_groupParts pattern
      have hsuffix := (hpast.of_error p.1 p.2 hy).2
      refine finish_some_of_nil opening ?_
      refine (stop_of_readParts (by simp [opened, closing]) hy).resolve_right fun hhead => ?_
      have hmem := hsuffix.mem (List.mem_of_head? hhead)
      simp [closing] at hmem

/-- Where the pattern ends with a comment, nothing ends the group. -/
theorem read_wholeWords_of_hidden {r r' : BodyRun} {u' : Cursor} (stop : Position)
    (hy : groupParts pattern = .ok (r', u')) (hr : r.Like r') (hu : u'.rest = []) :
    (∃ e, read (wholeWords pattern) = .error e) ∧
      ((r.node stop).depth ≤ nestLimit → HidesClosing pattern) := by
  constructor
  · refine read_wholeWords_of_fails ?_
    rw [Fails, readBody_opened, hy]
    exact finish_some_of_nil opening hu
  · intro hdepth
    obtain ⟨r'', w', hz, hr', hbeside⟩ := (hy ▸ parallel_partsOf_closing pattern).of_ok
    have hw : w'.rest = [] := by simpa [hu] using hbeside.rest
    refine ⟨r''.node w'.pos, ?_⟩
    rw [read_of_ok ⟨w', ?_⟩]
    · refine withinLimit_of_le ?_
      rwa [← Node.depth_congr (hr'.node u'.pos w'.pos),
        ← Node.depth_congr (hr.node stop u'.pos)]
    · rw [readBody_start, hz]
      exact finish_none_of_nil hw

/-- Where it does not, the group is read as one. -/
theorem read_wholeWords_of_closing {r r' : BodyRun} {u' : Cursor} (stop : Position)
    (hy : groupParts pattern = .ok (r', u')) (hr : r.Like r') (hu : u'.rest = closing) :
    ¬HidesClosing pattern ∧
      ∃ w, IsWrapped (r.node stop) w ∧ read (wholeWords pattern) = withinLimit w := by
  constructor
  · rintro ⟨n, hn⟩
    obtain ⟨r'', w', hz, -, hbeside⟩ := (hy ▸ parallel_partsOf_closing pattern).of_ok
    have hw : w'.rest.head? = some ')' := by
      have hrest : w'.rest = closing := by simpa [hu] using hbeside.rest
      rw [hrest]
      rfl
    obtain ⟨e, he, -⟩ : ∃ e, finish none r'' w' = .error e ∧ e.trouble = .groupUnopened :=
      finish_none_of_head hw
    have hread : read (pattern ++ closing) = .error e :=
      read_of_error (by rw [readBody_start, hz]; exact he)
    rw [hread] at hn
    cases hn
  · refine read_wholeWords_of_ok (hr.node stop u'.pos) ?_ hu
    rw [readBody_opened, hy]
    exact finish_some_of_head opening (c := ')') (by rw [hu]; rfl)

/-- A pattern is refused for a closing parenthesis that nothing opened, or
it is refused with the group around it too, or it can be read; then the
group is read as one, unless the pattern ends with a comment. -/
theorem read_wholeWords_cases (pattern : List Char) :
    (∃ e, read pattern = .error e ∧ e.trouble = .groupUnopened) ∨
      (∃ e e', read pattern = .error e ∧ read (wholeWords pattern) = .error e') ∨
      ∃ n, read pattern = .ok n ∧
        (HidesClosing pattern ∧ (∃ e, read (wholeWords pattern) = .error e) ∨
          ¬HidesClosing pattern ∧
            ∃ w, IsWrapped n w ∧ read (wholeWords pattern) = withinLimit w) := by
  cases hx : partsOf pattern with
  | error e =>
      obtain ⟨e', he'⟩ := read_wholeWords_of_error hx
      exact .inr (.inl ⟨e, e', read_of_error (by rw [readBody_start, hx]; rfl), he'⟩)
  | ok p =>
      obtain ⟨r, s'⟩ := p
      have hlength : (start pattern).rest.length < pattern.length + 1 := Nat.lt_succ_self _
      rcases stop_of_readParts hlength hx with hs | hs
      · have hread : read pattern = withinLimit (r.node s'.pos) :=
          read_of_ok ⟨s', by rw [readBody_start, hx]; exact finish_none_of_nil hs⟩
        obtain ⟨r', u', hy, hr, hbeside⟩ := (hx ▸ parallel_groupParts pattern).of_ok
        rcases Nat.lt_or_ge nestLimit (r.node s'.pos).depth with hdeep | hdepth
        · have hwhole : ∃ e, read (wholeWords pattern) = .error e := by
            rcases hbeside.head_cases with ⟨c, hc, -⟩ | ⟨-, hu⟩ | ⟨-, hu, -⟩
            · simp [hs] at hc
            · exact (read_wholeWords_of_hidden s'.pos hy hr hu).1
            · obtain ⟨-, w, hw, hwhole⟩ := read_wholeWords_of_closing s'.pos hy hr hu
              obtain ⟨span, hspan⟩ : ∃ span, withinLimit w = .error ⟨_, span, none⟩ :=
                withinLimit_of_lt (by rw [hw.depth_eq]; omega)
              exact ⟨_, hwhole.trans hspan⟩
          obtain ⟨e', he'⟩ := hwhole
          obtain ⟨span, hspan⟩ := withinLimit_of_lt hdeep
          exact .inr (.inl ⟨_, e', hread.trans hspan, he'⟩)
        · refine .inr (.inr ⟨r.node s'.pos, hread.trans (withinLimit_of_le hdepth), ?_⟩)
          rcases hbeside.head_cases with ⟨c, hc, -⟩ | ⟨-, hu⟩ | ⟨-, hu, -⟩
          · simp [hs] at hc
          · have hhidden := read_wholeWords_of_hidden s'.pos hy hr hu
            exact .inl ⟨hhidden.2 hdepth, hhidden.1⟩
          · exact .inr (read_wholeWords_of_closing s'.pos hy hr hu)
      · obtain ⟨e, he, htrouble⟩ := finish_none_of_head hs
        exact .inl ⟨e, read_of_error (by rw [readBody_start, hx]; exact he), htrouble⟩

end

end PipeShell.Search
