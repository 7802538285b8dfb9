import PipeShell.Proofs.Pattern.Beside.Escape

/-!
# `PipeShell.Proofs.Pattern.Beside.Group`: repetitions and group heads with
something put behind them

A counted repetition ends with a brace and the name of a group with an
angle bracket, and the tail has neither. Flags may end with the
parenthesis of the tail, and then the group that the text leaves open is
a setting of flags to the second reading.
-/

set_option autoImplicit false
set_option mvcgen.warning false

namespace PipeShell.Pattern

open Std.Do Reader

attribute [local grind →] List.IsSuffix.trans suffix_of_suffix_tail
attribute [local grind .] List.suffix_rfl

variable {t : List Char} {s u : Cursor}

/-! ### Repetitions -/

/-- Blanks in front of the tail are the blanks in front of it. -/
theorem Beside.takeWhile_eq (h : Beside t s u) {p : Char → Bool} (hp : p ')' = false) :
    u.rest.takeWhile p = s.rest.takeWhile p := by
  rcases h.rest with hu | hu
  · rw [hu]
    rcases h.tail with rfl | rfl
    · rw [List.append_nil]
    · rw [List.takeWhile_append]
      split
      · rename_i hall
        rw [closing, List.takeWhile_cons_of_neg (by simp [hp]), List.append_nil,
          (List.takeWhile_prefix p).eq_of_length hall]
      · rfl
  · rw [hu]

theorem parallel_readDecimal (h : Beside t s u) :
    Parallel t (fun n n' => n.toOption = n'.toOption) Never (readDecimal s) (readDecimal u) := by
  rw [readDecimal, get_bind, get_bind, h.takeWhile_eq (by decide)]
  have hblanks : ')' ∉ s.rest.takeWhile Text.isBlank := fun hparen => by
    have hblank := List.all_eq_true.mp List.all_takeWhile _ hparen
    contradiction
  refine (parallel_bumpIf hblanks h).bind_never fun _ _ s₁ u₁ _ _ _ hbeside => ?_
  rw [pos_bind, pos_bind, remaining_bind, remaining_bind]
  refine (parallel_takeLoosely Char.isDigit (by decide) hbeside (Nat.le_refl _)
    (Nat.le_refl _)).bind_never fun digits _ s₂ u₂ _ _ hdigits hbeside => ?_
  subst hdigits
  rw [pos_bind, pos_bind, remaining_bind, remaining_bind]
  refine (parallel_takeLoosely Text.isBlank (by decide) hbeside (Nat.le_refl _)
    (Nat.le_refl _)).bind_never fun _ _ s₃ u₃ _ _ _ hbeside => ?_
  split
  · exact .ok rfl hbeside
  · dsimp only
    split
    · exact .ok rfl hbeside
    · exact .ok rfl hbeside

theorem parallel_ofExcept {α : Type} {x y : Except Fault α} (hxy : x.toOption = y.toOption)
    (h : Beside t s u) :
    Parallel t Eq Never ((MonadExcept.ofExcept x : Reader α) s)
      ((MonadExcept.ofExcept y : Reader α) u) := by
  match x, y with
  | .error _, .error _ => exact .faults
  | .error _, .ok _ => cases hxy
  | .ok _, .error _ => cases hxy
  | .ok a, .ok b =>
      cases hxy
      exact .ok rfl h

theorem parallel_readBounds (start start' : Position) (h : Beside t s u) (hs : s.rest ≠ []) :
    Parallel t Eq (Past t t) (readBounds start s) (readBounds start' u) := by
  rw [readBounds, readBounds]
  refine .guard h hs ⟨_, rfl⟩ ⟨_, rfl⟩ ?_ fun _ ht hu b u' hrun =>
    past_of_forward ht hu (fun r => by mvcgen with grind) hrun
  refine (parallel_readDecimal (h.past hs)).bind_never fun least least' s₁ u₁ _ _ hleast hbeside => ?_
  rw [peek?_bind, peek?_bind]
  rcases hbeside.head_cases with ⟨c, hc, hc'⟩ | ⟨hnil, hnil'⟩ | ⟨hnil, hu, ht⟩
  · by_cases hcomma : c = ','
    · subst hcomma
      simp only [hc, hc']
      have hne := Beside.ne_nil_of_head hc
      refine .guard hbeside hne ⟨_, rfl⟩ ⟨_, rfl⟩ ?_ fun _ ht hu b u' hrun =>
        past_of_forward ht hu (fun r => by mvcgen with grind) hrun
      refine (parallel_ofExcept hleast (hbeside.past hne)).bind_never
        fun n _ s₂ u₂ _ _ hn hbeside => ?_
      subst hn
      rw [peek?_bind, peek?_bind, hbeside.head_beq (by decide)]
      split
      · exact .ok rfl hbeside
      · refine (parallel_readDecimal hbeside).bind_never fun most most' s₃ u₃ _ _ hmost hbeside => ?_
        refine (parallel_ofExcept hmost hbeside).bind_never fun m _ s₄ u₄ _ _ hm hbeside => ?_
        subst hm
        exact .ok rfl hbeside
    · simp only [hc, hc']
      refine (parallel_ofExcept hleast hbeside).bind_never fun n _ s₂ u₂ _ _ hn hbeside => ?_
      subst hn
      exact .ok rfl hbeside
  · rw [hnil, hnil']
    exact .faults
  · rw [hnil, hu]
    exact .of_fails_left ⟨_, rfl⟩ fun b u' hrun =>
      past_of_forward ht hu (fun r => by mvcgen with grind) hrun

/-- A counted repetition cannot be read at a brace that nothing but the
tail follows. -/
theorem fails_readBounds_of_stuck (start : Position) (hu : Stuck t u) :
    Fails (readBounds start) u := by
  have hclosing := hu.2.2
  have hdecimal : ∃ e, readDecimal u.past = .ok (.error e, u.past) := by
    generalize u.past = v at hclosing
    obtain ⟨p, rest, loose, names⟩ := v
    obtain rfl : rest = closing := hclosing
    exact ⟨_, rfl⟩
  obtain ⟨e, he⟩ := hdecimal
  rw [Fails, readBounds, bumpLoosely_bind, hclosing]
  show ∃ e, (readDecimal >>= _) u.past = .error e
  rw [bind_of_ok he, peek?_bind, hclosing]
  exact ⟨_, rfl⟩

/-- A part that may be repeated: it is there, and it is more than
flags. -/
def Node.isRepeatable : Node → Bool
  | .empty _ => false
  | .flags _ _ => false
  | _ => true

theorem Node.isRepeatable_unplaced (n : Node) : n.unplaced.isRepeatable = n.isRepeatable := by
  cases n <;> rfl

theorem operand_cons (n : Node) (ns : List Node) :
    operand (n :: ns) = if n.isRepeatable then pure (n, ns) else spot >>= fail .repetitionMissing := by
  cases n <;> rfl

theorem parallel_operand {ns ns' : List Node} (hns : ns.map Node.unplaced = ns'.map Node.unplaced)
    (h : Beside t s u) :
    Parallel t (fun p p' => p.1.Like p'.1 ∧ p.2.map Node.unplaced = p'.2.map Node.unplaced) Never
      (operand ns s) (operand ns' u) := by
  match ns, ns' with
  | [], [] => exact .faults
  | [], _ :: _ => cases hns
  | _ :: _, [] => cases hns
  | n :: ns, n' :: ns' =>
      rw [List.map_cons, List.map_cons, List.cons.injEq] at hns
      rw [operand_cons, operand_cons, ← n.isRepeatable_unplaced, hns.1, n'.isRepeatable_unplaced]
      split
      · exact .ok hns h
      · exact .faults

theorem parallel_skipLazyMark (h : Beside t s u) :
    Parallel t Eq Never (skipLazyMark s) (skipLazyMark u) := by
  rw [skipLazyMark, peek?_bind, peek?_bind, h.head_beq (by decide)]
  split
  · rename_i hmark
    rw [bump_bind, bump_bind]
    exact .ok rfl (h.bumped (Beside.ne_nil_of_head (eq_of_beq hmark)))
  · exact .ok rfl h

theorem operand_stays {ns : List Node} {p : Node × List Node} {s' : Cursor}
    (hrun : operand ns s = .ok (p, s')) : s' = s := by
  cases ns with
  | nil => cases hrun
  | cons n ns =>
      rw [operand_cons] at hrun
      split at hrun <;> cases hrun
      rfl

section
variable {ns ns' : List Node} (hns : ns.map Node.unplaced = ns'.map Node.unplaced)
include hns

theorem parallel_readUncounted (least : Nat) (most : Option Nat) (h : Beside t s u)
    (hs : s.rest ≠ []) :
    Parallel t (fun ns ns' => ns.map Node.unplaced = ns'.map Node.unplaced) Never
      (readUncounted least most ns s) (readUncounted least most ns' u) := by
  refine (parallel_operand hns h).bind_never fun p p' s₁ u₁ hs₁ _ hp hbeside => ?_
  obtain ⟨n, before⟩ := p
  obtain ⟨n', before'⟩ := p'
  obtain ⟨hn, hbefore⟩ := hp
  obtain rfl := operand_stays hs₁
  dsimp only
  rw [bump_bind, bump_bind]
  refine (parallel_skipLazyMark (hbeside.bumped hs)).bind_never fun _ _ s₂ u₂ _ _ _ hbeside => ?_
  refine .ok ?_ hbeside
  show Node.repeated _ _ _ n.unplaced :: before.map _ = Node.repeated _ _ _ n'.unplaced :: before'.map _
  rw [hn, hbefore]

theorem parallel_readCounted (h : Beside t s u) (hs : s.rest ≠ []) :
    Parallel t (fun ns ns' => ns.map Node.unplaced = ns'.map Node.unplaced) Never
      (readCounted ns s) (readCounted ns' u) := by
  rw [readCounted, readCounted, pos_bind, pos_bind]
  refine (parallel_operand hns h).bind_never fun p p' s₁ u₁ hs₁ _ hp hbeside => ?_
  obtain ⟨n, before⟩ := p
  obtain ⟨n', before'⟩ := p'
  obtain ⟨hn, hbefore⟩ := hp
  obtain rfl := operand_stays hs₁
  dsimp only
  refine (parallel_readBounds s₁.pos u.pos hbeside hs).bind
    (fun b b' s₂ u₂ _ _ hb hbeside => ?_) fun b u₂ hpast ns u₃ hrun => ?_
  · subst hb
    rw [peek?_bind, peek?_bind, bne, bne, hbeside.head_beq (by decide)]
    by_cases hbrace : (s₂.rest.head? == some '}') = true
    · have hne := Beside.ne_nil_of_head (eq_of_beq hbrace)
      rw [hbrace, if_neg (by decide), if_neg (by decide), bumpLoosely_bind, bumpLoosely_bind]
      refine (parallel_skipLazyMark (hbeside.past hne)).bind_never
        fun _ _ s₃ u₃ _ _ _ hbeside => ?_
      rw [pos_bind, pos_bind]
      split
      · exact .faults
      · refine .ok ?_ hbeside
        show Node.repeated _ _ _ n.unplaced :: before.map _
          = Node.repeated _ _ _ n'.unplaced :: before'.map _
        rw [hn, hbefore]
    · rw [if_pos (by simpa using hbrace), if_pos (by simpa using hbrace)]
      exact .faults
  · -- The tail has no brace.
    have hbrace : ¬u₂.rest.head? = some '}' := fun hhead =>
      h.notMem_of_past hpast (by decide) (List.mem_of_head? hhead)
    rw [peek?_bind, if_pos (by simpa using hbrace)] at hrun
    cases hrun

end

theorem fails_readCounted_of_stuck (ns : List Node) (hu : Stuck t u) : Fails (readCounted ns) u := by
  rw [Fails, readCounted, pos_bind]
  cases hoperand : operand ns u with
  | error e => exact Fails.bind ⟨e, hoperand⟩ _
  | ok p =>
      obtain ⟨⟨n, before⟩, u'⟩ := p
      obtain rfl := operand_stays hoperand
      rw [bind_of_ok hoperand]
      exact (fails_readBounds_of_stuck _ hu).bind _

/-! ### Names of groups -/

theorem readNameChars_of_nil (n : Nat) (first : Bool) (hs : s.rest = []) :
    readNameChars n first s = .ok ([], s) := by
  cases n with
  | zero => rfl
  | succ n =>
      rw [readNameChars, peek?_bind, hs]
      rfl

theorem readNameChars_of_head (n : Nat) (first : Bool) {c : Char} (hs : s.rest.head? = some c) :
    readNameChars (n + 1) first s
      = if c = '>' then .ok ([], s)
        else if isNameChar first c then
          (readNameChars n false >>= fun cs => pure (c :: cs)) s.bumped
        else .error ⟨.groupNameInvalid, s.here, none⟩ := by
  rw [readNameChars, peek?_bind, hs]
  by_cases hangle : c = '>'
  · subst hangle
    rfl
  · rw [if_neg hangle]
    simp only
    split
    · exact bump_bind s _
    · exact charSpan_bind s _

/-- A name is read up to its end or to that of the text. -/
theorem stop_of_readNameChars {n : Nat} {first : Bool} {cs : List Char} {s' : Cursor}
    (hn : s.rest.length ≤ n) (hrun : readNameChars n first s = .ok (cs, s')) :
    s'.rest = [] ∨ s'.rest.head? = some '>' := by
  induction n generalizing first cs s with
  | zero =>
      cases hrun
      exact .inl (List.length_eq_zero_iff.mp (Nat.le_zero.mp hn))
  | succ n ih =>
      cases hs : s.rest.head? with
      | none =>
          rw [readNameChars_of_nil _ _ (List.head?_eq_none_iff.mp hs)] at hrun
          cases hrun
          exact .inl (List.head?_eq_none_iff.mp hs)
      | some c =>
          rw [readNameChars_of_head n first hs] at hrun
          split at hrun
          · rename_i hangle
            cases hrun
            exact .inr (hangle ▸ hs)
          · split at hrun
            · obtain ⟨ds, s₁, hds, hpure⟩ := ok_of_bind hrun
              cases hpure
              exact ih (by simp; omega) hds
            · cases hrun

/-- Two readings of a name: they read the same, or the first text ends
within the name, and then the second one does so too if it can be read
at all. -/
def NamesAlike (t : List Char) (r r' : Except Fault (List Char × Cursor)) : Prop :=
  Parallel t Eq Never r r' ∨
    (∃ cs s', r = .ok (cs, s') ∧ s'.rest = []) ∧ ∀ ds u', r' = .ok (ds, u') → u'.rest = []

theorem namesAlike_of_nil {n m : Nat} (first : Bool) (h : Beside t s u) (hs : s.rest = [])
    (hm : u.rest.length ≤ m) :
    NamesAlike t (readNameChars n first s) (readNameChars m first u) := by
  refine .inr ⟨⟨[], s, readNameChars_of_nil n first hs, hs⟩, fun ds u' hrun => ?_⟩
  have hsuffix := suffix_of_run (forward_readNameChars · _ _) hrun
  refine (stop_of_readNameChars hm hrun).resolve_right fun hangle => ?_
  have hmem : '>' ∈ u.rest := hsuffix.mem (List.mem_of_head? hangle)
  rcases h.rest with hu | hu
  · rw [hu, hs, List.nil_append] at hmem
    rcases h.tail with rfl | rfl <;> simp [closing] at hmem
  · simp [hu, hs] at hmem

theorem namesAlike_readNameChars {n m : Nat} (first : Bool) (h : Beside t s u)
    (hn : s.rest.length ≤ n) (hm : u.rest.length ≤ m) :
    NamesAlike t (readNameChars n first s) (readNameChars m first u) := by
  induction n generalizing m first s u with
  | zero => exact namesAlike_of_nil first h (List.length_eq_zero_iff.mp (Nat.le_zero.mp hn)) hm
  | succ n ih =>
      rcases h.head_cases with ⟨c, hs, hu⟩ | ⟨hs, -⟩ | ⟨hs, -, -⟩
      · have hne := Beside.ne_nil_of_head hs
        obtain ⟨m, rfl, -⟩ := u.exists_round hm (h.ne_nil hne)
        rw [readNameChars_of_head n first hs, readNameChars_of_head m first hu]
        split
        · exact .inl (.ok rfl h)
        · split
          · have hnrest : s.bumped.rest.length ≤ n := by simp; omega
            have hmrest : u.bumped.rest.length ≤ m := by simp; omega
            rcases ih false (h.bumped hne) hnrest hmrest with hpar | ⟨⟨cs, s', hrun, hs'⟩, hends⟩
            · refine .inl (hpar.bind_never fun cs _ s' u' _ _ hcs hbeside => ?_)
              subst hcs
              exact .ok rfl hbeside
            · refine .inr ⟨⟨c :: cs, s', ?_, hs'⟩, fun ds u' hrun' => ?_⟩
              · rw [bind_of_ok hrun]
                rfl
              · obtain ⟨ds, u'', hds, hpure⟩ := ok_of_bind hrun'
                cases hpure
                exact hends ds _ hds
          · exact .inl .faults
      · exact namesAlike_of_nil first h hs hm
      · exact namesAlike_of_nil first h hs hm

/-- Finding by a part of the entries depends on those parts alone. -/
theorem find?_congr {α β : Type} {f : α → β} {l l' : List α} (h : l.map f = l'.map f)
    (p : β → Bool) : (l.find? (p ∘ f)).map f = (l'.find? (p ∘ f)).map f := by
  rw [← List.find?_map, h, List.find?_map]

theorem parallel_readGroupName (h : Beside t s u) :
    Parallel t Eq Never (readGroupName s) (readGroupName u) := by
  rw [readGroupName, pos_bind, pos_bind, remaining_bind, remaining_bind]
  rcases namesAlike_readNameChars true h (Nat.le_refl _) (Nat.le_refl _)
    with hpar | ⟨⟨name, s', hrun, hs'⟩, hends⟩
  · refine hpar.bind_never fun name _ s₁ u₁ hs₁ hu₁ hname hbeside => ?_
    subst hname
    rw [pos_bind, pos_bind, peek?_bind, peek?_bind]
    rcases hbeside.head_cases with ⟨c, hc, hc'⟩ | ⟨hs, hu⟩ | ⟨hs, hu, -⟩
    · have hbumped := hbeside.bumped (Beside.ne_nil_of_head hc)
      have hsome : ¬(some c).isNone = true := by simp
      rw [hc, hc', if_neg hsome, if_neg hsome, bump_bind, bump_bind]
      split
      · exact .faults
      · rw [get_bind, get_bind]
        have hfind := find?_congr hbumped.names (· == name)
        simp only [Function.comp_def] at hfind
        cases hearlier : s₁.bumped.names.find? (·.1 == name) <;>
          cases hearlier' : u₁.bumped.names.find? (·.1 == name) <;>
          simp only [hearlier, hearlier', Option.map_none, Option.map_some, reduceCtorEq] at hfind
        · refine .ok rfl ⟨hbumped.tail, hbumped.rest, hbumped.loose, ?_⟩
          exact congrArg (name :: ·) hbumped.names
        · exact .faults
    · rw [hs, hu]
      exact .faults
    · rcases stop_of_readNameChars (Nat.le_refl _) hu₁ with hnil | hangle
      · simp [hu, closing] at hnil
      · simp [hu, closing] at hangle
  · refine .of_fails_left ?_ fun _ u'' hrun' => ?_
    · rw [Fails, bind_of_ok hrun, pos_bind, peek?_bind, hs']
      exact ⟨_, rfl⟩
    · obtain ⟨ds, u', hds, hrest⟩ := ok_of_bind hrun'
      rw [pos_bind, peek?_bind, hends ds u' hds] at hrest
      cases hrest

/-! ### Flags -/

/-- What a character among flags stands for: a flag, the sign of negation
or nothing. -/
def flagItem? (c : Char) : Option (Option Flag) :=
  if c == '-' then some none else (Flag.ofChar? c).map some

theorem readFlags_of_nil (n : Nat) (items : List (Span × Option Flag)) (dangling : Option Span)
    (hs : s.rest = []) : Fails (readFlags n items dangling) s := by
  cases n with
  | zero => exact ⟨_, rfl⟩
  | succ n =>
      cases dangling <;>
        rw [Fails, readFlags, peek?_bind, hs] <;> exact ⟨_, rfl⟩

theorem readFlags_of_end (n : Nat) (items : List (Span × Option Flag)) (dangling : Option Span)
    {c : Char} (hs : s.rest.head? = some c) (hc : (c == ':' || c == ')') = true) :
    readFlags (n + 1) items dangling s = match dangling with
      | some d => .error ⟨.flagDanglingNegation, d, none⟩
      | none => .ok (items.reverse, s) := by
  cases dangling <;>
  · rw [readFlags, peek?_bind, hs]
    dsimp only
    rw [if_pos hc]
    rfl

theorem flagItem?_eq (c : Char) :
    flagItem? c = if c != '-' && (if c == '-' then none else Flag.ofChar? c).isNone then none
      else some (if c == '-' then none else Flag.ofChar? c) := by
  unfold flagItem?
  by_cases hminus : (c == '-') = true
  · simp [hminus, bne]
  · cases hflag : Flag.ofChar? c <;> simp [hminus, bne]

theorem readFlags_of_item (n : Nat) (items : List (Span × Option Flag)) (dangling : Option Span)
    {c : Char} (hs : s.rest.head? = some c) (hc : ¬(c == ':' || c == ')') = true) :
    readFlags (n + 1) items dangling s = match flagItem? c with
      | none => .error ⟨.flagUnrecognized, s.here, none⟩
      | some item => match items.find? (·.2 == item) with
        | some (earlier, _) =>
            .error ⟨if c == '-' then .flagRepeatedNegation else .flagDuplicate, s.here, some earlier⟩
        | none =>
            (if !(!s.bumped.rest.isEmpty) then spot >>= fail .flagUnexpectedEnd
              else readFlags n ((s.here, item) :: items) (if c == '-' then some s.here else none))
              s.bumped := by
  rw [flagItem?_eq]
  cases dangling <;>
  · rw [readFlags, peek?_bind, hs]
    dsimp only
    rw [if_neg hc, charSpan_bind]
    generalize (if c == '-' then none else Flag.ofChar? c) = item
    by_cases hunknown : (c != '-' && item.isNone) = true
    · rw [if_pos hunknown, if_pos hunknown]
      rfl
    · rw [if_neg hunknown, if_neg hunknown]
      dsimp only
      cases items.find? (·.2 == item) with
      | none => exact bump_bind s _
      | some earlier => rfl

/-- Flags are read up to a character. -/
theorem stop_of_readFlags {n : Nat} {items items' : List (Span × Option Flag)}
    {dangling : Option Span} {s' : Cursor} (hrun : readFlags n items dangling s = .ok (items', s')) :
    s'.rest ≠ [] := by
  induction n generalizing s items dangling with
  | zero => cases hrun
  | succ n ih =>
      cases hs : s.rest.head? with
      | none =>
          obtain ⟨e, he⟩ := readFlags_of_nil (n + 1) items dangling (List.head?_eq_none_iff.mp hs)
          rw [he] at hrun
          cases hrun
      | some c =>
          by_cases hc : (c == ':' || c == ')') = true
          · rw [readFlags_of_end n items dangling hs hc] at hrun
            cases dangling <;> cases hrun
            exact Beside.ne_nil_of_head hs
          · rw [readFlags_of_item n items dangling hs hc] at hrun
            split at hrun
            · cases hrun
            · split at hrun
              · cases hrun
              · split at hrun
                · cases hrun
                · exact ih hrun

theorem parallel_readFlags {n m : Nat} {items items' : List (Span × Option Flag)}
    {dangling dangling' : Option Span} (hitems : items.map Prod.snd = items'.map Prod.snd)
    (hdangling : dangling.isSome = dangling'.isSome) (h : Beside t s u) (hn : s.rest.length < n)
    (hm : u.rest.length < m) :
    Parallel t (fun items items' => items.map Prod.snd = items'.map Prod.snd) (Past t t)
      (readFlags n items dangling s) (readFlags m items' dangling' u) := by
  induction n generalizing m items items' dangling dangling' s u with
  | zero => exact absurd hn (Nat.not_lt_zero _)
  | succ n ih =>
      obtain ⟨m, rfl⟩ : ∃ k, m = k + 1 := ⟨m - 1, by omega⟩
      rcases h.head_cases with ⟨c, hs, hu⟩ | ⟨hs, hu⟩ | ⟨hs, hu, ht⟩
      · have hne := Beside.ne_nil_of_head hs
        have hne' := Beside.ne_nil_of_head hu
        by_cases hc : (c == ':' || c == ')') = true
        · rw [readFlags_of_end n items dangling hs hc, readFlags_of_end m items' dangling' hu hc]
          cases dangling <;> cases dangling' <;>
            simp only [Option.isSome_none, Option.isSome_some, reduceCtorEq] at hdangling
          · exact .ok (by simp [hitems]) h
          · exact .faults
        · rw [readFlags_of_item n items dangling hs hc, readFlags_of_item m items' dangling' hu hc]
          rcases flagItem? c with _ | item
          · exact .faults
          · have hfind := find?_congr hitems (· == item)
            simp only [Function.comp_def] at hfind
            dsimp only
            cases hearlier : items.find? (·.2 == item) <;>
              cases hearlier' : items'.find? (·.2 == item) <;>
              simp only [hearlier, hearlier', Option.map_none, Option.map_some,
                reduceCtorEq] at hfind
            · have hnrest : s.bumped.rest.length < n := by
                have hpos := List.length_pos_iff.mpr hne
                simp
                omega
              have hmrest : u.bumped.rest.length < m := by
                have hpos := List.length_pos_iff.mpr hne'
                simp
                omega
              refine .unless_end (h.bumped hne) ⟨_, rfl⟩ ⟨_, rfl⟩ ?_ fun _ ht hu items u' hrun =>
                past_of_forward ht hu (forward_readFlags · _ _ _) hrun
              refine ih (by simp [hitems]) ?_ (h.bumped hne) hnrest hmrest
              split <;> rfl
            · exact .faults
      · exact .of_fails (readFlags_of_nil _ _ _ hs) (readFlags_of_nil _ _ _ hu)
      · exact .of_fails_left (readFlags_of_nil _ _ _ hs) fun items u' hrun =>
          past_of_forward ht hu (forward_readFlags · _ _ _) hrun

theorem changesOf_congr {items items' : List (Span × Option Flag)}
    (h : items.map Prod.snd = items'.map Prod.snd) (on : Bool) :
    changesOf on items = changesOf on items' := by
  induction items generalizing items' on with
  | nil =>
      rw [List.map_eq_nil_iff.mp h.symm]
  | cons item items ih =>
      obtain ⟨item', items', rfl, hitem, hitems⟩ := List.map_eq_cons_iff.mp h.symm
      obtain ⟨span, flag⟩ := item
      obtain ⟨span', flag'⟩ := item'
      obtain rfl : flag' = flag := hitem
      cases flag' with
      | none => exact ih hitems.symm false
      | some f => exact congrArg ((f, on) :: ·) (ih hitems.symm on)

/-! ### Heads of groups -/

/-- Two heads of a group differ in their places alone. -/
def GroupHead.Like : GroupHead → GroupHead → Prop
  | .setting _ changes, .setting _ changes' => changes = changes'
  | .group _ kept changes, .group _ kept' changes' => kept = kept' ∧ changes = changes'
  | _, _ => False

theorem parallel_readGroupHead (h : Beside t s u) (hs : s.rest ≠ []) :
    Parallel t GroupHead.Like (Past t t.tail) (readGroupHead s) (readGroupHead u) := by
  rw [readGroupHead, charSpan_bind, charSpan_bind, bump_bind, bump_bind, skipLoosely_bind,
    skipLoosely_bind]
  refine (parallel_bumpAny (by decide) (h.past hs)).bind_never
    fun around _ s₁ u₁ _ _ haround hbeside => ?_
  subst haround
  split
  · exact .faults
  rw [spot_bind, spot_bind]
  refine (parallel_bumpAny (by decide) hbeside).bind_never
    fun named _ s₂ u₂ _ _ hnamed hbeside => ?_
  subst hnamed
  split
  · refine (parallel_readGroupName hbeside).bind_never fun _ _ s₃ u₃ _ _ _ hbeside => ?_
    exact .ok ⟨rfl, rfl⟩ hbeside
  refine (parallel_bumpIf (by decide) hbeside).bind_never
    fun marked _ s₃ u₃ _ _ hmarked hbeside => ?_
  subst hmarked
  split
  · rw [peek?_bind, peek?_bind]
    rcases hbeside.head_cases with ⟨c, hc, hc'⟩ | ⟨hs, hu⟩ | ⟨hs, hu, ht⟩
    · have hsome : ¬(some c).isNone = true := by simp
      rw [hc, hc', if_neg hsome, if_neg hsome, remaining_bind, remaining_bind]
      refine (parallel_readFlags rfl rfl hbeside (Nat.lt_succ_self _) (Nat.lt_succ_self _)).bind
        (fun items items' s₄ u₄ hs₄ _ hitems hbeside => ?_) fun items u₄ hpast head u₅ hrun =>
          hpast.takes (fun r => ?_) hrun
      · rw [peek?_bind, peek?_bind, changesOf_congr hitems true, bump_bind, bump_bind]
        rcases hbeside.head_cases with ⟨d, hd, hd'⟩ | ⟨hs, -⟩ | ⟨hs, -, -⟩
        · have hbumped := hbeside.bumped (Beside.ne_nil_of_head hd)
          have hempty : items.isEmpty = items'.isEmpty := by
            rw [← List.isEmpty_map (f := Prod.snd), hitems, List.isEmpty_map]
          rw [hd, hd', hempty]
          split
          · exact .ok ⟨rfl, rfl⟩ hbumped
          · split
            · exact .faults
            · exact .ok rfl hbumped
        · exact absurd hs (stop_of_readFlags hs₄)
        · exact absurd hs (stop_of_readFlags hs₄)
      · mvcgen with grind
    · rw [hs, hu]
      exact .faults
    · rw [hs, hu]
      refine .of_fails_left ⟨_, rfl⟩ fun head u₅ hrun => past_of_takes ht hu (fun r => ?_) hrun
      mvcgen with grind [→ tail_suffix_tail]
  · exact .ok ⟨rfl, rfl⟩ hbeside

end PipeShell.Pattern
