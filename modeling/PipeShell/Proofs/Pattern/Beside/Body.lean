import PipeShell.Proofs.Pattern.Beside.Class
import PipeShell.Proofs.Pattern.Beside.Group

/-!
# `PipeShell.Proofs.Pattern.Beside.Body`: bodies with something put behind them

A body is read part by part up to a closing parenthesis or the end
(`readParts`), and only then does it matter what opened it (`finish`).
-/

set_option autoImplicit false
set_option mvcgen.warning false

namespace PipeShell.Pattern

open Std.Do Reader

attribute [local grind →] List.IsSuffix.trans suffix_of_suffix_tail
attribute [local grind .] List.suffix_rfl

variable {t : List Char} {s u : Cursor}

/-! ### Part by part -/

/-- The body with the part at the cursor, which begins with `c`. -/
def readPart (fuel : Nat) (run : BodyRun) (c : Char) : Reader BodyRun := do
  match c with
  | '(' =>
      match ← readGroupHead with
      | .setting span changes =>
          let c ← get
          set { c with loose := (changes.state? .ignoreSpace).getD c.loose }
          return run.push (.flags span changes)
      | .group span kept changes =>
          let outside := (← get).loose
          modify fun c => { c with loose := (changes.state? .ignoreSpace).getD outside }
          let body ← readBody (some span) fuel (.at (← pos))
          let _ ← bump
          modify fun c => { c with loose := outside }
          return run.push (.group ⟨span.start, ← pos⟩ kept changes body)
  | '|' =>
      let stop ← pos
      let _ ← bump
      return run.bar stop (← pos)
  | '[' => return run.push (← readClass)
  | '?' => return { run with parts := ← readUncounted 0 (some 1) run.parts }
  | '*' => return { run with parts := ← readUncounted 0 none run.parts }
  | '+' => return { run with parts := ← readUncounted 1 none run.parts }
  | '{' => return { run with parts := ← readCounted run.parts }
  | c => return run.push (← readAtom c)

/-- The body, at a closing parenthesis or at the end. -/
def finish (opening : Option Span) (run : BodyRun) : Reader Node := do
  match opening, (← peek?) with
  | some span, none => fail .groupUnclosed span
  | none, some _ => fail .groupUnopened (← charSpan)
  | _, _ => return run.node (← pos)

/-- The parts up to a closing parenthesis or to the end. -/
def readParts : (fuel : Nat) → BodyRun → Reader BodyRun
  | 0, run => return run
  | fuel + 1, run => do
      skipLoosely
      match ← peek? with
      | none => return run
      | some c => if c = ')' then return run else readParts fuel (← readPart fuel run c)

theorem readBody_succ (opening : Option Span) (fuel : Nat) (run : BodyRun) :
    readBody opening (fuel + 1) run = (do
      skipLoosely
      match ← peek? with
      | none => finish opening run
      | some c =>
          if c = ')' then finish opening run else readBody opening fuel (← readPart fuel run c)) := by
  funext s
  rw [skipLoosely_bind, peek?_bind]
  cases opening <;>
  · rw [readBody, skipLoosely_bind, peek?_bind]
    cases hs : s.skipped.rest.head? with
    | none => simp [finish, peek?_bind, hs]
    | some c =>
      by_cases hclose : c = ')'
      · subst hclose
        simp [finish, peek?_bind, hs]
      · dsimp only
        rw [if_neg hclose]
        unfold readPart
        split
        all_goals simp only [bind_assoc, pure_bind]
        · refine congrFun (bind_congr fun head => ?_) _
          cases head <;> simp only [bind_assoc, pure_bind]

@[spec]
theorem takes_readPart (r : List Char) (fuel : Nat) (run : BodyRun) (c : Char) :
    ⦃LeftAfterOne r⦄ readPart fuel run c ⦃⇓? _ => Left r⦄ := by
  mvcgen [readPart] with grind

@[spec]
theorem forward_finish (r : List Char) (opening : Option Span) (run : BodyRun) :
    ⦃Left r⦄ finish opening run ⦃⇓? _ => Left r⦄ := by
  mvcgen [finish] with grind

@[spec]
theorem forward_readParts (r : List Char) (fuel : Nat) (run : BodyRun) :
    ⦃Left r⦄ readParts fuel run ⦃⇓? _ => Left r⦄ := by
  induction fuel generalizing run with
  | zero => mvcgen [readParts]
  | succ fuel ih => mvcgen [readParts, ih] with grind

/-- A body is its parts and its end. -/
theorem readBody_eq (opening : Option Span) {fuel : Nat} (run : BodyRun)
    (hs : s.rest.length < fuel) :
    readBody opening fuel run s = (readParts fuel run >>= finish opening) s := by
  induction fuel generalizing s run with
  | zero => exact absurd hs (Nat.not_lt_zero _)
  | succ fuel ih =>
      rw [readBody_succ, readParts, bind_assoc, skipLoosely_bind, skipLoosely_bind, bind_assoc,
        peek?_bind, peek?_bind]
      have hlen := s.length_skipped_le hs
      cases hc : s.skipped.rest.head? with
      | none => rfl
      | some c =>
          dsimp only
          split
          · rfl
          · rw [bind_assoc]
            cases hpart : readPart fuel run c s.skipped with
            | error e => rw [bind_of_error hpart, bind_of_error hpart]
            | ok p =>
                obtain ⟨run', s'⟩ := p
                rw [bind_of_ok hpart, bind_of_ok hpart]
                have htakes := suffix_tail_of_run (takes_readPart · _ _ _) hpart
                have hlt := length_lt_of_suffix_tail htakes (Beside.ne_nil_of_head hc)
                exact ih run' (by omega)

/-! ### What has been read of a body -/

/-- Two bodies differ in their places alone. -/
structure BodyRun.Like (r r' : BodyRun) : Prop where
  parts : r.parts.map Node.unplaced = r'.parts.map Node.unplaced
  earlier : r.earlier.map (·.2.map Node.unplaced) = r'.earlier.map (·.2.map Node.unplaced)

namespace BodyRun.Like
variable {r r' : BodyRun}

theorem «at» (p p' : Position) : (BodyRun.at p).Like (.at p') := ⟨rfl, rfl⟩

theorem push (h : r.Like r') {n n' : Node} (hn : n.Like n') : (r.push n).Like (r'.push n') := by
  refine ⟨?_, h.earlier⟩
  show (n :: r.parts).map _ = (n' :: r'.parts).map _
  rw [List.map_cons, List.map_cons, hn, h.parts]

theorem withParts (h : r.Like r') {ns ns' : List Node}
    (hns : ns.map Node.unplaced = ns'.map Node.unplaced) :
    BodyRun.Like { r with parts := ns } { r' with parts := ns' } := ⟨hns, h.earlier⟩

theorem branch (h : r.Like r') (stop stop' : Position) : (r.branch stop).Like (r'.branch stop') :=
  Node.unplaced_ofParts (by rw [List.map_reverse, List.map_reverse, h.parts]) _ _

/-- The earlier branches, if there are any in either body. -/
theorem earlier_cases (h : r.Like r') :
    (r.earlier = none ∧ r'.earlier = none) ∨
      ∃ p p' ns ns', r.earlier = some (p, ns) ∧ r'.earlier = some (p', ns') ∧
        ns.map Node.unplaced = ns'.map Node.unplaced := by
  have hearlier := h.earlier
  revert hearlier
  rcases r.earlier with _ | ⟨p, ns⟩ <;> rcases r'.earlier with _ | ⟨p', ns'⟩ <;> intro hearlier
  · exact .inl ⟨rfl, rfl⟩
  · cases hearlier
  · cases hearlier
  · exact .inr ⟨p, p', ns, ns', rfl, rfl, by simpa using hearlier⟩

theorem bar (h : r.Like r') (stop stop' next next' : Position) :
    (r.bar stop next).Like (r'.bar stop' next') := by
  unfold BodyRun.bar
  rcases h.earlier_cases with ⟨hr, hr'⟩ | ⟨p, p', ns, ns', hr, hr', hns⟩
  · rw [hr, hr']
    exact ⟨rfl, by simp [h.branch stop stop']⟩
  · rw [hr, hr']
    exact ⟨rfl, by simp [h.branch stop stop', hns]⟩

theorem node (h : r.Like r') (stop stop' : Position) : (r.node stop).Like (r'.node stop') := by
  unfold BodyRun.node
  rcases h.earlier_cases with ⟨hr, hr'⟩ | ⟨p, p', ns, ns', hr, hr', hns⟩
  · rw [hr, hr']
    exact h.branch stop stop'
  · rw [hr, hr']
    show Node.alternation _ (Node.allUnplaced _) = Node.alternation _ (Node.allUnplaced _)
    rw [Node.allUnplaced_eq_map, Node.allUnplaced_eq_map, List.map_reverse, List.map_reverse,
      List.map_cons, List.map_cons, h.branch stop stop', hns]

end BodyRun.Like

/-! ### Parts beside each other -/

theorem parallel_readAtom {c : Char} (h : Beside t s u) (hs : s.rest ≠ []) :
    Parallel t Node.Like (BeyondEscape t) (readAtom c s) (readAtom c u) := by
  rw [readAtom, charSpan_bind, charSpan_bind]
  by_cases hslash : (c == '\\') = true
  · rw [if_pos hslash, if_pos hslash]
    exact parallel_readEscape h hs
  · rw [if_neg hslash, if_neg hslash, bump_bind, bump_bind]
    split
    · exact .ok rfl (h.bumped hs)
    · exact .ok rfl (h.bumped hs)
    · exact .ok rfl (h.bumped hs)
    · exact .ok rfl (h.bumped hs)

theorem parallel_finish (span span' : Span) {run run' : BodyRun} (hrun : run.Like run')
    (h : Beside t s u) :
    Parallel t Node.Like (Past t t) (finish (some span) run s) (finish (some span') run' u) := by
  rw [finish, finish, peek?_bind, peek?_bind]
  rcases h.head_cases with ⟨c, hs, hu⟩ | ⟨hs, hu⟩ | ⟨hs, hu, ht⟩
  · rw [hs, hu]
    exact .ok (hrun.node _ _) h
  · rw [hs, hu]
    exact .faults
  · rw [hs, hu]
    exact .of_fails_left ⟨_, rfl⟩ fun n u' hrun' =>
      past_of_forward ht hu (fun r => by mvcgen) hrun'

/-- What the second reading of a part alone comes to: it takes characters
of the tail, or it has a brace in front of it that nothing but the tail
follows. -/
def BeyondPart (t : List Char) (run : BodyRun) (u : Cursor) : Prop :=
  Past t t.tail run u ∨ Stuck t u

/-- Bodies of groups that are read in at most `n` rounds are read
alike. -/
def BodiesAlike (t : List Char) (n : Nat) : Prop :=
  ∀ (m : Nat) (span span' : Span) (run run' : BodyRun) (s u : Cursor), run.Like run' →
    Beside t s u → s.rest.length < n → u.rest.length < m →
      Parallel t Node.Like (Past t t) (readBody (some span) n run s)
        (readBody (some span') m run' u)

/-- The body of a group ends before a character. -/
theorem stop_of_readBody {span : Span} {n : Nat} {run : BodyRun} {body : Node} {s' : Cursor}
    (hs : s.rest.length < n) (hrun : readBody (some span) n run s = .ok (body, s')) :
    s'.rest ≠ [] := by
  rw [readBody_eq _ _ hs] at hrun
  obtain ⟨run', s₁, -, hfinish⟩ := ok_of_bind hrun
  rw [finish, peek?_bind] at hfinish
  rintro hnil
  cases hhead : s₁.rest.head? with
  | none =>
      rw [hhead] at hfinish
      cases hfinish
  | some c =>
      rw [hhead] at hfinish
      cases hfinish
      rw [hnil] at hhead
      cases hhead

section
variable {n m : Nat} {run run' : BodyRun} (hbodies : BodiesAlike t n) (hrun : run.Like run')
  (h : Beside t s u) (hs : s.rest ≠ []) (hn : s.rest.length ≤ n) (hm : u.rest.length ≤ m)
include hbodies hrun h hs hn hm

theorem parallel_readGroup :
    Parallel t BodyRun.Like (BeyondPart t) (readPart n run '(' s) (readPart m run' '(' u) := by
  refine (parallel_readGroupHead h hs).bind (fun head head' s₁ u₁ hs₁ hu₁ hhead hbeside => ?_)
    fun head u₁ hpast run u₂ hrun => .inl ⟨hpast.1, (suffix_of_run (fun r => ?_) hrun).trans hpast.2⟩
  · have hs₁ := length_lt_of_suffix_tail (suffix_tail_of_run takes_readGroupHead hs₁) hs
    have hu₁ := length_lt_of_suffix_tail (suffix_tail_of_run takes_readGroupHead hu₁) (h.ne_nil hs)
    match head, head', hhead with
    | .setting span changes, .setting span' _, rfl =>
        dsimp only
        rw [get_bind, get_bind, set_bind, set_bind, hbeside.loose]
        exact .ok (hrun.push rfl) (hbeside.withLoose _)
    | .group span kept changes, .group span' _ _, ⟨rfl, rfl⟩ =>
        dsimp only
        rw [get_bind, get_bind, modify_bind, modify_bind, pos_bind, pos_bind, hbeside.loose]
        refine (hbodies m span span' _ _ _ _ (.at _ _) (hbeside.withLoose _) (by simp; omega)
          (by simp; omega)).bind (fun body body' s₂ u₂ hs₂ _ hbody hbeside => ?_)
          fun body u₂ hpast run u₃ hrun => .inl (hpast.takes (fun r => ?_) hrun)
        · have hne := stop_of_readBody (by simp; omega) hs₂
          rw [bump_bind, bump_bind, modify_bind, modify_bind, pos_bind, pos_bind]
          refine .ok (hrun.push ?_) ((hbeside.bumped hne).withLoose _)
          show Node.group _ _ _ _ = Node.group _ _ _ _
          rw [hbody]
        · mvcgen with grind
  · mvcgen with grind

theorem parallel_readPart (c : Char) :
    Parallel t BodyRun.Like (BeyondPart t) (readPart n run c s) (readPart m run' c u) := by
  by_cases hopen : c = '('
  · subst hopen
    exact parallel_readGroup hbodies hrun h hs hn hm
  unfold readPart
  split
  · contradiction
  · rw [pos_bind, pos_bind, bump_bind, bump_bind]
    exact .ok (hrun.bar _ _ _ _) (h.bumped hs)
  · exact (parallel_readClass h hs).bind_never fun n n' s₁ u₁ _ _ hn hbeside =>
      .ok (hrun.push hn) hbeside
  · exact (parallel_readUncounted hrun.parts _ _ h hs).bind_never fun ns ns' s₁ u₁ _ _ hns hbeside =>
      .ok (hrun.withParts hns) hbeside
  · exact (parallel_readUncounted hrun.parts _ _ h hs).bind_never fun ns ns' s₁ u₁ _ _ hns hbeside =>
      .ok (hrun.withParts hns) hbeside
  · exact (parallel_readUncounted hrun.parts _ _ h hs).bind_never fun ns ns' s₁ u₁ _ _ hns hbeside =>
      .ok (hrun.withParts hns) hbeside
  · exact (parallel_readCounted hrun.parts h hs).bind_never fun ns ns' s₁ u₁ _ _ hns hbeside =>
      .ok (hrun.withParts hns) hbeside
  · refine (parallel_readAtom h hs).bind
      (fun n n' s₁ u₁ _ _ hn hbeside => .ok (hrun.push hn) hbeside)
      fun n u₁ hbeyond run u₂ hrun => ?_
    cases hrun
    exact hbeyond.imp id And.right

end

/-- No part can be read at a brace that nothing but the tail follows. -/
theorem fails_readParts_of_stuck {n : Nat} {run : BodyRun} (hn : s.rest.length < n)
    (hs : Stuck t s) : Fails (readParts n run) s := by
  obtain ⟨n, rfl⟩ : ∃ k, n = k + 1 := ⟨n - 1, by omega⟩
  rw [Fails, readParts, skipLoosely_bind, peek?_bind,
    s.skipped_of_head hs.2.1 (by decide) (by decide), hs.2.1]
  dsimp only
  rw [if_neg (by decide)]
  exact Fails.bind (Fails.bind (fails_readCounted_of_stuck run.parts hs) _) _

theorem parallel_readParts {n m : Nat} {run run' : BodyRun}
    (hbodies : ∀ k < n, BodiesAlike t k) (hrun : run.Like run') (h : Beside t s u)
    (hn : s.rest.length < n) (hm : u.rest.length < m) :
    Parallel t BodyRun.Like (Past t t.tail) (readParts n run s) (readParts m run' u) := by
  induction n generalizing m s u run run' with
  | zero => exact absurd hn (Nat.not_lt_zero _)
  | succ n ih =>
      obtain ⟨m, rfl⟩ : ∃ k, m = k + 1 := ⟨m - 1, by omega⟩
      rw [readParts, readParts, skipLoosely_bind, skipLoosely_bind, peek?_bind, peek?_bind]
      have hskipped := h.skipped
      have hslen := s.length_skipped_le hn
      have hulen := u.length_skipped_le hm
      rcases hskipped.head_cases with ⟨c, hc, hc'⟩ | ⟨hs, hu⟩ | ⟨hs, hu, -⟩
      · have hne := Beside.ne_nil_of_head hc
        rw [hc, hc']
        dsimp only
        split
        · exact .ok hrun hskipped
        · refine (parallel_readPart (hbodies n (Nat.lt_succ_self n)) hrun hskipped hne hslen hulen
            c).with_run.bind (fun r r' s₁ u₁ hs₁ hu₁ hr hbeside => ?_)
            fun r u₁ ⟨hbeyond, hu₁⟩ r₂ u₂ hparts => ?_
          · have hs₁ := length_lt_of_suffix_tail (suffix_tail_of_run (takes_readPart · _ _ _) hs₁) hne
            have hu₁ := length_lt_of_suffix_tail (suffix_tail_of_run (takes_readPart · _ _ _) hu₁)
              (hskipped.ne_nil hne)
            exact ih (fun k hk => hbodies k (Nat.lt_succ_of_lt hk)) hr hbeside (by omega) (by omega)
          · rcases hbeyond with ⟨ht, hu⟩ | hstuck
            · exact ⟨ht, (suffix_of_run (forward_readParts · _ _) hparts).trans hu⟩
            · have hu₁ := length_lt_of_suffix_tail (suffix_tail_of_run (takes_readPart · _ _ _) hu₁)
                (hskipped.ne_nil hne)
              obtain ⟨e, he⟩ : Fails (readParts m r) u₁ :=
                fails_readParts_of_stuck (Nat.lt_of_lt_of_le hu₁ hulen) hstuck
              rw [he] at hparts
              cases hparts
      · rw [hs, hu]
        exact .ok hrun hskipped
      · rw [hs, hu]
        exact .ok hrun hskipped

theorem bodiesAlike (n : Nat) : BodiesAlike t n := by
  induction n using Nat.strongRecOn with
  | ind n ih =>
      intro m span span' run run' s u hrun h hn hm
      rw [readBody_eq _ _ hn, readBody_eq _ _ hm]
      refine (parallel_readParts ih hrun h hn hm).bind
        (fun r r' s₁ u₁ _ _ hr hbeside => parallel_finish span span' hr hbeside)
        fun r u₁ hpast body u₂ hfinish => ?_
      exact ⟨hpast.1, ((suffix_of_run (forward_finish · _ _) hfinish).trans hpast.2).trans
        (List.tail_suffix t)⟩

end PipeShell.Pattern
