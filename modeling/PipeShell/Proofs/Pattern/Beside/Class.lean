import PipeShell.Proofs.Pattern.Beside.Escape

/-!
# `PipeShell.Proofs.Pattern.Beside.Class`: classes with something put behind them

A bracketed class ends with a bracket, and the tail has none. So a class
that the text leaves open is left open with the tail behind it too, and
there is no way for the second reading to go on alone.

* `parallel_readClassOpening`, `parallel_readPosix?`, `parallel_readItem`,
  `parallel_readSetOp?`: what a class is made of.
* `fails_readClassBody`: a class is not read where no bracket is left.
* `parallel_readClassBody`, `parallel_readClass`: a class.
-/

set_option autoImplicit false
set_option mvcgen.warning false

namespace PipeShell.Pattern

open Std.Do Reader

attribute [local grind →] List.IsSuffix.trans suffix_of_suffix_tail
attribute [local grind .] List.suffix_rfl

/-! ### What has been read of a class -/

/-- Two runs of items differ in their places alone. -/
def ItemRun.Like (r r' : ItemRun) : Prop :=
  r.items.map ClassNode.unplaced = r'.items.map ClassNode.unplaced

/-- What waits for its right side is the same, places apart. -/
def PendingLike (p p' : Option (SetOp × ClassNode)) : Prop :=
  p.map (Prod.map id ClassNode.unplaced) = p'.map (Prod.map id ClassNode.unplaced)

namespace ItemRun.Like
variable {r r' : ItemRun}

theorem nil (span span' : Span) : ItemRun.Like ⟨span, []⟩ ⟨span', []⟩ := rfl

theorem push (h : r.Like r') {n n' : ClassNode} (hn : n.Like n') :
    (r.push n).Like (r'.push n') := by
  show (n :: r.items).map _ = (n' :: r'.items).map _
  rw [List.map_cons, List.map_cons, hn, h]

theorem node (h : r.Like r') : r.node.Like r'.node :=
  ClassNode.unplaced_ofItems (by rw [List.map_reverse, List.map_reverse, h]) _ _

theorem isEmpty_eq (h : r.Like r') : r.items.isEmpty = r'.items.isEmpty := by
  rw [← List.isEmpty_map (f := ClassNode.unplaced), h, List.isEmpty_map]

theorem close (h : r.Like r') {p p' : Option (SetOp × ClassNode)} (hp : PendingLike p p') :
    (r.close p).Like (r'.close p') := by
  match p, p' with
  | none, none => exact h.node
  | some _, none => cases hp
  | none, some _ => cases hp
  | some (op, lhs), some (op', lhs') =>
      obtain ⟨rfl, hlhs⟩ : op = op' ∧ lhs.Like lhs' := by
        simpa only [PendingLike, Option.map_some, Option.some.injEq, Prod.map_apply, id,
          Prod.mk.injEq] using hp
      show ClassNode.binary _ _ _ _ = ClassNode.binary _ _ _ _
      rw [hlhs, h.node]

end ItemRun.Like

variable {t : List Char} {s u : Cursor}

/-! ### The opening of a class -/

theorem readHyphens_of_ne (start : Position) (n : Nat) (run : ItemRun)
    (hs : ¬(s.rest.head? == some '-') = true) : readHyphens start n run s = .ok (run, s) := by
  cases n with
  | zero => rfl
  | succ n =>
      rw [readHyphens, peek?_bind, if_neg hs]
      rfl

theorem readHyphens_of_hyphen (start : Position) (n : Nat) (run : ItemRun)
    (hs : (s.rest.head? == some '-') = true) :
    readHyphens start (n + 1) run s
      = (bumpLoosely >>= fun more =>
          if !more then fail .classUnclosed (.at start)
          else readHyphens start n (run.push (.literal ⟨s.here, '-', false⟩))) s := by
  rw [readHyphens, peek?_bind, if_pos hs, charSpan_bind]

theorem parallel_readHyphens (start start' : Position) {n m : Nat} {run run' : ItemRun}
    (h : Beside t s u) (hn : s.rest.length ≤ n) (hm : u.rest.length ≤ m) (hrun : run.Like run') :
    Parallel t ItemRun.Like (Past t t) (readHyphens start n run s)
      (readHyphens start' m run' u) := by
  induction n generalizing m s u run run' with
  | zero =>
      have hs : s.rest = [] := List.length_eq_zero_iff.mp (Nat.le_zero.mp hn)
      have hhead := h.head_beq (c := '-') (by decide)
      rw [readHyphens_of_ne start' m run' (by simp [hhead, hs])]
      exact .ok hrun h
  | succ n ih =>
      have hhead := h.head_beq (c := '-') (by decide)
      by_cases hhyphen : (s.rest.head? == some '-') = true
      · have hs := Beside.ne_nil_of_head (eq_of_beq hhyphen)
        obtain ⟨n', hn', hnpast⟩ := s.exists_round hn hs
        obtain ⟨m, rfl, hmpast⟩ := u.exists_round hm (h.ne_nil hs)
        obtain rfl : n = n' := by omega
        rw [readHyphens_of_hyphen start n run hhyphen,
          readHyphens_of_hyphen start' m run' (hhead.trans hhyphen)]
        refine .guard h hs ⟨_, rfl⟩ ⟨_, rfl⟩ ?_ fun _ ht hu run'' u' hrun' => ?_
        · exact ih (h.past hs) hnpast hmpast (hrun.push rfl)
        · have hsuffix := suffix_of_run (forward_readHyphens · _ _ _) hrun'
          exact ⟨by simp [ht, closing], by rwa [hu, ← ht] at hsuffix⟩
      · rw [readHyphens_of_ne start (n + 1) run hhyphen,
          readHyphens_of_ne start' m run' (hhead ▸ hhyphen)]
        exact .ok hrun h

/-- Two openings of a class differ in their places alone. -/
def ClassOpening.Like (o o' : ClassOpening) : Prop :=
  o.negated = o'.negated ∧ o.run.Like o'.run

/-- The opening of a class behind its bracket and its sign: the items that
stand for themselves there. -/
def readLeading (start : Position) (negated : Bool) : Reader ClassOpening := do
  let run ← readHyphens start (← remaining) ⟨← spot, []⟩
  if run.items.isEmpty && (← peek?) == some ']' then
    let run := run.push (.literal ⟨← charSpan, ']', false⟩)
    if !(← bumpLoosely) then fail .classUnclosed ⟨start, ← pos⟩
    else return ⟨start, ⟨start, ← pos⟩, negated, run⟩
  else return ⟨start, ⟨start, ← pos⟩, negated, run⟩

theorem parallel_readLeading (start start' : Position) (negated : Bool) (h : Beside t s u) :
    Parallel t ClassOpening.Like (Past t t) (readLeading start negated s)
      (readLeading start' negated u) := by
  rw [readLeading, readLeading, remaining_bind, remaining_bind, spot_bind, spot_bind]
  refine (parallel_readHyphens start start' h (Nat.le_refl _) (Nat.le_refl _) (.nil _ _)).bind_past
    (fun run run' s' u' _ _ hrun hbeside => ?_) fun run r => ?_
  · rw [peek?_bind, peek?_bind, hbeside.head_beq (by decide), ← hrun.isEmpty_eq]
    by_cases hbracket : (run.items.isEmpty && s'.rest.head? == some ']') = true
    · have hs' : s'.rest ≠ [] :=
        Beside.ne_nil_of_head (eq_of_beq (Bool.and_eq_true_iff.mp hbracket).2)
      rw [if_pos hbracket, if_pos hbracket, charSpan_bind, charSpan_bind]
      refine .guard hbeside hs' ⟨_, rfl⟩ ⟨_, rfl⟩ ?_ fun _ ht hu o u'' hrun' => ?_
      · exact .ok ⟨rfl, hrun.push rfl⟩ (hbeside.past hs')
      · exact past_of_forward ht hu (fun r => by mvcgen) hrun'
    · rw [if_neg hbracket, if_neg hbracket]
      exact .ok ⟨rfl, hrun⟩ hbeside
  · mvcgen with grind

theorem parallel_readClassOpening (h : Beside t s u) (hs : s.rest ≠ []) :
    Parallel t ClassOpening.Like (Past t t) (readClassOpening s) (readClassOpening u) := by
  rw [readClassOpening, pos_bind, pos_bind]
  have hpast := h.past hs
  refine .guard h hs ⟨_, rfl⟩ ⟨_, rfl⟩ ?_ fun _ ht hu o u' hrun => ?_
  · rw [peek?_bind, peek?_bind, hpast.head_beq (by decide)]
    by_cases hcaret : (s.past.rest.head? == some '^') = true
    · have hs' : s.past.rest ≠ [] := Beside.ne_nil_of_head (eq_of_beq hcaret)
      rw [hcaret]
      refine .guard hpast hs' ⟨_, rfl⟩ ⟨_, rfl⟩ ?_ fun _ ht hu o u' hrun => ?_
      · exact parallel_readLeading _ _ _ (hpast.past hs')
      · exact past_of_forward ht hu (fun r => by mvcgen with grind) hrun
    · rw [Bool.not_eq_true] at hcaret
      rw [hcaret]
      exact parallel_readLeading _ _ _ hpast
  · exact past_of_forward ht hu (fun r => by mvcgen with grind) hrun

/-! ### Classes by name -/

/-- A class by name as it is written. -/
def posixText (negated : Bool) (name : List Char) : List Char :=
  ['[', ':'] ++ (if negated then ['^'] else []) ++ name ++ [':', ']']

theorem PosixClass.isLower_of_ofName? {name : List Char} {kind : PosixClass}
    (h : PosixClass.ofName? (String.ofList name) = some kind) {c : Char} (hc : c ∈ name) :
    c.isLower = true := by
  have hname : (String.ofList name).toList = name := String.toList_ofList
  rw [← hname] at hc
  revert h hc
  generalize String.ofList name = text
  intro h hc
  unfold PosixClass.ofName? at h
  have hall : text.toList.all Char.isLower = true := by
    split at h
    all_goals first | rfl | cases h
  exact List.all_eq_true.mp hall c hc

theorem notMem_posixText {negated : Bool} {name : List Char} {kind : PosixClass}
    (hkind : PosixClass.ofName? (String.ofList name) = some kind) :
    ')' ∉ posixText negated name := by
  have hname : ')' ∉ name := fun hparen => by
    have := PosixClass.isLower_of_ofName? hkind hparen
    contradiction
  cases negated <;> simp [posixText, hname]

/-- Where the name of a class stands, it is what is read. -/
theorem readPosix?_of_posixText {negated : Bool} {name : List Char} {kind : PosixClass}
    (hkind : PosixClass.ofName? (String.ofList name) = some kind)
    (hstarts : posixText negated name <+: s.rest) :
    readPosix? s = .ok (some (.posix ⟨s.pos, (s.passed (posixText negated name)).pos⟩ negated kind),
      s.passed (posixText negated name)) := by
  have hlower : ∀ c ∈ name, c.isLower = true := fun c => PosixClass.isLower_of_ofName? hkind
  have hinner : ∃ rest, s.rest.drop 2 = (if negated then ['^'] else []) ++ name ++ ':' :: rest := by
    obtain ⟨rest, hrest⟩ := hstarts
    exact ⟨']' :: rest, by simp [← hrest, posixText]⟩
  obtain ⟨rest, hinner⟩ := hinner
  have hnegated : ((s.rest.drop 2).head? == some '^') = negated := by
    rw [hinner]
    cases negated with
    | true => rfl
    | false =>
        cases name with
        | nil => rfl
        | cons c cs =>
            have hc : c ≠ '^' := by
              rintro rfl
              cases hlower _ List.mem_cons_self
            simpa using hc
  have hname : ((if negated then (s.rest.drop 2).drop 1 else s.rest.drop 2).takeWhile (· != ':'))
      = name := by
    have hdrop : (if negated then (s.rest.drop 2).drop 1 else s.rest.drop 2)
        = name ++ ':' :: rest := by
      rw [hinner]
      cases negated <;> simp
    rw [hdrop, List.takeWhile_append_of_pos, List.takeWhile_cons_of_neg (by simp), List.append_nil]
    intro c hc
    have : c ≠ ':' := by
      rintro rfl
      cases hlower _ hc
    simpa using this
  rw [readPosix?, pos_bind, get_bind]
  simp only [hnegated, hname, hkind]
  show (bumpIf (posixText negated name) >>= _) s = _
  rw [bumpIf_bind, if_pos (List.isPrefixOf_iff_prefix.mpr hstarts)]
  rfl

/-- Where no name of a class stands, nothing is read. -/
theorem readPosix?_of_no_posixText
    (h : ∀ negated name kind, PosixClass.ofName? (String.ofList name) = some kind →
      ¬posixText negated name <+: s.rest) :
    readPosix? s = .ok (none, s) := by
  rw [readPosix?, pos_bind, get_bind]
  generalize ((s.rest.drop 2).head? == some '^') = negated
  generalize ((if negated then (s.rest.drop 2).drop 1 else s.rest.drop 2).takeWhile (· != ':'))
    = name
  cases hkind : PosixClass.ofName? (String.ofList name) with
  | none => rfl
  | some kind =>
    have hno := h negated name kind hkind
    show (bumpIf (posixText _ _) >>= _) s = _
    rw [bumpIf_bind, if_neg (by rwa [List.isPrefixOf_iff_prefix])]
    rfl

theorem parallel_readPosix? (h : Beside t s u) :
    Parallel t (fun item item' => item.map ClassNode.unplaced = item'.map ClassNode.unplaced)
      Never (readPosix? s) (readPosix? u) := by
  have hstarts : ∀ {negated name kind}, PosixClass.ofName? (String.ofList name) = some kind →
      (posixText negated name <+: u.rest ↔ posixText negated name <+: s.rest) := by
    intro negated name kind hkind
    rw [← List.isPrefixOf_iff_prefix, ← List.isPrefixOf_iff_prefix,
      h.isPrefixOf_eq (notMem_posixText hkind)]
  by_cases hnamed : ∃ negated name kind, PosixClass.ofName? (String.ofList name) = some kind ∧
      posixText negated name <+: s.rest
  · obtain ⟨negated, name, kind, hkind, hs⟩ := hnamed
    rw [readPosix?_of_posixText hkind hs, readPosix?_of_posixText hkind ((hstarts hkind).mpr hs)]
    exact .ok rfl (h.passed hs)
  · have hs : ∀ negated name kind, PosixClass.ofName? (String.ofList name) = some kind →
        ¬posixText negated name <+: s.rest := fun negated name kind hkind hs =>
      hnamed ⟨negated, name, kind, hkind, hs⟩
    rw [readPosix?_of_no_posixText hs, readPosix?_of_no_posixText fun negated name kind hkind hu =>
      hs negated name kind hkind ((hstarts hkind).mp hu)]
    exact .ok rfl h

/-! ### Characters and ranges -/

theorem parallel_readClassAtom (opening opening' : Span) (h : Beside t s u) :
    Parallel t Node.Like (BeyondEscape t) (readClassAtom opening s) (readClassAtom opening' u) := by
  rw [readClassAtom, readClassAtom, peek?_bind, peek?_bind]
  rcases h.head_cases with ⟨c, hc, hc'⟩ | ⟨hs, hu⟩ | ⟨hs, hu, ht⟩
  · have hne := Beside.ne_nil_of_head hc
    by_cases hslash : c = '\\'
    · subst hslash
      simp only [hc, hc']
      exact parallel_readEscape h hne
    · simp only [hc, hc']
      rw [charSpan_bind, charSpan_bind, bump_bind, bump_bind]
      exact .ok rfl (h.bumped hne)
  · rw [hs, hu]
    exact .faults
  · rw [hs, hu]
    refine .of_fails_left ⟨_, rfl⟩ fun n u' hrun => .inl ?_
    change (charSpan >>= fun _ => bump >>= _) u = _ at hrun
    rw [charSpan_bind, bump_bind] at hrun
    cases hrun
    rw [Past, Cursor.bumped_rest, hu, ht]
    exact ⟨by simp [closing], List.suffix_rfl⟩

/-- What of an atom may stand in a class. -/
def Node.item? : Node → Option ClassNode
  | .literal l => some (.literal l)
  | .short s negated kind => some (.short s negated kind)
  | .property s negated query => some (.property s negated query)
  | _ => none

/-- What of an atom may be an end of a range. -/
def Node.literal? : Node → Option Literal
  | .literal l => some l
  | _ => none

theorem itemOfAtom_eq (n : Node) :
    itemOfAtom n = match n.item? with
      | some item => pure item
      | none => fail .classEscapeInvalid n.span := by
  cases n <;> rfl

theorem literalOfAtom_eq (n : Node) :
    literalOfAtom n = match n.literal? with
      | some l => pure l
      | none => fail .classRangeLiteral n.span := by
  cases n <;> rfl

theorem Node.item?_unplaced (n : Node) : n.unplaced.item? = n.item?.map ClassNode.unplaced := by
  cases n <;> rfl

theorem Node.literal?_unplaced (n : Node) :
    n.unplaced.literal? = n.literal?.map Literal.unplaced := by
  cases n <;> rfl

theorem parallel_itemOfAtom {n n' : Node} (hn : n.Like n') (h : Beside t s u) :
    Parallel t ClassNode.Like Never (itemOfAtom n s) (itemOfAtom n' u) := by
  have hitem := n.item?_unplaced
  rw [hn, n'.item?_unplaced] at hitem
  rw [itemOfAtom_eq, itemOfAtom_eq]
  cases hitem₁ : n.item? <;> cases hitem₂ : n'.item? <;> simp only [hitem₁, hitem₂, Option.map_none,
    Option.map_some, reduceCtorEq, Option.some.injEq] at hitem
  · exact .faults
  · exact .ok hitem.symm h

theorem parallel_literalOfAtom {n n' : Node} (hn : n.Like n') (h : Beside t s u) :
    Parallel t Literal.Like Never (literalOfAtom n s) (literalOfAtom n' u) := by
  have hliteral := n.literal?_unplaced
  rw [hn, n'.literal?_unplaced] at hliteral
  rw [literalOfAtom_eq, literalOfAtom_eq]
  cases hliteral₁ : n.literal? <;> cases hliteral₂ : n'.literal? <;> simp only [hliteral₁, hliteral₂,
    Option.map_none, Option.map_some, reduceCtorEq, Option.some.injEq] at hliteral
  · exact .faults
  · exact .ok hliteral.symm h

/-- The end of a range, and the range. -/
def readRange (opening : Span) (first : Node) : Reader ClassNode := do
  let second ← readClassAtom opening
  let lo ← literalOfAtom first
  let hi ← literalOfAtom second
  let span : Span := ⟨first.span.start, second.span.stop⟩
  if hi.char < lo.char then fail .classRangeInvalid span
  else return .range span lo hi

theorem parallel_readRange (opening opening' : Span) {first first' : Node}
    (hfirst : first.Like first') (h : Beside t s u) :
    Parallel t ClassNode.Like (Past t t) (readRange opening first s)
      (readRange opening' first' u) := by
  rw [readRange, readRange]
  refine (parallel_readClassAtom opening opening' h).bind
    (fun second second' s' u' _ _ hsecond hbeside => ?_) fun second u' hbeyond item u'' hrun => ?_
  · refine (parallel_literalOfAtom hfirst hbeside).bind_never fun lo lo' s' u' _ _ hlo hbeside => ?_
    refine (parallel_literalOfAtom hsecond hbeside).bind_never fun hi hi' s' u' _ _ hhi hbeside => ?_
    rw [Literal.char_congr hlo, Literal.char_congr hhi]
    split
    · exact .faults
    · refine .ok ?_ hbeside
      show ClassNode.range _ lo.unplaced hi.unplaced = ClassNode.range _ lo'.unplaced hi'.unplaced
      rw [hlo, hhi]
  · refine (hbeyond.past (fun r => ?_) (fun span hsecond _ => ?_) hrun).of_tail
    · mvcgen with grind
    · subst hsecond
      rw [literalOfAtom_eq first']
      cases first'.literal? with
      | none => exact ⟨_, rfl⟩
      | some lo => exact ⟨_, rfl⟩

theorem parallel_readItem (opening opening' : Span) (h : Beside t s u) :
    Parallel t ClassNode.Like (Past t t) (readItem opening s) (readItem opening' u) := by
  refine (parallel_readClassAtom opening opening' h).bind
    (fun first first' s' u' _ _ hfirst hbeside => ?_) fun first u' hbeyond item u'' hrun => ?_
  · rw [skipLoosely_bind, skipLoosely_bind, peek?_bind, peek?_bind]
    have hskipped := hbeside.skipped
    rcases hskipped.head_cases with ⟨c, hc, hc'⟩ | ⟨hs, hu⟩ | ⟨hs, hu, ht⟩
    · have hne := Beside.ne_nil_of_head hc
      simp only [hc, hc']
      rw [peekLoosely?_bind, peekLoosely?_bind, hskipped.after?_beq hne (by decide),
        hskipped.after?_beq hne (by decide)]
      split
      · exact (parallel_itemOfAtom hfirst hskipped).mono fun _ _ => False.elim
      · refine .guard hskipped hne ⟨_, rfl⟩ ⟨_, rfl⟩ ?_ fun _ ht hu item u'' hrun => ?_
        · exact parallel_readRange opening opening' hfirst (hskipped.past hne)
        · exact past_of_forward ht hu (fun r => by mvcgen with grind) hrun
    · rw [hs, hu]
      exact .faults
    · rw [hs, hu]
      refine .of_fails_left ⟨_, rfl⟩ fun item u'' hrun => past_of_forward ht hu (fun r => ?_) hrun
      mvcgen with grind
  · refine (hbeyond.past (fun r => ?_) (fun span hfirst hstuck => ?_) hrun).of_tail
    · mvcgen with grind
    · subst hfirst
      rw [Fails, skipLoosely_bind, peek?_bind,
        Cursor.skipped_of_head _ hstuck.2.1 (by decide) (by decide), hstuck.2.1]
      exact ⟨_, peekLoosely?_bind u' _⟩

/-! ### Operations -/

theorem parallel_readSetOp? (h : Beside t s u) :
    Parallel t Eq Never (readSetOp? s) (readSetOp? u) := by
  refine (parallel_bumpIf (by decide) h).bind_never ?_
  rintro found _ s' u' - - rfl hbeside
  split
  · exact .ok rfl hbeside
  refine (parallel_bumpIf (by decide) hbeside).bind_never ?_
  rintro found _ s' u' - - rfl hbeside
  split
  · exact .ok rfl hbeside
  refine (parallel_bumpIf (by decide) hbeside).bind_never ?_
  rintro found _ s' u' - - rfl hbeside
  split
  · exact .ok rfl hbeside
  · exact .ok rfl hbeside

/-! ### The body of a class -/

theorem mem_of_suffix_of_head {cs r : List Char} {c : Char} (hcs : cs <:+ r)
    (hc : cs.head? = some c) : c ∈ r :=
  hcs.mem (List.mem_of_head? hc)

attribute [local grind →] mem_of_suffix_of_head

/-- A class is not read to its end where no bracket is left. -/
theorem never_readClassBody (r : List Char) (hr : ']' ∉ r) (fuel : Nat) (o : ClassOpening)
    (run : ItemRun) (pending : Option (SetOp × ClassNode)) :
    ⦃Left r⦄ readClassBody fuel o run pending ⦃⇓? _ => ⌜False⌝⦄ := by
  induction fuel generalizing o run pending with
  | zero =>
      rw [readClassBody]
      mvcgen
  | succ fuel ih =>
      rw [readClassBody]
      mvcgen [-forward_readClassBody, ih] with grind

theorem fails_readClassBody {n : Nat} {o : ClassOpening} {run : ItemRun}
    {pending : Option (SetOp × ClassNode)} (hs : ']' ∉ s.rest) :
    Fails (readClassBody n o run pending) s := by
  have hnever := never_readClassBody s.rest hs n o run pending s List.suffix_rfl
  cases hrun : readClassBody n o run pending s with
  | error e => exact ⟨e, hrun⟩
  | ok p =>
      simp only [wp, PredTrans.apply_pushArg, StateT.run, hrun] at hnever
      exact hnever.elim

/-- Where no class by name is read, the cursor stays. -/
theorem readPosix?_cases {item : Option ClassNode} {s' : Cursor}
    (hrun : readPosix? s = .ok (item, s')) :
    (item = none ∧ s' = s) ∨ (∃ i, item = some i) ∧ s'.rest <:+ s.rest.tail := by
  by_cases hnamed : ∃ negated name kind, PosixClass.ofName? (String.ofList name) = some kind ∧
      posixText negated name <+: s.rest
  · obtain ⟨negated, name, kind, hkind, hs⟩ := hnamed
    rw [readPosix?_of_posixText hkind hs] at hrun
    cases hrun
    exact .inr ⟨⟨_, rfl⟩, s.passed_suffix (by simp [posixText])⟩
  · rw [readPosix?_of_no_posixText fun negated name kind hkind hs =>
      hnamed ⟨negated, name, kind, hkind, hs⟩] at hrun
    cases hrun
    exact .inl ⟨rfl, rfl⟩

/-- Where no operation is read, the cursor stays. -/
theorem readSetOp?_cases {op : Option SetOp} {s' : Cursor} (hrun : readSetOp? s = .ok (op, s')) :
    (op = none ∧ s' = s) ∨ (∃ o, op = some o) ∧ s'.rest <:+ s.rest.tail := by
  rw [readSetOp?, bumpIf_bind] at hrun
  split at hrun
  · cases hrun
    exact .inr ⟨⟨_, rfl⟩, s.passed_suffix (by simp)⟩
  · rw [if_neg (by simp), bumpIf_bind] at hrun
    split at hrun
    · cases hrun
      exact .inr ⟨⟨_, rfl⟩, s.passed_suffix (by simp)⟩
    · rw [if_neg (by simp), bumpIf_bind] at hrun
      split at hrun
      · cases hrun
        exact .inr ⟨⟨_, rfl⟩, s.passed_suffix (by simp)⟩
      · cases hrun
        exact .inl ⟨rfl, rfl⟩

theorem length_lt_of_suffix_tail {cs ds : List Char} (hds : ds <:+ cs.tail) (hcs : cs ≠ []) :
    ds.length < cs.length := by
  have hle := hds.length_le
  have hpos := List.length_pos_iff.mpr hcs
  rw [List.length_tail] at hle
  omega

theorem parallel_readClassBody {n m : Nat} {o o' : ClassOpening} {run run' : ItemRun}
    {pending pending' : Option (SetOp × ClassNode)} (ho : o.negated = o'.negated)
    (hrun : run.Like run') (hpending : PendingLike pending pending') (h : Beside t s u)
    (hn : s.rest.length < n) (hm : u.rest.length < m) :
    Parallel t ClassNode.Like Never (readClassBody n o run pending s)
      (readClassBody m o' run' pending' u) := by
  induction n generalizing m s u o o' run run' pending pending' with
  | zero => exact absurd hn (Nat.not_lt_zero _)
  | succ n ih =>
      obtain ⟨m, rfl⟩ : ∃ k, m = k + 1 := ⟨m - 1, by omega⟩
      rw [readClassBody, readClassBody, skipLoosely_bind, skipLoosely_bind, peek?_bind, peek?_bind]
      have hskipped := h.skipped
      have hslen := s.length_skipped_le hn
      have hulen := u.length_skipped_le hm
      rcases hskipped.head_cases with ⟨c, hc, hc'⟩ | ⟨hs, hu⟩ | ⟨hs, hu, ht⟩
      · have hne := Beside.ne_nil_of_head hc
        have hne' := hskipped.ne_nil hne
        by_cases hopen : c = '['
        · subst hopen
          simp only [hc, hc']
          refine (parallel_readPosix? hskipped).bind_never
            fun item item' s₁ u₁ hs₁ hu₁ hitem hbeside => ?_
          rcases readPosix?_cases hs₁ with ⟨rfl, rfl⟩ | ⟨⟨item, rfl⟩, htakes⟩ <;>
            rcases readPosix?_cases hu₁ with ⟨rfl, rfl⟩ | ⟨⟨item', rfl⟩, htakes'⟩
          · -- A class in brackets of its own.
            refine (parallel_readClassOpening hskipped hne).bind
              (fun o₂ o₂' s₂ u₂ hs₂ hu₂ ho₂ hbeside => ?_) fun o₂ u₂ hpast body u₃ hbody => ?_
            · have hs₂ := length_lt_of_suffix_tail (suffix_tail_of_run takes_readClassOpening hs₂) hne
              have hu₂ := length_lt_of_suffix_tail (suffix_tail_of_run takes_readClassOpening hu₂) hne'
              refine (ih ho₂.1 ho₂.2 rfl hbeside (by omega) (by omega)).bind_never
                fun nested nested' s₃ u₃ hs₃ hu₃ hnested hbeside => ?_
              have hs₃ := (suffix_of_run (forward_readClassBody · _ _ _ _) hs₃).length_le
              have hu₃ := (suffix_of_run (forward_readClassBody · _ _ _ _) hu₃).length_le
              exact ih ho (hrun.push hnested) hpending hbeside (by omega) (by omega)
            · obtain ⟨e, he⟩ := (fails_readClassBody (h.notMem_of_past hpast (by decide))).bind _
              rw [he] at hbody
              cases hbody
          · cases hitem
          · cases hitem
          · have hs₁ := length_lt_of_suffix_tail htakes hne
            have hu₁ := length_lt_of_suffix_tail htakes' hne'
            exact ih ho (hrun.push (Option.some.inj hitem)) hpending hbeside (by omega) (by omega)
        by_cases hclose : c = ']'
        · subst hclose
          simp only [hc, hc']
          rw [bump_bind, bump_bind, pos_bind, pos_bind]
          refine .ok ?_ (hskipped.bumped hne)
          show ClassNode.bracketed _ _ _ = ClassNode.bracketed _ _ _
          rw [ho, hrun.close hpending]
        simp only [hc, hc']
        refine (parallel_readSetOp? hskipped).bind_never fun op op' s₁ u₁ hs₁ hu₁ hop hbeside => ?_
        subst hop
        rcases readSetOp?_cases hs₁ with ⟨rfl, rfl⟩ | ⟨⟨op, rfl⟩, htakes⟩ <;>
          rcases readSetOp?_cases hu₁ with ⟨hnone, hstays⟩ | ⟨⟨_, hsome⟩, htakes'⟩
        · subst hstays
          refine (parallel_readItem o.span o'.span hskipped).bind
            (fun item item' s₂ u₂ hs₂ hu₂ hitem hbeside => ?_) fun item u₂ hpast body u₃ hbody => ?_
          · have hs₂ := length_lt_of_suffix_tail (suffix_tail_of_run (takes_readItem · _) hs₂) hne
            have hu₂ := length_lt_of_suffix_tail (suffix_tail_of_run (takes_readItem · _) hu₂) hne'
            exact ih ho (hrun.push hitem) hpending hbeside (by omega) (by omega)
          · obtain ⟨e, he⟩ := fails_readClassBody (h.notMem_of_past hpast (by decide))
            rw [he] at hbody
            cases hbody
        · cases hsome
        · cases hnone
        · have hs₁ := length_lt_of_suffix_tail htakes hne
          have hu₁ := length_lt_of_suffix_tail htakes' hne'
          refine ih ho (.nil _ _) ?_ hbeside (by omega) (by omega)
          simp only [PendingLike, Option.map_some, Prod.map_apply, hrun.close hpending]
      · rw [hs, hu]
        exact .faults
      · rw [hs]
        refine .of_fails ⟨_, rfl⟩ ?_
        have hfails : Fails (readClassBody (m + 1) o' run' pending') u.skipped :=
          fails_readClassBody (by simp [hu, closing])
        rw [Fails, readClassBody, skipLoosely_bind, peek?_bind, Cursor.skipped_of_head u.skipped
          (c := ')') (by simp [hu, closing]) (by decide) (by decide)] at hfails
        exact hfails

/-- A class as a part of a pattern. -/
def ClassNode.asPart : ClassNode → Node
  | .bracketed span negated body => .bracketed span negated body
  | n => .bracketed n.span false n

theorem ClassNode.asPart_unplaced (n : ClassNode) : n.unplaced.asPart = n.asPart.unplaced := by
  cases n <;> rfl

theorem readClass_eq :
    readClass = readClassOpening >>= fun o => remaining >>= fun k =>
      readClassBody (k + 1) o o.run none >>= fun n => pure n.asPart :=
  bind_congr fun _ => bind_congr fun _ => bind_congr fun n => by cases n <;> rfl

theorem parallel_readClass (h : Beside t s u) (hs : s.rest ≠ []) :
    Parallel t Node.Like Never (readClass s) (readClass u) := by
  rw [readClass_eq]
  refine (parallel_readClassOpening h hs).bind
    (fun o o' s₁ u₁ _ _ ho hbeside => ?_) fun o u₁ hpast n u₂ hbody => ?_
  · rw [remaining_bind, remaining_bind]
    refine (parallel_readClassBody ho.1 ho.2 rfl hbeside (Nat.lt_succ_self _)
      (Nat.lt_succ_self _)).bind_never fun n n' s₂ u₂ _ _ hn hbeside => .ok ?_ hbeside
    rw [Node.Like, ← ClassNode.asPart_unplaced, hn, ClassNode.asPart_unplaced]
  · obtain ⟨e, he⟩ := (fails_readClassBody (h.notMem_of_past hpast (by decide))).bind _
    rw [remaining_bind, he] at hbody
    cases hbody

end PipeShell.Pattern
