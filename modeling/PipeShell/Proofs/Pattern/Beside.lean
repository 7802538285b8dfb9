import PipeShell.Proofs.Pattern.Forward
import PipeShell.Proofs.Pattern.Unplaced

/-!
# `PipeShell.Proofs.Pattern.Beside`: a pattern with something put behind it

To read a pattern with `)\b` behind it is not to read the pattern and
then the rest. A comment at the end of the pattern takes in what is put
behind it, and an escape, a class or a group that the pattern leaves
open goes on into it. Here two readings are compared, of a text and of
the same text with a tail: `Beside` says when two cursors stand at the
same character, and `Parallel` what two runs of a step from there come
to. Either both give the same, up to spans, and stand beside each other
again. Or the reading of the text alone stops with a fault, and if the
other one goes on it has run into the tail.

The tail is `)\b` or nothing. Without a tail the two readings differ
only in where they stand, and `Parallel` says that they agree.

* `Beside.head_cases`: what the two cursors have in front of them.
* `Parallel.bind`, `Parallel.guard`: steps one after the other, and a
  step that must not be the last.
* `parallel_takeLoosely`: characters of a kind.
-/

set_option autoImplicit false
set_option mvcgen.warning false

namespace PipeShell.Pattern

open Std.Do Reader

attribute [local grind →] List.IsSuffix.trans suffix_of_suffix_tail
attribute [local grind .] List.suffix_rfl

/-! ### Cursors beside each other -/

/-- What is put behind a pattern to end the group around it. -/
def closing : List Char := [')', '\\', 'b']

/-- The second cursor stands at the same character as the first one, in
a text that may have the tail `t` behind it. -/
structure Beside (t : List Char) (s u : Cursor) : Prop where
  tail : t = [] ∨ t = closing
  rest : u.rest = s.rest ++ t ∨ u.rest = s.rest
  loose : u.loose = s.loose
  names : u.names.map Prod.fst = s.names.map Prod.fst

namespace Beside
variable {t : List Char} {s u : Cursor}

/-- Either both cursors have the same character in front of them, or
both are at the end, or only the first one is and the other one is at
the tail. -/
theorem head_cases (h : Beside t s u) :
    (∃ c, s.rest.head? = some c ∧ u.rest.head? = some c) ∨
      (s.rest = [] ∧ u.rest = []) ∨ (s.rest = [] ∧ u.rest = closing ∧ t = closing) := by
  rcases hs : s.rest with _ | ⟨c, cs⟩
  · rcases h.rest with hu | hu
    · rcases h.tail with rfl | rfl
      · exact .inr (.inl ⟨rfl, by simpa [hs] using hu⟩)
      · exact .inr (.inr ⟨rfl, by simpa [hs] using hu, rfl⟩)
    · exact .inr (.inl ⟨rfl, by rw [hu, hs]⟩)
  · rcases h.rest with hu | hu <;> exact .inl ⟨c, rfl, by simp [hu, hs]⟩

/-- Any character but a closing parenthesis stands in front of the one
cursor just when it stands in front of the other. -/
theorem head_beq (h : Beside t s u) {c : Char} (hc : c ≠ ')') :
    (u.rest.head? == some c) = (s.rest.head? == some c) := by
  rcases h.head_cases with ⟨d, hs, hu⟩ | ⟨hs, hu⟩ | ⟨hs, hu, -⟩
  · rw [hs, hu]
  · rw [hs, hu]
  · rw [hs, hu]
    simpa [closing] using Ne.symm hc

theorem ne_nil (h : Beside t s u) (hs : s.rest ≠ []) : u.rest ≠ [] := by
  rcases h.rest with hu | hu
  · rw [hu]
    exact List.append_ne_nil_of_left_ne_nil hs t
  · rwa [hu]

theorem ne_nil_of_head {s : Cursor} {c : Char} (hs : s.rest.head? = some c) : s.rest ≠ [] := by
  rintro hnil
  simp [hnil] at hs

theorem bumped (h : Beside t s u) (hs : s.rest ≠ []) : Beside t s.bumped u.bumped := by
  refine ⟨h.tail, ?_, by simpa using h.loose, by simpa using h.names⟩
  simp only [Cursor.bumped_rest]
  rcases h.rest with hu | hu
  · exact .inl (by rw [hu, List.tail_append_of_ne_nil hs])
  · exact .inr (by rw [hu])

theorem withLoose (h : Beside t s u) (b : Bool) :
    Beside t { s with loose := b } { u with loose := b } :=
  ⟨h.tail, h.rest, rfl, h.names⟩

/-- Blanks and comments in front of the tail. A comment that the text
leaves open takes the tail in. -/
theorem passBlanks_append {t : List Char} (ht : t = [] ∨ t = closing) (comment : Bool)
    (p p' : Position) (cs : List Char) :
    (passBlanks comment p' (cs ++ t)).2 = (passBlanks comment p cs).2 ++ t ∨
      (passBlanks comment p' (cs ++ t)).2 = (passBlanks comment p cs).2 := by
  induction cs generalizing comment p p' with
  | nil =>
      rcases ht with rfl | rfl
      · cases comment <;> exact .inl rfl
      · cases comment
        · exact .inl rfl
        · exact .inr rfl
  | cons c cs ih =>
      cases comment with
      | true => exact ih (c != '\n') (p.after c) (p'.after c)
      | false =>
          simp only [passBlanks, List.cons_append]
          split
          · exact ih false (p.after c) (p'.after c)
          · split
            · exact ih true (p.after c) (p'.after c)
            · exact .inl rfl

/-- Where a text has no tail, blanks and comments are the same. -/
theorem passBlanks_snd (comment : Bool) (p p' : Position) (cs : List Char) :
    (passBlanks comment p' cs).2 = (passBlanks comment p cs).2 := by
  have h := passBlanks_append (.inl rfl) comment p p' cs
  simpa using h

theorem skipped (h : Beside t s u) : Beside t s.skipped u.skipped := by
  refine ⟨h.tail, ?_, by simpa using h.loose, by simpa using h.names⟩
  simp only [Cursor.skipped_rest, h.loose]
  split
  · rcases h.rest with hu | hu
    · rw [hu]
      exact passBlanks_append h.tail false s.pos u.pos s.rest
    · rw [hu]
      exact .inr (passBlanks_snd false s.pos u.pos s.rest)
  · exact h.rest

theorem past (h : Beside t s u) (hs : s.rest ≠ []) : Beside t s.past u.past :=
  (h.bumped hs).skipped

/-- Of a tail only the parenthesis can come after what is left. -/
theorem peekPast_append (marked : Bool) (cs : List Char) :
    peekPast marked (cs ++ closing) = (peekPast marked cs).or (some ')') := by
  induction cs generalizing marked with
  | nil => cases marked <;> rfl
  | cons c cs ih =>
      simp only [List.cons_append, peekPast]
      split
      · exact ih marked
      · split
        · exact ih true
        · rfl

/-- The same for the character after the next. -/
theorem after?_beq (h : Beside t s u) (hs : s.rest ≠ []) {c : Char} (hc : c ≠ ')') :
    (u.after? == some c) = (s.after? == some c) := by
  have hor : ∀ o : Option Char, (o.or (some ')') == some c) = (o == some c) := by
    rintro (_ | d)
    · simpa using Ne.symm hc
    · rfl
  unfold Cursor.after?
  rw [h.loose]
  rcases h.rest with hu | hu
  · rw [hu, List.tail_append_of_ne_nil hs]
    rcases h.tail with rfl | rfl
    · rw [List.append_nil]
    · split
      · rw [peekPast_append, hor]
      · rw [List.head?_append]
        exact hor _
  · rw [hu]

/-- A text without a closing parenthesis stands at the one cursor just
when it stands at the other. -/
theorem isPrefixOf_eq (h : Beside t s u) {text : List Char} (htext : ')' ∉ text) :
    text.isPrefixOf u.rest = text.isPrefixOf s.rest := by
  rw [Bool.eq_iff_iff, List.isPrefixOf_iff_prefix, List.isPrefixOf_iff_prefix]
  rcases h.rest with hu | hu
  · rw [hu]
    refine ⟨fun hstarts => ?_, fun hstarts => hstarts.trans (List.prefix_append _ _)⟩
    rcases h.tail with rfl | rfl
    · simpa using hstarts
    · -- A text that goes on into the tail has its parenthesis in it.
      refine List.prefix_of_prefix_length_le hstarts (List.prefix_append _ _) ?_
      refine Nat.le_of_not_lt fun hlong => ?_
      have hfirst := List.prefix_iff_getElem?.mp hstarts s.rest.length hlong
      have hparen : (s.rest ++ closing)[s.rest.length]? = some ')' := by simp [closing]
      rw [hparen, Option.some.injEq] at hfirst
      exact htext (hfirst ▸ List.getElem_mem hlong)
  · rw [hu]

theorem passed (h : Beside t s u) {text : List Char} (htext : text <+: s.rest) :
    Beside t (s.passed text) (u.passed text) := by
  refine ⟨h.tail, ?_, h.loose, h.names⟩
  rcases h.rest with hu | hu
  · exact .inl (by simp only [Cursor.passed, hu, List.drop_append_of_le_length htext.length_le])
  · exact .inr (by simp only [Cursor.passed, hu])

end Beside

/-! ### Runs beside each other -/

/-- There is a tail, and no more is left than `v`. -/
def Past {β : Type} (t v : List Char) (_ : β) (u : Cursor) : Prop := t ≠ [] ∧ u.rest <:+ v

/-- Nothing is so. -/
abbrev Never {β : Type} (_ : β) (_ : Cursor) : Prop := False

theorem Past.of_tail {α : Type} {t : List Char} {a : α} {u : Cursor}
    (h : Past t t.tail a u) : Past t t a u :=
  ⟨h.1, h.2.trans (List.tail_suffix t)⟩

/-- From within the tail, a step that takes a character goes beyond its
first one. -/
theorem Past.takes {α β : Type} {t : List Char} {b : β} {y : Reader α} {a : α} {u u' : Cursor}
    (hpast : Past t t b u) (h : ∀ r, ⦃LeftAfterOne r⦄ y ⦃⇓? _ => Left r⦄)
    (hrun : y u = .ok (a, u')) : Past t t.tail a u' :=
  ⟨hpast.1, (suffix_tail_of_run h hrun).trans (tail_suffix_tail hpast.2)⟩

/-- Where only the second reading can go on, and at the tail, nothing is
left but the tail. -/
theorem past_of_forward {α : Type} {t : List Char} {y : Reader α} {a : α} {u u' : Cursor}
    (ht : t = closing) (hu : u.rest = closing)
    (h : ∀ r, ⦃Left r⦄ y ⦃⇓? _ => Left r⦄) (hrun : y u = .ok (a, u')) : Past t t a u' := by
  subst ht
  exact ⟨by simp [closing], hu ▸ suffix_of_run h hrun⟩

/-- At the tail, a step that takes a character goes beyond its first
one. -/
theorem past_of_takes {α : Type} {t : List Char} {y : Reader α} {a : α} {u u' : Cursor}
    (ht : t = closing) (hu : u.rest = closing)
    (h : ∀ r, ⦃LeftAfterOne r⦄ y ⦃⇓? _ => Left r⦄)
    (hrun : y u = .ok (a, u')) : Past t t.tail a u' := by
  subst ht
  exact ⟨by simp [closing], hu ▸ suffix_tail_of_run h hrun⟩

/-- In the tail there are only the characters of the tail. -/
theorem Beside.notMem_of_past {t : List Char} {s u : Cursor} (h : Beside t s u) {α : Type} {a : α}
    {u' : Cursor} (hu' : Past t t a u') {c : Char} (hc : c ∉ closing) : c ∉ u'.rest := by
  rcases h.tail with rfl | rfl
  · exact absurd rfl hu'.1
  · exact fun hmem => hc (hu'.2.mem hmem)

/-- What two runs come to. Either both give results that `R` holds
between and stand beside each other, or the first one stops with a
fault, and then the second one does so too or has come to where `D`
holds. -/
inductive Parallel {α β : Type} (t : List Char) (R : α → β → Prop) (D : β → Cursor → Prop) :
    Except Fault (α × Cursor) → Except Fault (β × Cursor) → Prop where
  | ok {a b s u} : R a b → Beside t s u → Parallel t R D (.ok (a, s)) (.ok (b, u))
  | error {e y} : (∀ b u, y = .ok (b, u) → D b u) → Parallel t R D (.error e) y

namespace Parallel
variable {α β γ δ : Type} {t : List Char} {R : α → β → Prop} {D : β → Cursor → Prop}
  {S : γ → δ → Prop} {E : δ → Cursor → Prop} {x : Reader α} {y : Reader β} {s u : Cursor}

/-- Both runs stop with a fault. -/
theorem faults {e e' : Fault} : Parallel t R D (.error e) (.error e') :=
  .error fun _ _ h => by cases h

theorem of_fails (hx : Fails x s) (hy : Fails y u) : Parallel t R D (x s) (y u) := by
  obtain ⟨e, hx⟩ := hx
  obtain ⟨e', hy⟩ := hy
  rw [hx, hy]
  exact faults

theorem of_fails_left (hx : Fails x s) (hy : ∀ b u', y u = .ok (b, u') → D b u') :
    Parallel t R D (x s) (y u) := by
  obtain ⟨e, hx⟩ := hx
  rw [hx]
  exact .error hy

theorem mono {D' : β → Cursor → Prop} {r r'} (h : Parallel t R D r r')
    (hD : ∀ b u, D b u → D' b u) : Parallel t R D' r r' := by
  cases h with
  | ok hR hbeside => exact .ok hR hbeside
  | error hy => exact .error fun b u hu => hD b u (hy b u hu)

/-- Where `D` holds, the second run has come there. -/
theorem with_run {r r'} (h : Parallel t R D r r') :
    Parallel t R (fun b u => D b u ∧ r' = .ok (b, u)) r r' := by
  cases h with
  | ok hR hbeside => exact .ok hR hbeside
  | error hy => exact .error fun b u hu => ⟨hy b u hu, hu⟩

/-- A result of the first run comes with one of the second run. -/
theorem of_ok {a : α} {s' : Cursor} {r} (h : Parallel t R D (.ok (a, s')) r) :
    ∃ b u', r = .ok (b, u') ∧ R a b ∧ Beside t s' u' := by
  cases h with
  | ok hR hbeside => exact ⟨_, _, rfl, hR, hbeside⟩

/-- A fault of the first run leaves the second one no more than a
fault, or brings it to where `D` holds. -/
theorem of_error {e : Fault} {r} (h : Parallel t R D (.error e) r) :
    ∀ b u, r = .ok (b, u) → D b u := by
  cases h with
  | error hy => exact hy

/-- One step after another. -/
theorem bind {f : α → Reader γ} {g : β → Reader δ} (h : Parallel t R D (x s) (y u))
    (hok : ∀ a b s' u', x s = .ok (a, s') → y u = .ok (b, u') → R a b → Beside t s' u' →
      Parallel t S E (f a s') (g b u'))
    (hdone : ∀ b u', D b u' → ∀ c u'', g b u' = .ok (c, u'') → E c u'') :
    Parallel t S E ((x >>= f) s) ((y >>= g) u) := by
  have hx : (x >>= f) s = (x s >>= fun p => f p.1 p.2) := rfl
  have hy : (y >>= g) u = (y u >>= fun p => g p.1 p.2) := rfl
  rw [hx, hy]
  generalize hxs : x s = r at h ⊢
  generalize hyu : y u = r' at h ⊢
  cases h with
  | ok hR hbeside => exact hok _ _ _ _ hxs hyu hR hbeside
  | error hD =>
      cases r' with
      | error e => exact faults
      | ok p => exact .error (hdone p.1 p.2 (hD p.1 p.2 rfl))

/-- One step after another, where the second run stops with a fault at the
first step if the first one does. -/
theorem bind_never {f : α → Reader γ} {g : β → Reader δ} (h : Parallel t R Never (x s) (y u))
    (hok : ∀ a b s' u', x s = .ok (a, s') → y u = .ok (b, u') → R a b → Beside t s' u' →
      Parallel t S E (f a s') (g b u')) :
    Parallel t S E ((x >>= f) s) ((y >>= g) u) :=
  h.bind hok fun _ _ => False.elim

/-- One step after another, where the second run can only go on through
the tail. -/
theorem bind_past {v : List Char} {f : α → Reader γ} {g : β → Reader δ}
    (h : Parallel t R (Past t v) (x s) (y u))
    (hok : ∀ a b s' u', x s = .ok (a, s') → y u = .ok (b, u') → R a b → Beside t s' u' →
      Parallel t S (Past t v) (f a s') (g b u'))
    (hforward : ∀ b r, ⦃Left r⦄ g b ⦃⇓? _ => Left r⦄) :
    Parallel t S (Past t v) ((x >>= f) s) ((y >>= g) u) :=
  h.bind hok fun b _ hb _ _ hrun => ⟨hb.1, (suffix_of_run (hforward b) hrun).trans hb.2⟩

/-- A character has to be left. Where the first text is at its end, only
the second run can go on, and only at the tail. -/
theorem unless_end {x₀ : Reader α} {y₀ : Reader β} (h : Beside t s u) (hx₀ : Fails x₀ s)
    (hy₀ : Fails y₀ u) (hxy : Parallel t R D (x s) (y u))
    (hend : s.rest = [] → t = closing → u.rest = closing →
      ∀ b u', y u = .ok (b, u') → D b u') :
    Parallel t R D ((if !(!s.rest.isEmpty) then x₀ else x) s)
      ((if !(!u.rest.isEmpty) then y₀ else y) u) := by
  obtain ⟨e, hx₀⟩ := hx₀
  obtain ⟨e', hy₀⟩ := hy₀
  rw [Bool.not_not, Bool.not_not]
  by_cases hnil : s.rest = []
  · rw [hnil, List.isEmpty_nil, if_pos rfl, hx₀]
    rcases h.head_cases with ⟨c, hc, -⟩ | ⟨-, hu⟩ | ⟨-, hu, ht⟩
    · simp [hnil] at hc
    · rw [hu, List.isEmpty_nil, if_pos rfl, hy₀]
      exact faults
    · exact .error fun b u' hrun => hend hnil ht hu b u' (by simpa [hu, closing] using hrun)
  · have hmore : ¬s.rest.isEmpty = true := by simpa using hnil
    have hmore' : ¬u.rest.isEmpty = true := by simpa using h.ne_nil hnil
    rwa [if_neg hmore, if_neg hmore']

/-- A character has to follow the one that is taken. -/
theorem guard {x₀ : Reader α} {y₀ : Reader β} (h : Beside t s u) (hs : s.rest ≠ [])
    (hx₀ : Fails x₀ s.past) (hy₀ : Fails y₀ u.past)
    (hxy : Parallel t R D (x s.past) (y u.past))
    (hend : s.past.rest = [] → t = closing → u.past.rest = closing →
      ∀ b u', y u.past = .ok (b, u') → D b u') :
    Parallel t R D ((bumpLoosely >>= fun more => if !more then x₀ else x) s)
      ((bumpLoosely >>= fun more => if !more then y₀ else y) u) := by
  rw [bumpLoosely_bind, bumpLoosely_bind]
  exact unless_end (h.past hs) hx₀ hy₀ hxy hend

/-- The same, where the first run would stop with a fault at the end
anyway. -/
theorem guard_of_fails {x₀ : Reader α} {y₀ : Reader β} (h : Beside t s u) (hs : s.rest ≠ [])
    (hx₀ : Fails x₀ s.past) (hy₀ : Fails y₀ u.past)
    (hxy : Parallel t R D (x s.past) (y u.past))
    (hfails : s.past.rest = [] → Fails x s.past) :
    Parallel t R D ((bumpLoosely >>= fun more => if !more then x₀ else x) s)
      ((bumpLoosely >>= fun more => if !more then y₀ else y) u) := by
  refine guard h hs hx₀ hy₀ hxy fun hnil _ _ => ?_
  obtain ⟨e, he⟩ := hfails hnil
  rw [he] at hxy
  exact hxy.of_error

end Parallel

/-! ### Characters of a kind -/

section
variable {t : List Char} {s u : Cursor} (p : Char → Bool)

theorem takeLoosely_of_nil (n : Nat) (hs : s.rest = []) : takeLoosely p n s = .ok ([], s) := by
  cases n with
  | zero => rfl
  | succ n =>
      rw [takeLoosely, peek?_bind, hs]
      rfl

theorem takeLoosely_of_head {n : Nat} (hn : s.rest.length ≤ n) {c : Char}
    (hs : s.rest.head? = some c) :
    ∃ m, n = m + 1 ∧ s.past.rest.length ≤ m ∧
      takeLoosely p n s
        = if p c then (takeLoosely p m >>= fun cs => pure (c :: cs)) s.past else .ok ([], s) := by
  obtain ⟨m, rfl, hpast⟩ := s.exists_round hn (Beside.ne_nil_of_head hs)
  refine ⟨m, rfl, hpast, ?_⟩
  rw [takeLoosely, peek?_bind, hs]
  show (if p c then bumpLoosely >>= _ else pure []) s = _
  split
  · rw [bumpLoosely_bind]
  · rfl

/-- The characters of a kind that two cursors beside each other have in
front of them are the same. Only if closing parentheses are of that kind
and the first text ends with such characters, the second run may go on
into the tail. -/
def TakesAlike (t : List Char) (p : Char → Bool) (r r' : Except Fault (List Char × Cursor)) : Prop :=
  Parallel t Eq Never r r' ∨
    p ')' = true ∧ (∃ cs s', r = .ok (cs, s') ∧ s'.rest = []) ∧
      ∀ ds u', r' = .ok (ds, u') → Past t t.tail ds u'

theorem takesAlike_of_nil {n m : Nat} (h : Beside t s u) (hs : s.rest = [])
    (hm : u.rest.length ≤ m) : TakesAlike t p (takeLoosely p n s) (takeLoosely p m u) := by
  rw [takeLoosely_of_nil p n hs]
  rcases h.head_cases with ⟨c, hc, -⟩ | ⟨-, hu⟩ | ⟨-, hu, rfl⟩
  · simp [hs] at hc
  · rw [takeLoosely_of_nil p m hu]
    exact .inl (.ok rfl h)
  · have hu' : u.rest.head? = some ')' := by simp [hu, closing]
    obtain ⟨m, rfl, -, hy⟩ := takeLoosely_of_head p hm hu'
    rw [hy]
    by_cases hp : p ')' = true
    · rw [if_pos hp]
      refine .inr ⟨hp, ⟨[], s, rfl, hs⟩, fun ds u' hrun => ⟨by simp [closing], ?_⟩⟩
      have hsuffix := suffix_of_run (fun r => by mvcgen with grind) hrun
      exact hsuffix.trans (hu ▸ u.past_suffix)
    · rw [if_neg hp]
      exact .inl (.ok rfl h)

theorem takesAlike_takeLoosely {n m : Nat} (h : Beside t s u) (hn : s.rest.length ≤ n)
    (hm : u.rest.length ≤ m) : TakesAlike t p (takeLoosely p n s) (takeLoosely p m u) := by
  induction n generalizing m s u with
  | zero => exact takesAlike_of_nil p h (List.length_eq_zero_iff.mp (Nat.le_zero.mp hn)) hm
  | succ n ih =>
      rcases h.head_cases with ⟨c, hs, hu⟩ | ⟨hs, -⟩ | ⟨hs, -, -⟩
      · obtain ⟨n', hn', hnpast, hx⟩ := takeLoosely_of_head p hn hs
        obtain ⟨m', hm', hmpast, hy⟩ := takeLoosely_of_head p hm hu
        obtain rfl : n = n' := by omega
        rw [hx, hy]
        by_cases hc : p c = true
        · rw [if_pos hc, if_pos hc]
          have hne := Beside.ne_nil_of_head hs
          rcases ih (h.past hne) hnpast hmpast with hpar | ⟨hp, ⟨cs, s', hrun, hs'⟩, hpast⟩
          · refine .inl (hpar.bind (fun cs ds s' u' _ _ hsame hbeside => ?_) fun _ _ hno => hno.elim)
            exact .ok (congrArg (c :: ·) hsame) hbeside
          · refine .inr ⟨hp, ⟨c :: cs, s', ?_, hs'⟩, fun ds u' hrun' => ?_⟩
            · rw [bind_of_ok hrun]
              rfl
            · obtain ⟨ds', u'', hrun'', hpure⟩ := ok_of_bind hrun'
              cases hpure
              exact hpast ds' _ hrun''
        · rw [if_neg hc, if_neg hc]
          exact .inl (.ok rfl h)
      · exact takesAlike_of_nil p h hs hm
      · exact takesAlike_of_nil p h hs hm

/-- Characters of a kind without closing parentheses are the same. -/
theorem parallel_takeLoosely {D : List Char → Cursor → Prop} {n m : Nat} (hp : p ')' = false)
    (h : Beside t s u) (hn : s.rest.length ≤ n) (hm : u.rest.length ≤ m) :
    Parallel t Eq D (takeLoosely p n s) (takeLoosely p m u) := by
  rcases takesAlike_takeLoosely p h hn hm with hpar | ⟨hparen, -⟩
  · exact hpar.mono fun _ _ hno => hno.elim
  · rw [hp] at hparen
    cases hparen

end

/-! ### Given texts -/

theorem parallel_bumpIf {t : List Char} {s u : Cursor} {text : List Char} (htext : ')' ∉ text)
    (h : Beside t s u) :
    Parallel t Eq Never (bumpIf text s) (bumpIf text u) := by
  have hs := bumpIf_bind s text pure
  have hu := bumpIf_bind u text pure
  rw [bind_pure] at hs hu
  rw [hs, hu, h.isPrefixOf_eq htext]
  split
  · rename_i hstarts
    exact .ok rfl (h.passed (List.isPrefixOf_iff_prefix.mp hstarts))
  · exact .ok rfl h

theorem parallel_bumpAny {t : List Char} {s u : Cursor} {texts : List (List Char)}
    (htexts : ∀ text ∈ texts, ')' ∉ text) (h : Beside t s u) :
    Parallel t Eq Never (bumpAny texts s) (bumpAny texts u) := by
  induction texts generalizing s u with
  | nil => exact .ok rfl h
  | cons text texts ih =>
      rw [bumpAny]
      refine (parallel_bumpIf (htexts text List.mem_cons_self) h).bind_never
        fun found _ s' u' _ _ hfound hbeside => ?_
      subst hfound
      split
      · exact .ok rfl hbeside
      · exact ih (fun text htext => htexts text (List.mem_cons_of_mem _ htext)) hbeside

end PipeShell.Pattern
