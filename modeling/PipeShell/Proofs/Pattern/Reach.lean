import PipeShell.Proofs.Pattern.Motion
import Mathlib.Data.Finset.Card

/-!
# `PipeShell.Proofs.Pattern.Reach`: where a motion leads

`Motion.Leads` says from which place to which other one a motion can
take a match, without sets of places and without a memory: a repetition
is a number of rounds. `Motion.reach` is compared with it for motions of
every kind. Nothing is reached that the motion does not lead to,
whatever the memory holds. That everything is reached rests on what the
memory stands for (`Motion.Recalls`): the places met by a repetition are
closed under its rounds, and what the motion reached from them was
handed on before.

* `spread_sound`, `spread_complete`: counted rounds, where only places
  seen for the first time go into the next round.
* `rounds_complete`: rounds without a bound, which stop when there is no
  new place. A round without an end takes one more of the places of the
  line, so that `length + 2` rounds are enough.
* `faithful_of_within`: every place a motion leads to is reached, or was
  handed on before.
* `matchesLine_iff_leads`, and from it `matchesLine_of_bound`: a pattern
  between two conditions matches only what it matches without them.
-/

set_option autoImplicit false

namespace PipeShell.Pattern

open Unicode

/-! ### Where a motion leads -/

/-- A number of rounds of a step, one after the other. -/
def Rounds (step : Nat → Nat → Prop) : Nat → Nat → Nat → Prop
  | 0, i, j => i = j
  | n + 1, i, j => ∃ k, step i k ∧ Rounds step n k j

namespace Motion

/-- The motion can take a match from one place to another. -/
def Leads : Motion → Nat → Nat → Prop
  | stay, i, j => i = j
  | step here, i, j => here.testBit i = true ∧ i + 1 = j
  | gate here, i, j => here.testBit i = true ∧ i = j
  | seq a b, i, j => ∃ k, a.Leads i k ∧ b.Leads k j
  | alt a b, i, j => a.Leads i j ∨ b.Leads i j
  | times m least most, i, j =>
      ∃ n, least ≤ n ∧ n ≤ least + (most - least) ∧ Rounds m.Leads n i j
  | more m, i, j => ∃ n, Rounds m.Leads (n + 1) i j

/-- The motion does not lead out of a line of the given length. -/
def Within (length : Nat) : Motion → Prop
  | stay => True
  | step here => ∀ i, here.testBit i = true → i < length
  | gate _ => True
  | seq a b => a.Within length ∧ b.Within length
  | alt a b => a.Within length ∧ b.Within length
  | times m _ _ => m.Within length
  | more m => m.Within length

end Motion

/-- The set of places holds the place. -/
def Has (places i : Nat) : Prop := places.testBit i = true

/-- The places lie on a line of the given length. -/
def OnLine (length places : Nat) : Prop := ∀ i, Has places i → i ≤ length

section
variable {a b i : Nat}

@[simp] theorem has_zero : ¬Has 0 i := by simp [Has]

@[simp] theorem has_or : Has (a ||| b) i ↔ Has a i ∨ Has b i := by simp [Has]

@[simp] theorem has_and : Has (a &&& b) i ↔ Has a i ∧ Has b i := by simp [Has]

@[simp] theorem has_without : Has (without a b) i ↔ Has a i ∧ ¬Has b i := by
  simp only [Has, without, Nat.testBit_xor, Nat.testBit_and]
  cases a.testBit i <;> cases b.testBit i <;> simp

@[simp] theorem has_shift : Has (a <<< 1) i ↔ ∃ k, Has a k ∧ k + 1 = i := by
  simp only [Has, Nat.testBit_shiftLeft, Bool.and_eq_true, decide_eq_true_eq]
  constructor
  · rintro ⟨hi, ha⟩
    exact ⟨i - 1, ha, by omega⟩
  · rintro ⟨k, hk, rfl⟩
    exact ⟨by omega, hk⟩

theorem ne_zero_iff_exists_has : a ≠ 0 ↔ ∃ i, Has a i := by
  constructor
  · exact Nat.exists_testBit_of_ne_zero
  · rintro ⟨i, hi⟩ rfl
    exact has_zero hi

end

/-! ### Rounds -/

namespace Rounds
variable {step : Nat → Nat → Prop} {n : Nat} {i j : Nat}

/-- A set of places that a step does not leave is not left by any number
of rounds. -/
theorem mem_of_closed {P : Nat → Prop} (hclosed : ∀ i, P i → ∀ j, step i j → P j)
    (h : Rounds step n i j) (hi : P i) : P j := by
  induction n generalizing i with
  | zero =>
      cases h
      exact hi
  | succ n ih =>
      obtain ⟨k, hk, hrest⟩ := h
      exact ih hrest (hclosed i hi k hk)

theorem append {m k : Nat} (h : Rounds step m i k) (h' : Rounds step n k j) :
    Rounds step (m + n) i j := by
  induction m generalizing i with
  | zero =>
      cases h
      rwa [Nat.zero_add]
  | succ m ih =>
      obtain ⟨l, hl, hrest⟩ := h
      rw [Nat.succ_add]
      exact ⟨l, hl, ih hrest⟩

theorem split {m : Nat} (h : Rounds step (m + n) i j) :
    ∃ k, Rounds step m i k ∧ Rounds step n k j := by
  induction m generalizing i with
  | zero =>
      rw [Nat.zero_add] at h
      exact ⟨i, rfl, h⟩
  | succ m ih =>
      rw [Nat.succ_add] at h
      obtain ⟨l, hl, hrest⟩ := h
      obtain ⟨k, hfirst, hsecond⟩ := ih hrest
      exact ⟨k, ⟨l, hl, hfirst⟩, hsecond⟩

end Rounds

/-! ### Places not met -/

/-- How many places of a line of the given length are not in the set. -/
def unmet (length places : Nat) : Nat :=
  ((Finset.range (length + 1)).filter fun i => ¬places.testBit i = true).card

theorem unmet_le (length places : Nat) : unmet length places ≤ length + 1 := by
  have h := Finset.card_filter_le (Finset.range (length + 1)) fun i => ¬places.testBit i = true
  rwa [Finset.card_range] at h

/-- One place more in the set is one place less out of it. -/
theorem unmet_lt {length places fresh : Nat} (hline : OnLine length fresh) {i : Nat}
    (hi : Has fresh i) (hnew : ¬Has places i) :
    unmet length (places ||| fresh) < unmet length places := by
  refine Finset.card_lt_card (Finset.ssubset_iff_of_subset ?_ |>.mpr ⟨i, ?_, ?_⟩)
  · intro j hj
    simp only [Finset.mem_filter] at hj ⊢
    refine ⟨hj.1, fun hplaces => hj.2 ?_⟩
    exact has_or.mpr (.inl hplaces)
  · simp only [Finset.mem_filter, Finset.mem_range]
    exact ⟨Nat.lt_succ_of_le (hline i hi), hnew⟩
  · simp only [Finset.mem_filter, not_and, not_not]
    exact fun _ => has_or.mpr (.inr hi)

/-- When no place is left out, every place of the line is in the set. -/
theorem has_of_unmet_eq_zero {length places : Nat} (h : unmet length places = 0) {i : Nat}
    (hi : i ≤ length) : Has places i := by
  by_contra hnot
  rw [unmet, Finset.card_eq_zero, Finset.filter_eq_empty_iff] at h
  exact h (Finset.mem_range.mpr (Nat.lt_succ_of_le hi)) hnot

/-! ### Counted rounds -/

namespace Motion

/-- A function on sets of places does what a step does to places. -/
def Carries (length : Nat) (f : Nat → Nat) (step : Nat → Nat → Prop) : Prop :=
  ∀ places, OnLine length places → ∀ j, Has (f places) j ↔ ∃ i, Has places i ∧ step i j

section
variable {length : Nat} {f : Nat → Nat} {step : Nat → Nat → Prop}
  (hf : Carries length f step) (hstep : ∀ i j, step i j → i ≤ length → j ≤ length)
include hf hstep

theorem onLine_of_carries {places : Nat} (hplaces : OnLine length places) :
    OnLine length (f places) := by
  intro j hj
  obtain ⟨i, hi, hij⟩ := (hf places hplaces j).mp hj
  exact hstep i j hij (hplaces i hi)

theorem has_iterate (n : Nat) {places : Nat} (hplaces : OnLine length places) (j : Nat) :
    Has (iterate f n places) j ↔ ∃ i, Has places i ∧ Rounds step n i j := by
  induction n generalizing places with
  | zero => simp [iterate, Rounds]
  | succ n ih =>
      rw [iterate]
      split
      · rename_i hzero
        obtain rfl : places = 0 := beq_iff_eq.mp hzero
        simp
      · rw [ih (onLine_of_carries hf hstep hplaces)]
        constructor
        · rintro ⟨k, hk, hrest⟩
          obtain ⟨i, hi, hik⟩ := (hf places hplaces k).mp hk
          exact ⟨i, hi, k, hik, hrest⟩
        · rintro ⟨i, hi, k, hik, hrest⟩
          exact ⟨k, (hf places hplaces k).mpr ⟨i, hi, hik⟩, hrest⟩

/-- Nothing is reached but by rounds. -/
theorem spread_sound {n seen fresh : Nat} (hfresh : OnLine length fresh) {j : Nat}
    (h : Has (spread f n seen fresh) j) :
    Has seen j ∨ ∃ i, Has fresh i ∧ ∃ k ≤ n, Rounds step k i j := by
  induction n generalizing seen fresh with
  | zero => exact .inl h
  | succ n ih =>
      rw [spread] at h
      split at h
      · exact .inl h
      · have hnew : OnLine length (without (f fresh) seen) := fun i hi =>
          onLine_of_carries hf hstep hfresh i (has_without.mp hi).1
        have hfirst : ∀ i, Has (without (f fresh) seen) i → ∃ i', Has fresh i' ∧ step i' i :=
          fun i hi => (hf fresh hfresh i).mp (has_without.mp hi).1
        rcases ih hnew h with hseen | ⟨i, hi, k, hk, hrounds⟩
        · rcases has_or.mp hseen with hseen | hj
          · exact .inl hseen
          · obtain ⟨i, hi, hij⟩ := hfirst j hj
            exact .inr ⟨i, hi, 1, by omega, j, hij, rfl⟩
        · obtain ⟨i', hi', hii'⟩ := hfirst i hi
          exact .inr ⟨i', hi', k + 1, by omega, i, hii', hrounds⟩

/-- All that rounds can reach is reached, if there are enough of them:
either the count covers the rounds asked for, or it covers the places
that are still unmet. Of the places seen only those in `fresh` can lead
to new ones. -/
theorem spread_complete {n seen fresh : Nat} (hseen : OnLine length seen)
    (hfresh : ∀ i, Has fresh i → Has seen i)
    (hold : ∀ i, Has seen i → ¬Has fresh i → ∀ j, step i j → Has seen j) {i j k : Nat}
    (hi : Has seen i) (henough : k ≤ n ∨ unmet length seen ≤ n) (h : Rounds step k i j) :
    Has (spread f n seen fresh) j := by
  induction n generalizing seen fresh i k with
  | zero =>
      rw [spread]
      rcases henough with hk | hmet
      · obtain rfl := Nat.le_zero.mp hk
        cases h
        exact hi
      · have hj : j ≤ length := h.mem_of_closed (P := (· ≤ length))
          (fun i hi j hij => hstep i j hij hi) (hseen i hi)
        exact has_of_unmet_eq_zero (Nat.le_zero.mp hmet) hj
  | succ n ih =>
      have hline : OnLine length fresh := fun i hi => hseen i (hfresh i hi)
      have hnext : ∀ i, Has seen i → ∀ j, step i j → Has seen j ∨ Has (without (f fresh) seen) j := by
        intro i hi j hij
        by_cases hj : Has seen j
        · exact .inl hj
        by_cases hnew : Has fresh i
        · exact .inr (has_without.mpr ⟨(hf fresh hline j).mpr ⟨i, hnew, hij⟩, hj⟩)
        · exact .inl (hold i hi hnew j hij)
      rw [spread]
      split
      · -- Nothing is new, so the places seen are closed under the step.
        rename_i hzero
        refine h.mem_of_closed (fun i hi j hij => (hnext i hi j hij).resolve_right ?_) hi
        rw [beq_iff_eq.mp hzero]
        exact has_zero
      · rename_i hnonzero
        have hnewline : OnLine length (without (f fresh) seen) := fun i hi =>
          onLine_of_carries hf hstep hline i (has_without.mp hi).1
        obtain ⟨l, hl⟩ := ne_zero_iff_exists_has.mp fun hzero => hnonzero (beq_iff_eq.mpr hzero)
        have hless : unmet length (seen ||| without (f fresh) seen) < unmet length seen :=
          unmet_lt hnewline hl (has_without.mp hl).2
        have hgrown : OnLine length (seen ||| without (f fresh) seen) := fun i hi =>
          (has_or.mp hi).elim (hseen i) (hnewline i)
        have hclosed : ∀ i, Has (seen ||| without (f fresh) seen) i →
            ¬Has (without (f fresh) seen) i →
            ∀ j, step i j → Has (seen ||| without (f fresh) seen) j := by
          intro i hi hnot j hij
          exact has_or.mpr (hnext i ((has_or.mp hi).resolve_right hnot) j hij)
        have hin : ∀ i, Has (without (f fresh) seen) i → Has (seen ||| without (f fresh) seen) i :=
          fun i hi => has_or.mpr (.inr hi)
        cases k with
        | zero =>
            cases h
            exact ih hgrown hin hclosed (has_or.mpr (.inl hi)) (.inl (Nat.zero_le n)) rfl
        | succ k =>
            obtain ⟨i', hii', hrest⟩ := h
            refine ih hgrown hin hclosed (has_or.mpr (hnext i hi i' hii')) ?_ hrest
            rcases henough with hk | hmet
            · exact .inl (by omega)
            · exact .inr (by omega)

end

/-! ### What a memory stands for -/

/-- The memory of a motion that has handed on the places in `handed`.
The places met by a repetition are closed under its rounds and were
handed on, and where the first of two parts led, the second has been. -/
def Recalls : Motion → Memory → (handed : Nat → Prop) → Prop
  | stay, _, _ => True
  | step _, _, _ => True
  | gate _, _, _ => True
  | seq a b, memory, handed =>
      ∃ between : Nat → Prop, a.Recalls memory.first between ∧ b.Recalls memory.second handed ∧
        ∀ k, between k → ∀ j, b.Leads k j → handed j
  | alt a b, memory, handed =>
      a.Recalls memory.first handed ∧ b.Recalls memory.second handed
  | times _ _ _, _, _ => True
  | more m, memory, handed =>
      (∀ i, Has memory.met i → ∀ j, m.Leads i j → Has memory.met j ∧ handed j) ∧
        m.Recalls memory.inner fun j => Has memory.met j ∧ handed j

/-- What was handed on may be more. -/
theorem Recalls.mono {m : Motion} {memory : Memory} {handed handed' : Nat → Prop}
    (h : m.Recalls memory handed) (hsub : ∀ j, handed j → handed' j) :
    m.Recalls memory handed' := by
  induction m generalizing memory handed handed' with
  | stay => trivial
  | step => trivial
  | gate => trivial
  | seq a b iha ihb =>
      obtain ⟨between, ha, hb, hall⟩ := h
      exact ⟨between, ha, ihb hb hsub, fun k hk j hj => hsub j (hall k hk j hj)⟩
  | alt a b iha ihb => exact ⟨iha h.1 hsub, ihb h.2 hsub⟩
  | times => trivial
  | more m ih =>
      exact ⟨fun i hi j hj => ⟨(h.1 i hi j hj).1, hsub j (h.1 i hi j hj).2⟩,
        ih h.2 fun j hj => ⟨hj.1, hsub j hj.2⟩⟩

/-- A memory that holds nothing stands for nothing. -/
theorem recalls_blank (m : Motion) (handed : Nat → Prop) : m.Recalls .blank handed := by
  induction m generalizing handed with
  | stay => trivial
  | step => trivial
  | gate => trivial
  | seq a b iha ihb => exact ⟨fun _ => False, iha _, ihb _, fun _ hk => hk.elim⟩
  | alt a b iha ihb => exact ⟨iha _, ihb _⟩
  | times => trivial
  | more m ih => exact ⟨fun i hi => (has_zero hi).elim, ih _⟩

/-- A motion does not lead out of the line. -/
theorem Leads.le_length {length : Nat} {m : Motion} (hwithin : m.Within length) {i j : Nat}
    (h : m.Leads i j) (hi : i ≤ length) : j ≤ length := by
  induction m generalizing i j with
  | stay => exact h ▸ hi
  | step here => exact h.2 ▸ hwithin i h.1
  | gate here => exact h.2 ▸ hi
  | seq a b iha ihb =>
      obtain ⟨k, ha, hb⟩ := h
      exact ihb hwithin.2 hb (iha hwithin.1 ha hi)
  | alt a b iha ihb =>
      rcases h with ha | hb
      · exact iha hwithin.1 ha hi
      · exact ihb hwithin.2 hb hi
  | times m least most ih =>
      obtain ⟨n, -, -, hrounds⟩ := h
      exact hrounds.mem_of_closed (P := (· ≤ length)) (fun i hi j hij => ih hwithin hij hi) hi
  | more m ih =>
      obtain ⟨n, hrounds⟩ := h
      exact hrounds.mem_of_closed (P := (· ≤ length)) (fun i hi j hij => ih hwithin hij hi) hi

/-! ### What is reached -/

/-- A motion reaches what it leads to and nothing else, apart from what
was handed on before, and remembers what it did. -/
structure Reaches (length : Nat) (m : Motion) (memory : Memory) (handed : Nat → Prop)
    (places : Nat) : Prop where
  sound : ∀ j, Has (reach length m memory places).1 j → ∃ i, Has places i ∧ m.Leads i j
  complete : ∀ i, Has places i → ∀ j, m.Leads i j →
    handed j ∨ Has (reach length m memory places).1 j
  recalls : m.Recalls (reach length m memory places).2
    fun j => handed j ∨ Has (reach length m memory places).1 j

/-- The motion does so from any places of the line, whatever was handed on
before. -/
def Faithful (length : Nat) (m : Motion) : Prop :=
  ∀ memory handed places, OnLine length places → m.Recalls memory handed →
    Reaches length m memory handed places

/-- A loop that has met some places and has still to go round from fresh
ones: what the body leads to from the places met is met or fresh, and was
handed on or reached. -/
structure Going (length : Nat) (m : Motion) (handed : Nat → Prop) (reached met fresh : Nat)
    (inner : Memory) : Prop where
  line : OnLine length fresh
  apart : ∀ i, Has fresh i → ¬Has met i
  closed : ∀ i, Has met i → ∀ j, m.Leads i j →
    (Has met j ∨ Has fresh j) ∧ (handed j ∨ Has reached j)
  recalls : m.Recalls inner fun j => (Has met j ∨ Has fresh j) ∧ (handed j ∨ Has reached j)

/-- A loop that has come to its end. -/
structure Gone (m : Motion) (handed : Nat → Prop) (ends : Nat) (memory : Memory) : Prop where
  closed : ∀ i, Has memory.met i → ∀ j, m.Leads i j → Has memory.met j ∧ (handed j ∨ Has ends j)
  recalls : m.Recalls memory.inner fun j => Has memory.met j ∧ (handed j ∨ Has ends j)

section
variable {length : Nat} {m : Motion} (hwithin : m.Within length) (hm : Faithful length m)
include hwithin hm

/-- One round of a loop. -/
theorem Going.next {handed : Nat → Prop} {reached met fresh : Nat} {inner : Memory}
    (h : Going length m handed reached met fresh inner) :
    let step := reach length m inner fresh
    Going length m handed (reached ||| step.1) (met ||| fresh) (without step.1 (met ||| fresh))
      step.2 := by
  intro step
  have hstep := hm inner _ fresh h.line h.recalls
  have hmet : ∀ j, Has met j ∨ Has fresh j ∨ Has step.1 j →
      Has (met ||| fresh) j ∨ Has (without step.1 (met ||| fresh)) j := by
    intro j hj
    by_cases hold : Has (met ||| fresh) j
    · exact .inl hold
    · refine .inr (has_without.mpr ⟨?_, hold⟩)
      rcases hj with hj | hj | hj
      · exact absurd (has_or.mpr (.inl hj)) hold
      · exact absurd (has_or.mpr (.inr hj)) hold
      · exact hj
  -- What is known of a place before the round, or it is reached in it.
  have hgrow : ∀ j, ((Has met j ∨ Has fresh j) ∧ (handed j ∨ Has reached j)) ∨ Has step.1 j →
      (Has (met ||| fresh) j ∨ Has (without step.1 (met ||| fresh)) j) ∧
        (handed j ∨ Has (reached ||| step.1) j) := by
    rintro j (⟨hj, hhanded⟩ | hj)
    · refine ⟨hmet j (hj.imp_right .inl), hhanded.imp_right fun hj => ?_⟩
      exact has_or.mpr (.inl hj)
    · exact ⟨hmet j (.inr (.inr hj)), .inr (has_or.mpr (.inr hj))⟩
  refine ⟨fun j hj => ?_, fun j hj => (has_without.mp hj).2, fun i hi j hij => ?_, ?_⟩
  · obtain ⟨i, hi, hij⟩ := hstep.sound j (has_without.mp hj).1
    exact hij.le_length hwithin (h.line i hi)
  · rcases has_or.mp hi with hi | hi
    · exact hgrow j (.inl (h.closed i hi j hij))
    · exact hgrow j (hstep.complete i hi j hij)
  · exact hstep.recalls.mono hgrow

/-- A loop with rounds enough for the places not met comes to its
end. -/
theorem rounds_complete {handed : Nat → Prop} {n reached met fresh : Nat} {inner : Memory}
    (h : Going length m handed reached met fresh inner) (hn : unmet length met < n) :
    let result := rounds (reach length m) n reached met fresh inner
    Gone m handed result.1 result.2 ∧
      (∀ i, Has met i ∨ Has fresh i → Has result.2.met i) ∧
      ∀ j, Has result.1 j → Has reached j ∨ ∃ i, Has fresh i ∧ ∃ k, Rounds m.Leads (k + 1) i j := by
  induction n generalizing reached met fresh inner with
  | zero => omega
  | succ n ih =>
      rw [rounds]
      split
      · rename_i hzero
        obtain rfl : fresh = 0 := beq_iff_eq.mp hzero
        have hmet : ∀ i, Has met i ∨ Has 0 i → Has met i := fun i hi => hi.resolve_right has_zero
        exact ⟨⟨fun i hi j hij => ⟨hmet j (h.closed i hi j hij).1, (h.closed i hi j hij).2⟩,
          h.recalls.mono fun j hj => ⟨hmet j hj.1, hj.2⟩⟩, hmet, fun j hj => .inl hj⟩
      · rename_i hnonzero
        obtain ⟨l, hl⟩ := ne_zero_iff_exists_has.mp fun hzero => hnonzero (beq_iff_eq.mpr hzero)
        have hless := unmet_lt h.line hl (h.apart l hl)
        obtain ⟨hgone, hkept, hsound⟩ := ih (h.next hwithin hm) (by omega)
        refine ⟨hgone, fun i hi => hkept i (.inl (has_or.mpr hi)), fun j hj => ?_⟩
        -- What the later rounds start from, this round has reached.
        have hfirst := (hm inner _ fresh h.line h.recalls).sound
        rcases hsound j hj with hj | ⟨i, hi, k, hrounds⟩
        · rcases has_or.mp hj with hj | hj
          · exact .inl hj
          · obtain ⟨i, hi, hij⟩ := hfirst j hj
            exact .inr ⟨i, hi, 0, j, hij, rfl⟩
        · obtain ⟨i', hi', hii'⟩ := hfirst i (has_without.mp hi).1
          exact .inr ⟨i', hi', k + 1, i, hii', hrounds⟩

theorem faithful_more : Faithful length (more m) := by
  intro memory handed places hplaces hmemory
  have hstart : Going length m handed 0 memory.met (without places memory.met) memory.inner :=
    ⟨fun i hi => hplaces i (has_without.mp hi).1, fun i hi => (has_without.mp hi).2,
      fun i hi j hij => (hmemory.1 i hi j hij).imp .inl .inl,
      hmemory.2.mono fun j hj => hj.imp .inl .inl⟩
  obtain ⟨hgone, hkept, hsound⟩ := rounds_complete hwithin hm hstart
    (n := length + 2) (Nat.lt_succ_of_le (unmet_le _ _))
  refine ⟨fun j hj => ?_, fun i hi j hij => ?_, hgone.closed, hgone.recalls⟩
  · rcases hsound j hj with hj | ⟨i, hi, hrounds⟩
    · exact (has_zero hj).elim
    · exact ⟨i, (has_without.mp hi).1, hrounds⟩
  · obtain ⟨n, hrounds⟩ := hij
    obtain ⟨k, hfirst, l, hlast, rfl⟩ := hrounds.split
    have hin : Has (reach length (more m) memory places).2.met i := by
      refine hkept i ?_
      by_cases hmet : Has memory.met i
      · exact .inl hmet
      · exact .inr (has_without.mpr ⟨hi, hmet⟩)
    -- All rounds but the last stay among the places met.
    have hk := hfirst.mem_of_closed (fun i hi j hij => (hgone.closed i hi j hij).1) hin
    exact (hgone.closed k hk l hlast).2

theorem faithful_times (least most : Nat) : Faithful length (times m least most) := by
  intro memory handed places hplaces _
  have honce : Carries length (fun places => (reach length m .blank places).1) m.Leads := by
    intro places hplaces j
    have h := hm .blank (fun _ => False) places hplaces (recalls_blank m _)
    constructor
    · exact h.sound j
    · rintro ⟨i, hi, hij⟩
      exact (h.complete i hi j hij).resolve_left id
  have hstep : ∀ i j, m.Leads i j → i ≤ length → j ≤ length := fun i j hij => hij.le_length hwithin
  have hstart : OnLine length
      (iterate (fun places => (reach length m .blank places).1) least places) := by
    intro j hj
    obtain ⟨i, hi, hrounds⟩ := (has_iterate honce hstep least hplaces j).mp hj
    exact hrounds.mem_of_closed (P := (· ≤ length)) (fun i hi j hij => hstep i j hij hi)
      (hplaces i hi)
  refine ⟨fun j hj => ?_, fun i hi j hij => .inr ?_, trivial⟩
  · rcases spread_sound honce hstep hstart hj with hj | ⟨k, hk, n, hn, hrounds⟩
    · obtain ⟨i, hi, hrounds⟩ := (has_iterate honce hstep least hplaces j).mp hj
      exact ⟨i, hi, least, Nat.le_refl _, Nat.le_add_right _ _, hrounds⟩
    · obtain ⟨i, hi, hfirst⟩ := (has_iterate honce hstep least hplaces k).mp hk
      exact ⟨i, hi, least + n, Nat.le_add_right _ _, by omega, hfirst.append hrounds⟩
  · obtain ⟨n, hleast, hmost, hrounds⟩ := hij
    obtain ⟨n, rfl⟩ := Nat.exists_eq_add_of_le hleast
    obtain ⟨k, hfirst, hrest⟩ := hrounds.split
    refine spread_complete honce hstep hstart (fun _ hi => hi) (fun _ hi hnot => absurd hi hnot)
      ((has_iterate honce hstep least hplaces k).mpr ⟨i, hi, hfirst⟩) ?_ hrest
    have := unmet_le length (iterate (fun places => (reach length m .blank places).1) least places)
    omega

end

/-- From no place nothing is reached, and nothing new is remembered. -/
theorem reaches_zero {length : Nat} {m : Motion} {memory : Memory} {handed : Nat → Prop}
    (hnone : reach length m memory 0 = (0, memory)) (hmemory : m.Recalls memory handed) :
    Reaches length m memory handed 0 := by
  refine ⟨fun j hj => ?_, fun i hi => (has_zero hi).elim, ?_⟩
  · rw [hnone] at hj
    exact (has_zero hj).elim
  · rw [hnone]
    exact hmemory.mono fun j => .inl

section
variable {length : Nat} {a b : Motion} (ha : Faithful length a) (hb : Faithful length b)
include ha hb

theorem faithful_seq (hwithin : a.Within length) : Faithful length (seq a b) := by
  intro memory handed places hplaces hmemory
  by_cases hzero : places = 0
  · subst hzero
    exact reaches_zero rfl hmemory
  obtain ⟨between, hfirst, hsecond, hall⟩ := hmemory
  have hra := ha memory.first between places hplaces hfirst
  have hline : OnLine length (reach length a memory.first places).1 := by
    intro j hj
    obtain ⟨i, hi, hij⟩ := hra.sound j hj
    exact hij.le_length hwithin (hplaces i hi)
  have hrb := hb memory.second handed _ hline hsecond
  have hreach : reach length (seq a b) memory places
      = ((reach length b memory.second (reach length a memory.first places).1).1,
          .fork (reach length a memory.first places).2
            (reach length b memory.second (reach length a memory.first places).1).2) := by
    rw [reach, if_neg (by simpa using hzero)]
  -- Where the second part leads from a place in between, old or new, was handed on.
  have hon : ∀ k, between k ∨ Has (reach length a memory.first places).1 k →
      ∀ j, b.Leads k j → handed j ∨ Has (reach length (seq a b) memory places).1 j := by
    rw [hreach]
    rintro k (hk | hk) j hkj
    · exact .inl (hall k hk j hkj)
    · exact hrb.complete k hk j hkj
  refine ⟨fun j hj => ?_, fun i hi j hij => ?_, _, ?_, ?_, hon⟩
  · rw [hreach] at hj
    obtain ⟨k, hk, hkj⟩ := hrb.sound j hj
    obtain ⟨i, hi, hik⟩ := hra.sound k hk
    exact ⟨i, hi, k, hik, hkj⟩
  · obtain ⟨k, hik, hkj⟩ := hij
    exact hon k (hra.complete i hi k hik) j hkj
  · rw [hreach]
    exact hra.recalls
  · rw [hreach]
    exact hrb.recalls

theorem faithful_alt : Faithful length (alt a b) := by
  intro memory handed places hplaces hmemory
  by_cases hzero : places = 0
  · subst hzero
    exact reaches_zero rfl hmemory
  have hra := ha memory.first handed places hplaces hmemory.1
  have hrb := hb memory.second handed places hplaces hmemory.2
  have hreach : reach length (alt a b) memory places
      = ((reach length a memory.first places).1 ||| (reach length b memory.second places).1,
          .fork (reach length a memory.first places).2
            (reach length b memory.second places).2) := by
    rw [reach, if_neg (by simpa using hzero)]
  have hends : ∀ j, Has (reach length (alt a b) memory places).1 j ↔
      Has (reach length a memory.first places).1 j ∨
        Has (reach length b memory.second places).1 j := by
    intro j
    rw [hreach, has_or]
  refine ⟨fun j hj => ?_, fun i hi j hij => ?_, ?_⟩
  · rcases (hends j).mp hj with hj | hj
    · obtain ⟨i, hi, hij⟩ := hra.sound j hj
      exact ⟨i, hi, .inl hij⟩
    · obtain ⟨i, hi, hij⟩ := hrb.sound j hj
      exact ⟨i, hi, .inr hij⟩
  · rcases hij with hij | hij
    · exact (hra.complete i hi j hij).imp_right fun hj => (hends j).mpr (.inl hj)
    · exact (hrb.complete i hi j hij).imp_right fun hj => (hends j).mpr (.inr hj)
  · have hfirst := hra.recalls.mono fun j hj => hj.imp_right fun hj => (hends j).mpr (.inl hj)
    have hsecond := hrb.recalls.mono fun j hj => hj.imp_right fun hj => (hends j).mpr (.inr hj)
    rw [hreach] at hfirst hsecond ⊢
    exact ⟨hfirst, hsecond⟩

end

/-- Every motion that stays on the line reaches what it leads to. -/
theorem faithful_of_within {length : Nat} {m : Motion} (hwithin : m.Within length) :
    Faithful length m := by
  induction m with
  | stay =>
      intro memory handed places _ _
      exact ⟨fun j hj => ⟨j, hj, rfl⟩, fun i hi j hij => .inr (hij ▸ hi), trivial⟩
  | step here =>
      intro memory handed places _ _
      refine ⟨fun j hj => ?_, fun i hi j hij => .inr ?_, trivial⟩
      · obtain ⟨i, hi, rfl⟩ := has_shift.mp hj
        exact ⟨i, (has_and.mp hi).1, (has_and.mp hi).2, rfl⟩
      · exact has_shift.mpr ⟨i, has_and.mpr ⟨hi, hij.1⟩, hij.2⟩
  | gate here =>
      intro memory handed places _ _
      refine ⟨fun j hj => ?_, fun i hi j hij => .inr ?_, trivial⟩
      · exact ⟨j, (has_and.mp hj).1, (has_and.mp hj).2, rfl⟩
      · exact hij.2 ▸ has_and.mpr ⟨hi, hij.1⟩
  | seq a b iha ihb => exact faithful_seq (iha hwithin.1) (ihb hwithin.2) hwithin.1
  | alt a b iha ihb => exact faithful_alt (iha hwithin.1) (ihb hwithin.2)
  | times m least most ih => exact faithful_times (m := m) hwithin (ih hwithin) least most
  | more m ih => exact faithful_more (m := m) hwithin (ih hwithin)

/-! ### Patterns on a line -/

theorem within_copies {length : Nat} {m : Motion} (h : m.Within length) (n : Nat) :
    (copies m n).Within length := by
  fun_induction copies m n with
  | case1 => trivial
  | case2 => exact h
  | case3 n hzero hone half hmod ih => exact ⟨ih, ih⟩
  | case4 n hzero hone half hmod ih => exact ⟨h, ih, ih⟩

theorem within_counted {length : Nat} {m : Motion} (h : m.Within length) (unbounded : Bool)
    (least most : Nat) : (counted unbounded m least most).Within length := by
  cases unbounded with
  | false => exact h
  | true => exact ⟨within_copies h least, within_copies (m := alt stay m) ⟨trivial, h⟩ (most - least)⟩

/-- A pattern on a line does not lead out of it. -/
theorem within_onLine (line : List Char) (r : Regex) :
    (onLine line (charIndex 1 line) r).Within line.length := by
  induction r with
  | empty => trivial
  | one s =>
      intro i hi
      obtain ⟨c, hc, -⟩ := (testBit_setBits line s i).mp hi
      exact (List.getElem?_eq_some_iff.mp hc).1
  | look l => trivial
  | seq a b iha ihb => exact ⟨iha, ihb⟩
  | alt a b iha ihb => exact ⟨iha, ihb⟩
  | rep r least most ih =>
      simp only [onLine]
      split
      · split
        · trivial
        · exact ih
      · split
        · exact ⟨trivial, ih⟩
        · exact ih
        · exact ⟨within_counted ih _ _ _, ih⟩
        · exact ⟨trivial, ih⟩
        · exact within_counted ih _ _ _
  | group kept r ih => exact ih

end Motion

/-- A line matches just when the pattern leads from one place of it to
another. -/
theorem Regex.matchesLine_iff_leads (r : Regex) (line : List Char) :
    r.matchesLine line = true ↔
      ∃ i ≤ line.length, ∃ j, (Motion.onLine line (charIndex 1 line) r).Leads i j := by
  have hall : ∀ i, Has (2 ^ (line.length + 1) - 1) i ↔ i ≤ line.length := by
    intro i
    rw [Has, Nat.testBit_two_pow_sub_one, decide_eq_true_eq, Nat.lt_succ_iff]
  have hreaches := Motion.faithful_of_within (Motion.within_onLine line r) .blank (fun _ => False)
    (2 ^ (line.length + 1) - 1) (fun i => (hall i).mp) (Motion.recalls_blank _ _)
  rw [matchesLine, bne_iff_ne, Nat.pow_eq, ne_zero_iff_exists_has]
  constructor
  · rintro ⟨j, hj⟩
    obtain ⟨i, hi, hij⟩ := hreaches.sound j hj
    exact ⟨i, (hall i).mp hi, j, hij⟩
  · rintro ⟨i, hi, j, hij⟩
    exact ⟨j, (hreaches.complete i ((hall i).mpr hi) j hij).resolve_left id⟩

/-- Between two conditions a pattern matches only lines that it matches
without them. -/
theorem Regex.matchesLine_of_bound {kept : Bool} {r : Regex} {l l' : Look} {line : List Char}
    (h : (Regex.seq (.look l) (.seq (.group kept r) (.seq (.look l') .empty))).matchesLine line
      = true) : r.matchesLine line = true := by
  obtain ⟨i, hi, j, k, ⟨-, hk⟩, j', hr, -⟩ := (matchesLine_iff_leads _ line).mp h
  exact (matchesLine_iff_leads r line).mpr ⟨k, hk ▸ hi, j', hr⟩

end PipeShell.Pattern
