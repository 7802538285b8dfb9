import PipeShell.Unicode.RangeTable

/-!
# `PipeShell.Unicode.CharSet`: sets of characters

A set of characters is kept as intervals of code points in increasing
order with a gap before each, so that every set is written in one way.
`CharSet.ofIntervals` brings any intervals into that form, and the
operations that bracketed classes know are built on it: `union`,
`compl`, and from these two `inter` and `diff`. `CharSet.has` decides
membership; `has_union`, `has_compl`, `has_inter` and `has_diff` say
what the operations do to it.

Surrogates are code points and no characters. An interval may run
across them, but no complement keeps any, so that a set without
characters has no intervals.
-/

set_option autoImplicit false

namespace PipeShell.Unicode

/-- One interval ends before the other starts, with a gap between. -/
def Interval.Before (a b : Interval) : Prop := a.hi + 1 < b.lo

/-- A set of characters. -/
structure CharSet where
  intervals : List Interval
  proper : ∀ i ∈ intervals, i.lo ≤ i.hi
  apart : intervals.Pairwise Interval.Before

namespace CharSet

/-- Whether two sets have the same intervals. -/
instance : BEq CharSet := ⟨fun a b => a.intervals == b.intervals⟩

/-! ### Membership -/

/-- Whether one of the intervals, which are in increasing order, holds
the code point. The walk stops at the first that starts beyond it. -/
def hasCode : List Interval → Nat → Bool
  | [], _ => false
  | i :: is, n => if n < i.lo then false else n ≤ i.hi || hasCode is n

/-- Membership of a character. -/
def has (s : CharSet) (c : Char) : Bool := hasCode s.intervals c.toNat

/-! ### Building sets -/

/-- Intervals ordered by where they start, each joined with those that
follow it without a gap; `i` comes first. -/
def join (i : Interval) : List Interval → List Interval
  | [] => [i]
  | j :: js =>
      if j.lo ≤ i.hi + 1 then join ⟨i.lo, max i.hi j.hi⟩ js else i :: join j js

/-- The intervals joined, in order and with gaps. -/
def joinAll : List Interval → List Interval
  | [] => []
  | i :: is => join i is

/-- The intervals that are not empty, ordered by where they start. -/
def inOrder (is : List Interval) : List Interval :=
  (is.filter fun i => i.lo ≤ i.hi).mergeSort fun a b => a.lo ≤ b.lo

theorem inOrder_sorted (is : List Interval) :
    (inOrder is).Pairwise fun a b => a.lo ≤ b.lo := by
  have h : (inOrder is).Pairwise fun a b => decide (a.lo ≤ b.lo) = true :=
    List.pairwise_mergeSort (fun a b c hab hbc => by simp at *; omega)
      (fun a b => by simp; omega) _
  exact h.imp fun hab => by simpa using hab

theorem inOrder_proper (is : List Interval) : ∀ i ∈ inOrder is, i.lo ≤ i.hi := by
  intro i hi
  simp only [inOrder, List.mem_mergeSort, List.mem_filter] at hi
  simpa using hi.2

theorem lo_le_of_mem_join {i : Interval} {is : List Interval}
    (h : (i :: is).Pairwise fun a b => a.lo ≤ b.lo) : ∀ j ∈ join i is, i.lo ≤ j.lo := by
  induction is generalizing i with
  | nil => simp [join]
  | cons j js ih =>
      rw [List.pairwise_cons] at h
      intro k hk
      rw [join] at hk
      split at hk
      · refine ih (i := ⟨i.lo, max i.hi j.hi⟩) ?_ k hk
        rw [List.pairwise_cons]
        exact ⟨fun x hx => h.1 x (by simp [hx]), (List.pairwise_cons.1 h.2).2⟩
      · rcases List.mem_cons.1 hk with rfl | hk
        · exact Nat.le_refl _
        · exact Nat.le_trans (h.1 j (by simp)) (ih h.2 k hk)

theorem join_apart {i : Interval} {is : List Interval}
    (h : (i :: is).Pairwise fun a b => a.lo ≤ b.lo) :
    (join i is).Pairwise Interval.Before := by
  induction is generalizing i with
  | nil => simp [join]
  | cons j js ih =>
      rw [List.pairwise_cons] at h
      rw [join]
      split
      · refine ih ?_
        rw [List.pairwise_cons]
        exact ⟨fun x hx => h.1 x (by simp [hx]), (List.pairwise_cons.1 h.2).2⟩
      · rename_i hgap
        rw [List.pairwise_cons]
        refine ⟨fun k hk => ?_, ih h.2⟩
        have := lo_le_of_mem_join h.2 k hk
        simp only [Interval.Before]
        omega

theorem join_proper {i : Interval} {is : List Interval} (h : ∀ j ∈ i :: is, j.lo ≤ j.hi) :
    ∀ j ∈ join i is, j.lo ≤ j.hi := by
  induction is generalizing i with
  | nil => simpa [join] using h
  | cons j js ih =>
      have hi := h i (by simp)
      have hjs : ∀ k ∈ js, k.lo ≤ k.hi := fun k hk => h k (by simp [hk])
      rw [join]
      split
      · refine ih fun k hk => ?_
        rcases List.mem_cons.1 hk with rfl | hk
        · exact Nat.le_trans hi (Nat.le_max_left ..)
        · exact hjs k hk
      · intro k hk
        rcases List.mem_cons.1 hk with rfl | hk
        · exact hi
        · exact ih (fun x hx => h x (List.mem_cons_of_mem _ hx)) k hk

/-- The set that intervals in any order cover. -/
def ofIntervals (is : List Interval) : CharSet where
  intervals := joinAll (inOrder is)
  proper := by
    have h := inOrder_proper is
    revert h
    cases inOrder is with
    | nil => simp [joinAll]
    | cons i js => exact join_proper
  apart := by
    have h := inOrder_sorted is
    revert h
    cases inOrder is with
    | nil => intro _; exact List.Pairwise.nil
    | cons i js => exact join_apart

/-- The set of a table. -/
def ofText (lines : List String) : CharSet := ofIntervals (intervalsOfText lines)

/-- The set without members. -/
def empty : CharSet := ⟨[], by simp, List.Pairwise.nil⟩

/-- The code points from `lo` to `hi`, both included. -/
def range (lo hi : Nat) : CharSet := ofIntervals [⟨lo, hi⟩]

/-- The set of one character. -/
def single (c : Char) : CharSet := range c.toNat c.toNat

/-- Every character. -/
def all : CharSet := range 0 0x10FFFF

/-- What is in one of two sets. -/
def union (a b : CharSet) : CharSet := ofIntervals (a.intervals ++ b.intervals)

/-- What is in one of several sets. -/
def unions (ss : List CharSet) : CharSet := ofIntervals (ss.flatMap intervals)

/-- The gaps between intervals in increasing order, from `next` on. -/
def gaps : (next : Nat) → List Interval → List Interval
  | next, [] => [⟨next, 0x10FFFF⟩]
  | next, i :: is =>
      if next < i.lo then ⟨next, i.lo - 1⟩ :: gaps (i.hi + 1) is else gaps (i.hi + 1) is

/-- The code points that are no characters. -/
def surrogates : Interval := ⟨0xD800, 0xDFFF⟩

/-- All characters outside the set. -/
def compl (s : CharSet) : CharSet :=
  ofIntervals (gaps 0 (ofIntervals (surrogates :: s.intervals)).intervals)

/-- What is in both of two sets. -/
def inter (a b : CharSet) : CharSet := compl (union (compl a) (compl b))

/-- What is in the first of two sets and not in the second. -/
def diff (a b : CharSet) : CharSet := compl (union (compl a) b)

/-! ### Looking at a set -/

/-- Whether the set has no members. -/
def isEmpty (s : CharSet) : Bool := s.intervals.isEmpty

/-- The only member of the set, if it has one and no more. -/
def single? (s : CharSet) : Option Char :=
  match s.intervals with
  | [i] => if i.lo == i.hi then some (Char.ofNat i.lo) else none
  | _ => none

/-! ### What the operations do to membership -/

theorem hasCode_iff {is : List Interval} (hne : ∀ i ∈ is, i.lo ≤ i.hi)
    (h : is.Pairwise Interval.Before) {n : Nat} :
    hasCode is n = true ↔ ∃ i ∈ is, i.lo ≤ n ∧ n ≤ i.hi := by
  induction is with
  | nil => simp [hasCode]
  | cons i is ih =>
      rw [List.pairwise_cons] at h
      rw [hasCode]
      split
      · rename_i hn
        simp only [Bool.false_eq_true, List.mem_cons, exists_eq_or_imp, false_iff, not_or]
        refine ⟨by omega, ?_⟩
        rintro ⟨j, hj, hlo, -⟩
        have := h.1 j hj
        have hi := hne i (by simp)
        simp only [Interval.Before] at this
        omega
      · have hrec := ih (fun j hj => hne j (by simp [hj])) h.2
        simp only [Bool.or_eq_true, decide_eq_true_eq, hrec, List.mem_cons, exists_eq_or_imp]
        constructor
        · rintro (h1 | h1)
          · exact Or.inl ⟨by omega, h1⟩
          · exact Or.inr h1
        · rintro (⟨-, h1⟩ | h1)
          · exact Or.inl h1
          · exact Or.inr h1

theorem exists_mem_join {i : Interval} {is : List Interval}
    (h : (i :: is).Pairwise fun a b => a.lo ≤ b.lo) {n : Nat} :
    (∃ j ∈ join i is, j.lo ≤ n ∧ n ≤ j.hi) ↔ ∃ j ∈ i :: is, j.lo ≤ n ∧ n ≤ j.hi := by
  induction is generalizing i with
  | nil => simp [join]
  | cons j js ih =>
      rw [List.pairwise_cons] at h
      have hij := h.1 j (by simp)
      rw [join]
      split
      · rw [ih (by
          rw [List.pairwise_cons]
          exact ⟨fun x hx => h.1 x (by simp [hx]), (List.pairwise_cons.1 h.2).2⟩)]
        simp only [List.mem_cons, exists_eq_or_imp]
        constructor
        · rintro (h1 | h1)
          · by_cases hn : n ≤ i.hi
            · exact Or.inl ⟨h1.1, hn⟩
            · exact Or.inr (Or.inl ⟨by omega, by have := h1.2; omega⟩)
          · exact Or.inr (Or.inr h1)
        · rintro (h1 | h1 | h1)
          · exact Or.inl ⟨h1.1, by have := h1.2; omega⟩
          · exact Or.inl ⟨by have := h1.1; omega, by have := h1.2; omega⟩
          · exact Or.inr h1
      · simp only [List.mem_cons, exists_eq_or_imp, ih h.2]

theorem hasCode_ofIntervals {is : List Interval} {n : Nat} :
    hasCode (ofIntervals is).intervals n = true ↔ ∃ i ∈ is, i.lo ≤ n ∧ n ≤ i.hi := by
  rw [hasCode_iff (ofIntervals is).proper (ofIntervals is).apart]
  have hmem : (∃ i ∈ inOrder is, i.lo ≤ n ∧ n ≤ i.hi) ↔ ∃ i ∈ is, i.lo ≤ n ∧ n ≤ i.hi := by
    constructor
    · rintro ⟨i, hi, hn⟩
      simp only [inOrder, List.mem_mergeSort, List.mem_filter] at hi
      exact ⟨i, hi.1, hn⟩
    · rintro ⟨i, hi, hn⟩
      refine ⟨i, ?_, hn⟩
      simp only [inOrder, List.mem_mergeSort, List.mem_filter]
      exact ⟨hi, by simp; omega⟩
  rw [← hmem]
  have h := inOrder_sorted is
  show (∃ i ∈ joinAll (inOrder is), _) ↔ _
  revert h
  cases inOrder is with
  | nil => intro _; simp [joinAll]
  | cons i js => intro h; exact exists_mem_join h

theorem hasCode_gaps {is : List Interval} (h : is.Pairwise Interval.Before)
    (hne : ∀ i ∈ is, i.lo ≤ i.hi) {n : Nat} (hn : n ≤ 0x10FFFF) (next : Nat)
    (hnext : ∀ i ∈ is, next ≤ i.lo) :
    (∃ i ∈ gaps next is, i.lo ≤ n ∧ n ≤ i.hi) ↔
      next ≤ n ∧ ¬ ∃ i ∈ is, i.lo ≤ n ∧ n ≤ i.hi := by
  induction is generalizing next with
  | nil => simp [gaps, hn]
  | cons i is ih =>
      rw [List.pairwise_cons] at h
      have hi := hne i (by simp)
      have hlo := hnext i (by simp)
      have hrest : ∀ j ∈ is, i.hi + 1 ≤ j.lo := fun j hj => by
        have := h.1 j hj
        simp only [Interval.Before] at this
        omega
      have hrec := ih h.2 (fun j hj => hne j (by simp [hj])) (i.hi + 1) hrest
      have hbeyond : (∃ j ∈ is, j.lo ≤ n ∧ n ≤ j.hi) → i.hi + 1 ≤ n := by
        rintro ⟨j, hj, h1, -⟩
        have := hrest j hj
        omega
      rw [gaps]
      split
      · simp only [List.mem_cons, exists_eq_or_imp, hrec, not_or]
        constructor
        · rintro (⟨h1, h2⟩ | ⟨h1, h2⟩)
          · exact ⟨h1, by omega, fun hx => by have := hbeyond hx; omega⟩
          · exact ⟨by omega, by omega, h2⟩
        · rintro ⟨h1, h2, h3⟩
          by_cases hn' : n < i.lo
          · exact Or.inl ⟨h1, by omega⟩
          · exact Or.inr ⟨by omega, h3⟩
      · rw [hrec]
        simp only [List.mem_cons, exists_eq_or_imp, not_or]
        constructor
        · rintro ⟨h1, h2⟩
          exact ⟨by omega, by omega, h2⟩
        · rintro ⟨h1, h2, h3⟩
          exact ⟨by omega, h3⟩

@[simp] theorem has_empty (c : Char) : empty.has c = false := rfl

theorem has_range {lo hi : Nat} {c : Char} :
    (range lo hi).has c = true ↔ lo ≤ c.toNat ∧ c.toNat ≤ hi := by
  simp [has, range, hasCode_ofIntervals]

@[simp] theorem has_single (c d : Char) : (single c).has d = (d == c) := by
  rw [Bool.eq_iff_iff, single, has_range]
  simp only [beq_iff_eq]
  constructor
  · intro h
    exact Char.toNat_inj.1 (by omega)
  · rintro rfl
    exact ⟨Nat.le_refl _, Nat.le_refl _⟩

@[simp] theorem has_union (a b : CharSet) (c : Char) :
    (union a b).has c = (a.has c || b.has c) := by
  rw [Bool.eq_iff_iff, Bool.or_eq_true]
  simp only [has, union, hasCode_ofIntervals, hasCode_iff a.proper a.apart,
    hasCode_iff b.proper b.apart, List.mem_append, or_and_right, exists_or]

/-- No character is a surrogate, and none lies beyond the last code
point. -/
theorem toNat_bounds (c : Char) :
    c.toNat ≤ 0x10FFFF ∧ ¬ (0xD800 ≤ c.toNat ∧ c.toNat ≤ 0xDFFF) := by
  have h := c.valid
  have : c.toNat = c.val.toNat := rfl
  simp only [UInt32.isValidChar, Nat.isValidChar] at h
  omega

@[simp] theorem has_compl (a : CharSet) (c : Char) : (compl a).has c = !a.has c := by
  have hc := toNat_bounds c
  have hs := (ofIntervals (surrogates :: a.intervals)).proper
  have hp := (ofIntervals (surrogates :: a.intervals)).apart
  have hgaps := hasCode_gaps hp hs hc.1 0 (fun _ _ => Nat.zero_le _)
  have hin : hasCode (ofIntervals (surrogates :: a.intervals)).intervals c.toNat = true ↔
      ∃ i ∈ surrogates :: a.intervals, i.lo ≤ c.toNat ∧ c.toNat ≤ i.hi :=
    hasCode_ofIntervals
  rw [hasCode_iff hs hp] at hin
  have hnone : ¬ (surrogates.lo ≤ c.toNat ∧ c.toNat ≤ surrogates.hi) := hc.2
  rw [Bool.eq_iff_iff, Bool.not_eq_true', ← Bool.not_eq_true]
  simp only [has, compl, hasCode_ofIntervals, hgaps, hin, hasCode_iff a.proper a.apart,
    List.mem_cons, exists_eq_or_imp, hnone, Nat.zero_le, true_and, false_or]

@[simp] theorem has_inter (a b : CharSet) (c : Char) :
    (inter a b).has c = (a.has c && b.has c) := by
  simp [inter]

@[simp] theorem has_diff (a b : CharSet) (c : Char) :
    (diff a b).has c = (a.has c && !b.has c) := by
  simp [diff]

end CharSet

end PipeShell.Unicode
