import PipeShell.Unicode.Folding
import Mathlib.Data.List.Chain
import Mathlib.Data.Nat.Bitwise

/-!
# `PipeShell.Proofs.Unicode.Folding`: sets closed under case

`CharSet.folded` adds to a set where the runs take its members, and then
all that the runs take to one of these. That this is every character
with the same folding as a member rests on three facts about the table:
the runs are apart, so that a code point is folded by one run at most;
no run takes anything below zero, so that it can be turned around; and
no run starts where another one leads, so that a folding is not folded
again.

* `foldCode_of_has`, `foldCode_of_forall`: the folding of a code point,
  by the run that has it or for want of one.
* `foldCode_foldCode`: a folding is its own folding.
* `hasCode_withImages`: what the runs add to a set.
* `hasCode_folded`: a set closed under case, and from it
  `has_folded_single` for a single character.
-/

set_option autoImplicit false

namespace PipeShell.Unicode

/-! ### Runs -/

namespace FoldRow

/-- A run ends before another one starts. -/
def Before (r r' : FoldRow) : Prop := r.lo < r'.lo ∧ r.hi < r'.lo

instance (r r' : FoldRow) : Decidable (Before r r') := inferInstanceAs (Decidable (_ ∧ _))

instance : Trans Before Before Before where
  trans h h' := ⟨Nat.lt_trans h.1 h'.1, Nat.lt_trans h.2 h'.1⟩

/-- Where the run takes a code point. -/
def image (r : FoldRow) (n : Nat) : Nat := n + r.up - r.down

/-- The run has a first code point, goes on, and takes none of its code
points below zero. -/
def isSound (r : FoldRow) : Bool := r.lo ≤ r.hi && 0 < r.step && r.down ≤ r.lo + r.up

/-- The code points of a run, in order. -/
def codes (r : FoldRow) : List Nat := List.range' r.lo ((r.hi - r.lo) / r.step + 1) r.step

variable {r : FoldRow} {n : Nat}

theorem has_iff : r.has n = true ↔ r.lo ≤ n ∧ n ≤ r.hi ∧ (n - r.lo) % r.step = 0 := by
  simp [has, and_assoc]

theorem mem_codes (hsound : r.isSound = true) : n ∈ r.codes ↔ r.has n = true := by
  simp only [isSound, Bool.and_eq_true, decide_eq_true_eq] at hsound
  obtain ⟨⟨hproper, hstep⟩, -⟩ := hsound
  rw [codes, List.mem_range', has_iff]
  constructor
  · rintro ⟨i, hi, rfl⟩
    have hle : i * r.step ≤ r.hi - r.lo := (Nat.le_div_iff_mul_le hstep).mp (by omega)
    rw [Nat.mul_comm] at hle
    refine ⟨Nat.le_add_right _ _, by omega, ?_⟩
    rw [Nat.add_sub_cancel_left, Nat.mul_mod_right]
  · rintro ⟨hlo, hhi, hmod⟩
    refine ⟨(n - r.lo) / r.step, ?_, ?_⟩
    · exact Nat.lt_succ_of_le (Nat.div_le_div_right (by omega))
    · rw [Nat.mul_div_cancel' (Nat.dvd_of_mod_eq_zero hmod)]
      omega

/-- The run turned around takes every code point back. -/
theorem has_turned (hsound : r.isSound = true) :
    r.turned.has n = true ↔ ∃ k, r.has k = true ∧ r.image k = n ∧ r.turned.image n = k := by
  simp only [isSound, Bool.and_eq_true, decide_eq_true_eq] at hsound
  obtain ⟨⟨hle, -⟩, hdown⟩ := hsound
  simp only [has_iff, turned, image]
  constructor
  · rintro ⟨hlo, hhi, hmod⟩
    refine ⟨n + r.down - r.up, ⟨by omega, by omega, ?_⟩, by omega, rfl⟩
    rw [← hmod]
    congr 1
    omega
  · rintro ⟨k, ⟨hlo, hhi, hmod⟩, rfl, -⟩
    refine ⟨by omega, by omega, ?_⟩
    rw [← hmod]
    congr 1
    omega

end FoldRow

/-! ### The table -/

theorem foldRows_apart : foldRows.Pairwise FoldRow.Before :=
  List.isChain_iff_pairwise.mp (by decide +kernel)

theorem foldRows_sound : ∀ r ∈ foldRows, r.isSound = true :=
  List.all_eq_true.mp (by decide +kernel)

/-- A list of numbers as the bits of one. -/
def bitsOf (ns : List Nat) : Nat := ns.foldr (fun n bits => bits ||| 1 <<< n) 0

theorem testBit_bitsOf {ns : List Nat} {n : Nat} : (bitsOf ns).testBit n = true ↔ n ∈ ns := by
  induction ns with
  | nil => simp [bitsOf]
  | cons m ns ih =>
      have hcons : bitsOf (m :: ns) = bitsOf ns ||| 1 <<< m := rfl
      rw [hcons, Nat.testBit_or, Bool.or_eq_true, ih, Nat.one_shiftLeft, Nat.testBit_two_pow,
        decide_eq_true_eq, List.mem_cons, or_comm, eq_comm]

/-- No run starts where a run leads: the two sets of code points, as
bits, have none in common. -/
theorem foldRows_flat {r r' : FoldRow} (hr : r ∈ foldRows) (hr' : r' ∈ foldRows) {n : Nat}
    (hn : r.has n = true) : r'.has (r.image n) = false := by
  have hcommon : bitsOf (foldRows.flatMap FoldRow.codes)
      &&& bitsOf (foldRows.flatMap fun r => r.codes.map r.image) = 0 := by decide +kernel
  have hmem {r : FoldRow} (hr : r ∈ foldRows) {n : Nat} : n ∈ r.codes ↔ r.has n = true :=
    FoldRow.mem_codes (foldRows_sound r hr)
  by_contra hhas
  rw [Bool.not_eq_false] at hhas
  have hstart : (bitsOf (foldRows.flatMap FoldRow.codes)).testBit (r.image n) = true :=
    testBit_bitsOf.mpr (List.mem_flatMap.mpr ⟨r', hr', (hmem hr').mpr hhas⟩)
  have hlead : (bitsOf (foldRows.flatMap fun r => r.codes.map r.image)).testBit (r.image n)
      = true :=
    testBit_bitsOf.mpr (List.mem_flatMap.mpr
      ⟨r, hr, List.mem_map.mpr ⟨n, (hmem hr).mpr hn, rfl⟩⟩)
  have hboth := congrArg (Nat.testBit · (r.image n)) hcommon
  simp [Nat.testBit_and, hstart, hlead] at hboth

/-! ### Foldings -/

theorem foldThrough_of_has {rows : List FoldRow} (h : rows.Pairwise FoldRow.Before)
    {r : FoldRow} (hr : r ∈ rows) {n : Nat} (hn : r.has n = true) :
    foldThrough rows n = r.image n := by
  induction rows with
  | nil => cases hr
  | cons r' rows ih =>
      obtain ⟨hbefore, hrows⟩ := List.pairwise_cons.mp h
      have hlo : r.lo ≤ n := (FoldRow.has_iff.mp hn).1
      rw [foldThrough]
      rcases List.mem_cons.mp hr with rfl | hr
      · rw [if_neg (by omega), if_pos hn]
        rfl
      · -- The code point lies in a later run, so beyond the end of this one.
        have hlater := hbefore r hr
        have hnot : ¬r'.has n = true := by
          intro hhas
          have := (FoldRow.has_iff.mp hhas).2.1
          have := hlater.2
          omega
        rw [if_neg (by have := hlater.1; omega), if_neg hnot, ih hrows hr]

theorem foldThrough_of_forall {rows : List FoldRow} {n : Nat}
    (h : ∀ r ∈ rows, r.has n = false) : foldThrough rows n = n := by
  induction rows with
  | nil => rfl
  | cons r rows ih =>
      rw [foldThrough, h r (by simp), ih fun r hr => h r (List.mem_cons_of_mem _ hr)]
      simp

theorem foldCode_of_has {r : FoldRow} (hr : r ∈ foldRows) {n : Nat} (hn : r.has n = true) :
    foldCode n = r.image n := foldThrough_of_has foldRows_apart hr hn

theorem foldCode_of_forall {n : Nat} (h : ∀ r ∈ foldRows, r.has n = false) : foldCode n = n :=
  foldThrough_of_forall h

/-- Either a run folds the code point, or it is its own folding. -/
theorem foldCode_cases (n : Nat) :
    (∃ r ∈ foldRows, r.has n = true ∧ foldCode n = r.image n) ∨ foldCode n = n := by
  by_cases h : ∃ r ∈ foldRows, r.has n = true
  · obtain ⟨r, hr, hn⟩ := h
    exact .inl ⟨r, hr, hn, foldCode_of_has hr hn⟩
  · exact .inr (foldCode_of_forall fun r hr => by simpa using fun hn => h ⟨r, hr, hn⟩)

/-- A folding is its own folding. -/
theorem foldCode_foldCode (n : Nat) : foldCode (foldCode n) = foldCode n := by
  rcases foldCode_cases n with ⟨r, hr, hn, hfold⟩ | hfold
  · rw [hfold]
    exact foldCode_of_forall fun r' hr' => foldRows_flat hr hr' hn
  · rw [hfold, hfold]

/-! ### Sets -/

namespace CharSet

theorem exists_mem_images {r : FoldRow} {i : Interval} {n : Nat} :
    (∃ j ∈ r.images i, j.lo ≤ n ∧ n ≤ j.hi) ↔
      ∃ k, i.lo ≤ k ∧ k ≤ i.hi ∧ r.has k = true ∧ r.image k = n := by
  simp only [FoldRow.images, List.mem_filterMap, List.mem_range'_1, Option.ite_none_right_eq_some,
    Option.some.injEq]
  constructor
  · rintro ⟨j, ⟨k, hk, hhas, rfl⟩, hlo, hhi⟩
    exact ⟨k, by omega, by omega, hhas, Nat.le_antisymm hlo hhi⟩
  · rintro ⟨k, hlo, hhi, hhas, rfl⟩
    have hrun := FoldRow.has_iff.mp hhas
    exact ⟨⟨r.image k, r.image k⟩, ⟨k, ⟨by omega, by omega⟩, hhas, rfl⟩, Nat.le_refl _,
      Nat.le_refl _⟩

/-- What runs add to a set: where they take its members. -/
theorem hasCode_withImages {rows : List FoldRow} {s : CharSet} {n : Nat} :
    hasCode (s.withImages rows).intervals n = true ↔
      hasCode s.intervals n = true ∨
        ∃ r ∈ rows, ∃ k, hasCode s.intervals k = true ∧ r.has k = true ∧ r.image k = n := by
  have hunion : ∀ a b : CharSet, hasCode (union a b).intervals n = true ↔
      hasCode a.intervals n = true ∨ hasCode b.intervals n = true := by
    intro a b
    simp only [union, hasCode_ofIntervals, hasCode_iff a.proper a.apart,
      hasCode_iff b.proper b.apart, List.mem_append, or_and_right, exists_or]
  rw [withImages, hunion, hasCode_ofIntervals]
  refine or_congr_right ?_
  constructor
  · rintro ⟨j, hj, hin⟩
    obtain ⟨r, hr, hj⟩ := List.mem_flatMap.mp hj
    obtain ⟨i, hi, hj⟩ := List.mem_flatMap.mp hj
    obtain ⟨k, hlo, hhi, hhas, himage⟩ := exists_mem_images.mp ⟨j, hj, hin⟩
    exact ⟨r, hr, k, (hasCode_iff s.proper s.apart).mpr ⟨i, hi, hlo, hhi⟩, hhas, himage⟩
  · rintro ⟨r, hr, k, hk, hhas, himage⟩
    obtain ⟨i, hi, hlo, hhi⟩ := (hasCode_iff s.proper s.apart).mp hk
    obtain ⟨j, hj, hin⟩ := exists_mem_images.mpr ⟨k, hlo, hhi, hhas, himage⟩
    exact ⟨j, List.mem_flatMap.mpr ⟨r, hr, List.mem_flatMap.mpr ⟨i, hi, hj⟩⟩, hin⟩

/-- A set with the foldings of its members. -/
theorem hasCode_withFoldings {s : CharSet} {n : Nat} :
    hasCode (s.withImages foldRows).intervals n = true ↔
      hasCode s.intervals n = true ∨ ∃ k, hasCode s.intervals k = true ∧ foldCode k = n := by
  rw [hasCode_withImages]
  constructor
  · rintro (hn | ⟨r, hr, k, hk, hhas, rfl⟩)
    · exact .inl hn
    · exact .inr ⟨k, hk, foldCode_of_has hr hhas⟩
  · rintro (hn | ⟨k, hk, rfl⟩)
    · exact .inl hn
    · rcases foldCode_cases k with ⟨r, hr, hhas, hfold⟩ | hfold
      · exact .inr ⟨r, hr, k, hk, hhas, hfold.symm⟩
      · exact .inl (hfold.symm ▸ hk)

/-- A set with all that folds to one of its members. -/
theorem hasCode_withUnfoldings {s : CharSet} {n : Nat} :
    hasCode (s.withImages (foldRows.map FoldRow.turned)).intervals n = true ↔
      hasCode s.intervals n = true ∨ hasCode s.intervals (foldCode n) = true := by
  rw [hasCode_withImages]
  constructor
  · rintro (hn | ⟨_, hturned, k, hk, hhas, rfl⟩)
    · exact .inl hn
    · obtain ⟨r, hr, rfl⟩ := List.mem_map.mp hturned
      obtain ⟨m, hm, rfl, hback⟩ := (FoldRow.has_turned (foldRows_sound r hr)).mp hhas
      rw [hback, foldCode_of_has hr hm]
      exact .inr hk
  · rintro (hn | hn)
    · exact .inl hn
    · rcases foldCode_cases n with ⟨r, hr, hhas, hfold⟩ | hfold
      · rw [hfold] at hn
        -- The run that folds the code point, turned around, leads back to it.
        have hdown : r.down ≤ n + r.up := by
          have hsound := foldRows_sound r hr
          simp only [FoldRow.isSound, Bool.and_eq_true, decide_eq_true_eq] at hsound
          have := (FoldRow.has_iff.mp hhas).1
          omega
        have hback : r.turned.image (r.image n) = n := by
          show n + r.up - r.down + r.down - r.up = n
          omega
        exact .inr ⟨r.turned, List.mem_map_of_mem hr, r.image n, hn,
          (FoldRow.has_turned (foldRows_sound r hr)).mpr ⟨n, hhas, rfl, hback⟩, hback⟩
      · exact .inl (hfold ▸ hn)

/-- A set closed under case holds just what has the folding of one of
its members. -/
theorem hasCode_folded {s : CharSet} {n : Nat} :
    hasCode s.folded.intervals n = true ↔
      ∃ k, hasCode s.intervals k = true ∧ foldCode k = foldCode n := by
  rw [folded, closed, hasCode_withUnfoldings, hasCode_withFoldings, hasCode_withFoldings]
  constructor
  · rintro ((hn | ⟨k, hk, rfl⟩) | hn | ⟨k, hk, hfold⟩)
    · exact ⟨n, hn, rfl⟩
    · exact ⟨k, hk, (foldCode_foldCode k).symm⟩
    · exact ⟨foldCode n, hn, foldCode_foldCode n⟩
    · exact ⟨k, hk, hfold⟩
  · rintro ⟨k, hk, hfold⟩
    exact .inr (.inr ⟨k, hk, hfold⟩)

/-- Closed under case, a character stands for those that are alike to
it. -/
theorem has_folded_single (c d : Char) : (single c).folded.has d = alike c d := by
  rw [Bool.eq_iff_iff, has, hasCode_folded, alike, fold, fold, beq_iff_eq]
  have hsingle : ∀ k, hasCode (single c).intervals k = true ↔ k = c.toNat := by
    intro k
    simp only [single, range, hasCode_ofIntervals, List.mem_singleton, exists_eq_left]
    omega
  simp [hsingle]

end CharSet

end PipeShell.Unicode
