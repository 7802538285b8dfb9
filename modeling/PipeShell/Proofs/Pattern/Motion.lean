import PipeShell.Pattern.Motion

/-!
# `PipeShell.Proofs.Pattern.Motion`: moving places is matching

`Regex.Matches` says which stretches of a line a pattern matches.
`Regex.matchesLine` never looks at a stretch: it moves sets of places,
kept as bits. For patterns without repetitions the two come to the same.
A place `j` is reached from a set of places just when the pattern
matches the stretch from one of them to `j`.

* `testBit_setBits`, `testBit_placeBits`: the places where a set of
  characters or a condition holds.
* `spans_empty`, `spans_one`, `spans_look`, `spans_seq`, `spans_alt`,
  `spans_group`: the stretches of each kind of pattern.
* `testBit_reach`: where a pattern gets to, by induction over it.
* `matchesLine_iff`: when a line matches.
-/

set_option autoImplicit false

namespace PipeShell.Pattern

open Unicode

/-! ### Places where a set holds -/

/-- The bits gathered from any point on. -/
theorem foldl_setBits (s : CharSet) (index : List (Char × Nat)) (bits : Nat) :
    index.foldl (fun bits (c, places) => if s.has c then bits ||| places else bits) bits
      = bits ||| setBits index s := by
  induction index generalizing bits with
  | nil => simp [setBits]
  | cons entry index ih =>
      obtain ⟨c, places⟩ := entry
      rw [setBits, List.foldl_cons, List.foldl_cons, ih, ih]
      cases hc : s.has c <;> simp [hc, Nat.or_assoc]

theorem setBits_cons (c : Char) (places : Nat) (index : List (Char × Nat)) (s : CharSet) :
    setBits ((c, places) :: index) s = (if s.has c then places else 0) ||| setBits index s := by
  rw [setBits, List.foldl_cons, foldl_setBits]
  cases hc : s.has c <;> simp [hc]

/-- A place that is noted counts for the sets that hold its
character. -/
theorem setBits_notePlace (c : Char) (bit : Nat) (index : List (Char × Nat)) (s : CharSet) :
    setBits (notePlace c bit index) s = (if s.has c then bit else 0) ||| setBits index s := by
  induction index with
  | nil => rw [notePlace, setBits_cons]
  | cons entry index ih =>
      obtain ⟨d, places⟩ := entry
      rw [notePlace]
      split
      · rename_i hd
        obtain rfl : d = c := beq_iff_eq.mp hd
        rw [setBits_cons, setBits_cons]
        cases s.has d
        · simp
        · simp only [if_true, ← Nat.or_assoc]
          rw [Nat.or_comm places bit]
      · rw [setBits_cons, setBits_cons, ih, ← Nat.or_assoc, ← Nat.or_assoc,
          Nat.or_comm (if s.has d then places else 0)]

theorem testBit_setBits_from (k : Nat) (cs : List Char) (s : CharSet) (i : Nat) :
    (setBits (charIndex (1 <<< k) cs) s).testBit i = true ↔
      ∃ n c, i = k + n ∧ cs[n]? = some c ∧ s.has c = true := by
  induction cs generalizing k with
  | nil => simp [charIndex, setBits]
  | cons c cs ih =>
      rw [charIndex, ← Nat.shiftLeft_succ, setBits_notePlace, Nat.testBit_or, Bool.or_eq_true, ih]
      constructor
      · rintro (hfirst | ⟨n, d, rfl, hd, hs⟩)
        · split at hfirst
          · rename_i hs
            rw [Nat.one_shiftLeft, Nat.testBit_two_pow, decide_eq_true_eq] at hfirst
            exact ⟨0, c, hfirst.symm, rfl, hs⟩
          · simp at hfirst
        · exact ⟨n + 1, d, by omega, hd, hs⟩
      · rintro ⟨n | n, d, rfl, hd, hs⟩
        · obtain rfl : c = d := by simpa using hd
          simp [hs]
        · exact .inr ⟨n, d, by omega, by simpa using hd, hs⟩

/-- The bits of a set are the places before its characters. -/
theorem testBit_setBits (cs : List Char) (s : CharSet) (i : Nat) :
    (setBits (charIndex 1 cs) s).testBit i = true ↔
      ∃ c, cs[i]? = some c ∧ s.has c = true := by
  have hone : 1 = 1 <<< 0 := rfl
  rw [hone, testBit_setBits_from]
  simp

/-- The bits of a condition are the places between whose neighbours it
holds; `left` stands before the line, nearest character first. -/
theorem testBit_placeBits (q : Option Char → Option Char → Bool) (left cs : List Char) (i : Nat) :
    (placeBits q left.head? cs).testBit i = true ↔
      ∃ before after, cs = before ++ after ∧ before.length = i ∧
        q (before.reverse ++ left).head? after.head? = true := by
  induction cs generalizing left i with
  | nil =>
      have hnil : (∃ before after, ([] : List Char) = before ++ after ∧ before.length = i ∧
          q (before.reverse ++ left).head? after.head? = true) ↔
          i = 0 ∧ q left.head? none = true := by
        constructor
        · rintro ⟨before, after, hsplit, rfl, hq⟩
          obtain ⟨rfl, rfl⟩ := List.append_eq_nil_iff.mp hsplit.symm
          exact ⟨rfl, hq⟩
        · rintro ⟨rfl, hq⟩
          exact ⟨[], [], rfl, rfl, hq⟩
      rw [hnil, placeBits]
      cases q left.head? none <;> simp [Nat.testBit_one_eq_true_iff_self_eq_zero]
  | cons c cs ih =>
      rw [placeBits]
      cases i with
      | zero =>
          have hfirst : (∃ before after, c :: cs = before ++ after ∧ before.length = 0 ∧
              q (before.reverse ++ left).head? after.head? = true) ↔
              q left.head? (some c) = true := by
            constructor
            · rintro ⟨before, after, hsplit, hlength, hq⟩
              obtain rfl := List.eq_nil_of_length_eq_zero hlength
              rw [List.nil_append] at hsplit
              rwa [← hsplit] at hq
            · intro hq
              exact ⟨[], c :: cs, rfl, rfl, hq⟩
          rw [hfirst, Nat.testBit_zero, decide_eq_true_eq]
          cases q left.head? (some c) <;> simp
      | succ i =>
          have hhalf : (2 * placeBits q (some c) cs + (q left.head? (some c)).toNat) / 2
              = placeBits q (c :: left).head? cs := by
            have hbit := Bool.toNat_le (q left.head? (some c))
            rw [List.head?_cons]
            omega
          rw [Nat.testBit_succ, hhalf, ih]
          constructor
          · rintro ⟨before, after, rfl, rfl, hq⟩
            exact ⟨c :: before, after, rfl, rfl, by simpa using hq⟩
          · rintro ⟨before, after, hsplit, hlength, hq⟩
            cases before with
            | nil => cases hlength
            | cons d before =>
                obtain ⟨rfl, rfl⟩ := List.cons.inj hsplit
                exact ⟨before, after, rfl, by simpa using hlength, by simpa using hq⟩

/-! ### Stretches -/

/-- The pattern matches the stretch of the line from place `i` to place
`j`. -/
def Regex.Spans (r : Regex) (line : List Char) (i j : Nat) : Prop :=
  ∃ before s after, line = before ++ s ++ after ∧ i = before.length ∧ j = i + s.length ∧
    r.Matches before.reverse s after

/-- Nothing in the pattern is repeated. -/
def Regex.isPlain : Regex → Bool
  | empty => true
  | one _ => true
  | look _ => true
  | seq a b => a.isPlain && b.isPlain
  | alt a b => a.isPlain && b.isPlain
  | rep _ _ _ => false
  | group _ r => r.isPlain

section
variable {cs : List Char} {i j : Nat}

theorem Regex.Spans.le_length {r : Regex} (h : r.Spans cs i j) : j ≤ cs.length := by
  obtain ⟨before, s, after, rfl, rfl, rfl, -⟩ := h
  simp only [List.length_append]
  omega

theorem spans_empty : Regex.empty.Spans cs i j ↔ i ≤ cs.length ∧ j = i := by
  constructor
  · rintro ⟨before, s, after, rfl, rfl, rfl, hmatch⟩
    cases hmatch
    simp
  · rintro ⟨hi, rfl⟩
    exact ⟨cs.take j, [], cs.drop j, by simp, by simp [hi], rfl, .empty⟩

theorem spans_one {set : CharSet} :
    (Regex.one set).Spans cs i j ↔ j = i + 1 ∧ ∃ c, cs[i]? = some c ∧ set.has c = true := by
  constructor
  · rintro ⟨before, s, after, rfl, rfl, rfl, hmatch⟩
    cases hmatch with
    | one hc => exact ⟨rfl, _, by simp, hc⟩
  · rintro ⟨rfl, c, hc, hset⟩
    obtain ⟨hi, rfl⟩ := List.getElem?_eq_some_iff.mp hc
    refine ⟨cs.take i, [cs[i]], cs.drop (i + 1), ?_, ?_, rfl, .one hset⟩
    · simp
    · simp
      omega

theorem spans_look {l : Look} :
    (Regex.look l).Spans cs i j ↔
      j = i ∧ ∃ before after, cs = before ++ after ∧ before.length = i ∧
        l.holds before.reverse.head? after.head? = true := by
  constructor
  · rintro ⟨before, s, after, rfl, rfl, rfl, hmatch⟩
    cases hmatch with
    | look hl => exact ⟨rfl, before, after, by simp, rfl, hl⟩
  · rintro ⟨rfl, before, after, rfl, rfl, hl⟩
    exact ⟨before, [], after, by simp, rfl, rfl, .look hl⟩

theorem spans_seq {a b : Regex} :
    (Regex.seq a b).Spans cs i j ↔ ∃ k, a.Spans cs i k ∧ b.Spans cs k j := by
  constructor
  · rintro ⟨before, s, after, rfl, rfl, rfl, hmatch⟩
    cases hmatch with
    | @seq _ _ _ s t _ ha hb =>
        refine ⟨before.length + s.length, ⟨before, s, t ++ after, by simp, rfl, rfl, ha⟩,
          ⟨before ++ s, t, after, by simp, by simp, ?_, by simpa using hb⟩⟩
        simp only [List.length_append]
        omega
  · rintro ⟨k, ⟨before, s, rest, rfl, rfl, rfl, ha⟩, ⟨before', t, after, hsame, hlength, rfl, hb⟩⟩
    rw [List.append_assoc before' t after] at hsame
    -- Both stretches are cut out of one line at the same place.
    obtain ⟨rfl, rfl⟩ := List.append_inj hsame (by rw [List.length_append, hlength])
    refine ⟨before, s ++ t, after, by simp, rfl, ?_, .seq ha (by simpa using hb)⟩
    simp only [List.length_append]
    omega

theorem spans_alt {a b : Regex} :
    (Regex.alt a b).Spans cs i j ↔ a.Spans cs i j ∨ b.Spans cs i j := by
  constructor
  · rintro ⟨before, s, after, hcs, hi, hj, hmatch⟩
    cases hmatch with
    | altLeft ha => exact .inl ⟨before, s, after, hcs, hi, hj, ha⟩
    | altRight hb => exact .inr ⟨before, s, after, hcs, hi, hj, hb⟩
  · rintro (⟨before, s, after, hcs, hi, hj, ha⟩ | ⟨before, s, after, hcs, hi, hj, hb⟩)
    · exact ⟨before, s, after, hcs, hi, hj, .altLeft ha⟩
    · exact ⟨before, s, after, hcs, hi, hj, .altRight hb⟩

theorem spans_group {kept : Bool} {r : Regex} :
    (Regex.group kept r).Spans cs i j ↔ r.Spans cs i j := by
  constructor
  · rintro ⟨before, s, after, hcs, hi, hj, hmatch⟩
    cases hmatch with
    | group hr => exact ⟨before, s, after, hcs, hi, hj, hr⟩
  · rintro ⟨before, s, after, hcs, hi, hj, hr⟩
    exact ⟨before, s, after, hcs, hi, hj, .group hr⟩

end

/-! ### Motions -/

namespace Motion

/-- Where a pattern without repetitions gets to. What it remembers plays
no part. -/
theorem testBit_reach {r : Regex} (hplain : r.isPlain = true) (line : List Char) (length : Nat)
    (memory : Memory) {places : Nat} (hplaces : ∀ i, places.testBit i = true → i ≤ line.length)
    (j : Nat) :
    (reach length (onLine line (charIndex 1 line) r) memory places).1.testBit j = true ↔
      ∃ i, places.testBit i = true ∧ r.Spans line i j := by
  induction r generalizing memory places j with
  | empty =>
      simp only [onLine, reach, spans_empty]
      constructor
      · intro hj
        exact ⟨j, hj, hplaces j hj, rfl⟩
      · rintro ⟨i, hi, -, rfl⟩
        exact hi
  | one s =>
      simp only [onLine, reach, spans_one, Nat.testBit_shiftLeft, Nat.testBit_and,
        Bool.and_eq_true, decide_eq_true_eq, testBit_setBits]
      constructor
      · rintro ⟨hj, hplace, c, hc, hs⟩
        exact ⟨j - 1, hplace, by omega, c, hc, hs⟩
      · rintro ⟨i, hi, rfl, c, hc, hs⟩
        exact ⟨by omega, hi, c, hc, hs⟩
  | look l =>
      have hgate := testBit_placeBits l.holds [] line j
      rw [List.head?_nil] at hgate
      simp only [onLine, reach, spans_look, Nat.testBit_and, Bool.and_eq_true, hgate,
        List.append_nil]
      constructor
      · rintro ⟨hj, hholds⟩
        exact ⟨j, hj, rfl, hholds⟩
      · rintro ⟨i, hi, rfl, hholds⟩
        exact ⟨hi, hholds⟩
  | seq a b iha ihb =>
      rw [Regex.isPlain, Bool.and_eq_true] at hplain
      simp only [onLine, reach, spans_seq]
      split
      · rename_i hzero
        obtain rfl : places = 0 := beq_iff_eq.mp hzero
        simp
      · have hbetween := iha hplain.1 memory.first hplaces
        rw [ihb hplain.2 memory.second fun k hk => ?_]
        · constructor
          · rintro ⟨k, hk, hb⟩
            obtain ⟨i, hi, ha⟩ := (hbetween k).mp hk
            exact ⟨i, hi, k, ha, hb⟩
          · rintro ⟨i, hi, k, ha, hb⟩
            exact ⟨k, (hbetween k).mpr ⟨i, hi, ha⟩, hb⟩
        · -- The first part ends inside the line, so the second starts there.
          obtain ⟨i, -, ha⟩ := (hbetween k).mp hk
          exact ha.le_length
  | alt a b iha ihb =>
      rw [Regex.isPlain, Bool.and_eq_true] at hplain
      simp only [onLine, reach, spans_alt]
      split
      · rename_i hzero
        obtain rfl : places = 0 := beq_iff_eq.mp hzero
        simp
      · rw [Nat.testBit_or, Bool.or_eq_true, iha hplain.1 memory.first hplaces,
          ihb hplain.2 memory.second hplaces]
        constructor
        · rintro (⟨i, hi, ha⟩ | ⟨i, hi, hb⟩)
          · exact ⟨i, hi, .inl ha⟩
          · exact ⟨i, hi, .inr hb⟩
        · rintro ⟨i, hi, ha | hb⟩
          · exact .inl ⟨i, hi, ha⟩
          · exact .inr ⟨i, hi, hb⟩
  | rep r least most ih => cases hplain
  | group kept r ih =>
      simp only [onLine, spans_group]
      exact ih hplain memory hplaces j

end Motion

/-- A pattern without repetitions matches a line just when it matches a
stretch of it. -/
theorem Regex.matchesLine_iff {r : Regex} (hplain : r.isPlain = true) (line : List Char) :
    r.matchesLine line = true ↔
      ∃ before s after, line = before ++ s ++ after ∧ r.Matches before.reverse s after := by
  have hall : ∀ i, (2 ^ (line.length + 1) - 1).testBit i = true ↔ i ≤ line.length := by
    intro i
    rw [Nat.testBit_two_pow_sub_one, decide_eq_true_eq, Nat.lt_succ_iff]
  have hreach := Motion.testBit_reach hplain line line.length .blank fun i => (hall i).mp
  have hsome : r.matchesLine line = true ↔ ∃ j, (Motion.reach line.length
      (Motion.onLine line (charIndex 1 line) r) .blank (2 ^ (line.length + 1) - 1)).1.testBit j
        = true := by
    rw [Regex.matchesLine, bne_iff_ne, Nat.pow_eq]
    constructor
    · exact Nat.exists_testBit_of_ne_zero
    · rintro ⟨j, hj⟩ hzero
      rw [hzero, Nat.zero_testBit] at hj
      cases hj
  rw [hsome]
  constructor
  · rintro ⟨j, hj⟩
    obtain ⟨i, -, before, s, after, hline, -, -, hmatch⟩ := (hreach j).mp hj
    exact ⟨before, s, after, hline, hmatch⟩
  · rintro ⟨before, s, after, hline, hmatch⟩
    have hi : before.length ≤ line.length := by
      rw [hline, List.append_assoc, List.length_append]
      omega
    exact ⟨before.length + s.length, (hreach _).mpr ⟨before.length, (hall _).mpr hi,
      before, s, after, hline, rfl, rfl, hmatch⟩⟩

end PipeShell.Pattern
