import PipeShell.Proofs.Text.Lines
import Mathlib.Data.Set.Card

/-!
# `PipeShell.Proofs.Text.Counts`: what the counts of a text count

The three counts of a text come from three walks over it, each with its
own rule for the end. Here each of them is said by the text itself: lines
by its newlines, words by its maximal runs without blanks, bytes by its
encoding.

A text of whole lines is empty or ends in a newline. Behind such a text
nothing is under way: no line, no word and no character goes on across
its end, so the counts of what follows are added to its own.

* `length_lines`: the number of lines.
* `wordCount_eq_countP`: the number of words is the number of places
  where a word starts.
* `IsWord.end_unique`, `exists_isWord`: each such place is the start of
  one maximal run.
* `encard_isWord`: so the number of words is that of the maximal runs.
* `Counts.isOf_of`: the three counts of a text.
* `Counts.of_append`: counts behind whole lines are added.
-/

set_option autoImplicit false

namespace PipeShell.Text

/-! ### Whole lines -/

/-- The text is empty, or a newline ends its last line. -/
def WholeLines (cs : List Char) : Prop := cs = [] ∨ cs.getLast? = some '\n'

instance (cs : List Char) : Decidable (WholeLines cs) :=
  inferInstanceAs (Decidable (_ ∨ _))

/-- What follows a newline decides whether the lines are whole. -/
theorem wholeLines_newline (cs rest : List Char) :
    WholeLines (cs ++ '\n' :: rest) ↔ WholeLines rest := by
  unfold WholeLines
  cases rest with
  | nil => simp
  | cons c rest => simp [List.getLast?_append, List.getLast?_cons]

/-- A newline ends a line, and a last line may do without. -/
theorem length_lines (cs : List Char) :
    (lines cs).length = cs.count '\n' + if WholeLines cs then 0 else 1 := by
  induction hlen : cs.length using Nat.strong_induction_on generalizing cs with
  | _ n ih =>
    subst hlen
    by_cases hmem : '\n' ∈ cs
    · -- The first newline ends the first line, and the rest has the other lines.
      obtain ⟨line, rest, rfl, hline⟩ := List.eq_append_cons_of_mem hmem
      have hshort : rest.length < (line ++ '\n' :: rest).length := by
        rw [List.length_append, List.length_cons]
        omega
      have hrest := ih rest.length hshort rest rfl
      have hnone : line.count '\n' = 0 := List.count_eq_zero.mpr hline
      rw [lines_newline hline, List.length_cons, hrest, List.count_append, hnone,
        List.count_cons_self]
      simp only [wholeLines_newline]
      omega
    · have hnone : cs.count '\n' = 0 := List.count_eq_zero.mpr hmem
      by_cases hcs : cs = []
      · subst hcs
        decide
      · have hopen : ¬ WholeLines cs := by
          rintro (rfl | hlast)
          · exact hcs rfl
          · exact hmem (List.mem_of_getLast? hlast)
        rw [lines_of_notMem hmem hcs, hnone, if_neg hopen]
        rfl

/-- Whole lines decide nothing about what follows them. -/
theorem WholeLines.append_iff {cs : List Char} (h : WholeLines cs) (ds : List Char) :
    WholeLines (cs ++ ds) ↔ WholeLines ds := by
  rcases h with rfl | hlast
  · rw [List.nil_append]
  · obtain ⟨init, rfl⟩ := List.getLast?_eq_some_iff.mp hlast
    rw [List.append_assoc, List.singleton_append, wholeLines_newline]

/-- The lines of a text behind whole lines are lines of their own. -/
theorem length_lines_append {cs : List Char} (h : WholeLines cs) (ds : List Char) :
    (lines (cs ++ ds)).length = (lines cs).length + (lines ds).length := by
  rw [length_lines (cs ++ ds), length_lines cs, length_lines ds, List.count_append, if_pos h]
  simp only [h.append_iff]
  omega

/-! ### Words -/

/-- There is a character that is no blank at this place. -/
def hasInk (cs : List Char) (i : Nat) : Bool := cs[i]?.any (!isBlank ·)

/-- The characters from place `i` up to place `j` are a word: none of them
is a blank, and the run can be made longer on neither side. -/
structure IsWord (cs : List Char) (i j : Nat) : Prop where
  nonempty : i < j
  inside : ∀ k, i ≤ k → k < j → hasInk cs k = true
  before : ∀ k, k + 1 = i → hasInk cs k = false
  after : hasInk cs j = false

/-- A word starts at this place. `inside` says whether one is under way
when the text begins. -/
def startsWord (inside : Bool) (cs : List Char) : Nat → Bool
  | 0 => hasInk cs 0 && !inside
  | i + 1 => hasInk cs (i + 1) && !hasInk cs i

theorem startsWord_cons_succ (inside : Bool) (c : Char) (cs : List Char) (i : Nat) :
    startsWord inside (c :: cs) (i + 1) = startsWord (!isBlank c) cs i := by
  cases i with
  | zero => simp [startsWord, hasInk]
  | succ i => simp [startsWord, hasInk]

/-- The words that are counted are the places where a word starts. -/
theorem wordCount_eq_countP (inside : Bool) (cs : List Char) :
    wordCount inside cs = (List.range cs.length).countP (startsWord inside cs) := by
  induction cs generalizing inside with
  | nil => rfl
  | cons c cs ih =>
      have hrest : (List.range cs.length).countP (startsWord inside (c :: cs) ∘ Nat.succ)
          = wordCount (!isBlank c) cs := by
        rw [ih]
        exact List.countP_congr fun i _ => by
          simp only [Function.comp_apply, Nat.succ_eq_add_one, startsWord_cons_succ]
      rw [List.length_cons, List.range_succ_eq_map, List.countP_cons, List.countP_map, hrest,
        wordCount]
      cases hc : isBlank c with
      | true => simp [startsWord, hasInk, hc]
      | false =>
          cases inside with
          | true => simp [startsWord, hasInk, hc]
          | false =>
              simp [startsWord, hasInk, hc]
              omega

/-- A place with a character on it is a place of the text. -/
theorem lt_length_of_hasInk {cs : List Char} {i : Nat} (h : hasInk cs i = true) :
    i < cs.length := by
  by_contra hi
  rw [hasInk, List.getElem?_eq_none (Nat.le_of_not_lt hi)] at h
  cases h

/-- A word starts where it says. -/
theorem IsWord.startsWord {cs : List Char} {i j : Nat} (h : IsWord cs i j) :
    startsWord false cs i = true := by
  have hink : hasInk cs i = true := h.inside i (Nat.le_refl i) h.nonempty
  cases i with
  | zero => simp [Text.startsWord, hink]
  | succ i => simp [Text.startsWord, hink, h.before i rfl]

/-- Two words that start at one place are the same. -/
theorem IsWord.end_unique {cs : List Char} {i j j' : Nat} (h : IsWord cs i j)
    (h' : IsWord cs i j') : j = j' := by
  -- The shorter one could go on to the end of the other.
  rcases Nat.lt_trichotomy j j' with hlt | heq | hlt
  · have hink := h'.inside j (Nat.le_of_lt h.nonempty) hlt
    rw [h.after] at hink
    cases hink
  · exact heq
  · have hink := h.inside j' (Nat.le_of_lt h'.nonempty) hlt
    rw [h'.after] at hink
    cases hink

/-- From the place where a word starts it goes on to the first blank, or
to the end of the text. -/
theorem exists_isWord {cs : List Char} {i : Nat} (h : startsWord false cs i = true) :
    ∃ j, IsWord cs i j := by
  have hink : hasInk cs i = true := by
    cases i <;> simp_all [startsWord]
  have hbefore : ∀ k, k + 1 = i → hasInk cs k = false := by
    rintro k rfl
    simp_all [startsWord]
  have hends : ∃ j, i ≤ j ∧ hasInk cs j = false := by
    refine ⟨cs.length, Nat.le_of_lt (lt_length_of_hasInk hink), ?_⟩
    simp [hasInk]
  obtain ⟨hle, hafter⟩ := Nat.find_spec hends
  refine ⟨Nat.find hends, ?_, ?_, hbefore, hafter⟩
  · refine Nat.lt_of_le_of_ne hle fun heq => ?_
    rw [← heq, hink] at hafter
    cases hafter
  · intro k hik hk
    have hmin := Nat.find_min hends hk
    simpa [hik] using hmin

/-- As many words are counted as there are maximal runs without
blanks. -/
theorem encard_isWord (cs : List Char) :
    {w : Nat × Nat | IsWord cs w.1 w.2}.encard = wordCount false cs := by
  let starts := (List.range cs.length).filter (startsWord false cs)
  -- A word is known by the place where it starts.
  have hinj : Set.InjOn Prod.fst {w : Nat × Nat | IsWord cs w.1 w.2} := by
    rintro ⟨i, j⟩ hw ⟨i', j'⟩ hw' heq
    obtain rfl : i = i' := heq
    have hfirst : IsWord cs i j := hw
    obtain rfl : j = j' := hfirst.end_unique hw'
    rfl
  have himage : Prod.fst '' {w : Nat × Nat | IsWord cs w.1 w.2} = (starts.toFinset : Set Nat) := by
    ext i
    simp only [starts, Set.mem_image, Set.mem_ofPred_eq, List.coe_toFinset, List.mem_filter,
      List.mem_range]
    constructor
    · rintro ⟨⟨_, j⟩, hw, rfl⟩
      exact ⟨lt_length_of_hasInk (hw.inside _ (Nat.le_refl _) hw.nonempty), hw.startsWord⟩
    · rintro ⟨-, hstarts⟩
      obtain ⟨j, hj⟩ := exists_isWord hstarts
      exact ⟨(i, j), hj, rfl⟩
  have hnodup : starts.Nodup := List.nodup_range.filter _
  rw [← hinj.encard_image, himage, Set.encard_coe_eq_coe_finsetCard,
    List.toFinset_card_of_nodup hnodup, wordCount_eq_countP, List.countP_eq_length_filter]

/-! ### Counts that are added -/

/-- The words of two texts. The second one begins inside a word if the
first one ends in one. -/
theorem wordCount_append (inside : Bool) (cs ds : List Char) :
    wordCount inside (cs ++ ds)
      = wordCount inside cs + wordCount ((cs.getLast?.map (!isBlank ·)).getD inside) ds := by
  induction cs generalizing inside with
  | nil => simp [wordCount]
  | cons c cs ih =>
      have hlast : ((c :: cs).getLast?.map (!isBlank ·)).getD inside
          = (cs.getLast?.map (!isBlank ·)).getD (!isBlank c) := by
        rw [List.getLast?_cons]
        cases cs.getLast? <;> rfl
      rw [hlast, List.cons_append, wordCount, wordCount]
      cases hc : isBlank c with
      | true => simp [ih]
      | false =>
          simp [ih]
          omega

namespace Counts

/-- The counts are those of the text: its newlines and a last line
without one, its maximal runs without blanks, and its bytes. -/
structure IsOf (c : Counts) (s : String) : Prop where
  lines : c.lines = s.toList.count '\n' + if WholeLines s.toList then 0 else 1
  words : c.words = {w : Nat × Nat | IsWord s.toList w.1 w.2}.encard
  bytes : c.bytes = (Utf8.encode s).length

/-- What is counted is what there is. -/
theorem isOf_of (s : String) : (of s).IsOf s where
  lines := length_lines s.toList
  words := (encard_isWord s.toList).symm
  bytes := (Utf8.length_encode s).symm

/-- Counts are added one by one. -/
instance : Add Counts := ⟨fun c d => ⟨c.lines + d.lines, c.words + d.words, c.bytes + d.bytes⟩⟩

/-- Nothing goes on across the end of whole lines, so the counts of what
follows are added to theirs. -/
theorem of_append {a : String} (ha : WholeLines a.toList) (b : String) :
    of (a ++ b) = of a + of b := by
  have hlines : (Text.lines (a ++ b).toList).length
      = (Text.lines a.toList).length + (Text.lines b.toList).length := by
    rw [String.toList_append]
    exact length_lines_append ha b.toList
  have hwords : wordCount false (a ++ b).toList
      = wordCount false a.toList + wordCount false b.toList := by
    have hoff : (a.toList.getLast?.map (!isBlank ·)).getD false = false := by
      rcases ha with hnil | hlast
      · rw [hnil]
        rfl
      · rw [hlast]
        decide
    rw [String.toList_append, wordCount_append, hoff]
  show (⟨_, _, _⟩ : Counts) = ⟨_, _, _⟩
  rw [hlines, hwords, String.utf8ByteSize_append]
  rfl

end Counts

end PipeShell.Text
