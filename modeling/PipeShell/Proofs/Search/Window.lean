import PipeShell.Search
import Mathlib.Data.List.Basic

/-!
# `PipeShell.Proofs.Search.Window`: which lines a search keeps

`select` counts down the lines that are still owed to the last match.
The lines it keeps can be said without a counter: `InWindow` asks for a
match at most `after` lines back. The link between the two is `Owes`:
the counter after some lines is the number of lines ahead that a match
among them still reaches.

* `Owes.step`: one more line changes the counter as `Owes` asks.
* `select_eq_filter`: so from every point on the lines kept are those in
  a window.
* `Countdown.run_eq`: the loop with a counter of 64 bits keeps the same
  lines. It never takes one off zero.
* `search_eq_window`: a search whose pattern compiles gives the lines
  in a window, in order and each of them once.
-/

set_option autoImplicit false

namespace PipeShell.Search

section
variable (keep : List Char → Bool) (after : Nat)

/-- A line that matches stands at most `after` lines before place `i` or
right there. -/
def InWindow (lines : List (List Char)) (i : Nat) : Prop :=
  ∃ j ≤ i, i - j ≤ after ∧ (lines[j]?).any keep = true

instance (lines : List (List Char)) (i : Nat) : Decidable (InWindow keep after lines i) :=
  inferInstanceAs (Decidable (∃ j, j ≤ i ∧ _))

/-- The lines in a window, by their places. -/
def window (lines : List (List Char)) : List (List Char) :=
  (lines.zipIdx.filter fun p => InWindow keep after lines p.2).map Prod.fst

/-! ### The counter and the windows -/

/-- After the lines `seen` exactly the next `pending` lines are reached
by a match among them. -/
def Owes (seen : List (List Char)) (pending : Nat) : Prop :=
  ∀ k, k < pending ↔
    ∃ j < seen.length, seen.length + k - j ≤ after ∧ (seen[j]?).any keep = true

/-- What is owed after one more line. -/
def owedAfter (pending : Nat) (line : List Char) : Nat :=
  if keep line then after else pending - 1

theorem owes_nil : Owes keep after [] 0 := by
  intro k
  simp

variable {keep after}

/-- The counter keeps pace with the lines. After a match it reaches
`after` lines on; after any other line every reach is one line
shorter. -/
theorem Owes.step {seen : List (List Char)} {pending : Nat} (h : Owes keep after seen pending)
    (line : List Char) : Owes keep after (seen ++ [line]) (owedAfter keep after pending line) := by
  intro k
  have hlen : (seen ++ [line]).length = seen.length + 1 := by simp
  have hlast : (seen ++ [line])[seen.length]? = some line := by simp
  have hbefore : ∀ j < seen.length, (seen ++ [line])[j]? = seen[j]? :=
    fun j hj => List.getElem?_append_left hj
  rw [owedAfter]
  by_cases hkeep : keep line = true
  · -- The match just read reaches at least as far as every earlier one.
    rw [if_pos hkeep]
    constructor
    · intro hk
      exact ⟨seen.length, by omega, by omega, by rw [hlast]; exact hkeep⟩
    · rintro ⟨j, hj, hreach, -⟩
      omega
  · -- Seen from one line further on, `k` lines ahead were `k + 1` lines ahead.
    rw [if_neg hkeep]
    have hnext := h (k + 1)
    constructor
    · intro hk
      obtain ⟨j, hj, hreach, hmatch⟩ := hnext.mp (by omega)
      exact ⟨j, by omega, by omega, by rw [hbefore j hj]; exact hmatch⟩
    · rintro ⟨j, hj, hreach, hmatch⟩
      -- The line just read does not match, so the match is an earlier one.
      have hj' : j < seen.length := by
        by_contra hge
        have hj'' : j = seen.length := by omega
        rw [hj'', hlast] at hmatch
        exact hkeep hmatch
      rw [hbefore j hj'] at hmatch
      have := hnext.mpr ⟨j, hj', by omega, hmatch⟩
      omega

/-- The next line is in a window if it matches or is owed. -/
theorem Owes.inWindow_length {seen : List (List Char)} {pending : Nat}
    (h : Owes keep after seen pending) (line : List Char) (rest : List (List Char)) :
    InWindow keep after (seen ++ line :: rest) seen.length ↔ keep line = true ∨ 0 < pending := by
  have hlast : (seen ++ line :: rest)[seen.length]? = some line := by simp
  have hbefore : ∀ j < seen.length, (seen ++ line :: rest)[j]? = seen[j]? :=
    fun j hj => List.getElem?_append_left hj
  constructor
  · rintro ⟨j, hj, hreach, hmatch⟩
    rcases Nat.lt_or_eq_of_le hj with hlt | rfl
    · rw [hbefore j hlt] at hmatch
      exact .inr ((h 0).mpr ⟨j, hlt, hreach, hmatch⟩)
    · rw [hlast] at hmatch
      exact .inl hmatch
  · rintro (hkeep | hpending)
    · exact ⟨seen.length, Nat.le_refl _, by omega, by rw [hlast]; exact hkeep⟩
    · obtain ⟨j, hj, hreach, hmatch⟩ := (h 0).mp hpending
      exact ⟨j, Nat.le_of_lt hj, hreach, by rw [hbefore j hj]; exact hmatch⟩

/-- One line of a selection. -/
theorem select_cons (pending : Nat) (line : List Char) (rest : List (List Char)) :
    select keep after pending (line :: rest)
      = (if keep line = true ∨ 0 < pending then [line] else [])
        ++ select keep after (owedAfter keep after pending line) rest := by
  by_cases hkeep : keep line = true
  · simp [select, owedAfter, hkeep]
  · cases pending with
    | zero => simp [select, owedAfter, hkeep]
    | succ pending => simp [select, owedAfter, hkeep]

/-- From any point on the lines kept are those in a window. The counter
knows all it needs of the lines before. -/
theorem select_eq_filter (rest seen : List (List Char)) (pending : Nat)
    (h : Owes keep after seen pending) :
    select keep after pending rest
      = ((rest.zipIdx seen.length).filter
          fun p => InWindow keep after (seen ++ rest) p.2).map Prod.fst := by
  induction rest generalizing seen pending with
  | nil => rfl
  | cons line rest ih =>
      have hrest := ih (seen ++ [line]) _ (h.step line)
      rw [List.append_assoc, List.singleton_append, List.length_append, List.length_singleton]
        at hrest
      rw [select_cons, hrest, List.zipIdx_cons, List.filter_cons]
      by_cases hline : keep line = true ∨ 0 < pending
      · have hin := (h.inWindow_length line rest).mpr hline
        simp [hline, hin]
      · have hout := mt (h.inWindow_length line rest).mp hline
        simp [hline, hout]

/-- A selection keeps the lines in a window. -/
theorem select_eq_window (lines : List (List Char)) :
    select keep after 0 lines = window keep after lines :=
  select_eq_filter lines [] 0 (owes_nil keep after)

end

/-! ### The same selection as a loop with a counter of 64 bits -/

namespace Countdown

/-- Taking one off a counter that is not zero is taking one off its
value. -/
theorem takeOne?_of_pos {n : UInt64} (h : 0 < n) :
    ∃ n', takeOne? n = some n' ∧ n'.toNat = n.toNat - 1 := by
  have hne : n ≠ 0 := by
    rintro rfl
    exact absurd h (by decide)
  have hle : 1 ≤ n.toNat := UInt64.lt_iff_toNat_lt.mp h
  refine ⟨n - 1, if_neg hne, ?_⟩
  rw [UInt64.toNat_sub_of_le n 1 (UInt64.le_iff_toNat_le.mpr hle)]
  rfl

section
variable (keep : List Char → Bool) (after : UInt64)

/-- One line of the loop. No line is refused for its number, since the
last line kept has a smaller one, and the counter agrees with what the
selection owes. -/
theorem visit_eq {s : Countdown} {i : Nat} (hlast : ∀ l ∈ s.last, l < i) (line : List Char) :
    ∃ s', visit keep after s (line, i) = some s' ∧
      s'.pending.toNat = owedAfter keep after.toNat s.pending.toNat line ∧
      s'.kept = s.kept ++ (if keep line = true ∨ 0 < s.pending.toNat then [line] else []) ∧
      ∀ l ∈ s'.last, l < i + 1 := by
  have hnew : s.isNew i = true := by
    rw [isNew, Option.all_eq_true]
    simpa using hlast
  have hi : ∀ l ∈ some i, l < i + 1 := by
    intro l hl
    cases hl
    omega
  rw [owedAfter, visit, hnew]
  by_cases hkeep : keep line = true
  · exact ⟨s.keepLine line i after, by simp [hkeep], by simp [hkeep, keepLine],
      by simp [hkeep, keepLine], hi⟩
  by_cases hpending : 0 < s.pending
  · obtain ⟨n, htake, hn⟩ := takeOne?_of_pos hpending
    have hpos : 0 < s.pending.toNat := UInt64.lt_iff_toNat_lt.mp hpending
    exact ⟨s.keepLine line i n, by simp [hkeep, hpending, htake], by simp [hkeep, keepLine, hn],
      by simp [hpos, keepLine], hi⟩
  · -- The counter is zero, and this branch does not touch it.
    have hzero : s.pending.toNat = 0 := by
      have := mt UInt64.lt_iff_toNat_lt.mpr hpending
      simpa using this
    exact ⟨s, by simp [hkeep, hpending], by simp [hkeep, hzero], by simp [hkeep, hzero],
      fun l hl => Nat.lt_succ_of_lt (hlast l hl)⟩

/-- The loop from any state on. -/
theorem foldlM_visit_eq (lines : List (List Char)) (s : Countdown) (i : Nat)
    (hlast : ∀ l ∈ s.last, l < i) :
    ∃ s', (lines.zipIdx i).foldlM (visit keep after) s = some s' ∧
      s'.kept = s.kept ++ select keep after.toNat s.pending.toNat lines := by
  induction lines generalizing s i with
  | nil => exact ⟨s, rfl, by simp [select]⟩
  | cons line lines ih =>
      obtain ⟨s₁, hvisit, hpending, hkept, hlast₁⟩ :=
        visit_eq keep after hlast line
      obtain ⟨s₂, hrun, hkept₂⟩ := ih s₁ (i + 1) hlast₁
      refine ⟨s₂, ?_, ?_⟩
      · rw [List.zipIdx_cons, List.foldlM_cons, hvisit]
        exact hrun
      · rw [hkept₂, hkept, hpending, select_cons, List.append_assoc]

/-- The loop comes to its end, and keeps what the selection keeps. -/
theorem run_eq (lines : List (List Char)) :
    ∃ s, run keep after lines = some s ∧ s.kept = select keep after.toNat 0 lines :=
  foldlM_visit_eq keep after lines ⟨0, none, []⟩ 0 (by simp)

end

end Countdown

/-! ### Searches -/

/-- A search whose pattern compiles gives those lines of its text that
are in a window, each ended by a newline. The counter of the loop that
finds them never falls below zero, however many lines are asked for
after a match. -/
theorem search_eq_window (o : SearchOptions) (read : String → Except Host.Cause (List UInt8))
    (input file : Option String) (pattern content : String) (m : Pattern.Matcher)
    (hpattern : o.pattern = some pattern) (hcontent : source read input file = .ok content)
    (hmatcher : matcher o pattern.toList = .ok m) :
    let lines := splitLines content.toList
    let kept := window m.accepts o.after lines
    search o read input file = .ok (String.ofList (unlines kept)) ∧
      ∀ after : UInt64, after.toNat = o.after →
        ∃ s, Countdown.run m.accepts after lines = some s ∧ s.kept = kept := by
  intro lines kept
  constructor
  · simp only [search, hpattern, hcontent, hmatcher, filter]
    rw [select_eq_window]
  · intro after hafter
    obtain ⟨s, hrun, hkept⟩ := Countdown.run_eq m.accepts after lines
    exact ⟨s, hrun, by rw [hkept, hafter, select_eq_window]⟩

/-- Windows that overlap, touch and run into the end of the text. -/
theorem search_eq_window_overlapping :
    let o : SearchOptions := ⟨some "b|c+", false, false, false, 2⟩
    ∃ m, matcher o "b|c+".toList = .ok m ∧
      search o (fun _ => .ok []) (some "b\na\ncc\nd\ne\nf\nb") none
        = .ok (String.ofList (unlines
            (window m.accepts 2 (splitLines "b\na\ncc\nd\ne\nf\nb".toList)))) := by
  intro o
  have hcompiles : (matcher ⟨some "b|c+", false, false, false, 2⟩ "b|c+".toList).toBool = true := by
    decide +kernel
  cases hmatcher : matcher o "b|c+".toList with
  | error refusal =>
      rw [show matcher _ _ = _ from hmatcher] at hcompiles
      cases hcompiles
  | ok m => exact ⟨m, rfl, (search_eq_window o _ _ none "b|c+" _ m rfl rfl hmatcher).1⟩

end PipeShell.Search
