import PipeShell.Proofs.Line.Cutting
import PipeShell.Proofs.Line.Expansion

/-!
# `PipeShell.Proofs.Line.Vacancy`: what is left of a variable that is not set

`expand` decides by the mode at a reference and by its two neighbours
whether a variable that is not set leaves a pair of quotes or nothing.
Here that is compared with the words that the line is divided into. A
reference leaves a pair of quotes when it is a bare word of its own,
unless it stands right after a closing quote. There it is a word of its
own as well, but its neighbour is no divider, and so it vanishes.

* `written`: what each segment of a line is written as;
  `flatten_written` puts the line together.
* `getElem?_written`: what is written for one reference.
* `leavesQuotes_iff`: the test of the two neighbours, by the division of
  the line.
* `written_of_unset`: what is written for a variable that is not set.
-/

set_option autoImplicit false

namespace PipeShell.Line

/-! ### The segments of a line -/

/-- The segments of a text are all there is of it. -/
theorem flatMap_source_segments (cs : List Char) : (segments cs).flatMap Segment.source = cs := by
  induction cs using refInduction with
  | nil => rfl
  | char c cs href ih =>
      rw [segments_char href, List.flatMap_cons, ih]
      rfl
  | ref name rest hname hrest ih =>
      rw [segments_ref hname hrest, List.flatMap_cons, ih]
      rfl

/-- References are by name. -/
theorem isName_of_mem_segments {cs name : List Char} (h : .ref name ∈ segments cs) :
    Assignment.isName name = true := by
  induction cs using refInduction with
  | nil => cases h
  | char c cs href ih =>
      rw [segments_char href] at h
      rcases List.mem_cons.mp h with h | h
      · cases h
      · exact ih h
  | ref n rest hname hrest ih =>
      rw [segments_ref hname hrest] at h
      rcases List.mem_cons.mp h with h | h
      · cases h
        exact hname
      · exact ih h

/-- A text around one of its references. -/
theorem eq_of_segments {cs name : List Char} {xs ys : List Segment}
    (h : segments cs = xs ++ .ref name :: ys) :
    cs = xs.flatMap Segment.source ++ ('$' :: name ++ ys.flatMap Segment.source) := by
  rw [← flatMap_source_segments cs, h, List.flatMap_append, List.flatMap_cons]
  rfl

/-- References in the first segments of a text are by name as well. -/
theorem isName_of_segments {cs : List Char} {xs ys : List Segment}
    (h : segments cs = xs ++ ys) (name : List Char) (hmem : .ref name ∈ xs) :
    Assignment.isName name = true := by
  have hsegs : .ref name ∈ segments cs := by
    rw [h]
    exact List.mem_append_left _ hmem
  exact isName_of_mem_segments hsegs

/-- The first character of the segments is that of their text. -/
theorem firstChar?_eq_head? (segs : List Segment) :
    firstChar? segs = (segs.flatMap Segment.source).head? := by
  cases segs with
  | nil => rfl
  | cons s rest => cases s <;> rfl

/-! ### What is written for each segment -/

/-- What each segment of the rest of a line is written as. -/
def writtenFrom (lookup : String → Option String) :
    (before : Option Char) → Mode → List Segment → List (List Char)
  | _, _, [] => []
  | _, m, .char c :: rest => [c] :: writtenFrom lookup (some c) (m.next c) rest
  | before, m, .ref name :: rest =>
      replacement lookup m before (firstChar? rest) name
        :: writtenFrom lookup name.getLast? (m.after ('$' :: name)) rest

/-- What each segment of a line is written as. -/
def written (lookup : String → Option String) (line : String) : List (List Char) :=
  writtenFrom lookup none .gap (segments line.toList)

section
variable (lookup : String → Option String)

theorem flatten_writtenFrom (before : Option Char) (m : Mode) (segs : List Segment) :
    (writtenFrom lookup before m segs).flatten = expandFrom lookup before m segs := by
  induction segs generalizing before m with
  | nil => rfl
  | cons s rest ih =>
      cases s with
      | char c =>
          rw [writtenFrom, List.flatten_cons, ih]
          rfl
      | ref name => rw [writtenFrom, List.flatten_cons, ih, expandFrom_ref]

/-- The expanded line is what is written, one segment after the other. -/
theorem flatten_written (line : String) :
    (expand lookup line).toList = (written lookup line).flatten := by
  rw [expand, String.toList_ofList, written, flatten_writtenFrom]

/-- What is written for a reference depends on the mode at it and on its
neighbours in the line. -/
theorem getElem?_writtenFrom {xs ys : List Segment} {name : List Char}
    (hxs : ∀ n, .ref n ∈ xs → n ≠ []) (before : Option Char) (m : Mode) :
    (writtenFrom lookup before m (xs ++ .ref name :: ys))[xs.length]?
      = some (replacement lookup (m.after (xs.flatMap Segment.source))
          ((xs.flatMap Segment.source).getLast?.or before) (firstChar? ys) name) := by
  induction xs generalizing before m with
  | nil => rfl
  | cons s xs ih =>
      have ih' := ih fun n hn => hxs n (List.mem_cons_of_mem s hn)
      rw [List.cons_append, List.flatMap_cons, List.getLast?_append, Mode.after_append,
        List.length_cons]
      cases s with
      | char c =>
          rw [writtenFrom, List.getElem?_cons_succ, ih', Option.or_assoc]
          rfl
      | ref n =>
          have hlast : ('$' :: n).getLast?.or before = n.getLast? := by
            obtain ⟨d, more, rfl⟩ := List.exists_cons_of_ne_nil (hxs n List.mem_cons_self)
            rw [List.getLast?_cons_cons, List.getLast?_cons]
            rfl
          rw [writtenFrom, List.getElem?_cons_succ, ih', Option.or_assoc, Segment.source, hlast]

/-- What is written for a reference of a line. -/
theorem getElem?_written {line : String} {xs ys : List Segment} {name : List Char}
    (h : segments line.toList = xs ++ .ref name :: ys) :
    (written lookup line)[xs.length]?
      = some (replacement lookup (Mode.gap.after (xs.flatMap Segment.source))
          (xs.flatMap Segment.source).getLast? (ys.flatMap Segment.source).head? name) := by
  have hxs : ∀ n, .ref n ∈ xs → n ≠ [] :=
    fun n hn => ne_nil_of_isName (isName_of_segments h n hn)
  rw [written, h, getElem?_writtenFrom lookup hxs, Option.or_none, firstChar?_eq_head?]

end

/-! ### References that are words -/

/-- The text ends with a quoted word, which the line is divided into. -/
def AfterQuoted (left cs : List Char) : Prop :=
  ∃ (q : Quote) (word before : List Char), left = before ++ (Piece.quoted q word).source ∧
    StandsAfter (.quoted q word) before cs

/-- Outside quotes an edge is between words. -/
theorem Mode.after_eq_gap_of_isEdge {left : List Char}
    (hmode : (gap.after left).isQuoted = false) (hedge : isEdge left.getLast? = true) :
    gap.after left = gap := by
  rcases List.eq_nil_or_concat left with rfl | ⟨left, c, rfl⟩
  · rfl
  rw [List.concat_eq_append] at *
  have hc : isDivider c = true := isEdge_iff.mp hedge c (by simp)
  rw [after_append, after_cons, after_nil] at hmode ⊢
  cases hm : gap.after left with
  | gap => exact next_of_isDivider rfl hc
  | bare => exact next_of_isDivider rfl hc
  | quoted q =>
      -- A divider closes no quote, so the line would still be inside this one.
      have hne : c ≠ q.char := by
        rintro rfl
        rw [q.isDivider_char] at hc
        cases hc
      rw [hm, next, if_neg (by simpa using hne)] at hmode
      cases hmode

/-- The text of a reference is that of a bare word. -/
theorem proper_bare_ref {name : List Char} (hname : Assignment.isName name = true) :
    (Piece.bare ('$' :: name)).Proper :=
  ⟨'$', name, rfl, by decide, fun q => by cases q <;> decide,
    fun d hd => isDivider_of_isNameChar (isNameChar_of_isName hname d hd)⟩

/-- Between words there is an edge to the left, or a closing quote. -/
theorem isEdge_of_divides {before after : List Piece} {cs : List Char}
    (h : Divides (before ++ after) cs)
    (hgap : Mode.gap.after (before.flatMap Piece.source) = .gap)
    (hquoted : ¬ AfterQuoted (before.flatMap Piece.source) cs) :
    isEdge (before.flatMap Piece.source).getLast? = true := by
  rcases List.eq_nil_or_concat before with rfl | ⟨init, p, rfl⟩
  · rfl
  rw [List.concat_eq_append] at *
  obtain ⟨left, rest, -, hleft, -, -⟩ := h.split
  have hp : p.Proper := hleft.proper p (by simp)
  have hsource : (init ++ [p]).flatMap Piece.source = init.flatMap Piece.source ++ p.source := by
    simp
  rw [hleft.source_eq, hleft.after_eq, List.getLast?_concat] at hgap
  rw [hsource] at hquoted ⊢
  cases p with
  | blank c =>
      rw [isEdge_iff, Piece.source, List.getLast?_concat]
      intro d hd
      cases hd
      exact isDivider_of_isBlank hp
  | bar =>
      rw [isEdge_iff, Piece.source, List.getLast?_concat]
      intro d hd
      cases hd
      rfl
  | quoted q word =>
      rw [List.append_assoc] at h
      exact absurd ⟨q, word, init.flatMap Piece.source, rfl, init, after, h, rfl⟩ hquoted
  | bare cs => cases hgap
  | unclosed q cs => cases hgap

/-- A closing quote is no edge. -/
theorem isEdge_of_afterQuoted {left cs : List Char} (h : AfterQuoted left cs) :
    isEdge left.getLast? = false := by
  obtain ⟨q, word, before, rfl, -⟩ := h
  have hlast : (before ++ (Piece.quoted q word).source).getLast? = some q.char := by
    rw [Piece.source, ← List.cons_append, ← List.append_assoc, List.getLast?_concat]
  rw [hlast]
  exact q.isDivider_char

/-- A reference has edges at both ends, outside quotes, exactly when it
is a bare word of its own and does not stand after a quoted one. -/
theorem leavesQuotes_iff {name : List Char} (hname : Assignment.isName name = true)
    (left right : List Char) :
    ((Mode.gap.after left).isQuoted = false ∧ isEdge left.getLast? = true ∧
        isEdge right.head? = true) ↔
      StandsAfter (.bare ('$' :: name)) left (left ++ ('$' :: name ++ right)) ∧
        ¬ AfterQuoted left (left ++ ('$' :: name ++ right)) := by
  have hstands : StandsAfter (.bare ('$' :: name)) left (left ++ ('$' :: name ++ right)) ↔
      Mode.gap.after left = .gap ∧ isEdge right.head? = true :=
    standsAfter_iff (proper_bare_ref hname) rfl
  constructor
  · rintro ⟨hmode, hleft, hright⟩
    refine ⟨hstands.mpr ⟨Mode.after_eq_gap_of_isEdge hmode hleft, hright⟩, fun hquoted => ?_⟩
    rw [isEdge_of_afterQuoted hquoted] at hleft
    cases hleft
  · rintro ⟨h, hquoted⟩
    obtain ⟨hgap, hright⟩ := hstands.mp h
    obtain ⟨before, after, hdiv, rfl⟩ := h
    exact ⟨by rw [hgap]; rfl, isEdge_of_divides hdiv hgap hquoted, hright⟩

/-! ### Variables that are not set -/

/-- What stands for an empty word. -/
def emptyWord : List Char := ['"', '"']

theorem vacancy_eq (m : Mode) (before after : Option Char) :
    vacancy m before after
      = if m.isQuoted = false ∧ isEdge before = true ∧ isEdge after = true then emptyWord
        else [] := by
  simp [vacancy, emptyWord, and_assoc]

/-- The expanded line is what is written for its segments. For a variable
that is not set an empty word is written where the reference is a bare
word of its own and does not stand right after a quoted word; anywhere
else nothing is written for it. -/
theorem written_of_unset (lookup : String → Option String) (line : String) :
    (expand lookup line).toList = (written lookup line).flatten ∧
    ∀ xs name ys, segments line.toList = xs ++ .ref name :: ys →
      lookup (String.ofList name) = none →
      let left := xs.flatMap Segment.source
      let alone := StandsAfter (.bare ('$' :: name)) left line.toList
      let glued := AfterQuoted left line.toList
      (alone ∧ ¬ glued → (written lookup line)[xs.length]? = some emptyWord) ∧
      (¬ (alone ∧ ¬ glued) → (written lookup line)[xs.length]? = some []) := by
  refine ⟨flatten_written lookup line, fun xs name ys hsegs hunset => ?_⟩
  intro left alone glued
  have hname : Assignment.isName name = true :=
    isName_of_mem_segments (by rw [hsegs]; simp)
  have hline : line.toList = left ++ ('$' :: name ++ ys.flatMap Segment.source) :=
    eq_of_segments hsegs
  have htest := leavesQuotes_iff hname left (ys.flatMap Segment.source)
  rw [← hline] at htest
  have hwritten : (written lookup line)[xs.length]?
      = some (vacancy (Mode.gap.after left) left.getLast? (ys.flatMap Segment.source).head?) := by
    rw [getElem?_written lookup hsegs, replacement, hunset]
  rw [hwritten, vacancy_eq]
  exact ⟨fun h => by rw [if_pos (htest.mpr h)], fun h => by rw [if_neg (mt htest.mp h)]⟩

/-- In `"a"$U` the reference is a bare word of its own, and yet nothing
is left of it. -/
theorem unset_word_vanishes_after_quoted :
    let line := "\"a\"$U"
    StandsAfter (.bare ['$', 'U']) ['"', 'a', '"'] line.toList ∧
      segments line.toList = [.char '"', .char 'a', .char '"', .ref ['U']] ∧
      (written (fun _ => none) line)[3]? = some [] ∧
      expand (fun _ => none) line = "\"a\"" := by
  refine ⟨⟨[.quoted .double ['a']], [], ?_, rfl⟩, by decide, by decide, by decide⟩
  have hword : Divides [.bare ['$', 'U']] ['$', 'U'] :=
    .cons (proper_bare_ref (by decide)) rfl .nil
  exact .cons (by decide : '"' ∉ ['a']) trivial hword

end PipeShell.Line
