import PipeShell.Proofs.Line.Vacancy

/-!
# `PipeShell.Proofs.Line.Marker`: how the mark of an unset variable is read

A variable that is not set may leave a pair of quotes behind, to stand
for an empty word. The pair is chosen by the quotes of the raw line and
read by those of the expanded one, which need not be the same: where a
reference vanishes in front of a quote, as in `$N'a $U`, that quote is
no longer inside a word but opens one, and takes the pair in.

`QuotesHeld` rules this out: a quote right after a reference must still
be inside a word when the reference is replaced. Then the two readings
go along with each other (`Mode.GoesAlong`): the modes are the same but
inside a bare word of which nothing is left so far.

* `Mode.GoesAlong.next`, `goesAlong_ref`: one segment of the line.
* `goesAlong_writtenFrom`: all segments up to a place.
* `emptyWord_stands_iff`: a pair of quotes is read as an empty word
  exactly when the expanded line is between words there, and it always
  is if no value holds a quote and quotes are held.
-/

set_option autoImplicit false

namespace PipeShell.Line

/-! ### Quotes after references -/

/-- The last character of a name is no edge. -/
theorem isEdge_getLast?_of_isName {name : List Char} (hname : Assignment.isName name = true) :
    isEdge name.getLast? = false := by
  have hlast := List.getLast?_eq_some_getLast (ne_nil_of_isName hname)
  rw [hlast]
  exact isDivider_of_isNameChar (isNameChar_of_isName hname _ (List.getLast_mem _))

/-- No variable has a quote in its value. -/
def QuoteFree (lookup : String → Option String) : Prop :=
  ∀ name value, lookup name = some value → ∀ c ∈ value.toList, Quote.ofChar? c = none

/-- After the value of the variable a word is under way. -/
def EndsInWord (value? : Option String) : Prop :=
  ∃ value ∈ value?, ∃ c ∈ value.toList.getLast?, isDivider c = false

/-- Outside quotes a quote comes right after a reference only if the
value of the variable ends in a word. -/
def QuotesHeld (lookup : String → Option String) (line : String) : Prop :=
  ∀ i < line.toList.length, ∀ name ∈ refAt? line.toList i, (quotedMask line)[i]? = some false →
    (line.toList.drop (i + 1 + name.length)).head?.bind Quote.ofChar? = none ∨
      EndsInWord (lookup (String.ofList name))

instance (value? : Option String) : Decidable (EndsInWord value?) :=
  decidable_of_iff (value?.any (·.toList.getLast?.any (!isDivider ·)) = true)
    (by simp [EndsInWord, Option.any_eq_true])

instance (lookup : String → Option String) (line : String) : Decidable (QuotesHeld lookup line) :=
  inferInstanceAs (Decidable (∀ i < line.toList.length, ∀ name ∈ refAt? line.toList i,
    (quotedMask line)[i]? = some false →
      (line.toList.drop (i + 1 + name.length)).head?.bind Quote.ofChar? = none ∨
        EndsInWord (lookup (String.ofList name))))

/-- The same for the segments of a text that is read from mode `m` on. -/
def HeldFrom (lookup : String → Option String) (m : Mode) (segs : List Segment) : Prop :=
  ∀ xs name ys, segs = xs ++ .ref name :: ys →
    (m.after (xs.flatMap Segment.source)).isQuoted = false →
    (∀ c ∈ firstChar? ys, Quote.ofChar? c = none) ∨ EndsInWord (lookup (String.ofList name))

/-- The segments of a text tell where its references are. -/
theorem refAt?_of_segments {cs name : List Char} {xs ys : List Segment}
    (h : segments cs = xs ++ .ref name :: ys) :
    refAt? cs (xs.flatMap Segment.source).length = some name := by
  induction cs using refInduction generalizing xs with
  | nil => cases xs <;> cases h
  | char c cs href ih =>
      rw [segments_char href] at h
      cases xs with
      | nil => cases h
      | cons s xs =>
          obtain ⟨rfl, htail⟩ := List.cons.inj h
          have hat := ih htail
          rw [← refAt?_cons_succ c] at hat
          exact hat
  | ref n rest hname hrest ih =>
      rw [segments_ref hname hrest] at h
      cases xs with
      | nil =>
          cases h
          exact reference?_eq_some.mpr ⟨rest, rfl, hname, hrest⟩
      | cons s xs =>
          obtain ⟨rfl, htail⟩ := List.cons.inj h
          have hat := ih htail
          rw [← refAt?_length_add n, ← refAt?_cons_succ '$'] at hat
          have hlen : ((Segment.ref n :: xs).flatMap Segment.source).length
              = n.length + (xs.flatMap Segment.source).length + 1 := by
            simp [Segment.source]
          rw [hlen]
          exact hat

/-- What holds at the places of a line holds of its segments. -/
theorem QuotesHeld.heldFrom {lookup : String → Option String} {line : String}
    (h : QuotesHeld lookup line) : HeldFrom lookup .gap (segments line.toList) := by
  intro xs name ys hsegs hmode
  have href := refAt?_of_segments hsegs
  have hline := eq_of_segments hsegs
  have hi := lt_length_of_refAt? href
  have hmask := getElem?_quotedMask line _ hi
  have htake : line.toList.take (xs.flatMap Segment.source).length = xs.flatMap Segment.source := by
    rw [hline, List.take_left]
  rw [htake, hmode] at hmask
  have hdrop : line.toList.drop ((xs.flatMap Segment.source).length + 1 + name.length)
      = ys.flatMap Segment.source := by
    rw [hline, Nat.add_assoc, List.drop_length_add_append, Nat.add_comm 1, List.cons_append,
      List.drop_succ_cons, List.drop_left]
  have hheld := h _ hi name href hmask
  rwa [hdrop, ← firstChar?_eq_head?, Option.bind_eq_none_iff] at hheld

/-- The rest of a text whose quotes are held. -/
theorem HeldFrom.tail {lookup : String → Option String} {m : Mode} {s : Segment}
    {rest : List Segment} (h : HeldFrom lookup m (s :: rest)) :
    HeldFrom lookup (m.after s.source) rest := by
  intro xs name ys hrest hmode
  refine h (s :: xs) name ys (by rw [hrest, List.cons_append]) ?_
  rwa [List.flatMap_cons, Mode.after_append]

/-! ### Modes of the raw line and of the expanded one -/

namespace Mode

/-- A text without quotes opens none. -/
theorem isQuoted_after {m : Mode} {cs : List Char} (hm : m.isQuoted = false)
    (hcs : ∀ c ∈ cs, Quote.ofChar? c = none) : (m.after cs).isQuoted = false := by
  induction cs generalizing m with
  | nil => exact hm
  | cons c cs ih =>
      have hc : Quote.ofChar? c = none := hcs c List.mem_cons_self
      refine ih ?_ fun d hd => hcs d (List.mem_cons_of_mem c hd)
      cases m with
      | gap => by_cases hdiv : isDivider c = true <;> simp [next, hdiv, hc, isQuoted]
      | bare => by_cases hdiv : isDivider c = true <;> simp [next, hdiv, isQuoted]
      | quoted q => cases hm

/-- A text without quotes that does not end in a divider ends in a
word. -/
theorem after_eq_bare {m : Mode} {cs : List Char} {c : Char} (hm : m.isQuoted = false)
    (hcs : ∀ d ∈ cs, Quote.ofChar? d = none) (hlast : cs.getLast? = some c)
    (hc : isDivider c = false) : m.after cs = bare := by
  obtain ⟨init, rfl⟩ := List.getLast?_eq_some_iff.mp hlast
  have hinit : (m.after init).isQuoted = false :=
    isQuoted_after hm fun d hd => hcs d (List.mem_append_left _ hd)
  rw [after_append, after_cons, after_nil]
  cases hm' : m.after init with
  | gap => exact next_gap_bare hc (Quote.ofChar?_eq_none.mp (hcs c (by simp)))
  | bare => simp [next, hc]
  | quoted q => rw [hm'] at hinit; cases hinit

/-- Only what is no divider leads into a bare word. -/
theorem isDivider_of_next_eq_bare {m : Mode} {c : Char} (h : m.next c = bare) :
    isDivider c = false := by
  by_contra hc
  rw [Bool.not_eq_false] at hc
  cases m with
  | gap => rw [next_of_isDivider rfl hc] at h; cases h
  | bare => rw [next_of_isDivider rfl hc] at h; cases h
  | quoted q =>
      rw [next] at h
      split at h <;> cases h

/-- A reference is part of a bare word, unless it is inside quotes. -/
theorem after_ref {m : Mode} {name : List Char} (hm : m.isQuoted = false)
    (hname : Assignment.isName name = true) : m.after ('$' :: name) = bare := by
  have hword := Piece.after_source (proper_bare_ref hname)
  cases m with
  | gap => exact hword
  | bare =>
      refine after_bare fun c hc => ?_
      rcases List.mem_cons.mp hc with rfl | hc
      · decide
      · exact isDivider_of_isNameChar (isNameChar_of_isName hname c hc)
  | quoted q => cases hm

/-- Inside quotes a reference is like any other text. -/
theorem after_quoted_ref (q : Quote) {name : List Char}
    (hname : Assignment.isName name = true) : (quoted q).after ('$' :: name) = quoted q := by
  refine after_quoted fun hmem => ?_
  rcases List.mem_cons.mp hmem with heq | hmem
  · revert heq
    cases q <;> decide
  · have hchar := isNameChar_of_isName hname _ hmem
    revert hchar
    cases q <;> decide

/-- How the mode `m'` of the expanded line goes along with the mode `m`
of the raw one. They are the same, or the raw line is in a bare word of
which the expanded one has nothing yet, and no quote comes next. -/
def GoesAlong (m m' : Mode) (next? : Option Char) : Prop :=
  m' = m ∨ m = bare ∧ m' = gap ∧ ∀ c ∈ next?, Quote.ofChar? c = none

/-- After a character that stands for itself the modes are the same. -/
theorem GoesAlong.next {m m' : Mode} {c : Char} (h : m.GoesAlong m' (some c)) :
    m'.next c = m.next c := by
  rcases h with rfl | ⟨rfl, rfl, hc⟩
  · rfl
  · have hnone : Quote.ofChar? c = none := hc c rfl
    by_cases hdiv : isDivider c = true <;> simp [Mode.next, hdiv, hnone]

/-- Outside quotes the modes go along as long as no quote is open. -/
theorem goesAlong_bare {m' : Mode} {next? : Option Char} (hm' : m'.isQuoted = false)
    (h : m' = bare ∨ ∀ c ∈ next?, Quote.ofChar? c = none) : bare.GoesAlong m' next? := by
  cases m' with
  | bare => exact .inl rfl
  | gap => exact .inr ⟨rfl, rfl, h.resolve_left (by simp)⟩
  | quoted q => cases hm'

end Mode

section
variable {lookup : String → Option String}

/-- What is written for a reference keeps the modes going along. The
pair of quotes for an empty word is only written between words, where it
opens and closes one. -/
theorem goesAlong_ref {m m' : Mode} {before next? : Option Char} {name : List Char}
    (hvalues : QuoteFree lookup) (hname : Assignment.isName name = true)
    (hbefore : m = .bare → isEdge before = false) (hm : m' = m ∨ m = .bare ∧ m' = .gap)
    (hheld : m.isQuoted = false →
      (∀ c ∈ next?, Quote.ofChar? c = none) ∨ EndsInWord (lookup (String.ofList name))) :
    (m.after ('$' :: name)).GoesAlong
      (m'.after (replacement lookup m before next? name)) next? := by
  cases hq : m.isQuoted with
  | true =>
      cases m with
      | quoted q =>
          obtain rfl : m' = .quoted q := hm.resolve_right (by simp)
          refine .inl ?_
          rw [Mode.after_quoted_ref q hname, replacement]
          cases hset : lookup (String.ofList name) with
          | none => simp [vacancy, Mode.isQuoted]
          | some value =>
              refine Mode.after_quoted fun hmem => ?_
              have hnone := hvalues _ value hset _ hmem
              rw [Quote.ofChar?_char] at hnone
              cases hnone
      | gap => cases hq
      | bare => cases hq
  | false =>
      have hq' : m'.isQuoted = false := by
        rcases hm with rfl | ⟨-, rfl⟩
        · exact hq
        · rfl
      rw [Mode.after_ref hq hname, replacement]
      cases hset : lookup (String.ofList name) with
      | some value =>
          have hfree := hvalues _ value hset
          refine Mode.goesAlong_bare (Mode.isQuoted_after hq' hfree) ?_
          rcases hheld hq with hnext | ⟨value', hvalue', c, hlast, hc⟩
          · exact .inr hnext
          · obtain rfl : value = value' := Option.some.inj (hset.symm.trans hvalue')
            exact .inl (Mode.after_eq_bare hq' hfree hlast hc)
      | none =>
          have hnext : ∀ c ∈ next?, Quote.ofChar? c = none := by
            rcases hheld hq with hnext | ⟨value', hvalue', -⟩
            · exact hnext
            · rw [hset] at hvalue'
              cases hvalue'
          refine Mode.goesAlong_bare ?_ (.inr hnext)
          show (m'.after (vacancy m before next?)).isQuoted = false
          rw [vacancy_eq]
          split
          · rename_i hedges
            -- An edge to the left is not inside a bare word, so both modes are `gap`.
            have hgap : m' = .gap := by
              cases m with
              | gap => exact hm.resolve_right (by simp)
              | bare =>
                  rw [hbefore rfl] at hedges
                  exact absurd hedges.2.1 (by simp)
              | quoted q => cases hq
            rw [hgap]
            decide
          · exact hq'

/-- Up to any place of a line whose quotes are held, the modes go
along. -/
theorem goesAlong_writtenFrom {xs ys : List Segment} {before : Option Char} {m m' : Mode}
    (hvalues : QuoteFree lookup) (hnames : ∀ n, .ref n ∈ xs → Assignment.isName n = true)
    (hheld : HeldFrom lookup m (xs ++ ys)) (hbefore : m = .bare → isEdge before = false)
    (h : m.GoesAlong m' (firstChar? (xs ++ ys))) :
    (m.after (xs.flatMap Segment.source)).GoesAlong
      (m'.after ((writtenFrom lookup before m (xs ++ ys)).take xs.length).flatten)
      (firstChar? ys) := by
  induction xs generalizing before m m' with
  | nil => exact h
  | cons s xs ih =>
      have hnames' : ∀ n, .ref n ∈ xs → Assignment.isName n = true :=
        fun n hn => hnames n (List.mem_cons_of_mem s hn)
      rw [List.flatMap_cons, Mode.after_append, List.length_cons]
      cases s with
      | char c =>
          have hsame : m'.next c = m.next c := h.next
          have hedge : m.next c = .bare → isEdge (some c) = false :=
            fun hm => Mode.isDivider_of_next_eq_bare hm
          exact ih hnames' hheld.tail hedge (.inl hsame)
      | ref n =>
          have hname := hnames n List.mem_cons_self
          have hstep := goesAlong_ref hvalues hname hbefore
            (h.imp_right fun hgap => ⟨hgap.1, hgap.2.1⟩) (hheld [] n (xs ++ ys) rfl)
          have hrest := ih hnames' hheld.tail (fun _ => isEdge_getLast?_of_isName hname) hstep
          rw [List.cons_append, writtenFrom, List.take_succ_cons, List.flatten_cons,
            Mode.after_append]
          exact hrest

/-! ### Reading the pair of quotes -/

/-- A list around one of its elements. -/
theorem eq_take_append_cons_drop {α : Type} {l : List α} {k : Nat} {a : α} (h : l[k]? = some a) :
    l = l.take k ++ a :: l.drop (k + 1) := by
  obtain ⟨hk, rfl⟩ := List.getElem?_eq_some_iff.mp h
  rw [← List.drop_eq_getElem_cons hk, List.take_append_drop]

/-- A pair of quotes is an empty word exactly between words. -/
theorem standsAfter_emptyWord_iff {left right : List Char} :
    StandsAfter (.quoted .double []) left (left ++ (emptyWord ++ right)) ↔
      Mode.gap.after left = .gap := by
  have hp : (Piece.quoted .double []).Proper := List.not_mem_nil
  exact (standsAfter_iff hp rfl).trans (and_iff_left trivial)

/-- An empty word between two texts is a token between their tokens. -/
theorem tokens_around_emptyWord {line : String} {left right : List Char}
    (hline : line.toList = left ++ (emptyWord ++ right)) (hgap : Mode.gap.after left = .gap) :
    tokens line = tokens (String.ofList left)
      ++ .word ⟨"", some .double⟩ :: tokens (String.ofList right) := by
  obtain ⟨before, hbefore⟩ := exists_divides left
  obtain ⟨after, hafter⟩ := exists_divides right
  have hp : (Piece.quoted .double []).Proper := List.not_mem_nil
  have hall : Divides (before ++ .quoted .double [] :: after) (left ++ (emptyWord ++ right)) :=
    hbefore.append hgap (.cons hp trivial hafter)
  rw [tokens, tokens, tokens, hline, String.toList_ofList, String.toList_ofList, hall.scan_eq,
    hbefore.scan_eq, hafter.scan_eq, List.filterMap_append]
  rfl

end

/-- Where a pair of quotes is written for a variable that is not set, it
is read as an empty word of its own exactly when the expanded line is
between words there; then it is a token of its own. If no variable has a
quote in its value and the quotes of the line are held, every pair is
read like this. -/
theorem emptyWord_stands_iff (lookup : String → Option String) (line : String)
    (xs : List Segment) (name : List Char) (ys : List Segment)
    (hsegs : segments line.toList = xs ++ .ref name :: ys)
    (hunset : lookup (String.ofList name) = none)
    (hwritten : (written lookup line)[xs.length]? = some emptyWord) :
    let left := ((written lookup line).take xs.length).flatten
    let right := ((written lookup line).drop (xs.length + 1)).flatten
    let alone := StandsAfter (.quoted .double []) left (expand lookup line).toList
    (expand lookup line).toList = left ++ (emptyWord ++ right) ∧
    (alone ↔ Mode.gap.after left = .gap) ∧
    (alone → tokens (expand lookup line) = tokens (String.ofList left)
      ++ .word ⟨"", some .double⟩ :: tokens (String.ofList right)) ∧
    (QuoteFree lookup → QuotesHeld lookup line → alone) := by
  intro left right alone
  have hexpand : (expand lookup line).toList = left ++ (emptyWord ++ right) := by
    have hcut := congrArg List.flatten (eq_take_append_cons_drop hwritten)
    rwa [← flatten_written, List.flatten_append, List.flatten_cons] at hcut
  have hiff : alone ↔ Mode.gap.after left = .gap := by
    show StandsAfter (.quoted .double []) left (expand lookup line).toList ↔ _
    rw [hexpand]
    exact standsAfter_emptyWord_iff
  refine ⟨hexpand, hiff, fun h => tokens_around_emptyWord hexpand (hiff.mp h), ?_⟩
  intro hvalues hheld
  -- The pair is written where the raw line is between words.
  have hraw : Mode.gap.after (xs.flatMap Segment.source) = .gap := by
    rw [getElem?_written lookup hsegs, replacement, hunset] at hwritten
    have hvacancy := Option.some.inj hwritten
    simp only [vacancy_eq] at hvacancy
    split at hvacancy
    · rename_i hedges
      exact Mode.after_eq_gap_of_isEdge hedges.1 hedges.2.1
    · cases hvacancy
  have hnames := isName_of_segments hsegs
  have hheldFrom : HeldFrom lookup .gap (xs ++ .ref name :: ys) := hsegs ▸ hheld.heldFrom
  have hall : written lookup line = writtenFrom lookup none .gap (xs ++ .ref name :: ys) := by
    rw [written, hsegs]
  have hstart : Mode.gap = .bare → isEdge none = false := by simp
  have halong := goesAlong_writtenFrom hvalues hnames hheldFrom hstart (.inl rfl)
  rw [← hall, hraw] at halong
  rcases halong with hgap | ⟨hbare, -⟩
  · exact hiff.mpr hgap
  · cases hbare

/-- A value of blanks before the reference, and an unset variable inside
another word. -/
theorem emptyWord_stands_between_words :
    let lookup : String → Option String := fun name => if name = "S" then some " " else none
    let line := "a$N.b$S $U|c"
    let left := ['a', '.', 'b', ' ', ' ']
    (expand lookup line).toList = left ++ (emptyWord ++ ['|', 'c']) ∧
      StandsAfter (.quoted .double []) left (expand lookup line).toList := by
  intro lookup line left
  have hsegs : segments line.toList = [.char 'a', .ref ['N'], .char '.', .char 'b', .ref ['S'],
      .char ' '] ++ .ref ['U'] :: [.char '|', .char 'c'] := by decide
  have hvalues : QuoteFree lookup := by
    intro name value hset c hc
    simp only [lookup] at hset
    split at hset
    · cases hset
      have hblank : c = ' ' := List.mem_singleton.mp hc
      rw [hblank]
      rfl
    · cases hset
  have hread := emptyWord_stands_iff lookup line _ _ _ hsegs (by decide) (by decide)
  have hleft : ((written lookup line).take 6).flatten = left := by decide
  exact ⟨by decide, hleft ▸ hread.2.2.2 hvalues (by decide)⟩

/-- In `echo $N'a $U` the quote that comes to the front of its word takes
in the pair that is written for the last reference. -/
theorem emptyWord_taken_in :
    let lookup : String → Option String := fun _ => none
    let line := "echo $N'a $U"
    QuoteFree lookup ∧
      (written lookup line)[9]? = some emptyWord ∧
      expand lookup line = "echo 'a \"\"" ∧
      tokens (expand lookup line)
        = [.word ⟨"echo", none⟩, .word ⟨"a \"\"", some .single⟩] := by
  exact ⟨fun _ _ h => (nomatch h), by decide, by decide, by decide⟩

end PipeShell.Line
