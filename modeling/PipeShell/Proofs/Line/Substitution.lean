import PipeShell.Proofs.Search.Literal

/-!
# `PipeShell.Proofs.Line.Substitution`: a line between its references

A line is texts with references between them, and there is one way to see
it so: a reference takes the longest name it can, and no reference is
left in a text. To expand the line is to keep the texts and to write
something in the place of each reference. What is written can be read off
the raw line at that place: it does not depend on what was written
before, and it is not looked through again.

* `Refers`: a line as texts and references.
* `segments_of_refers`, `Refers.unique`, `exists_refers`: these are the
  segments of the line, so there is one way to take it apart and no
  other.
* `standIn`: what is written in the place of a reference.
* `expandFrom_refs`: the expansion from any reference of a line on.
* `expand_eq_standIns`: the expansion of a whole line.
-/

set_option autoImplicit false

namespace PipeShell.Line

/-! ### Texts and references -/

/-- References by their names, each with the text behind it. -/
abbrev Refs := List (List Char × List Char)

/-- The line starts with the text `first`, behind which come references.
No text has a reference in it, and a name goes on as long as it can. -/
inductive Refers : (line first : List Char) → Refs → Prop where
  | last {first : List Char} : NoReference first → Refers first first []
  | ref {first name line second : List Char} {refs : Refs} :
      NoReference first → Assignment.isName name = true → EndsName line →
      Refers line second refs →
      Refers (first ++ '$' :: (name ++ line)) first ((name, second) :: refs)

/-- References and texts as segments. -/
def refSegments (refs : Refs) : List Segment :=
  refs.flatMap fun r => .ref r.1 :: r.2.map .char

/-- References and texts as they are written. -/
def refSource (refs : Refs) : List Char := refs.flatMap fun r => '$' :: (r.1 ++ r.2)

theorem refSegments_cons (name text : List Char) (refs : Refs) :
    refSegments ((name, text) :: refs) = .ref name :: (text.map .char ++ refSegments refs) := rfl

theorem refSource_cons (name text : List Char) (refs : Refs) :
    refSource ((name, text) :: refs) = '$' :: (name ++ text) ++ refSource refs := rfl

theorem flatMap_source_chars (cs : List Char) :
    (cs.map Segment.char).flatMap Segment.source = cs := by
  induction cs with
  | nil => rfl
  | cons c cs ih => rw [List.map_cons, List.flatMap_cons, ih, Segment.source, List.singleton_append]

theorem flatMap_source_refSegments (refs : Refs) :
    (refSegments refs).flatMap Segment.source = refSource refs := by
  induction refs with
  | nil => rfl
  | cons r refs ih =>
      obtain ⟨name, text⟩ := r
      rw [refSegments_cons, List.flatMap_cons, List.flatMap_append, ih, flatMap_source_chars,
        refSource_cons]
      simp [Segment.source]

/-- A text in front of a reference goes on to it without one of its
own. -/
theorem segments_append_dollar {first : List Char} (h : NoReference first) (rest : List Char) :
    segments (first ++ '$' :: rest) = first.map .char ++ segments ('$' :: rest) := by
  induction first with
  | nil => rfl
  | cons c first ih =>
      obtain ⟨hc, hfirst⟩ := noReference_cons.mp h
      -- Behind the last character of the text stands a dollar sign, with which no name goes on.
      have hends : c = '$' → EndsName (first ++ '$' :: rest) := by
        intro heq
        cases first with
        | nil => exact endsName_cons (by decide)
        | cons d first => exact hc heq
      rw [List.cons_append, segments_char (reference?_cons_eq_none.mpr hends), ih hfirst,
        List.map_cons, List.cons_append]

theorem segments_of_noReference {cs : List Char} (h : NoReference cs) :
    segments cs = cs.map .char := by
  induction cs with
  | nil => rfl
  | cons c cs ih =>
      obtain ⟨hc, hcs⟩ := noReference_cons.mp h
      rw [segments_char (reference?_cons_eq_none.mpr hc), ih hcs, List.map_cons]

/-- The segments of a line are the characters of its texts, and its
references. -/
theorem segments_of_refers {line first : List Char} {refs : Refs} (h : Refers line first refs) :
    segments line = first.map .char ++ refSegments refs := by
  induction h with
  | last hfirst =>
      rw [segments_of_noReference hfirst, refSegments, List.flatMap_nil, List.append_nil]
  | ref hfirst hname hline _ ih =>
      rw [segments_append_dollar hfirst, segments_ref hname hline, ih, refSegments_cons]

/-! ### One way to see a line -/

/-- Segments gathered into a text and the references behind it. -/
def gather : List Segment → List Char × Refs
  | [] => ([], [])
  | .char c :: segs => (c :: (gather segs).1, (gather segs).2)
  | .ref name :: segs => ([], (name, (gather segs).1) :: (gather segs).2)

theorem gather_chars (cs : List Char) (segs : List Segment) :
    gather (cs.map .char ++ segs) = (cs ++ (gather segs).1, (gather segs).2) := by
  induction cs with
  | nil => rfl
  | cons c cs ih => rw [List.map_cons, List.cons_append, gather, ih, List.cons_append]

theorem gather_refSegments (refs : Refs) : gather (refSegments refs) = ([], refs) := by
  induction refs with
  | nil => rfl
  | cons r refs ih =>
      obtain ⟨name, text⟩ := r
      rw [refSegments_cons, gather, gather_chars, ih, List.append_nil]

/-- There is no other way to take a line apart than the one that gathers
its segments. -/
theorem Refers.eq_gather {line first : List Char} {refs : Refs} (h : Refers line first refs) :
    (first, refs) = gather (segments line) := by
  rw [segments_of_refers h, gather_chars, gather_refSegments, List.append_nil]

/-- Every line can be taken apart. -/
theorem exists_refers (cs : List Char) : ∃ first refs, Refers cs first refs := by
  induction cs using refInduction with
  | nil => exact ⟨[], [], .last noReference_nil⟩
  | char c cs href ih =>
      -- The character goes in front of the first text, and starts no reference there.
      obtain ⟨first, refs, h⟩ := ih
      have hends := reference?_cons_eq_none.mp href
      refine ⟨c :: first, refs, ?_⟩
      cases h with
      | last hfirst => exact .last (noReference_cons.mpr ⟨hends, hfirst⟩)
      | ref hfirst hname hline h =>
          refine .ref (noReference_cons.mpr ⟨fun hc => ?_, hfirst⟩) hname hline h
          intro d hd
          refine hends hc d ?_
          cases first with
          | nil => cases hd
          | cons e first => exact hd
  | ref name rest hname hrest ih =>
      obtain ⟨first, refs, h⟩ := ih
      exact ⟨[], (name, first) :: refs, .ref noReference_nil hname hrest h⟩

/-- The references of a line are by name. -/
theorem Refers.isName {line first : List Char} {refs : Refs} (h : Refers line first refs) :
    ∀ r ∈ refs, Assignment.isName r.1 = true := by
  induction h with
  | last _ => simp
  | ref _ hname _ _ ih => exact List.forall_mem_cons.mpr ⟨hname, ih⟩

/-! ### What is written for a reference -/

/-- What is written in the place of a reference, whose dollar sign is the
character `i` of the line: the value of the variable, or, if it is not
set, an empty word where the reference is outside quotes and has no
neighbours but blanks and bars. -/
def standIn (lookup : String → Option String) (line : String) (i : Nat) (name : List Char) :
    List Char :=
  match lookup (String.ofList name) with
  | some value => value.toList
  | none =>
      if (quotedMask line)[i]? = some false ∧ isEdge (line.toList.take i).getLast? = true ∧
          isEdge line.toList[i + name.length + 1]? = true then emptyWord
      else []

/-- Texts with something written in the place of each reference; the
first reference is at place `i`. -/
def writeRefs (write : Nat → List Char → List Char) : (i : Nat) → Refs → List Char
  | _, [] => []
  | i, (name, text) :: refs =>
      write i name ++ text ++ writeRefs write (i + name.length + 1 + text.length) refs

section
variable (lookup : String → Option String)

/-- A text is kept. -/
theorem expandFrom_chars (before : Option Char) (m : Mode) (cs : List Char)
    (segs : List Segment) :
    expandFrom lookup before m (cs.map .char ++ segs)
      = cs ++ expandFrom lookup (cs.getLast?.or before) (m.after cs) segs := by
  induction cs generalizing before m with
  | nil => rfl
  | cons c cs ih =>
      rw [List.map_cons, List.cons_append, expandFrom, ih, Mode.after_cons, List.cons_append,
        List.getLast?_cons]
      cases cs.getLast? <;> rfl

/-- What is written for a reference depends on the raw line alone. -/
theorem replacement_eq_standIn {line : String} {left name right : List Char}
    (hline : line.toList = left ++ '$' :: (name ++ right)) :
    replacement lookup (Mode.gap.after left) left.getLast? right.head? name
      = standIn lookup line left.length name := by
  have hleft : line.toList.take left.length = left := by rw [hline, List.take_left]
  have hmask : (quotedMask line)[left.length]? = some (Mode.gap.after left).isQuoted := by
    rw [getElem?_quotedMask line left.length (by rw [hline]; simp), hleft]
  have hright : line.toList[left.length + name.length + 1]? = right.head? := by
    have hplace : left.length + name.length + 1 - left.length = name.length + 1 := by omega
    rw [hline, List.getElem?_append_right (by omega), hplace, List.getElem?_cons_succ,
      List.getElem?_append_right (Nat.le_refl _), Nat.sub_self, List.head?_eq_getElem?]
  rw [replacement, standIn, hleft, hmask, hright, vacancy_eq]
  cases lookup (String.ofList name) with
  | some value => rfl
  | none => simp only [Option.some.injEq]

/-- From any reference of a line on, the texts are kept and the
references replaced. -/
theorem expandFrom_refs {line : String} {refs : Refs} {left : List Char}
    (hline : line.toList = left ++ refSource refs) (hnames : ∀ r ∈ refs, r.1 ≠ []) :
    expandFrom lookup left.getLast? (Mode.gap.after left) (refSegments refs)
      = writeRefs (standIn lookup line) left.length refs := by
  induction refs generalizing left with
  | nil => rfl
  | cons r refs ih =>
      obtain ⟨name, text⟩ := r
      obtain ⟨hname, hnames⟩ := List.forall_mem_cons.mp hnames
      have hsource : line.toList = left ++ '$' :: (name ++ (text ++ refSource refs)) := by
        rw [hline, refSource_cons]
        simp
      have hright : firstChar? (text.map .char ++ refSegments refs)
          = (text ++ refSource refs).head? := by
        rw [firstChar?_eq_head?, List.flatMap_append, flatMap_source_chars,
          flatMap_source_refSegments]
      have hlast : (left ++ '$' :: (name ++ text)).getLast? = text.getLast?.or name.getLast? := by
        obtain ⟨d, more, rfl⟩ := List.exists_cons_of_ne_nil hname
        simp [List.getLast?_append, List.getLast?_cons]
      have hmode : Mode.gap.after (left ++ '$' :: (name ++ text))
          = ((Mode.gap.after left).after ('$' :: name)).after text := by
        rw [← Mode.after_append, ← Mode.after_append]
        rfl
      have hlength : (left ++ '$' :: (name ++ text)).length
          = left.length + name.length + 1 + text.length := by
        simp
        omega
      have hrest := @ih (left ++ '$' :: (name ++ text)) (by rw [hsource]; simp) hnames
      rw [hlast, hmode, hlength] at hrest
      rw [refSegments_cons, expandFrom_ref, hright, replacement_eq_standIn lookup hsource,
        expandFrom_chars, hrest, writeRefs, List.append_assoc]

end

/-- Every line is texts with references between them in exactly one way,
and it is expanded by keeping the texts and writing for each reference
what stands in for it at its place of the raw line. -/
theorem expand_eq_standIns (lookup : String → Option String) (line : String) :
    ∃ first refs, Refers line.toList first refs ∧
      (∀ first' refs', Refers line.toList first' refs' → first' = first ∧ refs' = refs) ∧
      (expand lookup line).toList
        = first ++ writeRefs (standIn lookup line) first.length refs := by
  obtain ⟨first, refs, h⟩ := exists_refers line.toList
  refine ⟨first, refs, h, ?_, ?_⟩
  · intro first' refs' h'
    have hsame : (first', refs') = (first, refs) := h'.eq_gather.trans h.eq_gather.symm
    exact ⟨congrArg Prod.fst hsame, congrArg Prod.snd hsame⟩
  · have hsegments := segments_of_refers h
    have hsource : line.toList = first ++ refSource refs := by
      rw [← flatMap_source_segments line.toList, hsegments, List.flatMap_append,
        flatMap_source_chars, flatMap_source_refSegments]
    have hnames : ∀ r ∈ refs, r.1 ≠ [] := fun r hr => ne_nil_of_isName (h.isName r hr)
    rw [expand, String.toList_ofList, hsegments, expandFrom_chars, Option.or_none,
      expandFrom_refs lookup hsource hnames]

/-- References that touch, one behind a dollar sign that stands for
itself, text of more than one byte before them, and a value that looks
like a reference. -/
example :
    let lookup : String → Option String := fun name => if name = "A" then some "$B" else none
    expand lookup "é$$A$B $B" = "é$$B \"\"" := by decide

end PipeShell.Line
