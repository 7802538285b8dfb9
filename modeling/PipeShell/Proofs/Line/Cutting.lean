import PipeShell.Proofs.Line.Quoting

/-!
# `PipeShell.Proofs.Line.Cutting`: divisions cut in two

A division of a text can be cut between two of its pieces, and two
divisions can be joined where the first one ends between words.
`StandsAfter p left cs` says that `p` is one of the pieces that `cs` is
divided into, and that `left` is all there is before it.

* `Divides.append`, `Divides.split`: joining and cutting.
* `Divides.after_eq`: the mode at the end of a divided text is the one
  that its last piece leaves behind.
* `standsAfter_iff`: a piece that does not start with a divider stands
  after a text exactly when the mode there is `gap` and the piece fits
  what follows it.
-/

set_option autoImplicit false

namespace PipeShell.Line

/-! ### The mode after a piece and beyond -/

/-- An edge leads out of a bare word, as if there had been none. -/
theorem Mode.after_bare_of_isEdge {rest : List Char} (hne : rest ≠ [])
    (h : isEdge rest.head? = true) : bare.after rest = gap.after rest := by
  cases rest with
  | nil => exact absurd rfl hne
  | cons c rest =>
      have hc : isDivider c = true := isEdge_iff.mp h c rfl
      rw [after_cons, after_cons, next_of_isDivider rfl hc, next_of_isDivider rfl hc]

/-- Beyond a piece the mode is as if the text began there. -/
theorem Piece.after_source_append {p : Piece} {rest : List Char} (hp : p.Proper)
    (hf : p.Fits rest) (hne : rest ≠ []) :
    Mode.gap.after (p.source ++ rest) = Mode.gap.after rest := by
  rw [Mode.after_append, after_source hp]
  cases p with
  | bare cs => exact Mode.after_bare_of_isEdge hne hf
  | unclosed q cs => exact absurd hf hne
  | blank c => rfl
  | bar => rfl
  | quoted q cs => rfl

/-- The pieces of a text are all there is of it. -/
theorem Divides.source_eq {ps : List Piece} {cs : List Char} (h : Divides ps cs) :
    ps.flatMap Piece.source = cs := by
  induction h with
  | nil => rfl
  | cons _ _ _ ih => rw [List.flatMap_cons, ih]

/-- The pieces of a text are proper. -/
theorem Divides.proper {ps : List Piece} {cs : List Char} (h : Divides ps cs) :
    ∀ p ∈ ps, p.Proper := by
  induction h with
  | nil => simp
  | cons hp _ _ ih => exact List.forall_mem_cons.mpr ⟨hp, ih⟩

/-- No text but the empty one is divided into no pieces. -/
theorem Divides.ne_nil {p : Piece} {ps : List Piece} {cs : List Char}
    (h : Divides (p :: ps) cs) : cs ≠ [] := by
  cases h with
  | cons hp _ _ =>
      intro hnil
      exact Piece.source_ne_nil hp (List.append_eq_nil_iff.mp hnil).1

/-- The last piece decides the mode at the end. -/
theorem Divides.after_eq {ps : List Piece} {cs : List Char} (h : Divides ps cs) :
    Mode.gap.after cs = (ps.getLast?.map Piece.modeAfter).getD .gap := by
  induction h with
  | nil => rfl
  | @cons p ps rest hp hf h ih =>
      cases ps with
      | nil =>
          obtain rfl : rest = [] := h.source_eq.symm
          rw [List.append_nil, Piece.after_source hp]
          rfl
      | cons p' ps =>
          rw [Piece.after_source_append hp hf h.ne_nil, ih, List.getLast?_cons_cons]

/-! ### Joining and cutting -/

/-- A piece that ends between words, or is followed by more, fits a
longer text as well. -/
theorem Piece.Fits.append {p : Piece} {rest right : List Char} (hp : p.Proper) (hf : p.Fits rest)
    (hgap : Mode.gap.after (p.source ++ rest) = .gap) : p.Fits (rest ++ right) := by
  cases p with
  | bare cs =>
      cases rest with
      | nil =>
          rw [List.append_nil, after_source hp] at hgap
          cases hgap
      | cons c rest => exact hf
  | unclosed q cs =>
      obtain rfl : rest = [] := hf
      rw [List.append_nil, after_source hp] at hgap
      cases hgap
  | blank c => trivial
  | bar => trivial
  | quoted q cs => trivial

/-- A piece fits the start of what it fits. -/
theorem Piece.Fits.left {p : Piece} {rest right : List Char} (hf : p.Fits (rest ++ right)) :
    p.Fits rest := by
  cases p with
  | bare cs =>
      cases rest with
      | nil => rfl
      | cons c rest => exact hf
  | unclosed q cs => exact (List.append_eq_nil_iff.mp hf).1
  | blank c => trivial
  | bar => trivial
  | quoted q cs => trivial

/-- Divisions can be joined between words. -/
theorem Divides.append {ps qs : List Piece} {left right : List Char} (hps : Divides ps left)
    (hgap : Mode.gap.after left = .gap) (hqs : Divides qs right) :
    Divides (ps ++ qs) (left ++ right) := by
  induction hps with
  | nil => exact hqs
  | @cons p ps rest hp hf _ ih =>
      rw [List.append_assoc]
      refine .cons hp (hf.append hp hgap) (ih ?_)
      by_cases hne : rest = []
      · rw [hne, Mode.after_nil]
      · rwa [Piece.after_source_append hp hf hne] at hgap

/-- A division can be cut between any two pieces. -/
theorem Divides.split {ps qs : List Piece} {cs : List Char} (h : Divides (ps ++ qs) cs) :
    ∃ left right, cs = left ++ right ∧ Divides ps left ∧ Divides qs right ∧
      ∀ p ∈ ps.getLast?, p.Fits right := by
  induction ps generalizing cs with
  | nil => exact ⟨[], cs, rfl, .nil, h, by simp⟩
  | cons p ps ih =>
      cases h with
      | cons hp hf h =>
          obtain ⟨left, right, rfl, hleft, hright, hlast⟩ := ih h
          refine ⟨p.source ++ left, right, (List.append_assoc _ _ _).symm,
            .cons hp hf.left hleft, hright, ?_⟩
          cases ps with
          | nil =>
              intro p' hp'
              cases hp'
              obtain rfl : left = [] := hleft.source_eq.symm
              exact hf
          | cons p' ps => rwa [List.getLast?_cons_cons]

/-- A text that is followed by more of a word ends between words. -/
theorem Divides.after_eq_gap {ps : List Piece} {left right : List Char} (h : Divides ps left)
    (hlast : ∀ p ∈ ps.getLast?, p.Fits right) (hright : isEdge right.head? = false) :
    Mode.gap.after left = .gap := by
  rw [h.after_eq]
  cases hp : ps.getLast? with
  | none => rfl
  | some p =>
      have hf : p.Fits right := hlast p hp
      cases p with
      | bare cs =>
          have hedge : isEdge right.head? = true := hf
          rw [hright] at hedge
          cases hedge
      | unclosed q cs =>
          obtain rfl : right = [] := hf
          cases hright
      | blank c => rfl
      | bar => rfl
      | quoted q cs => rfl

/-! ### Pieces at a place -/

/-- The text is divided so that the piece is one of its pieces, and
`left` is what stands before it. -/
def StandsAfter (p : Piece) (left cs : List Char) : Prop :=
  ∃ before after, Divides (before ++ p :: after) cs ∧ before.flatMap Piece.source = left

/-- A piece stands where its characters do, if the mode there is `gap`
and the rest lets the piece end. -/
theorem standsAfter_iff {p : Piece} {left right : List Char} (hp : p.Proper)
    (hfirst : isEdge p.source.head? = false) :
    StandsAfter p left (left ++ (p.source ++ right)) ↔
      Mode.gap.after left = .gap ∧ p.Fits right := by
  constructor
  · rintro ⟨before, after, h, rfl⟩
    obtain ⟨left, rest, hcs, hbefore, hrest, hlast⟩ := h.split
    rw [hbefore.source_eq] at hcs ⊢
    obtain rfl : p.source ++ right = rest := List.append_cancel_left hcs
    have hhead : isEdge (p.source ++ right).head? = false := by
      obtain ⟨c, more, hsource⟩ := List.exists_cons_of_ne_nil (Piece.source_ne_nil hp)
      rw [hsource] at hfirst ⊢
      exact hfirst
    refine ⟨hbefore.after_eq_gap hlast hhead, ?_⟩
    generalize hcs' : p.source ++ right = cs' at hrest
    cases hrest with
    | cons _ hf _ => rwa [List.append_cancel_left hcs']
  · rintro ⟨hgap, hf⟩
    obtain ⟨before, hbefore⟩ := exists_divides left
    obtain ⟨after, hafter⟩ := exists_divides right
    exact ⟨before, after, hbefore.append hgap (.cons hp hf hafter), hbefore.source_eq⟩

end PipeShell.Line
