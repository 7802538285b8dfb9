import PipeShell.Pattern.Compile
import PipeShell.Proofs.Pattern.Motion
import PipeShell.Proofs.Pattern.Step
import PipeShell.Proofs.Unicode.Folding
import Mathlib.Data.List.Forall2

/-!
# `PipeShell.Proofs.Pattern.Escape`: a text as a pattern

`escape` puts a backslash before the characters that would mean
something else. Every character is then read as itself, and nothing of
the text can be refused but for its size: the pattern is the characters
of the text in a row, and it matches where they stand one after the
other.

* `readAtom_plain`, `readAtom_escaped`: one character, in the two ways
  it is written.
* `readBody_escape`: a text, by induction over it.
* `meaning_escape`, `compile_escape`: what the pattern means.
* `accepts_of_compile_escape`: which lines match, and for the two
  settings of case `standsFor_initial_false` and
  `standsFor_initial_true`.
-/

set_option autoImplicit false

namespace PipeShell.Pattern

open Unicode Reader

/-! ### Steps of reading -/

namespace Reader

section
variable (p : Position) (c : Char) (rest : List Char) (names : List (List Char × Span))

theorem skipLoosely_eq : skipLoosely ⟨p, rest, false, names⟩ = .ok ((), ⟨p, rest, false, names⟩) :=
  rfl

theorem peek?_eq (loose : Bool) :
    peek? ⟨p, rest, loose, names⟩ = .ok (rest.head?, ⟨p, rest, loose, names⟩) := rfl

theorem charSpan_eq (loose : Bool) :
    charSpan ⟨p, c :: rest, loose, names⟩
      = .ok (⟨p, p.after c⟩, ⟨p, c :: rest, loose, names⟩) := rfl

theorem bump_eq (loose : Bool) :
    bump ⟨p, c :: rest, loose, names⟩
      = .ok (!rest.isEmpty, ⟨p.after c, rest, loose, names⟩) := rfl

end

end Reader

/-! ### Reading a text -/

/-- A character and where it stands, as a part of a pattern. -/
def literalAt (l : Span × Char) : Node := .literal ⟨l.1, l.2, false⟩

/-- Characters that are not read as an atom of their own or as the first
of one. -/
def isOperator (c : Char) : Bool := ['(', ')', '|', '[', '?', '*', '+', '{'].contains c

theorem isOperator_eq_false {c : Char} (h : isMeta c = false) : isOperator c = false := by
  rw [isMeta, List.contains_eq_mem, decide_eq_false_iff_not] at h
  rw [isOperator, List.contains_eq_mem, decide_eq_false_iff_not]
  have hsub : ['(', ')', '|', '[', '?', '*', '+', '{'] ⊆ ['\\', '.', '+', '*', '?', '(', ')', '|',
      '[', ']', '{', '}', '^', '$', '#', '&', '-', '~'] := by decide
  exact fun hmem => h (hsub hmem)

section
variable {c : Char} (fuel : Nat) (run : BodyRun) (p : Position) (rest : List Char)
  (names : List (List Char × Span))

/-- Anything but an operator is read as an atom. -/
theorem readBody_atom (h : isOperator c = false) :
    readBody none (fuel + 1) run ⟨p, c :: rest, false, names⟩
      = (readAtom c >>= fun n => readBody none fuel (run.push n)) ⟨p, c :: rest, false, names⟩ := by
  rw [readBody, bind_of_ok (skipLoosely_eq p (c :: rest) names),
    bind_of_ok (peek?_eq p (c :: rest) names false), List.head?_cons]
  refine congrFun ?_ _
  split
  case h_10 =>
    rename_i heq
    cases heq
    rfl
  case h_1 =>
    rename_i heq
    cases heq
  all_goals
    rename_i heq
    cases heq
    exact absurd h (by decide)

/-- A character without a meaning of its own is read as itself. -/
theorem readAtom_plain (h : isMeta c = false) :
    readAtom c ⟨p, c :: rest, false, names⟩
      = .ok (.literal ⟨⟨p, p.after c⟩, c, false⟩, ⟨p.after c, rest, false, names⟩) := by
  have hne : c ≠ '\\' ∧ c ≠ '.' ∧ c ≠ '^' ∧ c ≠ '$' := by
    refine ⟨?_, ?_, ?_, ?_⟩ <;>
    · rintro rfl
      exact absurd h (by decide)
  obtain ⟨hbackslash, hdot, hcaret, hdollar⟩ := hne
  have hescape : (c == '\\') = false := beq_eq_false_iff_ne.mpr hbackslash
  rw [readAtom, bind_of_ok (charSpan_eq p c rest names false), hescape,
    if_neg Bool.false_ne_true, bind_of_ok (bump_eq p c rest names false)]
  refine congrFun (g := (pure (.literal ⟨⟨p, p.after c⟩, c, false⟩) : Reader Node)) ?_ _
  split
  · contradiction
  · contradiction
  · contradiction
  · rfl

/-- A character with a meaning of its own is read as itself after a
backslash. -/
theorem readAtom_escaped (h : isMeta c = true) :
    readAtom '\\' ⟨p, '\\' :: c :: rest, false, names⟩
      = .ok (.literal ⟨⟨p, (p.after '\\').after c⟩, c, false⟩,
          ⟨(p.after '\\').after c, rest, false, names⟩) := by
  rw [isMeta, List.contains_eq_mem, decide_eq_true_eq] at h
  simp only [List.mem_cons, List.not_mem_nil, or_false] at h
  rcases h with rfl | rfl | rfl | rfl | rfl | rfl | rfl | rfl | rfl | rfl | rfl | rfl | rfl
    | rfl | rfl | rfl | rfl | rfl
  all_goals rfl

/-- The pattern that a text is written as is read character by
character. -/
theorem readBody_escape (cs : List Char) (hfuel : cs.length ≤ fuel) :
    ∃ (ls : List (Span × Char)) (s' : Cursor), ls.map Prod.snd = cs ∧
      readBody none fuel run ⟨p, escape cs, false, names⟩
        = .ok (BodyRun.node { run with parts := (ls.map literalAt).reverse ++ run.parts } s'.pos,
            s') := by
  induction cs generalizing fuel run p with
  | nil =>
      refine ⟨[], ⟨p, [], false, names⟩, rfl, ?_⟩
      cases fuel with
      | zero => rfl
      | succ fuel => rfl
  | cons c cs ih =>
      obtain ⟨fuel, rfl⟩ : ∃ n, fuel = n + 1 := ⟨fuel - 1, by simp at hfuel; omega⟩
      -- Whichever way the character is written, it is read as one literal.
      obtain ⟨span, p', hread⟩ : ∃ span p',
          readBody none (fuel + 1) run ⟨p, escape (c :: cs), false, names⟩
            = readBody none fuel (run.push (literalAt (span, c)))
                ⟨p', escape cs, false, names⟩ := by
        rw [escape, List.flatMap_cons]
        cases hmeta : isMeta c with
        | true =>
            refine ⟨⟨p, (p.after '\\').after c⟩, (p.after '\\').after c, ?_⟩
            exact (readBody_atom fuel run p _ names (by decide)).trans
              (bind_of_ok (readAtom_escaped p _ names hmeta))
        | false =>
            refine ⟨⟨p, p.after c⟩, p.after c, ?_⟩
            exact (readBody_atom fuel run p _ names (isOperator_eq_false hmeta)).trans
              (bind_of_ok (readAtom_plain p _ names hmeta))
      obtain ⟨ls, s', hls, hrest⟩ := ih fuel (run.push (literalAt (span, c))) p'
        (by simpa using hfuel)
      refine ⟨(span, c) :: ls, s', by rw [List.map_cons, hls], ?_⟩
      rw [hread, hrest]
      simp [BodyRun.push]

end

/-! ### What it means -/

/-- Characters in a row are not nested too deep. -/
theorem overdeep?_literals (span : Span) (ls : List (Span × Char)) :
    (Node.ofParts span (ls.map literalAt)).overdeep? nestLimit = none := by
  have hall : ∀ (room : Nat) (ls : List (Span × Char)),
      Node.anyOverdeep? room (ls.map literalAt) = none := by
    intro room ls
    induction ls with
    | nil => rw [List.map_nil, Node.anyOverdeep?]
    | cons l ls ih =>
        simp only [List.map_cons, literalAt, Node.anyOverdeep?, Node.overdeep?]
        exact ih
  match ls with
  | [] => rfl
  | [l] => rfl
  | l :: l' :: ls => exact hall 249 (l :: l' :: ls)

/-- Several patterns in a row. -/
def Regex.seqs (rs : List Regex) : Regex := rs.foldr seq empty

/-- A text in a row, each character closed under case as the modes
ask. -/
def Modes.row (m : Modes) : List Char → Regex
  | [c] => .one (m.close (.single c))
  | cs => .seqs (cs.map fun c => .one (m.close (.single c)))

theorem regex_literals (m : Modes) (span : Span) (ls : List (Span × Char)) :
    (Node.ofParts span (ls.map literalAt)).regex m = .ok (m.row (ls.map Prod.snd), m) := by
  have hone : ∀ l : Span × Char,
      (literalAt l).regex m = .ok (.one (m.close (.single l.2)), m) := by
    intro l
    have hchar : m.literal ⟨l.1, l.2, false⟩ = .ok l.2 := by simp [Modes.literal]
    rw [literalAt, Node.regex, hchar]
    rfl
  have hrow : ∀ ls : List (Span × Char), Node.sequence m (ls.map literalAt)
      = .ok (.seqs ((ls.map Prod.snd).map fun c => .one (m.close (.single c))), m) := by
    intro ls
    induction ls with
    | nil => rw [List.map_nil, Node.sequence]; rfl
    | cons l ls ih =>
        simp only [List.map_cons, Node.sequence, hone, bind, Except.bind, ih]
        rfl
  match ls with
  | [] => rfl
  | [l] => exact hone l
  | l :: l' :: ls => exact hrow (l :: l' :: ls)

/-- A text written as a pattern means its characters in a row. -/
theorem meaning_escape (cs : List Char) (ignoreCase : Bool) :
    meaning (escape cs) ignoreCase = .ok ((Modes.initial ignoreCase).row cs) := by
  have hfuel : cs.length ≤ (escape cs).length + 1 := by
    have hlength : ∀ cs : List Char, cs.length ≤ (escape cs).length := by
      intro cs
      induction cs with
      | nil => exact Nat.le_refl 0
      | cons c cs ih =>
          rw [escape, List.flatMap_cons, List.length_append, ← escape, List.length_cons]
          split <;> simp <;> omega
    exact Nat.le_succ_of_le (hlength cs)
  obtain ⟨ls, s', hls, hread⟩ := readBody_escape ((escape cs).length + 1) (.at .origin) .origin []
    cs hfuel
  have hnode : read (escape cs) = .ok (Node.ofParts ⟨.origin, s'.pos⟩ (ls.map literalAt)) := by
    have hwhole : BodyRun.node { BodyRun.at .origin with
        parts := (ls.map literalAt).reverse ++ (BodyRun.at .origin).parts } s'.pos
          = Node.ofParts ⟨.origin, s'.pos⟩ (ls.map literalAt) := by
      simp [BodyRun.node, BodyRun.branch, BodyRun.at]
    rw [hwhole] at hread
    simp only [read, StateT.run, hread, bind, Except.bind, overdeep?_literals]
  simp only [meaning, hnode, bind, Except.bind, regex_literals, hls]
  rfl

/-- A text can only be refused for its size. -/
theorem compile_escape (cs : List Char) (ignoreCase : Bool) :
    compile (escape cs) ignoreCase
      = if ((Modes.initial ignoreCase).row cs).isTooLarge then .error .tooLarge
        else .ok ⟨(Modes.initial ignoreCase).row cs⟩ := by
  rw [compile, meaning_escape]

/-! ### Which lines match -/

/-- Characters in a row are no repetition. -/
theorem isPlain_row (m : Modes) (cs : List Char) : (m.row cs).isPlain = true := by
  have hseqs : ∀ cs : List Char,
      (Regex.seqs (cs.map fun c => .one (m.close (.single c)))).isPlain = true := by
    intro cs
    induction cs with
    | nil => rfl
    | cons c cs ih => exact ih
  match cs with
  | [] => rfl
  | [c] => rfl
  | c :: d :: cs => exact hseqs (c :: d :: cs)

/-- Characters stand for those of a text one by one, up to case where the
modes ask for it. -/
def Modes.StandsFor (m : Modes) : List Char → List Char → Prop :=
  List.Forall₂ fun c d => (m.close (.single c)).has d = true

theorem matches_one_close {m : Modes} {c : Char} {before s after : List Char} :
    (Regex.one (m.close (.single c))).Matches before s after ↔ m.StandsFor [c] s := by
  constructor
  · intro h
    cases h with
    | one hc => exact .cons hc .nil
  · intro h
    cases h with
    | cons hc hnil =>
        cases hnil
        exact .one hc

/-- A text matches what stands for it and nothing else. -/
theorem matches_seqs {m : Modes} {cs before s after : List Char} :
    (Regex.seqs (cs.map fun c => .one (m.close (.single c)))).Matches before s after ↔
      m.StandsFor cs s := by
  induction cs generalizing before s with
  | nil =>
      constructor
      · intro h
        cases h
        exact .nil
      · intro h
        cases h
        exact .empty
  | cons c cs ih =>
      constructor
      · intro h
        cases h with
        | seq hone hrest =>
            cases matches_one_close.mp hone with
            | cons hc hnil =>
                cases hnil
                exact .cons hc (ih.mp hrest)
      · intro h
        cases h with
        | @cons _ d _ t hc hcs =>
            exact .seq (s := [d]) (matches_one_close.mpr (.cons hc .nil)) (ih.mpr hcs)

theorem matches_row {m : Modes} {cs before s after : List Char} :
    (m.row cs).Matches before s after ↔ m.StandsFor cs s := by
  match cs with
  | [] => exact matches_seqs
  | [c] => exact matches_one_close
  | c :: d :: cs => exact matches_seqs

/-- The lines that match a text are those that hold something that
stands for it. -/
theorem accepts_of_compile_escape {cs : List Char} {ignoreCase : Bool} {m : Matcher}
    (h : compile (escape cs) ignoreCase = .ok m) (line : List Char) :
    m.accepts line = true ↔ ∃ s, s <:+: line ∧ (Modes.initial ignoreCase).StandsFor cs s := by
  rw [compile_escape] at h
  split at h
  · cases h
  cases h
  rw [Matcher.accepts, Regex.matchesLine_iff (isPlain_row _ cs)]
  constructor
  · rintro ⟨before, s, after, rfl, hmatch⟩
    exact ⟨s, ⟨before, after, rfl⟩, matches_row.mp hmatch⟩
  · rintro ⟨s, ⟨before, after, rfl⟩, hstands⟩
    exact ⟨before, s, after, rfl, matches_row.mpr hstands⟩

/-- With case every character stands for itself alone. -/
theorem standsFor_initial_false {cs s : List Char} :
    (Modes.initial false).StandsFor cs s ↔ s = cs := by
  have hself : (fun c d => ((Modes.initial false).close (.single c)).has d = true)
      = fun c d : Char => c = d := by
    funext c d
    show (CharSet.has (.single c) d = true) = _
    rw [CharSet.has_single, beq_iff_eq]
    exact propext eq_comm
  rw [Modes.StandsFor, hself, List.forall₂_eq_eq_eq, eq_comm]

/-- Without case it stands for those that are alike to it. -/
theorem standsFor_initial_true {cs s : List Char} :
    (Modes.initial true).StandsFor cs s ↔ List.Forall₂ (fun c d => alike c d = true) cs s := by
  have halike : (fun c d => ((Modes.initial true).close (.single c)).has d = true)
      = fun c d : Char => alike c d = true := by
    funext c d
    show (CharSet.has (CharSet.folded (.single c)) d = true) = _
    rw [CharSet.has_folded_single]
  rw [Modes.StandsFor, halike]

end PipeShell.Pattern
