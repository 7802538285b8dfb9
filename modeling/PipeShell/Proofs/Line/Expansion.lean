import PipeShell.Environment
import PipeShell.Proofs.Line.Quoting
import PipeShell.Proofs.Line.Reference

/-!
# `PipeShell.Proofs.Line.Expansion`: expanding and reading commute

References are replaced in the raw line, before it is read, so a value
may change how the line is read. `Harmless` says when no value can:
outside quotes every variable is set to a text that a bare word can
hold, and inside quotes no value holds the quotes around it.

* `expandFrom_segments`: on a harmless text the expansion is `resolve`,
  whatever stands to its left.
* `resolve_source_append`, `Piece.proper_mapText`, `Piece.fits_resolve`:
  a piece of the raw line turns into a piece of the same kind, and the
  pieces still fit each other.
* `Divides.mapText_resolve`: so the division of the raw line turns into the
  division of the expanded line.
* `tokens_expand_of_harmless`: the tokens of the expanded line are those
  of the raw line with each word's value resolved.
-/

set_option autoImplicit false

namespace PipeShell.Line

/-- A value that a bare word can hold at any place: there is something
of it, and it has neither dividers nor quotes in it. -/
def Plain (value : String) : Prop :=
  value ≠ "" ∧ ∀ c ∈ value.toList, isDivider c = false ∧ Quote.ofChar? c = none

/-- No value changes how the line is read. -/
structure Harmless (lookup : String → Option String) (line : String) : Prop where
  /-- A variable that is referred to outside quotes is set to a plain
  value. -/
  outside : ∀ i < line.toList.length, ∀ name ∈ refAt? line.toList i,
    (quotedMask line)[i]? = some false → ∃ value ∈ lookup (String.ofList name), Plain value
  /-- A variable that is referred to inside a quoted word is not set, or
  its value does not hold the quote of that word. -/
  inside : ∀ i < line.toList.length, ∀ name ∈ refAt? line.toList i,
    ∀ q ∈ (Mode.gap.after (line.toList.take i)).quote?,
      ∀ value ∈ lookup (String.ofList name), q.char ∉ value.toList

-- Named in full, so that it goes over the value and never over all characters there are.
instance (value : String) : Decidable (Plain value) :=
  @instDecidableAnd _ _ inferInstance (List.decidableBAll _ value.toList)

instance (lookup : String → Option String) (line : String) : Decidable (Harmless lookup line) :=
  decidable_of_iff (_ ∧ _) ⟨fun h => ⟨h.1, h.2⟩, fun h => ⟨h.outside, h.inside⟩⟩

/-- The word with its value changed. -/
def Word.mapValue (f : List Char → List Char) (w : Word) : Word :=
  { w with value := String.ofList (f w.value.toList) }

/-- The token with the value of its word changed. -/
def Token.mapValue (f : List Char → List Char) : Token → Token
  | .word w => .word (w.mapValue f)
  | .pipe => .pipe

/-- The piece with the text of its word changed. -/
def Piece.mapText (f : List Char → List Char) : Piece → Piece
  | blank c => blank c
  | bar => bar
  | bare cs => bare (f cs)
  | quoted q cs => quoted q (f cs)
  | unclosed q cs => unclosed q (f cs)

theorem Piece.token?_mapText (f : List Char → List Char) (p : Piece) :
    (p.mapText f).token? = p.token?.map (Token.mapValue f) := by
  cases p <;> simp [Piece.mapText, Piece.token?, Token.mapValue, Word.mapValue]

/-! ### What is written for a reference -/

/-- What is written for a reference, by the mode at its dollar sign and
its neighbours. -/
def replacement (lookup : String → Option String) (m : Mode) (before after : Option Char)
    (name : List Char) : List Char :=
  match lookup (String.ofList name) with
  | some value => value.toList
  | none => vacancy m before after

theorem expandFrom_ref (lookup : String → Option String) (before : Option Char) (m : Mode)
    (name : List Char) (rest : List Segment) :
    expandFrom lookup before m (.ref name :: rest)
      = replacement lookup m before (firstChar? rest) name
        ++ expandFrom lookup name.getLast? (m.after ('$' :: name)) rest := rfl

/-! ### Harmless texts -/

/-- Whether a variable may be referred to where the mode is `m`. -/
def Mode.Takes (m : Mode) (value? : Option String) : Prop :=
  match m with
  | quoted q => ∀ value ∈ value?, q.char ∉ value.toList
  | _ => ∃ value ∈ value?, Plain value

/-- Every reference of a text that is read from mode `m` on is to a
variable that may be referred to there. -/
def HarmlessFrom (lookup : String → Option String) (m : Mode) (cs : List Char) : Prop :=
  ∀ i name, refAt? cs i = some name → (m.after (cs.take i)).Takes (lookup (String.ofList name))

/-- A reference stands inside its text. -/
theorem lt_length_of_refAt? {cs name : List Char} {i : Nat} (h : refAt? cs i = some name) :
    i < cs.length := by
  by_contra hi
  rw [refAt?, List.drop_eq_nil_of_le (Nat.le_of_not_lt hi)] at h
  cases h

/-- Outside quotes it is the plain values that may be referred to. -/
theorem Mode.takes_of_not_isQuoted {m : Mode} {value? : Option String} (hm : m.isQuoted = false) :
    m.Takes value? ↔ ∃ value ∈ value?, Plain value := by
  cases m with
  | gap => exact Iff.rfl
  | bare => exact Iff.rfl
  | quoted q => cases hm

section
variable {lookup : String → Option String}

/-- A harmless line is harmless read from its start. -/
theorem Harmless.harmlessFrom {line : String} (h : Harmless lookup line) :
    HarmlessFrom lookup .gap line.toList := by
  intro i name href
  have hi := lt_length_of_refAt? href
  have hmask := getElem?_quotedMask line i hi
  cases hm : Mode.gap.after (line.toList.take i) with
  | quoted q => exact h.inside i hi name href q (by rw [hm]; rfl)
  | gap => exact h.outside i hi name href (by rw [hmask, hm]; rfl)
  | bare => exact h.outside i hi name href (by rw [hmask, hm]; rfl)

namespace HarmlessFrom

/-- The rest of a harmless text is harmless. -/
theorem right {m : Mode} (cs : List Char) {rest : List Char}
    (h : HarmlessFrom lookup m (cs ++ rest)) : HarmlessFrom lookup (m.after cs) rest := by
  intro i name href
  have hi := h (cs.length + i) name (by rw [refAt?_length_add, href])
  rwa [List.take_length_add_append, Mode.after_append] at hi

/-- The start of a harmless text is harmless, if it ends no name. -/
theorem left {m : Mode} {cs rest : List Char} (hrest : EndsName rest)
    (h : HarmlessFrom lookup m (cs ++ rest)) : HarmlessFrom lookup m cs := by
  intro i name href
  have hi := lt_length_of_refAt? href
  have hne : cs.drop i ≠ [] := by simpa using hi
  have hcut := h i name (by
    rw [refAt?, List.drop_append_of_le_length (Nat.le_of_lt hi), reference?_append hne hrest]
    exact href)
  rwa [List.take_append_of_le_length (Nat.le_of_lt hi)] at hcut

/-- A harmless text that starts with a quote is harmless inside it. -/
theorem after_quote {q : Quote} {cs : List Char} (h : HarmlessFrom lookup .gap (q.char :: cs)) :
    HarmlessFrom lookup (.quoted q) cs := by
  have hright := h.right [q.char]
  rwa [Mode.after_cons, Mode.next_gap_quote, Mode.after_nil] at hright

/-- A text that a bare word ends at is harmless from between words on:
its first character leads there anyway. -/
theorem gap_of_bare {rest : List Char} (hrest : isEdge rest.head? = true)
    (h : HarmlessFrom lookup .bare rest) : HarmlessFrom lookup .gap rest := by
  intro i name href
  have hi := h i name href
  cases rest with
  | nil => exact absurd (lt_length_of_refAt? href) (Nat.not_lt_zero i)
  | cons c rest =>
      have hc : isDivider c = true := isEdge_iff.mp hrest c rfl
      cases i with
      | zero => exact hi
      | succ i =>
          rw [List.take_succ_cons, Mode.after_cons, Mode.next_of_isDivider rfl hc] at hi ⊢
          exact hi

end HarmlessFrom

/-- Where a variable may be referred to, its value is written. Outside
quotes it is set; inside them no mark is left of one that is not. -/
theorem replacement_eq_valueOf {m : Mode} {name : List Char}
    (h : m.Takes (lookup (String.ofList name))) (before after : Option Char) :
    replacement lookup m before after name = valueOf lookup name := by
  unfold replacement valueOf
  cases hset : lookup (String.ofList name) with
  | some value => rfl
  | none =>
      cases hm : m.isQuoted with
      | true => simp [vacancy, hm]
      | false =>
          obtain ⟨value, hvalue, -⟩ := (Mode.takes_of_not_isQuoted hm).mp h
          rw [hset] at hvalue
          cases hvalue

/-- The expansion of a harmless text replaces each reference by the
value of its variable, whatever stands to the left. -/
theorem expandFrom_segments (cs : List Char) (before : Option Char) (m : Mode)
    (h : HarmlessFrom lookup m cs) :
    expandFrom lookup before m (segments cs) = resolve lookup cs := by
  induction cs using refInduction generalizing before m with
  | nil => rw [resolve_nil]; rfl
  | char c cs href ih =>
      have hrest : HarmlessFrom lookup (m.next c) cs := h.right [c]
      rw [segments_char href, resolve_char lookup href, expandFrom, ih _ _ hrest]
  | ref name rest hname hends ih =>
      have hrest : HarmlessFrom lookup (m.after ('$' :: name)) rest := h.right ('$' :: name)
      have htakes : m.Takes (lookup (String.ofList name)) :=
        h 0 name (reference?_eq_some.mpr ⟨rest, rfl, hname, hends⟩)
      rw [segments_ref hname hends, resolve_ref lookup hname hends, expandFrom_ref,
        replacement_eq_valueOf htakes, ih _ _ hrest]

/-! ### Pieces of the raw line and of the expanded one -/

/-- A reference does not start with a divider. -/
theorem reference?_of_isDivider {c : Char} (cs : List Char) (hc : isDivider c = true) :
    reference? (c :: cs) = none := by
  refine reference?_eq_none cs ?_
  rintro rfl
  revert hc
  decide

/-- A reference does not start with a quote. -/
theorem reference?_quote (q : Quote) (cs : List Char) : reference? (q.char :: cs) = none :=
  reference?_eq_none cs (by cases q <;> decide)

/-- A piece is resolved by itself. -/
theorem resolve_source_append {p : Piece} {rest : List Char} (hp : p.Proper) (hf : p.Fits rest) :
    resolve lookup (p.source ++ rest)
      = (p.mapText (resolve lookup)).source ++ resolve lookup rest := by
  cases p with
  | blank c =>
      exact resolve_char lookup (reference?_of_isDivider rest (isDivider_of_isBlank hp))
  | bar => exact resolve_char lookup (reference?_of_isDivider rest (by decide))
  | bare cs => exact resolve_append lookup (endsName_of_isEdge hf) cs
  | quoted q cs =>
      -- No reference reaches over a quote, so the text can be cut at both.
      rw [Piece.source_quoted_append, resolve_char lookup (reference?_quote q _),
        resolve_append lookup (endsName_quote q rest),
        resolve_char lookup (reference?_quote q rest), Piece.mapText, Piece.source_quoted_append]
  | unclosed q cs =>
      obtain rfl : rest = [] := hf
      show resolve lookup (q.char :: cs ++ []) = q.char :: resolve lookup cs ++ resolve lookup []
      rw [List.append_nil, resolve_char lookup (reference?_quote q cs), resolve_nil,
        List.append_nil]

/-- What follows a piece still may follow it. -/
theorem Piece.fits_resolve {p : Piece} {rest : List Char} (hf : p.Fits rest) :
    (p.mapText (resolve lookup)).Fits (resolve lookup rest) := by
  cases p with
  | bare cs =>
      show isEdge (resolve lookup rest).head? = true
      cases rest with
      | nil => rw [resolve_nil]; rfl
      | cons c rest =>
          have hc : isDivider c = true := isEdge_iff.mp hf c rfl
          rw [resolve_char lookup (reference?_of_isDivider rest hc)]
          exact hc
  | unclosed q cs =>
      obtain rfl : rest = [] := hf
      exact resolve_nil lookup
  | blank c => trivial
  | bar => trivial
  | quoted q cs => trivial

/-- The values that a bare text refers to are plain. -/
theorem HarmlessFrom.plain_of_bare {cs name : List Char} {i : Nat}
    (h : HarmlessFrom lookup .gap cs) (hp : (Piece.bare cs).Proper)
    (href : refAt? cs i = some name) :
    ∃ value ∈ lookup (String.ofList name), Plain value := by
  obtain ⟨c, run, rfl, hc, hq, hrun⟩ := hp
  refine (Mode.takes_of_not_isQuoted ?_).mp (h i name href)
  -- The mode is `gap` at the first character and `bare` from there on.
  cases i with
  | zero => rfl
  | succ i =>
      rw [List.take_succ_cons, Mode.after_cons, Mode.next_gap_bare hc hq,
        Mode.after_bare fun d hd => hrun d (List.mem_of_mem_take hd)]
      rfl

/-- The values that a quoted text refers to do not hold its quote. -/
theorem HarmlessFrom.quote_notMem_resolve {q : Quote} {cs : List Char}
    (h : HarmlessFrom lookup (.quoted q) cs) (hq : q.char ∉ cs) :
    q.char ∉ resolve lookup cs := by
  intro hmem
  rcases mem_resolve lookup cs hmem with hcs | ⟨i, name, href, hvalue⟩
  · exact hq hcs
  · have htakes := h i name href
    rw [Mode.after_quoted fun hd => hq (List.mem_of_mem_take hd)] at htakes
    rw [valueOf] at hvalue
    cases hset : lookup (String.ofList name) with
    | none => rw [hset] at hvalue; cases hvalue
    | some value =>
        rw [hset] at hvalue
        exact htakes value hset hvalue

/-- The text of a bare word stays the text of a bare word. Its first
character is kept or is the first one of a value that is not empty. -/
theorem Piece.proper_bare_resolve {cs : List Char} (hp : (Piece.bare cs).Proper)
    (h : HarmlessFrom lookup .gap cs) : (Piece.bare (resolve lookup cs)).Proper := by
  have hdividers : ∀ d ∈ resolve lookup cs, isDivider d = false := by
    intro d hd
    rcases mem_resolve lookup cs hd with hcs | ⟨i, name, href, hvalue⟩
    · obtain ⟨c, run, rfl, hc, -, hrun⟩ := hp
      rcases List.mem_cons.mp hcs with rfl | hrun'
      · exact hc
      · exact hrun d hrun'
    · obtain ⟨value, hset, -, hplain⟩ := h.plain_of_bare hp href
      rw [valueOf, Option.mem_def.mp hset] at hvalue
      exact (hplain d hvalue).1
  have hfirst : ∃ d rest, resolve lookup cs = d :: rest ∧ ∀ q : Quote, d ≠ q.char := by
    obtain ⟨c, run, rfl, hc, hq, hrun⟩ := id hp
    cases href : reference? (c :: run) with
    | none => exact ⟨c, _, resolve_char lookup href, hq⟩
    | some name =>
        obtain ⟨rest, hcs, hname, hrest⟩ := reference?_eq_some.mp href
        obtain ⟨value, hset, hne, hplain⟩ := h.plain_of_bare (i := 0) hp href
        have hvalue : valueOf lookup name = value.toList := by
          rw [valueOf, Option.mem_def.mp hset]
          rfl
        obtain ⟨d, more, hd⟩ := List.exists_cons_of_ne_nil (mt String.toList_eq_nil_iff.mp hne)
        refine ⟨d, more ++ resolve lookup rest, ?_,
          Quote.ofChar?_eq_none.mp (hplain d (hd ▸ List.mem_cons_self)).2⟩
        rw [hcs, resolve_ref lookup hname hrest, hvalue, hd, List.cons_append]
  obtain ⟨d, rest, hd, hq⟩ := hfirst
  rw [hd] at hdividers
  exact ⟨d, rest, hd, hdividers d List.mem_cons_self, hq,
    fun e he => hdividers e (List.mem_cons_of_mem d he)⟩

/-- A proper piece of a harmless text turns into a proper one. -/
theorem Piece.proper_mapText {p : Piece} {rest : List Char} (hp : p.Proper) (hf : p.Fits rest)
    (h : HarmlessFrom lookup .gap (p.source ++ rest)) :
    (p.mapText (resolve lookup)).Proper := by
  cases p with
  | blank c => exact hp
  | bar => trivial
  | bare cs => exact proper_bare_resolve hp (h.left (endsName_of_isEdge hf))
  | quoted q cs =>
      rw [source_quoted_append] at h
      exact (h.after_quote.left (endsName_quote q rest)).quote_notMem_resolve hp
  | unclosed q cs =>
      obtain rfl : rest = [] := hf
      rw [List.append_nil] at h
      exact h.after_quote.quote_notMem_resolve hp

/-- What follows a piece of a harmless text is harmless. -/
theorem HarmlessFrom.after_piece {p : Piece} {rest : List Char} (hp : p.Proper)
    (hf : p.Fits rest) (h : HarmlessFrom lookup .gap (p.source ++ rest)) :
    HarmlessFrom lookup .gap rest := by
  have hrest := h.right p.source
  rw [Piece.after_source hp] at hrest
  cases p with
  | blank c => exact hrest
  | bar => exact hrest
  | quoted q cs => exact hrest
  | bare cs => exact hrest.gap_of_bare hf
  | unclosed q cs =>
      -- The mode is still a quoted one, but there is nothing left to read.
      obtain rfl : rest = [] := hf
      intro i name href
      exact absurd (lt_length_of_refAt? href) (Nat.not_lt_zero i)

/-- The division of a harmless text turns into the division of the
resolved text, piece by piece. -/
theorem Divides.mapText_resolve {ps : List Piece} {cs : List Char} (hps : Divides ps cs)
    (h : HarmlessFrom lookup .gap cs) :
    Divides (ps.map (Piece.mapText (resolve lookup))) (resolve lookup cs) := by
  induction hps with
  | nil => rw [resolve_nil]; exact .nil
  | @cons p ps rest hp hf _ ih =>
      rw [resolve_source_append hp hf, List.map_cons]
      exact .cons (Piece.proper_mapText hp hf h) (Piece.fits_resolve hf)
        (ih (h.after_piece hp hf))

end

/-- Expanding a harmless line and reading it gives the tokens of the raw
line, in the same order and with the same quotes, with the references in
each word's value replaced. -/
theorem tokens_expand_of_harmless (lookup : String → Option String) (line : String)
    (h : Harmless lookup line) :
    tokens (expand lookup line) = (tokens line).map (Token.mapValue (resolve lookup)) := by
  obtain ⟨ps, hps⟩ := exists_divides line.toList
  have hexpand : (expand lookup line).toList = resolve lookup line.toList := by
    rw [expand, String.toList_ofList, expandFrom_segments _ _ _ h.harmlessFrom]
  calc tokens (expand lookup line)
      = scan .gap [] (resolve lookup line.toList) := by rw [tokens, hexpand]
    _ = (ps.map (Piece.mapText (resolve lookup))).filterMap Piece.token? :=
        (hps.mapText_resolve h.harmlessFrom).scan_eq
    _ = (ps.filterMap Piece.token?).map (Token.mapValue (resolve lookup)) := by
        rw [List.filterMap_map, List.map_filterMap]
        congr 1
        funext p
        exact p.token?_mapText _
    _ = (tokens line).map (Token.mapValue (resolve lookup)) := by
        rw [tokens, hps.scan_eq]

/-- A bare word that a value goes into, a quoted one whose value brings
in blanks, a bar and the other quote, and an unclosed one that refers to
nothing. -/
theorem tokens_expand_of_harmless_mixed :
    let lookup := (((Environment.within "/").assign "X" "ell").assign "Q" "it's |").lookup
    let line := "h$X.o \"$Q b\"'$N"
    Harmless lookup line ∧ tokens (expand lookup line)
      = (tokens line).map (Token.mapValue (resolve lookup)) := by
  intro lookup line
  have h : Harmless lookup line := by decide
  exact ⟨h, tokens_expand_of_harmless lookup line h⟩

end PipeShell.Line
