import PipeShell.Proofs.Line.Joining

/-!
# `PipeShell.Proofs.Line.Rendering`: tokens written out as a line

`render` writes tokens with single blanks between them, each word in the
quotes it had. Not every list of tokens can come of a line: a bare word
has no dividers in it, and no word holds the quote that would end it.
`Token.WellFormed` says just this, and it is all there is to say.

* `wellFormed_of_token?`: what comes of a proper piece is well formed.
* `Token.proper_piece`: a well-formed token is written as a proper
  piece.
* `scan_source`: the scanner reads a token that is written out as that
  token.
* `tokens_render_iff`: the lists that come of a line are those of
  well-formed tokens, and reading undoes writing.
-/

set_option autoImplicit false

namespace PipeShell.Line

/-- What the value of a word may be. -/
def Word.WellFormed (w : Word) : Prop :=
  match w.quote with
  | none => w.value ≠ "" ∧ (∀ c ∈ w.value.toList, Text.isBlank c = false ∧ c ≠ '|') ∧
      w.value.toList.head? ≠ some '\'' ∧ w.value.toList.head? ≠ some '"'
  | some q => q.char ∉ w.value.toList

instance (w : Word) : Decidable w.WellFormed :=
  match w with
  | ⟨value, none⟩ =>
      -- The characters of the value are gone through, and not those there are.
      letI : Decidable (∀ c ∈ value.toList, Text.isBlank c = false ∧ c ≠ '|') :=
        List.decidableBAll _ _
      inferInstanceAs (Decidable (_ ∧ (∀ c ∈ value.toList, _) ∧ _))
  | ⟨_, some _⟩ => inferInstanceAs (Decidable (¬_))

namespace Token

/-- A token that a line can have. -/
def WellFormed : Token → Prop
  | word w => w.WellFormed
  | pipe => True

instance (t : Token) : Decidable t.WellFormed :=
  match t with
  | word w => inferInstanceAs (Decidable w.WellFormed)
  | pipe => inferInstanceAs (Decidable True)

/-- The token as it is written. -/
def source : Token → List Char
  | word ⟨value, none⟩ => value.toList
  | word ⟨value, some q⟩ => q.char :: (value.toList ++ [q.char])
  | pipe => ['|']

/-- The piece of a line that the token is written as. -/
def piece : Token → Piece
  | word ⟨value, none⟩ => .bare value.toList
  | word ⟨value, some q⟩ => .quoted q value.toList
  | pipe => .bar

theorem source_piece (t : Token) : t.piece.source = t.source := by
  rcases t with ⟨value, none | q⟩ | _ <;> rfl

theorem token?_piece (t : Token) : t.piece.token? = some t := by
  rcases t with ⟨value, none | q⟩ | _ <;> simp [piece, Piece.token?]

/-- After a token that is written out no quote is open. -/
theorem isQuoted_modeAfter_piece (t : Token) : t.piece.modeAfter.isQuoted = false := by
  rcases t with ⟨value, none | q⟩ | _ <;> rfl

end Token

/-- Tokens written one after the other with single blanks between
them. -/
def render (ts : List Token) : String :=
  " ".intercalate (ts.map fun t => String.ofList t.source)

/-! ### Well-formed tokens and proper pieces -/

/-- The text of a bare word is that of a proper piece. -/
theorem proper_bare_iff {cs : List Char} :
    (Piece.bare cs).Proper ↔ cs ≠ [] ∧ (∀ c ∈ cs, Text.isBlank c = false ∧ c ≠ '|') ∧
      cs.head? ≠ some '\'' ∧ cs.head? ≠ some '"' := by
  constructor
  · rintro ⟨c, rest, rfl, hc, hq, hrest⟩
    refine ⟨List.cons_ne_nil c rest, ?_, ?_, ?_⟩
    · intro d hd
      rcases List.mem_cons.mp hd with rfl | hd
      · exact isDivider_eq_false.mp hc
      · exact isDivider_eq_false.mp (hrest d hd)
    · simpa [Quote.char] using hq .single
    · simpa [Quote.char] using hq .double
  · rintro ⟨hne, hall, hsingle, hdouble⟩
    obtain ⟨c, rest, rfl⟩ := List.exists_cons_of_ne_nil hne
    refine ⟨c, rest, rfl, isDivider_eq_false.mpr (hall c List.mem_cons_self), ?_, ?_⟩
    · intro q
      cases q with
      | single => simpa [Quote.char] using hsingle
      | double => simpa [Quote.char] using hdouble
    · intro d hd
      exact isDivider_eq_false.mpr (hall d (List.mem_cons_of_mem c hd))

/-- A token is well formed just when it is written as a proper piece. -/
theorem Token.proper_piece {t : Token} : t.piece.Proper ↔ t.WellFormed := by
  rcases t with ⟨value, none | q⟩ | _
  · show (Piece.bare value.toList).Proper ↔ _
    rw [proper_bare_iff, Ne, String.toList_eq_nil_iff]
    rfl
  · rfl
  · rfl

/-- What comes of a proper piece is well formed. A word whose quote is
never closed is no worse than one that is closed. -/
theorem wellFormed_of_token? {p : Piece} {t : Token} (hp : p.Proper) (ht : p.token? = some t) :
    t.WellFormed := by
  rw [← Token.proper_piece]
  cases p with
  | blank c => cases ht
  | bar => cases ht; exact hp
  | bare cs => cases ht; simpa [Token.piece] using hp
  | quoted q cs => cases ht; simpa [Token.piece] using hp
  | unclosed q cs =>
      cases ht
      simpa [Token.piece, Piece.Proper] using hp

/-- The tokens of a line are well formed. -/
theorem wellFormed_of_mem_tokens {line : String} {t : Token} (h : t ∈ tokens line) :
    t.WellFormed := by
  obtain ⟨ps, hps⟩ := exists_divides line.toList
  rw [tokens, hps.scan_eq] at h
  obtain ⟨p, hp, ht⟩ := List.mem_filterMap.mp h
  exact wellFormed_of_token? (hps.proper p hp) ht

/-! ### Reading what was written -/

section
variable {t : Token} (ht : t.WellFormed)
include ht

/-- A token that is written out is read as that token. -/
theorem scan_source : scan .gap [] t.source = [t] := by
  have hdivides : Divides [t.piece] (t.piece.source ++ []) := by
    refine .cons (Token.proper_piece.mpr ht) ?_ .nil
    rcases t with ⟨value, none | q⟩ | _ <;> trivial
  rw [List.append_nil, Token.source_piece] at hdivides
  rw [hdivides.scan_eq, List.filterMap_cons_some t.token?_piece]
  rfl

/-- After it no quote is open. -/
theorem isQuoted_after_source : (Mode.gap.after t.source).isQuoted = false := by
  rw [← Token.source_piece, Piece.after_source (Token.proper_piece.mpr ht)]
  exact t.isQuoted_modeAfter_piece

end

/-- Reading undoes writing. The blank after a token ends it, whatever
the token is, and no quote reaches over it. -/
theorem tokens_render {ts : List Token} (h : ∀ t ∈ ts, t.WellFormed) : tokens (render ts) = ts := by
  induction ts with
  | nil => rfl
  | cons t ts ih =>
      have ht : t.WellFormed := h t List.mem_cons_self
      have hts := ih fun u hu => h u (List.mem_cons_of_mem t hu)
      cases ts with
      | nil =>
          show scan .gap [] (render [t]).toList = [t]
          rw [show (render [t]).toList = t.source by simp [render], scan_source ht]
      | cons u ts =>
          have hline : (render (t :: u :: ts)).toList
              = t.source ++ ' ' :: (render (u :: ts)).toList := by
            simp [render]
          have hblank : scan .gap [] (' ' :: (render (u :: ts)).toList)
              = scan .gap [] (render (u :: ts)).toList := rfl
          rw [tokens, hline, scan_append (isQuoted_after_source ht) rfl, scan_source ht, hblank]
          exact congrArg (t :: ·) hts

/-- The lists of tokens that a line can have are those of well-formed
tokens. Such a list, written out, is read again as it was, and so the
tokens of a line can be written out and read again any number of
times. -/
theorem tokens_render_iff (ts : List Token) :
    ((∃ line, tokens line = ts) ↔ ∀ t ∈ ts, t.WellFormed) ∧
      ((∀ t ∈ ts, t.WellFormed) → tokens (render ts) = ts) ∧
      ∀ line, tokens (render (tokens line)) = tokens line := by
  refine ⟨⟨?_, fun h => ⟨render ts, tokens_render h⟩⟩, tokens_render, fun line => ?_⟩
  · rintro ⟨line, rfl⟩ t ht
    exact wellFormed_of_mem_tokens ht
  · exact tokens_render fun t ht => wellFormed_of_mem_tokens ht

/-- A quote inside a bare word, an empty word, and words that hold bars,
blanks and the other quote. -/
theorem tokens_render_iff_quotes :
    let ts : List Token := [.word ⟨"it's", none⟩, .word ⟨"", some .double⟩, .pipe,
      .word ⟨"a | 'b", some .double⟩, .word ⟨"\"", some .single⟩]
    (∀ t ∈ ts, t.WellFormed) ∧ tokens (render ts) = ts := by
  intro ts
  have h : ∀ t ∈ ts, t.WellFormed := by decide
  exact ⟨h, (tokens_render_iff ts).2.1 h⟩

end PipeShell.Line
