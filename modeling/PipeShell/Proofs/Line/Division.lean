import PipeShell.Line.Expand
import Mathlib.Data.List.TakeWhile

/-!
# `PipeShell.Proofs.Line.Division`: the one way to read a line

`scan` walks a line with a mode and a buffer. Here the same reading is
said without either. A `Piece` is a blank, a bar, a bare word, a word
between two quotes, or a word whose quote is never closed.
`Divides ps cs` says that the text `cs` is the pieces `ps` one after the
other, each of them proper and each fit for what follows it.

* `leading?_source_append`: a text that starts with a proper piece, fit
  for the rest, starts with no other. `exists_leading` is the converse:
  every text that is not empty starts with such a piece. Both go
  through `leading?`, which reads the first piece off a text.
* `scan_source_append`: the scanner reads one piece and is back where it
  began, with the token of that piece written.
* `Divides.scan_eq`, `exists_divides`, `Divides.unique`: what these
  steps amount to over a whole text.
* `existsUnique_divides_tokens`: every line is divided in exactly one
  way, and its tokens are those of its pieces.
-/

set_option autoImplicit false

namespace PipeShell.Line

/-! ### Quotes and dividers -/

/-- The quote of a quote character is the quote that has it. -/
theorem Quote.ofChar?_eq_some {c : Char} {q : Quote} :
    Quote.ofChar? c = some q ↔ c = q.char := by
  unfold Quote.ofChar?
  cases q with
  | single =>
      by_cases h : c = '\''
      · simp [h, Quote.char]
      · by_cases h' : c = '"' <;> simp [h, h', Quote.char]
  | double =>
      by_cases h : c = '\''
      · simp [h, Quote.char]
      · by_cases h' : c = '"' <;> simp [h, h', Quote.char]

/-- A character without a quote is neither of the two. -/
theorem Quote.ofChar?_eq_none {c : Char} :
    Quote.ofChar? c = none ↔ ∀ q : Quote, c ≠ q.char := by
  rw [Option.eq_none_iff_forall_ne_some]
  exact forall_congr' fun q => not_congr Quote.ofChar?_eq_some

@[simp]
theorem Quote.ofChar?_char (q : Quote) : Quote.ofChar? q.char = some q :=
  Quote.ofChar?_eq_some.mpr rfl

/-- Quotes do not divide words. -/
@[simp]
theorem Quote.isDivider_char (q : Quote) : isDivider q.char = false := by
  cases q <;> decide

/-- A bar is no blank. -/
@[simp]
theorem isBlank_bar : Text.isBlank '|' = false := by decide

/-- A divider is a blank or a bar. -/
theorem isDivider_eq_false {c : Char} :
    isDivider c = false ↔ Text.isBlank c = false ∧ c ≠ '|' := by
  simp [isDivider]

theorem isDivider_of_isBlank {c : Char} (h : Text.isBlank c = true) : isDivider c = true := by
  simp [isDivider, h]

/-! ### Pieces -/

/-- A piece of a line. -/
inductive Piece where
  | blank (c : Char)
  | bar
  | bare (cs : List Char)
  | quoted (q : Quote) (cs : List Char)
  /-- A word whose quote is never closed. -/
  | unclosed (q : Quote) (cs : List Char)
deriving Repr, DecidableEq

namespace Piece

/-- The piece as it is written. -/
def source : Piece → List Char
  | blank c => [c]
  | bar => ['|']
  | bare cs => cs
  | quoted q cs => q.char :: (cs ++ [q.char])
  | unclosed q cs => q.char :: cs

/-- A quoted word and what follows it, with its closing quote between
the two. -/
theorem source_quoted_append (q : Quote) (cs rest : List Char) :
    (quoted q cs).source ++ rest = q.char :: (cs ++ q.char :: rest) := by
  rw [source, List.cons_append, List.append_assoc, List.singleton_append]

/-- The token that a piece stands for. Blanks stand for none. -/
def token? : Piece → Option Token
  | blank _ => none
  | bar => some .pipe
  | bare cs => some (.word ⟨String.ofList cs, none⟩)
  | quoted q cs => some (.word ⟨String.ofList cs, some q⟩)
  | unclosed q cs => some (.word ⟨String.ofList cs, some q⟩)

/-- What the characters of a piece must be. A bare word has a first
character, which is no quote; none of its characters divides words. A
quoted word does not hold its own quote. -/
def Proper : Piece → Prop
  | blank c => Text.isBlank c = true
  | bar => True
  | bare cs => ∃ c rest, cs = c :: rest ∧ isDivider c = false ∧ (∀ q : Quote, c ≠ q.char) ∧
      ∀ d ∈ rest, isDivider d = false
  | quoted q cs => q.char ∉ cs
  | unclosed q cs => q.char ∉ cs

/-- What may follow a piece: a divider or nothing after a bare word,
nothing after a quote that is never closed, anything after the rest. -/
def Fits : Piece → List Char → Prop
  | bare _, rest => isEdge rest.head? = true
  | unclosed _ _, rest => rest = []
  | _, _ => True

end Piece

/-- The text is the pieces one after the other. -/
inductive Divides : List Piece → List Char → Prop where
  | nil : Divides [] []
  | cons {p : Piece} {ps : List Piece} {rest : List Char} :
      p.Proper → p.Fits rest → Divides ps rest → Divides (p :: ps) (p.source ++ rest)

/-! ### The first piece of a text -/

/-- A run of characters of one kind ends where the next character is of
another kind. -/
theorem takeWhile_run_append {p : Char → Bool} {run rest : List Char}
    (hrun : ∀ c ∈ run, p c = true) (hrest : ∀ c ∈ rest.head?, p c = false) :
    (run ++ rest).takeWhile p = run := by
  rw [List.takeWhile_append_of_pos hrun]
  cases rest with
  | nil => simp
  | cons c rest =>
      have hc : p c = false := hrest c rfl
      rw [List.takeWhile_cons_of_neg (by simp [hc]), List.append_nil]

/-- What follows a run is left when the run is dropped. -/
theorem dropWhile_run_append {p : Char → Bool} {run rest : List Char}
    (hrun : ∀ c ∈ run, p c = true) (hrest : ∀ c ∈ rest.head?, p c = false) :
    (run ++ rest).dropWhile p = rest := by
  rw [List.dropWhile_append_of_pos hrun]
  cases rest with
  | nil => rfl
  | cons c rest =>
      have hc : p c = false := hrest c rfl
      rw [List.dropWhile_cons_of_neg (by simp [hc])]

/-- The character where dropping stops is of another kind. -/
theorem head?_dropWhile_eq_false {p : Char → Bool} {cs : List Char} :
    ∀ c ∈ (cs.dropWhile p).head?, p c = false := by
  intro c hc
  have h := List.head?_dropWhile_not p cs
  rw [Option.mem_def.mp hc] at h
  simpa using h

/-- The neighbour of a bare word is at an edge exactly when it does not
go on with the word. -/
theorem isEdge_iff {c? : Option Char} : isEdge c? = true ↔ ∀ c ∈ c?, isDivider c = true := by
  cases c? <;> simp [isEdge]

/-- The piece that a text starts with. -/
def leading? : List Char → Option Piece
  | [] => none
  | c :: cs =>
      if Text.isBlank c then some (.blank c)
      else if c == '|' then some .bar
      else match Quote.ofChar? c with
        | none => some (.bare (c :: cs.takeWhile (!isDivider ·)))
        | some q =>
            if q.char ∈ cs then some (.quoted q (cs.takeWhile (· != q.char)))
            else some (.unclosed q cs)

/-- A text that starts with a quote starts with a quoted word. -/
theorem leading?_quote (q : Quote) (cs : List Char) :
    leading? (q.char :: cs)
      = if q.char ∈ cs then some (.quoted q (cs.takeWhile (· != q.char)))
        else some (.unclosed q cs) := by
  obtain ⟨hblank, hbar⟩ := isDivider_eq_false.mp q.isDivider_char
  simp [leading?, hblank, hbar]

/-- A piece can be read off a text that starts with it. -/
theorem leading?_source_append {p : Piece} {rest : List Char} (hp : p.Proper)
    (hf : p.Fits rest) : leading? (p.source ++ rest) = some p := by
  cases p with
  | blank c =>
      have hc : Text.isBlank c = true := hp
      simp [Piece.source, leading?, hc]
  | bar => simp [Piece.source, leading?]
  | bare cs =>
      obtain ⟨c, run, rfl, hc, hq, hrun⟩ := hp
      obtain ⟨hblank, hbar⟩ := isDivider_eq_false.mp hc
      -- Fitting is what stops the word here: what follows starts with a divider.
      have htake : (run ++ rest).takeWhile (!isDivider ·) = run :=
        takeWhile_run_append (fun d hd => by simp [hrun d hd])
          (fun d hd => by simp [isEdge_iff.mp hf d hd])
      simp only [Piece.source, List.cons_append, leading?, hblank, Bool.false_eq_true,
        if_false, beq_iff_eq, hbar, Quote.ofChar?_eq_none.mpr hq, htake]
  | quoted q cs =>
      have hq : q.char ∉ cs := hp
      have htake : (cs ++ q.char :: rest).takeWhile (· != q.char) = cs :=
        takeWhile_run_append (fun d hd => by simpa using fun h : d = q.char => hq (h ▸ hd))
          (fun d hd => by simpa using (Option.mem_some.mp hd).symm)
      rw [Piece.source_quoted_append, leading?_quote, if_pos (by simp), htake]
  | unclosed q cs =>
      obtain rfl : rest = [] := hf
      show leading? (q.char :: cs ++ []) = _
      rw [List.append_nil, leading?_quote, if_neg hp]

/-- Every text but the empty one starts with a proper piece that fits
what follows it. -/
theorem exists_leading (c : Char) (cs : List Char) :
    ∃ (p : Piece) (rest : List Char), c :: cs = p.source ++ rest ∧ p.Proper ∧ p.Fits rest := by
  by_cases hblank : Text.isBlank c = true
  · exact ⟨.blank c, cs, rfl, hblank, trivial⟩
  by_cases hbar : c = '|'
  · exact ⟨.bar, cs, by rw [hbar]; rfl, trivial, trivial⟩
  have hc : isDivider c = false := isDivider_eq_false.mpr ⟨by simpa using hblank, hbar⟩
  cases hq : Quote.ofChar? c with
  | none =>
      -- Quotes further on belong to the word, so only dividers are looked for.
      refine ⟨.bare (c :: cs.takeWhile (!isDivider ·)), cs.dropWhile (!isDivider ·), ?_, ?_, ?_⟩
      · simp [Piece.source]
      · refine ⟨c, _, rfl, hc, Quote.ofChar?_eq_none.mp hq, fun d hd => ?_⟩
        simpa using List.mem_takeWhile_imp hd
      · exact isEdge_iff.mpr fun d hd => by simpa using head?_dropWhile_eq_false d hd
  | some q =>
      obtain rfl : c = q.char := Quote.ofChar?_eq_some.mp hq
      by_cases hmem : q.char ∈ cs
      · -- The word ends at the first such quote, so it holds none itself.
        obtain ⟨word, rest, rfl, hword⟩ := List.eq_append_cons_of_mem hmem
        exact ⟨.quoted q word, rest, (Piece.source_quoted_append q word rest).symm, hword, trivial⟩
      · exact ⟨.unclosed q cs, [], by simp [Piece.source], hmem, rfl⟩

/-! ### One piece through the scanner -/

/-- Inside a bare word the scanner goes on to the next divider. -/
theorem scan_bare_append (held : List Char) {run rest : List Char}
    (hrun : ∀ c ∈ run, isDivider c = false) (hrest : isEdge rest.head? = true) :
    scan .bare held (run ++ rest)
      = .word ⟨String.ofList (held.reverse ++ run), none⟩ :: scan .gap [] rest := by
  induction run generalizing held with
  | nil =>
      cases rest with
      | nil => simp [scan, Mode.finish]
      | cons c rest =>
          have hc : isDivider c = true := isEdge_iff.mp hrest c rfl
          by_cases hblank : Text.isBlank c = true
          · simp [scan, hblank]
          · have hbar : c = '|' := by simpa [isDivider, hblank] using hc
            simp [scan, hbar]
  | cons c run ih =>
      obtain ⟨hblank, hbar⟩ := isDivider_eq_false.mp (hrun c List.mem_cons_self)
      have hstep := ih (c :: held) fun d hd => hrun d (List.mem_cons_of_mem c hd)
      simp only [List.cons_append, scan, hblank, Bool.false_eq_true, if_false, beq_iff_eq, hbar]
      rw [hstep, List.reverse_cons, List.append_assoc, List.singleton_append]

/-- Inside quotes the scanner goes on to the same quote. -/
theorem scan_quoted_append {q : Quote} (held : List Char) {word rest : List Char}
    (hword : q.char ∉ word) :
    scan (.quoted q) held (word ++ q.char :: rest)
      = .word ⟨String.ofList (held.reverse ++ word), some q⟩ :: scan .gap [] rest := by
  induction word generalizing held with
  | nil => simp [scan]
  | cons c word ih =>
      rw [List.mem_cons, not_or] at hword
      have hstep := ih (c :: held) hword.2
      simp only [List.cons_append, scan, beq_iff_eq, Ne.symm hword.1, if_false]
      rw [hstep, List.reverse_cons, List.append_assoc, List.singleton_append]

/-- Without a closing quote the word takes the whole rest. -/
theorem scan_quoted_unclosed {q : Quote} (held : List Char) {word : List Char}
    (hword : q.char ∉ word) :
    scan (.quoted q) held word = [.word ⟨String.ofList (held.reverse ++ word), some q⟩] := by
  induction word generalizing held with
  | nil => simp [scan, Mode.finish]
  | cons c word ih =>
      rw [List.mem_cons, not_or] at hword
      have hstep := ih (c :: held) hword.2
      simp only [scan, beq_iff_eq, Ne.symm hword.1, if_false]
      rw [hstep, List.reverse_cons, List.append_assoc, List.singleton_append]

/-- A quote between words opens a quoted word. -/
theorem scan_gap_quote (q : Quote) (cs : List Char) :
    scan .gap [] (q.char :: cs) = scan (.quoted q) [] cs := by
  obtain ⟨hblank, hbar⟩ := isDivider_eq_false.mp q.isDivider_char
  simp [scan, hblank, hbar]

/-- The scanner reads one piece, writes its token and is between words
again. -/
theorem scan_source_append {p : Piece} {rest : List Char} (hp : p.Proper) (hf : p.Fits rest) :
    scan .gap [] (p.source ++ rest) = p.token?.toList ++ scan .gap [] rest := by
  cases p with
  | blank c =>
      have hc : Text.isBlank c = true := hp
      simp [Piece.source, Piece.token?, scan, hc]
  | bar => simp [Piece.source, Piece.token?, scan]
  | bare cs =>
      obtain ⟨c, run, rfl, hc, hq, hrun⟩ := hp
      obtain ⟨hblank, hbar⟩ := isDivider_eq_false.mp hc
      -- The first character is the only one that could have opened a quote.
      have hfirst : scan .gap [] (c :: (run ++ rest)) = scan .bare [c] (run ++ rest) := by
        simp [scan, hblank, hbar, Quote.ofChar?_eq_none.mpr hq]
      show scan .gap [] (c :: (run ++ rest)) = _
      rw [hfirst, scan_bare_append [c] hrun hf]
      rfl
  | quoted q cs =>
      rw [Piece.source_quoted_append, scan_gap_quote, scan_quoted_append [] hp]
      rfl
  | unclosed q cs =>
      obtain rfl : rest = [] := hf
      show scan .gap [] (q.char :: cs ++ []) = _
      rw [List.append_nil, scan_gap_quote, scan_quoted_unclosed [] hp]
      rfl

/-! ### Whole texts -/

/-- A piece is not empty. -/
theorem Piece.source_ne_nil {p : Piece} (hp : p.Proper) : p.source ≠ [] := by
  cases p with
  | bare cs =>
      obtain ⟨c, run, rfl, -⟩ := hp
      exact List.cons_ne_nil c run
  | blank c => exact List.cons_ne_nil c []
  | bar => exact List.cons_ne_nil _ []
  | quoted q cs => exact List.cons_ne_nil _ _
  | unclosed q cs => exact List.cons_ne_nil _ _

/-- The scanner writes the tokens of the pieces. -/
theorem Divides.scan_eq {ps : List Piece} {cs : List Char} (h : Divides ps cs) :
    scan .gap [] cs = ps.filterMap Piece.token? := by
  induction h with
  | nil => rfl
  | @cons p ps rest hp hf _ ih =>
      rw [scan_source_append hp hf, ih]
      cases ht : p.token? with
      | none => rw [List.filterMap_cons_none ht]; rfl
      | some t => rw [List.filterMap_cons_some ht]; rfl

/-- Every text can be divided. The pieces are taken off one by one, and
each leaves a shorter rest. -/
theorem exists_divides (cs : List Char) : ∃ ps, Divides ps cs := by
  induction h : cs.length using Nat.strong_induction_on generalizing cs with
  | _ n ih =>
    subst h
    cases cs with
    | nil => exact ⟨[], .nil⟩
    | cons c cs =>
        obtain ⟨p, rest, hcs, hp, hf⟩ := exists_leading c cs
        have hlen : rest.length < (c :: cs).length := by
          rw [hcs, List.length_append]
          have := List.length_pos_iff.mpr (Piece.source_ne_nil hp)
          omega
        obtain ⟨ps, hps⟩ := ih rest.length hlen rest rfl
        exact ⟨p :: ps, hcs ▸ .cons hp hf hps⟩

/-- The division of a text that is not empty starts with the piece that
the text starts with. -/
theorem Divides.eq_cons {ps : List Piece} {cs : List Char} {p : Piece} (h : Divides ps cs)
    (hp : leading? cs = some p) : ∃ ps' rest, ps = p :: ps' ∧ cs = p.source ++ rest ∧
      Divides ps' rest := by
  cases h with
  | nil => cases hp
  | @cons p' ps' rest hp' hf' h' =>
      rw [leading?_source_append hp' hf'] at hp
      cases hp
      exact ⟨ps', rest, rfl, rfl, h'⟩

/-- No text can be divided in two ways. -/
theorem Divides.unique {ps qs : List Piece} {cs : List Char} (hps : Divides ps cs)
    (hqs : Divides qs cs) : ps = qs := by
  induction hps generalizing qs with
  | nil =>
      cases hqs' : qs with
      | nil => rfl
      | cons q qs' =>
          -- A first piece would be a character of the empty text.
          subst hqs'
          generalize hcs : ([] : List Char) = cs at hqs
          cases hqs with
          | cons hq _ _ =>
              exact absurd (List.append_eq_nil_iff.mp hcs.symm).1 (Piece.source_ne_nil hq)
  | @cons p ps rest hp hf _ ih =>
      obtain ⟨qs', rest', rfl, hrest, hqs'⟩ := hqs.eq_cons (leading?_source_append hp hf)
      rw [ih (List.append_cancel_left hrest ▸ hqs')]

/-- Every line is divided into pieces in exactly one way, and its tokens
are those of its pieces. -/
theorem existsUnique_divides_tokens (line : String) :
    (∃! ps, Divides ps line.toList) ∧
      ∀ ps, Divides ps line.toList → tokens line = ps.filterMap Piece.token? := by
  obtain ⟨ps, hps⟩ := exists_divides line.toList
  exact ⟨⟨ps, hps, fun qs hqs => hqs.unique hps⟩, fun qs hqs => hqs.scan_eq⟩

end PipeShell.Line
