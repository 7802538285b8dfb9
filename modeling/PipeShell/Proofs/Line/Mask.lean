import PipeShell.Proofs.Line.Vacancy

/-!
# `PipeShell.Proofs.Line.Mask`: the mask of a line and its tokens

The mask and the tokens of a line are two outputs of one machine. The
mask has an entry for every character and the tokens have only words and
pipes, so they are compared by the pieces that the line is divided into:
`Piece.mask` is the part of the mask that a piece gets, and
`Piece.marked` what is marked of it.

A quoted word is marked from behind its opening quote to its closing
quote. The closing quote belongs to the marked part, since the machine
is still inside the word when it meets it. A word whose quote is never
closed has no such character, and it can only be the last one.

* `maskFrom_source_append`: the mask of one piece.
* `Divides.maskFrom_eq`: so the mask of a line is that of its pieces.
* `Divides.marked_eq`: what is marked of a line, by its pieces.
* `Divides.marked_of_closed`, `Divides.marked_of_open`: the same by its
  tokens.
* `expandByMaskFrom_eq`: a reference can ask the mask at its own place,
  instead of a mode that is carried along, and is always answered.
* `quotedMask_marks_tokens`: all of this for a whole line.
-/

set_option autoImplicit false

namespace PipeShell.Line

/-! ### Masks -/

/-- A mask has an entry for every character. -/
@[simp]
theorem length_maskFrom (m : Mode) (cs : List Char) : (maskFrom m cs).length = cs.length := by
  induction cs generalizing m with
  | nil => rfl
  | cons c cs ih => simp [maskFrom, ih]

/-- The mask of a text goes on in the mode that its start leaves
behind. -/
theorem maskFrom_append (m : Mode) (cs ds : List Char) :
    maskFrom m (cs ++ ds) = maskFrom m cs ++ maskFrom (m.after cs) ds := by
  induction cs generalizing m with
  | nil => rfl
  | cons c cs ih => simp [maskFrom, ih]

/-- Nothing of a bare word is marked. -/
theorem maskFrom_bare {run : List Char} (h : ∀ c ∈ run, isDivider c = false) :
    maskFrom .bare run = List.replicate run.length false := by
  induction run with
  | nil => rfl
  | cons c run ih =>
      have hc : Mode.bare.next c = .bare := by simp [Mode.next, h c List.mem_cons_self]
      rw [maskFrom, hc, ih fun d hd => h d (List.mem_cons_of_mem c hd), List.length_cons,
        List.replicate_succ]
      rfl

/-- Inside quotes all is marked up to the closing one. -/
theorem maskFrom_quoted {q : Quote} {word : List Char} (h : q.char ∉ word) :
    maskFrom (.quoted q) word = List.replicate word.length true := by
  induction word with
  | nil => rfl
  | cons c word ih =>
      rw [List.mem_cons, not_or] at h
      have hc : (Mode.quoted q).next c = .quoted q := by simp [Mode.next, Ne.symm h.1]
      rw [maskFrom, hc, ih h.2, List.length_cons, List.replicate_succ]
      rfl

/-- The characters of a text that a mask marks. -/
def marked (cs : List Char) (mask : List Bool) : List Char :=
  ((cs.zip mask).filter Prod.snd).map Prod.fst

theorem marked_append {cs ds : List Char} {mask mask' : List Bool}
    (h : cs.length = mask.length) :
    marked (cs ++ ds) (mask ++ mask') = marked cs mask ++ marked ds mask' := by
  unfold marked
  rw [List.zip_append h, List.filter_append, List.map_append]

/-- An unmarked character in front. -/
@[simp]
theorem marked_cons_false (c : Char) (cs : List Char) (mask : List Bool) :
    marked (c :: cs) (false :: mask) = marked cs mask := rfl

/-- A mask without marks. -/
@[simp]
theorem marked_replicate_false (cs : List Char) :
    marked cs (List.replicate cs.length false) = [] := by
  induction cs with
  | nil => rfl
  | cons c cs ih => rw [List.length_cons, List.replicate_succ, marked_cons_false, ih]

/-- A mask with nothing but marks. -/
@[simp]
theorem marked_replicate_true (cs : List Char) :
    marked cs (List.replicate cs.length true) = cs := by
  induction cs with
  | nil => rfl
  | cons c cs ih =>
      show c :: marked cs (List.replicate cs.length true) = c :: cs
      rw [ih]

/-! ### The mask of a piece -/

namespace Piece

/-- The part of the mask that a piece gets. -/
def mask : Piece → List Bool
  | blank _ => [false]
  | bar => [false]
  | bare cs => List.replicate cs.length false
  | quoted _ cs => false :: List.replicate (cs.length + 1) true
  | unclosed _ cs => false :: List.replicate cs.length true

/-- What is marked of a piece. -/
def marked : Piece → List Char
  | quoted q cs => cs ++ [q.char]
  | unclosed _ cs => cs
  | _ => []

theorem length_mask (p : Piece) : p.mask.length = p.source.length := by
  cases p <;> simp [mask, source]

theorem marked_mask (p : Piece) : Line.marked p.source p.mask = p.marked := by
  cases p with
  | blank c => rfl
  | bar => rfl
  | bare cs => exact marked_replicate_false cs
  | quoted q cs =>
      have hlength : cs.length + 1 = (cs ++ [q.char]).length := by simp
      rw [source, mask, marked_cons_false, hlength, marked_replicate_true]
      rfl
  | unclosed q cs => simp [source, mask, marked]

/-- A piece that is read from between words gets its part of the
mask. -/
theorem maskFrom_source {p : Piece} (hp : p.Proper) : maskFrom .gap p.source = p.mask := by
  cases p with
  | blank c => rfl
  | bar => rfl
  | bare cs =>
      obtain ⟨c, run, rfl, hc, hq, hrun⟩ := hp
      show false :: maskFrom (Mode.gap.next c) run = false :: List.replicate run.length false
      rw [Mode.next_gap_bare hc hq, maskFrom_bare hrun]
  | quoted q cs =>
      -- The closing quote is read while the mode is still that of the word.
      show false :: maskFrom (Mode.gap.next q.char) (cs ++ [q.char])
        = false :: List.replicate (cs.length + 1) true
      rw [Mode.next_gap_quote, maskFrom_append, maskFrom_quoted hp, Mode.after_quoted hp,
        List.replicate_succ']
      rfl
  | unclosed q cs =>
      show false :: maskFrom (Mode.gap.next q.char) cs = false :: List.replicate cs.length true
      rw [Mode.next_gap_quote, maskFrom_quoted hp]

/-- What follows a piece is marked as if the text began there. A bare
word leaves another mode behind, but an edge ends it without a mark. -/
theorem maskFrom_source_append {p : Piece} {rest : List Char} (hp : p.Proper)
    (hf : p.Fits rest) : maskFrom .gap (p.source ++ rest) = p.mask ++ maskFrom .gap rest := by
  rw [maskFrom_append, maskFrom_source hp, after_source hp]
  cases p with
  | blank c => rfl
  | bar => rfl
  | quoted q cs => rfl
  | unclosed q cs =>
      obtain rfl : rest = [] := hf
      rfl
  | bare cs =>
      cases rest with
      | nil => rfl
      | cons c rest =>
          have hc : isDivider c = true := isEdge_iff.mp hf c rfl
          show mask _ ++ (false :: maskFrom (Mode.bare.next c) rest)
            = mask _ ++ (false :: maskFrom (Mode.gap.next c) rest)
          rw [Mode.next_of_isDivider rfl hc, Mode.next_of_isDivider rfl hc]

end Piece

/-! ### The mask of a line -/

section
variable {ps : List Piece} {cs : List Char}

/-- The mask of a divided text is that of its pieces. -/
theorem Divides.maskFrom_eq (h : Divides ps cs) : maskFrom .gap cs = ps.flatMap Piece.mask := by
  induction h with
  | nil => rfl
  | cons hp hf _ ih => rw [Piece.maskFrom_source_append hp hf, ih, List.flatMap_cons]

/-- What is marked of a divided text is what is marked of its pieces. -/
theorem Divides.marked_eq (h : Divides ps cs) :
    marked cs (maskFrom .gap cs) = ps.flatMap Piece.marked := by
  induction h with
  | nil => rfl
  | @cons p ps rest hp hf _ ih =>
      rw [Piece.maskFrom_source_append hp hf, marked_append p.length_mask.symm, p.marked_mask, ih,
        List.flatMap_cons]

/-- Only the last piece can have a quote that is never closed. -/
theorem Divides.isQuoted_eq_false {last : Piece} (h : Divides (ps ++ [last]) cs) :
    ∀ p ∈ ps, p.modeAfter.isQuoted = false := by
  induction ps generalizing cs with
  | nil => simp
  | cons p ps ih =>
      cases h with
      | @cons _ _ rest hp hf h =>
          have hps : Divides (ps ++ [last]) rest := h
          have hrest : rest ≠ [] := by
            obtain ⟨p', ps', hcons⟩ := List.exists_cons_of_ne_nil (List.concat_ne_nil last ps)
            rw [hcons] at hps
            exact hps.ne_nil
          refine List.forall_mem_cons.mpr ⟨?_, ih hps⟩
          cases p with
          | unclosed q word => exact absurd hf hrest
          | blank c => rfl
          | bar => rfl
          | bare word => rfl
          | quoted q word => rfl

end

/-- The value of a quoted word with its closing quote. No other token has
anything inside quotes. -/
def Token.closed : Token → List Char
  | .word ⟨value, some q⟩ => value.toList ++ [q.char]
  | _ => []

/-- Pieces whose quotes are closed are marked as their tokens say. -/
theorem flatMap_marked {ps : List Piece} (h : ∀ p ∈ ps, p.modeAfter.isQuoted = false) :
    ps.flatMap Piece.marked = (ps.filterMap Piece.token?).flatMap Token.closed := by
  induction ps with
  | nil => rfl
  | cons p ps ih =>
      obtain ⟨hp, hps⟩ := List.forall_mem_cons.mp h
      rw [List.flatMap_cons, ih hps]
      cases p with
      | unclosed q word => cases hp
      | blank c => rfl
      | bar => rfl
      | bare word => rfl
      | quoted q word => simp [Piece.marked, Piece.token?, Token.closed]

section
variable {ps : List Piece} {cs : List Char} (h : Divides ps cs)
include h

/-- A text that ends outside quotes is marked as its tokens say. -/
theorem Divides.marked_of_closed (hclosed : (Mode.gap.after cs).isQuoted = false) :
    marked cs (maskFrom .gap cs) = (scan .gap [] cs).flatMap Token.closed := by
  rw [h.marked_eq, h.scan_eq]
  refine flatMap_marked fun p hp => ?_
  rcases List.eq_nil_or_concat ps with rfl | ⟨init, last, rfl⟩
  · cases hp
  rw [List.concat_eq_append] at *
  -- The mode at the end is the last piece's, and no other piece can be left open.
  rw [h.after_eq, List.getLast?_concat] at hclosed
  rcases List.mem_append.mp hp with hinit | hlast
  · exact h.isQuoted_eq_false p hinit
  · rw [List.mem_singleton.mp hlast]
    exact hclosed

/-- A text that ends inside quotes has the word in them for its last
token. All of that word is marked, and there is no closing quote. -/
theorem Divides.marked_of_open {q : Quote} (hopen : Mode.gap.after cs = .quoted q) :
    ∃ before value, scan .gap [] cs = before ++ [.word ⟨value, some q⟩] ∧
      marked cs (maskFrom .gap cs) = before.flatMap Token.closed ++ value.toList := by
  rcases List.eq_nil_or_concat ps with rfl | ⟨init, last, rfl⟩
  · rw [h.after_eq] at hopen
    cases hopen
  rw [List.concat_eq_append] at *
  rw [h.after_eq, List.getLast?_concat] at hopen
  have hinit := flatMap_marked h.isQuoted_eq_false
  cases last with
  | unclosed q' word =>
      obtain rfl : q' = q := Mode.quoted.inj hopen
      refine ⟨init.filterMap Piece.token?, String.ofList word, ?_, ?_⟩
      · rw [h.scan_eq, List.filterMap_append]
        rfl
      · rw [h.marked_eq, List.flatMap_append, hinit, List.flatMap_singleton, String.toList_ofList]
        rfl
  | blank c => cases hopen
  | bar => cases hopen
  | bare word => cases hopen
  | quoted q' word => cases hopen

end

/-! ### References that ask the mask -/

/-- The text goes on at least to the end of a reference. -/
theorem add_length_lt_of_refAt? {cs name : List Char} {i : Nat} (h : refAt? cs i = some name) :
    i + name.length < cs.length := by
  obtain ⟨rest, hdrop, -, -⟩ := reference?_eq_some.mp h
  have hlength := congrArg List.length hdrop
  rw [List.length_drop, List.length_cons, List.length_append] at hlength
  omega

/-- What is left of a variable that is not set, by whether the reference
is inside quotes. -/
def vacancyIn (quoted : Bool) (before after : Option Char) : List Char :=
  if !quoted && isEdge before && isEdge after then ['"', '"'] else []

/-- The rest of a line with its references replaced. The mask of the line
is asked at the place of each reference to a variable that is not set;
`fallback` is the answer for a place that the mask does not have. -/
def expandByMaskFrom (lookup : String → Option String) (mask : List Bool) (fallback : Bool) :
    (i : Nat) → (before : Option Char) → List Segment → List Char
  | _, _, [] => []
  | i, _, .char c :: rest => c :: expandByMaskFrom lookup mask fallback (i + 1) (some c) rest
  | i, before, .ref name :: rest =>
      let text := match lookup (String.ofList name) with
        | some value => value.toList
        | none => vacancyIn (mask[i]?.getD fallback) before (firstChar? rest)
      text ++ expandByMaskFrom lookup mask fallback (i + name.length + 1) name.getLast? rest

/-- The line with its references replaced, where the mask tells which of
them are inside quotes. -/
def expandByMask (lookup : String → Option String) (fallback : Bool) (line : String) : String :=
  String.ofList
    (expandByMaskFrom lookup (quotedMask line) fallback 0 none (segments line.toList))

/-- From any place on, the mask tells what the mode at that place does.
The part of the mask from there on is the mask of what is left, so a
reference finds its entry in front. -/
theorem expandByMaskFrom_eq (lookup : String → Option String) (fallback : Bool)
    (segs : List Segment) (seen : List Bool) (before : Option Char) (m : Mode) :
    expandByMaskFrom lookup (seen ++ maskFrom m (segs.flatMap Segment.source)) fallback
        seen.length before segs
      = expandFrom lookup before m segs := by
  induction segs generalizing seen before m with
  | nil => rfl
  | cons s rest ih =>
      have hmask : maskFrom m ((s :: rest).flatMap Segment.source)
          = maskFrom m s.source
            ++ maskFrom (m.after s.source) (rest.flatMap Segment.source) := by
        rw [List.flatMap_cons, maskFrom_append]
      cases s with
      | char c =>
          have hrest := ih (seen ++ [m.isQuoted]) (some c) (m.next c)
          rw [List.append_assoc, List.length_append, List.length_singleton] at hrest
          rw [hmask, expandByMaskFrom, expandFrom]
          exact congrArg (c :: ·) hrest
      | ref name =>
          have hrest := ih (seen ++ maskFrom m ('$' :: name)) name.getLast? (m.after ('$' :: name))
          have hplace : (seen ++ maskFrom m ('$' :: name)).length
              = seen.length + name.length + 1 := by
            rw [List.length_append, length_maskFrom, List.length_cons]
            omega
          rw [hplace, List.append_assoc] at hrest
          -- The entry of the dollar sign is the first one behind those seen.
          have hentry : (seen ++ maskFrom m ((Segment.ref name :: rest).flatMap
              Segment.source))[seen.length]? = some m.isQuoted := by
            rw [List.getElem?_append_right (Nat.le_refl _), Nat.sub_self]
            rfl
          rw [expandByMaskFrom, hentry, hmask, expandFrom_ref]
          show _ ++ expandByMaskFrom _ _ _ _ _ _ = _
          rw [Segment.source, hrest]
          rfl

/-- The mask of a line and its tokens agree.

The mask has one entry for each character. What it marks, in order, are
the values of the quoted words, in order, each with its closing quote
behind it. Where the line ends inside quotes, the last token is the word
in them, and it lacks that quote. Opening quotes, bare words, blanks and
bars are not marked, as the mask of each piece of the line tells.

A reference to a variable has all its characters in the mask. So the
expansion can look up its dollar sign there, and what it would do at a
place that is missing from the mask does not matter. -/
theorem quotedMask_marks_tokens (line : String) :
    (quotedMask line).length = line.toList.length ∧
    ((Mode.gap.after line.toList).isQuoted = false →
      marked line.toList (quotedMask line) = (tokens line).flatMap Token.closed) ∧
    (∀ q, Mode.gap.after line.toList = .quoted q →
      ∃ before value, tokens line = before ++ [.word ⟨value, some q⟩] ∧
        marked line.toList (quotedMask line) = before.flatMap Token.closed ++ value.toList) ∧
    (∀ ps, Divides ps line.toList → quotedMask line = ps.flatMap Piece.mask) ∧
    (∀ i name, refAt? line.toList i = some name → i + name.length < (quotedMask line).length) ∧
    ∀ lookup fallback, expandByMask lookup fallback line = expand lookup line := by
  obtain ⟨ps, hps⟩ := exists_divides line.toList
  have hlength : (quotedMask line).length = line.toList.length := length_maskFrom _ _
  refine ⟨hlength, hps.marked_of_closed, fun q => hps.marked_of_open, ?_, ?_, ?_⟩
  · intro ps' hps'
    exact hps'.maskFrom_eq
  · intro i name href
    rw [hlength]
    exact add_length_lt_of_refAt? href
  · intro lookup fallback
    have hall := expandByMaskFrom_eq lookup fallback (segments line.toList) [] none .gap
    rw [flatMap_source_segments] at hall
    exact congrArg String.ofList hall

/-- A quote inside a bare word marks nothing, a closing quote is marked,
and the last word is never closed. -/
example :
    let line := "a \"b c\" it's 'd"
    marked line.toList (quotedMask line) = "b c\"d".toList ∧
      Mode.gap.after line.toList = .quoted .single := by decide

end PipeShell.Line
