import PipeShell.Line.Assignment
import PipeShell.Proofs.Line.Division

/-!
# `PipeShell.Proofs.Line.Reference`: where a text refers to variables

`segments` finds references with a buffer for the name under way. Here a
reference is said by what a text starts with: `reference?` is the
longest name after a leading dollar sign, and `reference?_eq_some` reads
it as a form of the text. `refInduction` takes a text apart into
characters and references, so that proofs about `segments` and whatever
follows them need not know the buffer.

`resolve` writes every reference as the value of its variable, or as
nothing if the variable is not set. It looks at no quotes and leaves no
mark behind, which is what happens to the value of a single word.

* `segments_char`, `segments_ref`: the pieces of a line, one by one.
* `resolve_append`: a text can be cut wherever no name goes on.
* `mem_resolve`: the characters of a resolved text come from the text or
  from the value of a variable it refers to.
-/

set_option autoImplicit false

namespace PipeShell.Line

/-! ### References -/

/-- No name goes on at the start of the text. -/
def EndsName (rest : List Char) : Prop := ∀ c ∈ rest.head?, isNameChar c = false

/-- The name of the variable that a text starts by referring to. -/
def reference? : List Char → Option (List Char)
  | [] => none
  | c :: cs =>
      if c == '$' && !(cs.takeWhile isNameChar).isEmpty then some (cs.takeWhile isNameChar)
      else none

/-- The name of the variable that is referred to at a place of a text. -/
def refAt? (cs : List Char) (i : Nat) : Option (List Char) := reference? (cs.drop i)

theorem refAt?_cons_succ (c : Char) (cs : List Char) (i : Nat) :
    refAt? (c :: cs) (i + 1) = refAt? cs i := rfl

/-- The places of a text count on from what stands before it. -/
theorem refAt?_length_add (cs rest : List Char) (i : Nat) :
    refAt? (cs ++ rest) (cs.length + i) = refAt? rest i := by
  rw [refAt?, List.drop_length_add_append, refAt?]

theorem endsName_cons {c : Char} {cs : List Char} (h : isNameChar c = false) :
    EndsName (c :: cs) := by
  intro d hd
  cases hd
  exact h

/-- The code points of name characters. -/
theorem toNat_of_isNameChar {c : Char} (h : isNameChar c = true) :
    (48 ≤ c.toNat ∧ c.toNat ≤ 57) ∨ (65 ≤ c.toNat ∧ c.toNat ≤ 90) ∨
      c.toNat = 95 ∨ (97 ≤ c.toNat ∧ c.toNat ≤ 122) := by
  -- What `isAlphanum` comes down to, with the bounds of its three ranges in view.
  have hbounds : (((decide ('A'.val ≤ c.val ∧ c.val ≤ 'Z'.val)
      || (decide ('a'.val ≤ c.val) && decide (c.val ≤ 'z'.val)))
      || (decide ('0'.val ≤ c.val) && decide (c.val ≤ '9'.val))) || c == '_') = true := h
  simp only [Bool.or_eq_true, Bool.and_eq_true, decide_eq_true_eq, beq_iff_eq,
    UInt32.le_iff_toNat_le] at hbounds
  rcases hbounds with ((hupper | hlower) | hdigit) | rfl
  · exact .inr (.inl hupper)
  · exact .inr (.inr (.inr hlower))
  · exact .inl hdigit
  · exact .inr (.inr (.inl rfl))

/-- Name characters do not divide words. -/
theorem isDivider_of_isNameChar {c : Char} (h : isNameChar c = true) : isDivider c = false := by
  have hcode := toNat_of_isNameChar h
  rw [isDivider_eq_false]
  constructor
  · simp only [Text.isBlank, Text.blankCode, Bool.or_eq_false_iff, Bool.and_eq_false_iff,
      decide_eq_false_iff_not, beq_eq_false_iff_ne]
    omega
  · rintro rfl
    revert hcode
    decide

/-- A bare word and a name end at the same edge. -/
theorem endsName_of_isEdge {rest : List Char} (h : isEdge rest.head? = true) : EndsName rest := by
  intro c hc
  have hdivider : isDivider c = true := isEdge_iff.mp h c hc
  by_contra hname
  rw [isDivider_of_isNameChar (by simpa using hname)] at hdivider
  cases hdivider

/-- A name ends at a quote. -/
theorem endsName_quote (q : Quote) (cs : List Char) : EndsName (q.char :: cs) :=
  endsName_cons (by cases q <;> decide)

/-- Names are not empty. -/
theorem ne_nil_of_isName {name : List Char} (h : Assignment.isName name = true) : name ≠ [] := by
  rintro rfl
  cases h

/-- Names are made of name characters. -/
theorem isNameChar_of_isName {name : List Char} (h : Assignment.isName name = true) :
    ∀ c ∈ name, isNameChar c = true := by
  rw [Assignment.isName, Bool.and_eq_true, List.all_eq_true] at h
  exact h.2

/-- A text starts with a reference exactly when it is a dollar sign, a
name, and something that does not go on with the name. -/
theorem reference?_eq_some {cs name : List Char} :
    reference? cs = some name ↔
      ∃ rest, cs = '$' :: (name ++ rest) ∧ Assignment.isName name = true ∧ EndsName rest := by
  constructor
  · intro h
    cases cs with
    | nil => cases h
    | cons c cs =>
        simp only [reference?, Bool.and_eq_true, beq_iff_eq] at h
        split at h
        · rename_i hc
          cases h
          obtain ⟨rfl, hne⟩ := hc
          refine ⟨cs.dropWhile isNameChar, ?_, ?_, head?_dropWhile_eq_false⟩
          · rw [List.takeWhile_append_dropWhile]
          · rw [Assignment.isName, hne, List.all_takeWhile]
            rfl
        · cases h
  · rintro ⟨rest, rfl, hname, hrest⟩
    have htake : (name ++ rest).takeWhile isNameChar = name :=
      takeWhile_run_append (isNameChar_of_isName hname) hrest
    simp [reference?, htake, ne_nil_of_isName hname]

/-- Text after the end of a name does not change the reference. -/
theorem reference?_append {cs rest : List Char} (hne : cs ≠ []) (hrest : EndsName rest) :
    reference? (cs ++ rest) = reference? cs := by
  cases cs with
  | nil => exact absurd rfl hne
  | cons c cs =>
      have htake : (cs ++ rest).takeWhile isNameChar = cs.takeWhile isNameChar := by
        rw [List.takeWhile_append]
        split
        · -- The name reaches the end of the text, where the rest would have to go on with it.
          rename_i hlen
          have hall : cs.takeWhile isNameChar = cs :=
            (List.takeWhile_prefix isNameChar).eq_of_length hlen
          cases rest with
          | nil => rw [List.takeWhile_nil, List.append_nil, hall]
          | cons d rest =>
              have hd : isNameChar d = false := hrest d rfl
              rw [List.takeWhile_cons_of_neg (by simp [hd]), List.append_nil, hall]
        · rfl
      rw [List.cons_append, reference?, reference?, htake]

/-- No reference starts with a character that is no dollar sign. -/
theorem reference?_eq_none {c : Char} (cs : List Char) (hc : c ≠ '$') :
    reference? (c :: cs) = none := by
  simp [reference?, hc]

/-- A text starts with no reference exactly when it does not start with a
dollar sign that a name goes on from. -/
theorem reference?_cons_eq_none {c : Char} {cs : List Char} :
    reference? (c :: cs) = none ↔ (c = '$' → EndsName cs) := by
  cases cs with
  | nil => simp [reference?, EndsName]
  | cons d cs =>
      cases hd : isNameChar d with
      | true => simp [reference?, EndsName, hd]
      | false => simp [reference?, EndsName, hd]

/-- Take a text apart into characters and references. -/
theorem refInduction {motive : List Char → Prop} (nil : motive [])
    (char : ∀ c cs, reference? (c :: cs) = none → motive cs → motive (c :: cs))
    (ref : ∀ name rest, Assignment.isName name = true → EndsName rest → motive rest →
      motive ('$' :: (name ++ rest)))
    (cs : List Char) : motive cs := by
  induction h : cs.length using Nat.strong_induction_on generalizing cs with
  | _ n ih =>
    subst h
    cases cs with
    | nil => exact nil
    | cons c cs =>
        cases href : reference? (c :: cs) with
        | none => exact char c cs href (ih cs.length (Nat.lt_succ_self _) cs rfl)
        | some name =>
            obtain ⟨rest, hcs, hname, hrest⟩ := reference?_eq_some.mp href
            have hlen : rest.length < (c :: cs).length := by
              rw [hcs, List.length_cons, List.length_append]
              omega
            rw [hcs]
            exact ref name rest hname hrest (ih rest.length hlen rest rfl)

/-! ### The pieces of a line -/

/-- After a dollar sign the name goes on as long as it can. -/
theorem split_some (held cs : List Char) :
    split (some held) cs
      = .ofName ((cs.takeWhile isNameChar).reverse ++ held)
        :: split none (cs.dropWhile isNameChar) := by
  induction cs generalizing held with
  | nil => rfl
  | cons c cs ih =>
      by_cases hc : isNameChar c = true
      · rw [split, if_pos hc, ih, List.takeWhile_cons_of_pos hc, List.dropWhile_cons_of_pos hc,
          List.reverse_cons, List.append_assoc, List.singleton_append]
      · -- Both ways of going on from here start a new piece at `c`.
        rw [List.takeWhile_cons_of_neg hc, List.dropWhile_cons_of_neg hc]
        by_cases hd : c = '$'
        · subst hd
          simp [hc, split]
        · simp [hd, hc, split]

/-- A reference is one piece of its line. -/
theorem segments_ref {name rest : List Char} (hname : Assignment.isName name = true)
    (hrest : EndsName rest) :
    segments ('$' :: (name ++ rest)) = .ref name :: segments rest := by
  have htake : (name ++ rest).takeWhile isNameChar = name :=
    takeWhile_run_append (isNameChar_of_isName hname) hrest
  have hdrop : (name ++ rest).dropWhile isNameChar = rest :=
    dropWhile_run_append (isNameChar_of_isName hname) hrest
  have hne : name.reverse ≠ [] := by simpa using ne_nil_of_isName hname
  rw [segments, split, if_pos (beq_self_eq_true '$'), split_some, htake, hdrop, List.append_nil,
    Segment.ofName, if_neg (by simpa using hne), List.reverse_reverse, segments]

/-- Any other character stands for itself. -/
theorem segments_char {c : Char} {cs : List Char} (h : reference? (c :: cs) = none) :
    segments (c :: cs) = .char c :: segments cs := by
  by_cases hc : c = '$'
  · -- A dollar sign with no name after it: the splitter gives up an empty buffer.
    subst hc
    have hempty : cs.takeWhile isNameChar = [] := by simpa [reference?] using h
    have hdrop : cs.dropWhile isNameChar = cs := by
      have := List.takeWhile_append_dropWhile (p := isNameChar) (l := cs)
      rwa [hempty, List.nil_append] at this
    rw [segments, split, if_pos (beq_self_eq_true '$'), split_some, hempty, hdrop]
    rfl
  · rw [segments, split, if_neg (by simpa using hc), segments]

/-! ### Texts with their references replaced -/

/-- The value that takes the place of a reference: nothing if the
variable is not set. -/
def valueOf (lookup : String → Option String) (name : List Char) : List Char :=
  ((lookup (String.ofList name)).getD "").toList

/-- The text with every reference replaced by the value of its
variable. -/
def resolve (lookup : String → Option String) : List Char → List Char
  | [] => []
  | c :: cs =>
      match reference? (c :: cs) with
      | none => c :: resolve lookup cs
      | some name => valueOf lookup name ++ resolve lookup (cs.drop name.length)
termination_by cs => cs.length
decreasing_by
  · exact Nat.lt_succ_self _
  · rw [List.length_drop, List.length_cons]
    omega

section
variable (lookup : String → Option String)

theorem resolve_nil : resolve lookup [] = [] := by rw [resolve]

theorem resolve_char {c : Char} {cs : List Char} (h : reference? (c :: cs) = none) :
    resolve lookup (c :: cs) = c :: resolve lookup cs := by
  rw [resolve, h]

theorem resolve_ref {name rest : List Char} (hname : Assignment.isName name = true)
    (hrest : EndsName rest) :
    resolve lookup ('$' :: (name ++ rest)) = valueOf lookup name ++ resolve lookup rest := by
  rw [resolve, reference?_eq_some.mpr ⟨rest, rfl, hname, hrest⟩]
  show valueOf lookup name ++ resolve lookup ((name ++ rest).drop name.length) = _
  rw [List.drop_left]

/-- A text can be cut where no name goes on. -/
theorem resolve_append {rest : List Char} (hrest : EndsName rest) (cs : List Char) :
    resolve lookup (cs ++ rest) = resolve lookup cs ++ resolve lookup rest := by
  induction cs using refInduction with
  | nil => rw [resolve_nil, List.nil_append, List.nil_append]
  | char c cs href ih =>
      have href' : reference? (c :: (cs ++ rest)) = none := by
        rw [← List.cons_append, reference?_append (List.cons_ne_nil c cs) hrest, href]
      rw [List.cons_append, resolve_char lookup href', resolve_char lookup href, ih,
        List.cons_append]
  | ref name more hname hmore ih =>
      -- The name ends where it did, since `rest` cannot go on with it either.
      have hends : EndsName (more ++ rest) := by
        cases more with
        | nil => exact hrest
        | cons d more => exact hmore
      rw [List.cons_append, List.append_assoc, resolve_ref lookup hname hends,
        resolve_ref lookup hname hmore, ih, List.append_assoc]

/-- A resolved text holds characters of the text and of the values of
variables that it refers to, and no others. -/
theorem mem_resolve {d : Char} (cs : List Char) (hd : d ∈ resolve lookup cs) :
    d ∈ cs ∨ ∃ i name, refAt? cs i = some name ∧ d ∈ valueOf lookup name := by
  induction cs using refInduction with
  | nil => rw [resolve_nil] at hd; cases hd
  | char c cs href ih =>
      rw [resolve_char lookup href, List.mem_cons] at hd
      rcases hd with rfl | hd
      · exact .inl List.mem_cons_self
      · rcases ih hd with h | ⟨i, name, hi, hname⟩
        · exact .inl (List.mem_cons_of_mem c h)
        · exact .inr ⟨i + 1, name, hi, hname⟩
  | ref name rest hname hrest ih =>
      rw [resolve_ref lookup hname hrest, List.mem_append] at hd
      rcases hd with hd | hd
      · exact .inr ⟨0, name, reference?_eq_some.mpr ⟨rest, rfl, hname, hrest⟩, hd⟩
      · rcases ih hd with h | ⟨i, other, hi, hother⟩
        · exact .inl (List.mem_cons_of_mem _ (List.mem_append_right name h))
        · refine .inr ⟨name.length + i + 1, other, ?_, hother⟩
          rw [refAt?_cons_succ, refAt?_length_add, hi]

end

end PipeShell.Line
