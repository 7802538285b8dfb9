import PipeShell.Line.Command
import PipeShell.Proofs.Line.Vacancy

/-!
# `PipeShell.Proofs.Line.Joining`: lines joined by a bar

Two lines with a bar between them are read apart from each other, if the
first one does not end inside quotes. Each step of the reading looks
across the bar in its own way: the mode runs on over it, a reference
looks at its neighbours and takes as long a name as it can, and words
are gathered between bars. A divider lets none of this through.

* `segments_append`, `expandFrom_append`: references on both sides of a
  divider are found and replaced apart.
* `Divides.append_of_isEdge`: the pieces on both sides of an edge are
  those of the two texts.
* `stages_append`: a bar ends the words of a command.
* `commandsOf_of_blank`, `parse_eq_commandsOf`: blanks make no command,
  so a blank line needs no reading of its own.
* `parse_joined`: a line with a bar in it has the commands of the two
  sides, one after the other.
-/

set_option autoImplicit false

namespace PipeShell.Line

/-- The line, read from its start, does not end inside quotes. -/
def EndsOutside (line : String) : Prop := (Mode.gap.after line.toList).isQuoted = false

instance (line : String) : Decidable (EndsOutside line) :=
  inferInstanceAs (Decidable (_ = false))

/-! ### References on both sides of a divider -/

/-- No name goes on over a divider. -/
theorem endsName_divider {d : Char} (hd : isDivider d = true) (cs : List Char) :
    EndsName (d :: cs) := endsName_of_isEdge hd

/-- The segments on both sides of a divider are those of the two
texts. -/
theorem segments_append {d : Char} (hd : isDivider d = true) (left right : List Char) :
    segments (left ++ d :: right) = segments left ++ .char d :: segments right := by
  induction left using refInduction with
  | nil => exact segments_char (reference?_of_isDivider right hd)
  | char c cs href ih =>
      have href' : reference? (c :: (cs ++ d :: right)) = none := by
        rw [← List.cons_append,
          reference?_append (List.cons_ne_nil c cs) (endsName_divider hd right), href]
      rw [List.cons_append, segments_char href', segments_char href, ih, List.cons_append]
  | ref name rest hname hrest ih =>
      have hends : EndsName (rest ++ d :: right) := by
        cases rest with
        | nil => exact endsName_divider hd right
        | cons c rest => exact hrest
      rw [List.cons_append, List.append_assoc, segments_ref hname hends,
        segments_ref hname hrest, ih, List.cons_append]

section
variable (lookup : String → Option String)

/-- Of its neighbours a reference asks only whether they are edges. -/
theorem replacement_congr {m : Mode} {before before' after after' : Option Char}
    (hbefore : isEdge before = isEdge before') (hafter : isEdge after = isEdge after')
    (name : List Char) :
    replacement lookup m before after name = replacement lookup m before' after' name := by
  rw [replacement, replacement, vacancy, vacancy, hbefore, hafter]

/-- After an edge a text is expanded as at the start of a line. -/
theorem expandFrom_of_isEdge (before : Option Char) (h : isEdge before = true) (m : Mode)
    (segs : List Segment) : expandFrom lookup before m segs = expandFrom lookup none m segs := by
  cases segs with
  | nil => rfl
  | cons s rest =>
      cases s with
      | char c => rfl
      | ref name =>
          have hsame : isEdge before = isEdge none := h
          rw [expandFrom_ref, expandFrom_ref, replacement_congr lookup hsame rfl]

/-- Texts on both sides of a divider are expanded apart, if the left one
does not end inside quotes. For the last reference on the left a divider
is as good as the end of the line. -/
theorem expandFrom_append {d : Char} (hd : isDivider d = true) (left rest : List Segment)
    (before : Option Char) (m : Mode)
    (hm : (m.after (left.flatMap Segment.source)).isQuoted = false) :
    expandFrom lookup before m (left ++ .char d :: rest)
      = expandFrom lookup before m left ++ d :: expandFrom lookup none .gap rest := by
  induction left generalizing before m with
  | nil =>
      show d :: expandFrom lookup (some d) (m.next d) rest = d :: expandFrom lookup none .gap rest
      have hgap : m.next d = .gap := Mode.next_of_isDivider hm hd
      rw [hgap, expandFrom_of_isEdge lookup (some d) hd]
  | cons s left ih =>
      rw [List.flatMap_cons, Mode.after_append] at hm
      cases s with
      | char c =>
          rw [List.cons_append, expandFrom, ih (some c) (m.next c) hm, expandFrom,
            List.cons_append]
      | ref name =>
          have hafter : isEdge (firstChar? (left ++ .char d :: rest))
              = isEdge (firstChar? left) := by
            cases left with
            | nil => exact hd
            | cons s left => rfl
          rw [List.cons_append, expandFrom_ref, expandFrom_ref,
            replacement_congr lookup rfl hafter, ih name.getLast? (m.after ('$' :: name)) hm,
            List.append_assoc]

end

/-- Lines on both sides of a divider are expanded apart. -/
theorem expand_append (lookup : String → Option String) {d : Char} (hd : isDivider d = true)
    {left : String} (hleft : EndsOutside left) (right : String) :
    expand lookup (left ++ String.ofList [d] ++ right)
      = expand lookup left ++ String.ofList [d] ++ expand lookup right := by
  have hm : (Mode.gap.after ((segments left.toList).flatMap Segment.source)).isQuoted = false := by
    rw [flatMap_source_segments]
    exact hleft
  have hline : (left ++ String.ofList [d] ++ right).toList = left.toList ++ d :: right.toList := by
    simp
  rw [expand, hline, segments_append hd, expandFrom_append lookup hd _ _ none .gap hm, expand,
    expand]
  apply String.toList_injective
  simp

/-! ### Words on both sides of an edge -/

/-- A piece fits what follows it, if more of its own text does or if
what follows starts with an edge. -/
theorem Piece.Fits.append_of_isEdge {p : Piece} {rest right : List Char} (hp : p.Proper)
    (hf : p.Fits rest) (hout : (Mode.gap.after (p.source ++ rest)).isQuoted = false)
    (hright : isEdge right.head? = true) : p.Fits (rest ++ right) := by
  cases p with
  | bare cs =>
      cases rest with
      | nil => exact hright
      | cons c rest => exact hf
  | unclosed q cs =>
      obtain rfl : rest = [] := hf
      rw [List.append_nil, after_source hp] at hout
      cases hout
  | blank c => trivial
  | bar => trivial
  | quoted q cs => trivial

/-- Divisions can be joined at an edge, if the left text does not end
inside quotes. A bare word may end there. -/
theorem Divides.append_of_isEdge {ps qs : List Piece} {left right : List Char}
    (hps : Divides ps left) (hout : (Mode.gap.after left).isQuoted = false)
    (hqs : Divides qs right) (hright : isEdge right.head? = true) :
    Divides (ps ++ qs) (left ++ right) := by
  induction hps with
  | nil => exact hqs
  | @cons p ps rest hp hf _ ih =>
      rw [List.append_assoc]
      refine .cons hp (hf.append_of_isEdge hp hout hright) (ih ?_)
      by_cases hne : rest = []
      · rw [hne]
        rfl
      · rwa [Piece.after_source_append hp hf hne] at hout

/-- The tokens on both sides of an edge are those of the two texts. -/
theorem scan_append {left right : List Char}
    (hout : (Mode.gap.after left).isQuoted = false) (hright : isEdge right.head? = true) :
    scan .gap [] (left ++ right) = scan .gap [] left ++ scan .gap [] right := by
  obtain ⟨ps, hps⟩ := exists_divides left
  obtain ⟨qs, hqs⟩ := exists_divides right
  rw [(hps.append_of_isEdge hout hqs hright).scan_eq, hps.scan_eq, hqs.scan_eq,
    List.filterMap_append]

/-! ### Commands on both sides of a bar -/

/-- There is always a command under way, which may have no words. -/
theorem stages_ne_nil (ts : List Token) : stages ts ≠ [] := by
  cases ts with
  | nil => simp [stages]
  | cons t ts =>
      cases t with
      | pipe => simp [stages]
      | word w =>
          rw [stages]
          split <;> simp

/-- A bar ends the words of a command. -/
theorem stages_append (xs ys : List Token) :
    stages (xs ++ .pipe :: ys) = stages xs ++ stages ys := by
  induction xs with
  | nil => rfl
  | cons t xs ih =>
      cases t with
      | pipe => rw [List.cons_append, stages, ih, stages, List.cons_append]
      | word w =>
          obtain ⟨s, ss, hs⟩ := List.exists_cons_of_ne_nil (stages_ne_nil xs)
          rw [List.cons_append, stages, ih, stages, hs]
          rfl

/-- The commands that a text makes, once its references are replaced. -/
def commandsOf (cs : List Char) : List Command := (stages (scan .gap [] cs)).filterMap command?

/-- There are no references among dividers. -/
theorem expandFrom_dividers (lookup : String → Option String) {cs : List Char}
    (h : ∀ c ∈ cs, isDivider c = true) (before : Option Char) (m : Mode) :
    expandFrom lookup before m (segments cs) = cs := by
  induction cs generalizing before m with
  | nil => rfl
  | cons c cs ih =>
      have href := reference?_of_isDivider cs (h c List.mem_cons_self)
      rw [segments_char href, expandFrom, ih fun d hd => h d (List.mem_cons_of_mem c hd)]

/-- Blanks make no tokens, and so no commands. -/
theorem commandsOf_of_blank {cs : List Char} (h : ∀ c ∈ cs, Text.isBlank c = true) :
    commandsOf cs = [] := by
  induction cs with
  | nil => rfl
  | cons c cs ih =>
      have hc : Text.isBlank c = true := h c List.mem_cons_self
      have hscan : scan .gap [] (c :: cs) = scan .gap [] cs := by simp [scan, hc]
      have hrest := ih fun d hd => h d (List.mem_cons_of_mem c hd)
      rw [commandsOf, hscan]
      exact hrest

/-- The commands of a line, blank or not, are those that the expanded
line makes. -/
theorem parse_eq_commandsOf (lookup : String → Option String) (line : String) :
    parse lookup line = commandsOf (expand lookup line).toList := by
  rw [parse]
  split
  · rename_i hblank
    have hcs : ∀ c ∈ line.toList, Text.isBlank c = true := List.all_eq_true.mp hblank
    have hexpand : (expand lookup line).toList = line.toList := by
      rw [expand, String.toList_ofList,
        expandFrom_dividers lookup fun c hc => isDivider_of_isBlank (hcs c hc)]
    rw [hexpand, commandsOf_of_blank hcs]
  · rfl

/-- The commands on both sides of a bar are those of the two texts. -/
theorem commandsOf_append_bar {left : List Char}
    (hout : (Mode.gap.after left).isQuoted = false) (right : List Char) :
    commandsOf (left ++ '|' :: right) = commandsOf left ++ commandsOf right := by
  have hbar : scan .gap [] ('|' :: right) = .pipe :: scan .gap [] right := by simp [scan]
  rw [commandsOf, scan_append hout (by rfl), hbar, stages_append, List.filterMap_append]
  rfl

/-- Lines on both sides of a bar are expanded and read apart from each
other, if the left one ends outside quotes both before and after it is
expanded. Neither side needs to have any commands. -/
theorem parse_joined (lookup : String → Option String) (a b : String) (hraw : EndsOutside a)
    (hexpanded : EndsOutside (expand lookup a)) :
    expand lookup (a ++ "|" ++ b) = expand lookup a ++ "|" ++ expand lookup b ∧
      parse lookup (a ++ "|" ++ b) = parse lookup a ++ parse lookup b := by
  have hexpand : expand lookup (a ++ "|" ++ b) = expand lookup a ++ "|" ++ expand lookup b :=
    expand_append lookup (by decide) hraw b
  refine ⟨hexpand, ?_⟩
  have hchars : (expand lookup a ++ "|" ++ expand lookup b).toList
      = (expand lookup a).toList ++ '|' :: (expand lookup b).toList := by
    simp
  rw [parse_eq_commandsOf, hexpand, hchars, commandsOf_append_bar hexpanded,
    parse_eq_commandsOf, parse_eq_commandsOf]

/-- References right beside the bar, one of them not set and one with a
bar in its value, and quotes that are closed before it. -/
theorem parse_joined_beside_references :
    let lookup : String → Option String := fun name => if name = "P" then some "a | wc" else none
    let a := "grep '|' \"$P\" $U"
    let b := "$P||$U"
    (EndsOutside a ∧ EndsOutside (expand lookup a)) ∧
      expand lookup (a ++ "|" ++ b) = expand lookup a ++ "|" ++ expand lookup b ∧
      parse lookup (a ++ "|" ++ b) = parse lookup a ++ parse lookup b := by
  intro lookup a b
  have hraw : EndsOutside a := by decide
  have hexpanded : EndsOutside (expand lookup a) := by decide
  exact ⟨⟨hraw, hexpanded⟩, parse_joined lookup a b hraw hexpanded⟩

end PipeShell.Line
