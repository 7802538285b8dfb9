import PipeShell.Proofs.Host.Canonical

/-!
# `PipeShell.Proofs.Host.Path`: paths by their parts

`Path.components` leaves out of a path what adds nothing to it: repeated
slashes, slashes at the end, and dots that do not stand at the very
front. `Path.Idle` is the text of what is left out behind a name, so a
path has that name for its only part just when it is the name followed
by an idle text.

* `components_eq_nil_iff`: only the empty path has no parts.
* `components_eq_name_iff`: the paths whose only part is a plain name.
* `isEntries_iff`: the entries of a search path are what stands between
  its colons.
-/

set_option autoImplicit false

namespace PipeShell.Host.Path

/-! ### Paths of one name -/

/-- A text that adds nothing to a path that it stands behind: slashes,
and dots with a slash in front of each and behind it, or the end. -/
inductive Idle : List Char → Prop where
  | nil : Idle []
  | slash {cs : List Char} : Idle cs → Idle ('/' :: cs)
  | dot {cs : List Char} : Idle cs → Idle ('/' :: '.' :: cs)

/-- The path is a name, and what follows it adds nothing. -/
structure IsPlain (path name : String) : Prop where
  isName : IsName name
  idle : ∃ tail, path.toList = name.toList ++ tail ∧ Idle tail

/-- A piece of a path that adds nothing to it. -/
def IsIdlePiece (p : String) : Prop := p = "" ∨ p = "."

variable {path name : String}

/-- The path of a plain name does not start at the root. -/
theorem IsPlain.relative (h : IsPlain path name) : isAbsolute path = false := by
  obtain ⟨tail, hpath, -⟩ := h.idle
  have hne : name.toList ≠ [] := by simpa using h.isName.ne_empty
  obtain ⟨c, cs, hname⟩ := List.exists_cons_of_ne_nil hne
  have hslash : c ≠ '/' := by
    rintro rfl
    exact h.isName.slash (by simp [hname])
  simp [isAbsolute, hpath, hname, hslash]

/-- An idle text is cut into idle pieces. -/
theorem splitOn_append_idle {tail : List Char} (h : Idle tail) {cs : List Char}
    (hcs : '/' ∉ cs) :
    ∃ ps, Text.splitOn '/' (cs ++ tail) = cs :: ps ∧
      ∀ p ∈ ps, IsIdlePiece (String.ofList p) := by
  induction h generalizing cs with
  | nil =>
      rw [List.append_nil, Text.splitOn_eq, List.splitOn_eq_singleton hcs]
      exact ⟨[], rfl, by simp⟩
  | @slash tail _ ih =>
      obtain ⟨ps, hps, hidle⟩ := ih (show '/' ∉ [] by simp)
      rw [List.nil_append, Text.splitOn_eq] at hps
      rw [Text.splitOn_eq, List.splitOn_append_cons_self_of_not_mem hcs, hps]
      exact ⟨[] :: ps, rfl, List.forall_mem_cons.mpr ⟨.inl rfl, hidle⟩⟩
  | @dot tail _ ih =>
      obtain ⟨ps, hps, hidle⟩ := ih (show '/' ∉ ['.'] by simp)
      rw [List.singleton_append, Text.splitOn_eq] at hps
      rw [Text.splitOn_eq, List.splitOn_append_cons_self_of_not_mem hcs, hps]
      exact ⟨['.'] :: ps, rfl, List.forall_mem_cons.mpr ⟨.inr rfl, hidle⟩⟩

/-- Idle pieces, with a slash in front of each, are an idle text. -/
theorem idle_flatMap {ps : List (List Char)} (h : ∀ p ∈ ps, IsIdlePiece (String.ofList p)) :
    Idle (ps.flatMap ('/' :: ·)) := by
  induction ps with
  | nil => exact .nil
  | cons p ps ih =>
      have hrest := ih fun q hq => h q (List.mem_cons_of_mem p hq)
      rw [List.flatMap_cons]
      rcases h p List.mem_cons_self with hp | hp
      · obtain rfl : p = [] := by simpa using hp
        exact .slash hrest
      · obtain rfl : p = ['.'] := by simpa using congrArg String.toList hp
        exact .dot hrest

/-! ### The parts of a path -/

/-- Idle pieces stand for no part, and they are the only ones. -/
theorem componentsOf_eq_nil_iff {ps : List String} :
    componentsOf ps = [] ↔ ∀ p ∈ ps, IsIdlePiece p := by
  rw [componentsOf, List.filterMap_eq_nil_iff]
  refine forall₂_congr fun p _ => ?_
  simp only [IsIdlePiece, Bool.or_eq_true, beq_iff_eq]
  split
  · simp_all
  · split <;> simp_all

/-- The part that the first piece of a path stands for. -/
def firstComponent (p : String) : Component :=
  if p = "." then .here else if p = ".." then .up else .name p

/-- A path that is not empty and does not start at the root begins with a
part. -/
theorem exists_components (hrel : isAbsolute path = false) (hne : path ≠ "") :
    ∃ p ps, pieces path = p :: ps ∧ p ≠ "" ∧
      components path = firstComponent p :: componentsOf ps := by
  obtain ⟨c, cs, hpath⟩ : ∃ c cs, path.toList = c :: cs :=
    List.exists_cons_of_ne_nil (by simpa using hne)
  have hslash : (c == '/') = false := by
    simpa [isAbsolute, hpath] using hrel
  -- The first character is no slash, so it is in the first piece.
  obtain ⟨p, ps, hpieces, hp⟩ : ∃ p ps, pieces path = p :: ps ∧ p ≠ "" := by
    rw [pieces, hpath, Text.splitOn, hslash, if_neg Bool.false_ne_true]
    split <;> exact ⟨_, _, rfl, by simp⟩
  refine ⟨p, ps, hpieces, hp, ?_⟩
  rw [components, hrel, if_neg Bool.false_ne_true, hpieces]
  show (if p == "." then [Component.here] else []) ++ componentsOf (p :: ps) = _
  by_cases hhere : p = "."
  · simp [componentsOf, firstComponent, hhere]
  · by_cases hup : p = ".."
    · simp [componentsOf, firstComponent, hup]
    · simp [componentsOf, firstComponent, hhere, hup, hp]

/-- Only the empty path has no parts. -/
theorem components_eq_nil_iff (hrel : isAbsolute path = false) :
    components path = [] ↔ path = "" := by
  by_cases hne : path = ""
  · subst hne
    decide
  · obtain ⟨p, ps, -, -, hcomponents⟩ := exists_components hrel hne
    simp [hcomponents, hne]

theorem intercalate_cons (sep : Char) (p : List Char) (ps : List (List Char)) :
    [sep].intercalate (p :: ps) = p ++ ps.flatMap (sep :: ·) := by
  induction ps generalizing p with
  | nil => simp [List.intercalate]
  | cons q qs ih =>
      have hrest := ih q
      simp only [List.intercalate] at hrest ⊢
      simp [hrest]

/-- A path has a plain name for its only part just when it is that name
with an idle text behind it. -/
theorem components_eq_name_iff : components path = [.name name] ↔ IsPlain path name := by
  constructor
  · intro h
    have hrel : isAbsolute path = false := by
      cases habs : isAbsolute path with
      | false => rfl
      | true =>
          rw [components, habs, if_pos rfl] at h
          cases h
    have hne : path ≠ "" := by
      intro hnil
      rw [(components_eq_nil_iff hrel).mpr hnil] at h
      cases h
    obtain ⟨p, ps, hpieces, hp, hcomponents⟩ := exists_components hrel hne
    rw [h] at hcomponents
    -- The first part is the name, and the pieces behind it add no part.
    obtain ⟨hfirst, hrest⟩ := List.cons.inj hcomponents
    have hname : p ≠ "." ∧ p ≠ ".." ∧ p = name := by
      rw [firstComponent] at hfirst
      split at hfirst
      · cases hfirst
      · rename_i hhere
        split at hfirst
        · cases hfirst
        · rename_i hup
          cases hfirst
          exact ⟨hhere, hup, rfl⟩
    obtain ⟨hhere, hup, rfl⟩ := hname
    have hslash : '/' ∉ p.toList := slash_notMem_pieces (hpieces ▸ List.mem_cons_self)
    refine ⟨⟨hp, hhere, hup, hslash⟩, ?_⟩
    rw [pieces] at hpieces
    obtain ⟨q, qs, hsplit, rfl, rfl⟩ := List.map_eq_cons_iff.mp hpieces
    have hidle : ∀ q' ∈ qs, IsIdlePiece (String.ofList q') := fun q' hq' =>
      componentsOf_eq_nil_iff.mp hrest.symm _ (List.mem_map_of_mem hq')
    refine ⟨qs.flatMap ('/' :: ·), ?_, idle_flatMap hidle⟩
    rw [Text.splitOn_eq] at hsplit
    rw [String.toList_ofList, ← intercalate_cons, ← hsplit, List.intercalate_splitOn]
  · intro h
    obtain ⟨tail, hpath, hidle⟩ := h.idle
    -- Cut at its slashes, the text behind the name gives idle pieces only.
    obtain ⟨ps, hps, hrest⟩ := splitOn_append_idle hidle h.isName.slash
    have hpieces : pieces path = name :: ps.map String.ofList := by
      rw [pieces, hpath, hps, List.map_cons, String.ofList_toList]
    have hne : path ≠ "" := by
      rintro rfl
      exact h.isName.ne_empty (by simpa using (List.nil_eq_append_iff.mp hpath).1)
    obtain ⟨p, ps', hpieces', -, hcomponents⟩ := exists_components h.relative hne
    rw [hpieces] at hpieces'
    obtain ⟨rfl, rfl⟩ := List.cons.inj hpieces'
    have hnone : componentsOf (ps.map String.ofList) = [] := by
      rw [componentsOf_eq_nil_iff]
      intro p hp
      obtain ⟨cs, hcs, rfl⟩ := List.mem_map.mp hp
      exact hrest cs hcs
    rw [hcomponents, hnone, firstComponent, if_neg h.isName.ne_here, if_neg h.isName.ne_up]

/-! ### Search paths -/

/-- The entries of a search path: there is at least one, and the text is
the entries with a colon between any two. -/
structure IsEntries (text : String) (entries : List String) : Prop where
  ne_nil : entries ≠ []
  plain : ∀ e ∈ entries, ':' ∉ e.toList
  joined : String.intercalate ":" entries = text

/-- A search path has its entries in one way. -/
theorem isEntries_iff {text : String} {entries : List String} :
    IsEntries text entries ↔ entries = searchList text := by
  have hback (es : List String) : (es.map String.toList).map String.ofList = es := by
    simp [Function.comp_def]
  constructor
  · rintro ⟨hne, hplain, rfl⟩
    have hcolons : ∀ cs ∈ entries.map String.toList, ':' ∉ cs := by
      intro cs hcs
      obtain ⟨e, he, rfl⟩ := List.mem_map.mp hcs
      exact hplain e he
    have htext : (String.intercalate ":" entries).toList
        = [':'].intercalate (entries.map String.toList) := String.toList_intercalate
    rw [searchList, Text.splitOn_eq, htext,
      List.splitOn_intercalate ':' hcolons (by simpa using hne), hback]
  · rintro rfl
    refine ⟨?_, fun e he => ?_, ?_⟩
    · rw [searchList, Text.splitOn_eq, ne_eq, List.map_eq_nil_iff]
      exact List.splitOn_ne_nil ':' _
    · obtain ⟨cs, hcs, rfl⟩ := List.mem_map.mp he
      rw [String.toList_ofList]
      exact Text.notMem_of_mem_splitOn hcs
    · apply String.toList_injective
      have htexts : (searchList text).map String.toList = text.toList.splitOn ':' := by
        simp [searchList, Text.splitOn_eq, Function.comp_def]
      rw [String.toList_intercalate, htexts]
      exact List.intercalate_splitOn ':'

end PipeShell.Host.Path
