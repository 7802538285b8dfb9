import PipeShell.Host.World
import PipeShell.Proofs.Text.Lines

/-!
# `PipeShell.Proofs.Host.Canonical`: where a path really leads

`FileTree.find` follows dots and links. `FileTree.Holds` says what it
comes to in the end: an entry at a place whose names stand for
themselves, below directories only, with no link on the way. The path of
such a place is the canonical one.

* `holds_walkWith`, `holds_walk`, `holds_find`: whatever a path leads to
  is held in that sense, if the walk starts from a directory.
* `find_path`: the path of a held place leads back to that place.
* `World.holds_of_locate`: so a place that was located, and whose own
  path leads to a directory, is that directory.
-/

set_option autoImplicit false

namespace PipeShell

namespace Host

/-! ### Pieces of a path -/

/-- A name that stands for itself in a path. -/
structure Path.IsName (name : String) : Prop where
  ne_empty : name ≠ ""
  ne_here : name ≠ "."
  ne_up : name ≠ ".."
  slash : '/' ∉ name.toList

theorem Path.slash_notMem_pieces {path p : String} (hp : p ∈ Path.pieces path) :
    '/' ∉ p.toList := by
  obtain ⟨cs, hcs, rfl⟩ := List.mem_map.mp hp
  rw [String.toList_ofList]
  exact Text.notMem_of_mem_splitOn hcs

/-- The pieces of the path of a place are its names, after an empty one
for the root. -/
theorem Path.pieces_path {place : Place} (hplace : ∀ name ∈ place, Path.IsName name)
    (hne : place ≠ []) : Path.pieces place.path = "" :: place := by
  have hnames : ∀ cs ∈ place.map String.toList, '/' ∉ cs := by
    intro cs hcs
    obtain ⟨name, hname, rfl⟩ := List.mem_map.mp hcs
    exact (hplace name hname).slash
  have hpath : place.path.toList = '/' :: ['/'].intercalate (place.map String.toList) := by
    simp [Place.path, String.toList_intercalate]
  rw [Path.pieces, Text.splitOn_eq, hpath, List.splitOn_cons_eq_if_modifyHead,
    if_pos (beq_self_eq_true '/'), List.splitOn_intercalate '/' hnames (by simpa using hne),
    List.map_cons, List.map_map]
  have hid : String.ofList ∘ String.toList = id := by
    funext s
    exact String.ofList_toList
  rw [hid, List.map_id]

namespace FileTree

/-! ### Entries without links on the way -/

/-- The tree holds an entry at a place: the names of the place stand for
themselves, every place above it is a directory, and the entry is no
link. -/
structure Holds (t : FileTree) (place : Place) (e : Entry) : Prop where
  names : ∀ name ∈ place, Path.IsName name
  above : ∀ n < place.length, t.get? (place.take n) = some .dir
  entry : t.get? place = some e
  notLink : ∀ target, e ≠ .link target

section
variable {t : FileTree} {here place : Place} {e : Entry}

/-- The root is a directory. -/
theorem holds_root (t : FileTree) : t.Holds [] .dir where
  names := by simp
  above := by simp
  entry := rfl
  notLink := by simp

/-- Above a directory there is a directory. -/
theorem Holds.dropLast (h : t.Holds here .dir) : t.Holds here.dropLast .dir := by
  by_cases hne : here = []
  · rw [hne]
    exact holds_root t
  · have hlen := List.length_pos_iff.mpr hne
    refine ⟨fun name hname => h.names name (List.dropLast_subset here hname), ?_, ?_, by simp⟩
    · intro n hn
      rw [List.length_dropLast] at hn
      rw [List.dropLast_eq_take, List.take_take, Nat.min_eq_left (Nat.le_of_lt hn)]
      exact h.above n (by omega)
    · rw [List.dropLast_eq_take]
      exact h.above _ (by omega)

/-- An entry of a directory, under a name of its own. -/
theorem Holds.append {name : String} (h : t.Holds here .dir) (hname : Path.IsName name)
    (hentry : t.get? (here ++ [name]) = some e) (hlink : ∀ target, e ≠ .link target) :
    t.Holds (here ++ [name]) e where
  names := by
    intro n hn
    rcases List.mem_append.mp hn with hn | hn
    · exact h.names n hn
    · rw [List.mem_singleton.mp hn]
      exact hname
  above := by
    intro n hn
    have hle : n ≤ here.length := by
      rw [List.length_append, List.length_singleton] at hn
      omega
    rw [List.take_append_of_le_length hle]
    rcases Nat.lt_or_eq_of_le hle with hlt | rfl
    · exact h.above n hlt
    · rw [List.take_length]
      exact h.entry
  entry := hentry
  notLink := hlink

/-! ### Following a path -/

/-- Whatever the walk found is held. -/
def Sound (t : FileTree) (found : Except Cause Found) : Prop :=
  ∀ place e, found = .ok (.entry place e) → t.Holds place e

theorem sound_error (t : FileTree) (cause : Cause) : t.Sound (.error cause) :=
  fun _ _ h => nomatch h

theorem sound_vacant (t : FileTree) (place : Place) : t.Sound (.ok (.vacant place)) :=
  fun _ _ h => nomatch h

theorem Holds.sound (h : t.Holds place e) : t.Sound (.ok (.entry place e)) := by
  intro place' e' hfound
  cases hfound
  exact h

/-- One walk between links: it only ever stands in directories, so what
it comes to is held, if that is so for the walks it hands on to. -/
theorem holds_walkWith {slash : Cause} {follow : Place → List String → Except Cause Found}
    (hfollow : ∀ base ps, t.Holds base .dir → (∀ p ∈ ps, '/' ∉ p.toList) →
      t.Sound (follow base ps))
    {ps : List String} (hhere : t.Holds here .dir) (hps : ∀ p ∈ ps, '/' ∉ p.toList) :
    t.Sound (walkWith t slash follow here ps) := by
  induction ps generalizing here with
  | nil => exact hhere.sound
  | cons p rest ih =>
      have hrest : ∀ q ∈ rest, '/' ∉ q.toList := fun q hq => hps q (List.mem_cons_of_mem p hq)
      rw [walkWith]
      split
      · exact ih hhere hrest
      rename_i hstay
      split
      · exact ih hhere.dropLast hrest
      rename_i hup
      split
      · exact sound_error t _
      -- From here on `p` is a name, to be looked up in the directory.
      have hname : Path.IsName p := by
        simp only [Bool.or_eq_true, beq_iff_eq, not_or] at hstay hup
        exact ⟨hstay.1, hstay.2, hup, hps p List.mem_cons_self⟩
      dsimp only
      split
      · split
        · exact sound_vacant t _
        · split
          · exact sound_error t _
          · exact sound_error t _
      · rename_i hdir
        exact ih (hhere.append hname hdir (by simp)) hrest
      · rename_i target _
        refine hfollow _ _ ?_ fun q hq => ?_
        · split
          · exact holds_root t
          · exact hhere
        · rcases List.mem_append.mp hq with hq | hq
          · exact Path.slash_notMem_pieces hq
          · exact hrest q hq
      · rename_i e _ hlink hentry
        split
        · exact (hhere.append hname hentry hlink).sound
        · exact sound_error t _

/-- Walks with any supply of links come to what is held. -/
theorem holds_walk {slash : Cause} (links : Nat) {ps : List String} (hhere : t.Holds here .dir)
    (hps : ∀ p ∈ ps, '/' ∉ p.toList) : t.Sound (walk t slash links here ps) := by
  induction links generalizing here ps with
  | zero => exact holds_walkWith (fun _ _ _ _ => sound_error t _) hhere hps
  | succ links ih => exact holds_walkWith (fun _ _ hbase hps' => ih hbase hps') hhere hps

/-- What a path leads to is held. A path from the root asks nothing of
the directory that it is seen from. -/
theorem holds_find {base : Place} {path : String}
    (hbase : Path.isAbsolute path = true ∨ t.Holds base .dir) : t.Sound (t.find base path) := by
  have hstart : t.Holds (if Path.isAbsolute path then [] else base) .dir := by
    split
    · exact holds_root t
    · rename_i habs
      exact hbase.resolve_left habs
  rw [find, findOr]
  split
  · exact sound_error t _
  split
  · exact sound_error t _
  split
  · exact sound_error t _
  exact holds_walk linkLimit hstart fun p hp => Path.slash_notMem_pieces hp

/-- Names below a directory lead straight to what is held there. -/
theorem walkWith_names {slash : Cause} {follow : Place → List String → Except Cause Found}
    {names : List String} {found : Found} (h : t.Holds (here ++ names) e)
    (hhere : t.get? here = some .dir) (hfound : walkWith t slash follow here names = .ok found) :
    found = .entry (here ++ names) e := by
  induction names generalizing here with
  | nil =>
      rw [List.append_nil] at h ⊢
      have he : e = .dir := Option.some.inj (h.entry.symm.trans hhere)
      rw [walkWith] at hfound
      cases hfound
      rw [he]
  | cons p rest ih =>
      have hname : Path.IsName p := h.names p (by simp)
      have hassoc : here ++ p :: rest = (here ++ [p]) ++ rest := by simp
      rw [walkWith, if_neg (by simp [hname.ne_empty, hname.ne_here]),
        if_neg (by simpa using hname.ne_up)] at hfound
      split at hfound
      · cases hfound
      rw [hassoc] at h ⊢
      by_cases hrest : rest = []
      · subst hrest
        -- The last name: it is a directory to stand in, or an entry to stop at.
        rw [List.append_nil] at h ⊢
        simp only [h.entry] at hfound
        cases e with
        | dir =>
            simp only [walkWith, Except.ok.injEq] at hfound
            exact hfound.symm
        | link target => exact absurd rfl (h.notLink target)
        | _ =>
            simp only [List.isEmpty_nil, if_true, Except.ok.injEq] at hfound
            exact hfound.symm
      · have hlen := List.length_pos_iff.mpr hrest
        have hdir : t.get? (here ++ [p]) = some .dir := by
          have hlt : (here ++ [p]).length < ((here ++ [p]) ++ rest).length := by
            simp only [List.length_append]
            omega
          have habove := h.above _ hlt
          rwa [List.take_left] at habove
        simp only [hdir] at hfound
        exact ih h hdir hfound

/-- The path of a place leads to what is held there. -/
theorem find_path {base : Place} {found : Found} (h : t.Holds place e)
    (hfound : t.find base place.path = .ok found) : found = .entry place e := by
  have habs : Path.isAbsolute place.path = true := by
    simp [Path.isAbsolute, Place.path]
  rw [find, findOr, habs] at hfound
  split at hfound
  · cases hfound
  split at hfound
  · cases hfound
  split at hfound
  · cases hfound
  -- The walk starts at the root, where the empty piece leaves it.
  rw [if_pos rfl, show linkLimit = 39 + 1 from rfl, walk] at hfound
  by_cases hne : place = []
  · subst hne
    have he : e = .dir := Option.some.inj (h.entry.symm.trans rfl)
    have hpieces : Path.pieces (Place.path []) = ["", ""] := by decide
    rw [hpieces] at hfound
    simp only [walkWith] at hfound
    cases hfound
    rw [he]
  · rw [Path.pieces_path h.names hne, walkWith] at hfound
    have hroot : t.Holds ([] ++ place) e := h
    exact walkWith_names hroot rfl hfound

end

end FileTree

/-- A place that a path leads to and whose own path leads to a directory
is a directory. -/
theorem World.holds_of_locate {w : World} {path : String} {place : Place}
    (hbase : Path.isAbsolute path = true ∨ w.tree.Holds w.dir .dir)
    (hplace : w.locate path = .ok place) (hdir : w.isDir place.path = true) :
    w.tree.Holds place .dir := by
  rw [locate, FileTree.locate] at hplace
  cases hfind : w.tree.find w.dir path with
  | error cause => rw [hfind] at hplace; cases hplace
  | ok found =>
      rw [hfind] at hplace
      cases found with
      | vacant free => cases hplace
      | entry at' e =>
          cases hplace
          have hheld : w.tree.Holds place e := FileTree.holds_find hbase place e hfind
          rw [isDir, FileTree.isDir] at hdir
          split at hdir
          · rename_i found' hown
            -- Its own path leads to it and to a directory, so it is one.
            cases FileTree.find_path hheld hown
            exact hheld
          · cases hdir

end Host

end PipeShell
