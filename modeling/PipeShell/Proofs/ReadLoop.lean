import PipeShell.Host.World
import PipeShell.Proofs.Text.Lines
import PipeShell.ReadLoop

/-!
# `PipeShell.Proofs.ReadLoop`: the lines of an input run one by one

`session` is what a read loop is for: the lines of the input that are
not blank are run in order, each in the session and the world that the
one before left, until one of them asks the session to end. `ReadLoop.run`
gets at the lines in another way. It reads chunks of bytes and cuts
lines off them, and a program that a line starts can read what has not
been read yet. As long as no program takes lines away from the loop, the
two come to the same.

* `enteredLine_eq`: a line without backspaces is entered as it stands.
* `Stands`: what is true of a loop between two rounds.
* `Stands.read`, `Stands.next`: a chunk that is read, and a line that is
  used.
* `Stands.advances_of_cut`, `Stands.advances_of_chunk`,
  `Stands.advances_of_last`: every round is one of these.
* `run_eq_session`: the whole loop.
-/

set_option autoImplicit false

namespace PipeShell

open Host (World)

/-! ### Lines as they are entered -/

namespace Text.Grapheme

theorem flatten_clustersFrom (t : Trail) (held cs : List Char) :
    (clustersFrom t held cs).flatten = held.reverse ++ cs := by
  induction cs generalizing t held with
  | nil => simp [clustersFrom]
  | cons c cs ih =>
      rw [clustersFrom]
      split
      · rw [ih, List.reverse_cons, List.append_assoc, List.singleton_append]
      · rw [List.flatten_cons, ih, List.reverse_singleton, List.singleton_append]

/-- Clusters are cut out of a text without loss. -/
theorem flatten_clusters (cs : List Char) : (clusters cs).flatten = cs := by
  cases cs with
  | nil => rfl
  | cons c cs => exact flatten_clustersFrom _ _ _

end Text.Grapheme

theorem withoutBackspaces_eq {clusters : List (List Char)}
    (h : ∀ g ∈ clusters, g ≠ [Char.ofNat 8]) (held : List Char) (sizes : List UInt8) :
    withoutBackspaces held sizes clusters = held.reverse ++ clusters.flatten := by
  induction clusters generalizing held sizes with
  | nil => simp [withoutBackspaces]
  | cons g gs ih =>
      have hg : (g == [Char.ofNat 8]) = false := beq_eq_false_iff_ne.mpr (h g List.mem_cons_self)
      rw [withoutBackspaces, hg, if_neg Bool.false_ne_true,
        ih fun g' hg' => h g' (List.mem_cons_of_mem g hg')]
      simp

/-- A line without backspaces is entered as it stands. -/
theorem enteredLine_eq {line : String} (h : Char.ofNat 8 ∉ line.toList) :
    enteredLine line = line := by
  have hclusters : ∀ g ∈ Text.Grapheme.clusters line.toList, g ≠ [Char.ofNat 8] := by
    rintro g hg rfl
    refine h ?_
    rw [← Text.Grapheme.flatten_clusters line.toList]
    exact List.mem_flatten.mpr ⟨_, hg, List.mem_singleton_self _⟩
  rw [enteredLine, withoutBackspaces_eq hclusters, Text.Grapheme.flatten_clusters]
  simp

/-! ### Sessions -/

section
variable {w : Type}

/-- A line that is run, and the session and the world it is run in. -/
structure Execution (w : Type) where
  line : String
  env : Environment
  world : w

namespace Execution

/-- What the line comes to. -/
def outcome (d : Dispatcher w) (x : Execution w) : Outcome := (d.runLine x.line x.env x.world).1

/-- The session that the line leaves. -/
def envAfter (d : Dispatcher w) (x : Execution w) : Environment :=
  (d.runLine x.line x.env x.world).2.1

/-- The world that the line leaves. -/
def worldAfter (d : Dispatcher w) (x : Execution w) : w := (d.runLine x.line x.env x.world).2.2

theorem runLine_eq (d : Dispatcher w) (x : Execution w) :
    d.runLine x.line x.env x.world = (x.outcome d, x.envAfter d, x.worldAfter d) := by
  rw [outcome, envAfter, worldAfter]

end Execution

/-- Lines are run one after the other, each in what the one before left,
until the session was asked to end. -/
def session (d : Dispatcher w) : List String → Environment → w → List (Execution w)
  | [], _, _ => []
  | line :: rest, env, world =>
      if env.exiting then []
      else
        let x : Execution w := ⟨line, env, world⟩
        x :: session d rest (x.envAfter d) (x.worldAfter d)

/-- What is printed for lines that are run. -/
def transcript (d : Dispatcher w) (xs : List (Execution w)) : String :=
  String.join (xs.map fun x => (x.outcome d).printed)

/-- The world after lines were run. -/
def worldAfter (d : Dispatcher w) (world : w) (xs : List (Execution w)) : w :=
  xs.foldl (fun _ x => x.worldAfter d) world

end

/-- The lines of an input that are run: those that are not blank. -/
def inputLines (text : String) : List String :=
  ((Text.lines text.toList).map String.ofList).filter (!Text.allBlank ·)

theorem session_of_exiting {w : Type} {d : Dispatcher w} {env : Environment} {world : w}
    {lines : List String} (h : env.exiting = true) : session d lines env world = [] := by
  cases lines with
  | nil => rfl
  | cons line rest => rw [session, if_pos h]

theorem inputLines_append {cs after : List Char} {line : String}
    (h : Text.lines cs = line.toList :: Text.lines after) :
    inputLines (String.ofList cs)
      = if Text.allBlank line then inputLines (String.ofList after)
        else line :: inputLines (String.ofList after) := by
  cases hblank : Text.allBlank line <;> simp [inputLines, h, hblank]

namespace ReadLoop

variable {d : Dispatcher World}

/-- The line neither looks at the standard input nor takes from it. -/
def IgnoresInput (d : Dispatcher World) (x : Execution World) : Prop :=
  ∀ bytes, d.runLine x.line x.env { x.world with stdin := bytes }
    = (x.outcome d, x.envAfter d, { x.worldAfter d with stdin := bytes })

/-- Where there is nothing to read, a line leaves nothing to read. -/
def KeepsEmpty (d : Dispatcher World) : Prop :=
  ∀ x : Execution World, x.world.stdin = [] → (x.worldAfter d).stdin = []

/-- Nobody but the loop reads the input: nothing of it is unread, or the
lines ignore it, or all of it will be read before the next line is run,
since one chunk is enough or there is no newline before the end. -/
def Unshared (d : Dispatcher World) (xs : List (Execution World)) (held unread : List UInt8) :
    Prop :=
  unread = [] ∨ (∀ x ∈ xs, IgnoresInput d x) ∨
    (0x0A ∉ held ∧ (unread.length ≤ World.chunkSize ∨
      ∀ before rest, unread = before ++ rest → rest ≠ [] → 0x0A ∉ before))

/-- Reading a chunk keeps the input to the loop. -/
theorem Unshared.read {xs : List (Execution World)} {held unread : List UInt8}
    (h : Unshared d xs held unread) :
    Unshared d xs (held ++ unread.take World.chunkSize) (unread.drop World.chunkSize) := by
  have hsplit := List.take_append_drop World.chunkSize unread
  by_cases hshort : unread.length ≤ World.chunkSize
  · exact .inl (List.drop_eq_nil_of_le hshort)
  rcases h with rfl | h | ⟨hheld, hle | hlast⟩
  · exact .inl List.drop_nil
  · exact .inr (.inl h)
  · exact absurd hle hshort
  · have hmore : unread.drop World.chunkSize ≠ [] := by simpa using hshort
    refine .inr (.inr ⟨?_, .inr fun before rest heq hrest => ?_⟩)
    · rw [List.mem_append, not_or]
      exact ⟨hheld, hlast _ _ hsplit.symm hmore⟩
    · have hbefore := hlast (unread.take World.chunkSize ++ before) rest
        (by rw [List.append_assoc, ← heq, hsplit]) hrest
      exact fun hmem => hbefore (List.mem_append_right _ hmem)

/-- Where a loop stands that is to run the lines of `cs`: what it holds
and what is unread are the bytes of `cs`, and but for what is unread its
world is `base`. -/
structure Stands (d : Dispatcher World) (cs : List Char) (base : World) (s : State World) :
    Prop where
  world : s.world = { base with stdin := s.world.stdin }
  used : base.stdin = []
  input : s.held ++ s.world.stdin = Text.Utf8.encode (String.ofList cs)
  plain : Char.ofNat 8 ∉ cs
  unshared : Unshared d (session d (inputLines (String.ofList cs)) s.env base) s.held s.world.stdin

/-- The loop ended, and from where it stood it has run the lines of
`cs`. -/
structure RunsFrom (d : Dispatcher World) (cs : List Char) (base : World) (s : State World)
    (r : Ending × State World) : Prop where
  done : r.1 = .done
  output : r.2.output
    = s.output ++ transcript d (session d (inputLines (String.ofList cs)) s.env base)
  world : ∃ bytes, r.2.world
    = { worldAfter d base (session d (inputLines (String.ofList cs)) s.env base) with
        stdin := bytes }

theorem enter?_encode (s : State World) {cs line : List Char} {ended : Bool}
    (hplain : Char.ofNat 8 ∉ cs) (hline : line = if ended then Text.dropReturn cs else cs) :
    s.enter? d "" ⟨Text.Utf8.encode (String.ofList cs), ended⟩
      = some (if Text.allBlank (String.ofList line) then s
          else s.runLine d (String.ofList line)) := by
  have hsub : line ⊆ cs := by
    subst hline
    cases ended with
    | false => exact List.Subset.refl cs
    | true =>
        simp only [Text.dropReturn, if_true]
        split
        · exact List.dropLast_subset cs
        · exact List.Subset.refl cs
  have hentered : enteredLine (String.ofList line) = String.ofList line :=
    enteredLine_eq fun hmem => hplain (hsub (by simpa using hmem))
  have hsay : s.say "" = s := by simp [State.say]
  rw [State.enter?, Text.RawLine.text?_encode, ← hline, Option.map_some]
  simp only [hentered, hsay]

/-- A line is run in the world of the loop as it is run where nothing is
unread. -/
theorem Stands.runLine_eq (hempty : KeepsEmpty d) {cs : List Char} {base : World}
    {s : State World} (h : Stands d cs base s) {x : Execution World} (henv : x.env = s.env)
    (hworld : x.world = base) (hignores : s.world.stdin = [] ∨ IgnoresInput d x) :
    d.runLine x.line s.env s.world
      = (x.outcome d, x.envAfter d, { x.worldAfter d with stdin := s.world.stdin }) := by
  subst hworld
  rw [← henv, h.world]
  rcases hignores with hnil | hignores
  · have hleft : (x.worldAfter d).stdin = s.world.stdin := by
      rw [hnil, hempty x h.used]
    rw [hnil, ← h.used, x.runLine_eq, h.used, ← hnil, ← hleft]
  · exact hignores s.world.stdin

/-- One line of the loop: the loop stands before the lines that follow,
and a run of these completes a run of all. -/
theorem Stands.next (hempty : KeepsEmpty d) {cs after : List Char} {base : World}
    {s : State World} {rest : List UInt8} (h : Stands d cs base s)
    (hopen : s.env.exiting = false) {line : String}
    (hlines : Text.lines cs = line.toList :: Text.lines after) (hafter : after ⊆ cs)
    (hrest : rest ++ s.world.stdin = Text.Utf8.encode (String.ofList after))
    (hheld : s.world.stdin = [] ∨ 0x0A ∈ s.held) :
    ∃ base' s', s' = (if Text.allBlank line then { s with held := rest }
        else ({ s with held := rest } : State World).runLine d line) ∧
      Stands d after base' s' ∧ s'.world.stdin = s.world.stdin ∧ s'.held = rest ∧
      ∀ r, RunsFrom d after base' s' r → RunsFrom d cs base s r := by
  have hplain : Char.ofNat 8 ∉ after := fun hmem => h.plain (hafter hmem)
  have hinput := inputLines_append hlines
  -- The next line is there already, so of the three ways in which the
  -- input can be the loop's own, two are left.
  have hunshared : s.world.stdin = [] ∨
      ∀ x ∈ session d (inputLines (String.ofList cs)) s.env base, IgnoresInput d x := by
    rcases h.unshared with hnil | hignores | ⟨hnone, -⟩
    · exact .inl hnil
    · exact .inr hignores
    · exact hheld.imp id fun hmem => absurd hmem hnone
  cases hblank : Text.allBlank line with
  | true =>
      rw [hblank, if_pos rfl] at hinput
      rw [hinput] at hunshared
      refine ⟨base, { s with held := rest }, rfl, ⟨h.world, h.used, hrest, hplain, ?_⟩, rfl, rfl,
        fun r hr => ?_⟩
      · exact hunshared.imp id .inl
      · obtain ⟨hdone, houtput, hworld⟩ := hr
        exact ⟨hdone, by rw [hinput]; exact houtput, by rw [hinput]; exact hworld⟩
  | false =>
      -- `x` and `s'` are named by equations: with their values in view the line would be run.
      obtain ⟨x, hx⟩ : ∃ x : Execution World, x = ⟨line, s.env, base⟩ := ⟨_, rfl⟩
      have hsession : session d (inputLines (String.ofList cs)) s.env base
          = x :: session d (inputLines (String.ofList after)) (x.envAfter d) (x.worldAfter d) := by
        rw [hinput, hblank, if_neg Bool.false_ne_true, session, if_neg (by simp [hopen]), hx]
      rw [hsession] at hunshared
      have hrun := h.runLine_eq hempty (x := x) (by rw [hx]) (by rw [hx])
        (hunshared.imp id fun hall => hall x List.mem_cons_self)
      obtain ⟨s', hs'⟩ : ∃ s' : State World, s' = ⟨x.envAfter d,
          { x.worldAfter d with stdin := s.world.stdin }, s.history.add line,
          s.output ++ (x.outcome d).printed, rest⟩ := ⟨_, rfl⟩
      have hstate : s' = ({ s with held := rest } : State World).runLine d line := by
        rw [hs', State.runLine]
        rw [hx] at hrun ⊢
        rw [hrun]
      have hstands : Stands d after (x.worldAfter d) s' := by
        refine ⟨by rw [hs'], hempty x (by rw [hx, h.used]), by rw [hs']; exact hrest, hplain, ?_⟩
        have henv : s'.env = x.envAfter d := by rw [hs']
        have hunread : s'.world.stdin = s.world.stdin := by rw [hs']
        rw [henv, hunread]
        refine hunshared.imp id fun hall => .inl ?_
        intro y hy
        exact hall y (List.mem_cons_of_mem x hy)
      refine ⟨x.worldAfter d, s', by rw [if_neg Bool.false_ne_true, hstate], hstands,
        by rw [hs'], by rw [hs'], fun r hr => ?_⟩
      obtain ⟨hdone, houtput, hworld⟩ := hr
      have henv : s'.env = x.envAfter d := by rw [hs']
      have hout : s'.output = s.output ++ (x.outcome d).printed := by rw [hs']
      rw [henv] at houtput hworld
      refine ⟨hdone, ?_, ?_⟩
      · rw [houtput, hout, hsession, transcript, transcript, List.map_cons, String.join_cons,
          String.append_assoc]
      · rw [hsession, worldAfter, List.foldl_cons]
        exact hworld

/-- Reading a chunk changes nothing about the lines that are to be run. -/
theorem Stands.read {cs : List Char} {base : World} {s : State World} (h : Stands d cs base s) :
    Stands d cs base { s with
      world := { s.world with stdin := s.world.stdin.drop World.chunkSize }
      held := s.held ++ s.world.stdin.take World.chunkSize } where
  world := by rw [h.world]
  used := h.used
  input := by
    rw [List.append_assoc, List.take_append_drop, h.input]
  plain := h.plain
  unshared := h.unshared.read

/-- A loop that has no line to run any more is done. -/
theorem Stands.finished {cs : List Char} {base : World} {s : State World} (h : Stands d cs base s)
    (hnone : session d (inputLines (String.ofList cs)) s.env base = []) :
    RunsFrom d cs base s (.done, s) := by
  refine ⟨rfl, ?_, s.world.stdin, ?_⟩
  · rw [hnone, transcript, List.map_nil, String.join_nil, String.append_empty]
  · rw [hnone, worldAfter, List.foldl_nil, ← h.world]

/-! ### Rounds -/

/-- How many rounds a loop may take: one to read a byte and one to use
it. -/
def State.rounds (s : State World) : Nat := 2 * s.world.stdin.length + s.held.length

/-- One round takes the loop a step further: what is left to do from
there completes the run, and needs fewer rounds. -/
def Advances (d : Dispatcher World) (cs : List Char) (base : World) (s : State World) : Prop :=
  ∃ cs' base' s', Stands d cs' base' s' ∧ s'.rounds < s.rounds ∧
    (∀ fuel, run d World.takeChunk "" (fuel + 1) s = run d World.takeChunk "" fuel s') ∧
    ∀ r, RunsFrom d cs' base' s' r → RunsFrom d cs base s r

section
variable {cs : List Char} {base : World} {s : State World} (h : Stands d cs base s)
  (hopen : s.env.exiting = false)
include h hopen

/-- A line that is held is used. -/
theorem Stands.advances_of_cut (hempty : KeepsEmpty d) {l : Text.RawLine} {rest : List UInt8}
    (hcut : Text.RawLine.cut? s.held = some (l, rest)) : Advances d cs base s := by
  obtain ⟨line, after, rfl, hline, rfl, hrest⟩ := Text.RawLine.cut?_encode hcut h.input
  obtain ⟨-, -, hheld⟩ := Text.RawLine.cut?_eq_some_iff.mp hcut
  have hplain : Char.ofNat 8 ∉ line := fun hmem => h.plain (List.mem_append_left _ hmem)
  have hlines : Text.lines (line ++ '\n' :: after)
      = (String.ofList (Text.dropReturn line)).toList :: Text.lines after := by
    rw [Text.lines_newline hline, String.toList_ofList]
  obtain ⟨base', s', hs', hstands, hunread, hheld', hruns⟩ := h.next hempty hopen hlines
    (fun c hc => List.mem_append_right _ (List.mem_cons_of_mem _ hc)) hrest (.inr (by simp [hheld]))
  refine ⟨after, base', s', hstands, ?_, fun fuel => ?_, hruns⟩
  · rw [State.rounds, State.rounds, hunread, hheld', hheld, List.length_append, List.length_cons]
    omega
  · have hentry := enter?_encode (d := d) { s with held := rest } hplain
      (show Text.dropReturn line = if true then Text.dropReturn line else line from rfl)
    rw [← hs'] at hentry
    rw [run, hopen, if_neg Bool.false_ne_true, hcut]
    simp only [hentry]

/-- Where no line is held, a chunk is read. -/
theorem Stands.advances_of_chunk (hcut : Text.RawLine.cut? s.held = none)
    (hunread : s.world.stdin ≠ []) : Advances d cs base s := by
  have hchunk : s.world.stdin.take World.chunkSize ≠ [] := by
    simp [hunread, World.chunkSize]
  refine ⟨cs, base, _, h.read, ?_, fun fuel => ?_, fun r hr => ⟨hr.done, hr.output, hr.world⟩⟩
  · have hpos := List.length_pos_iff.mpr hchunk
    have hsplit := congrArg List.length (List.take_append_drop World.chunkSize s.world.stdin)
    simp only [State.rounds, List.length_append] at hsplit ⊢
    omega
  · rw [run, hopen, if_neg Bool.false_ne_true, hcut, World.takeChunk]
    -- `hchunk` excludes the branch for the end of the input.
    simp only

end

section
variable {cs : List Char} {base : World} {s : State World} (h : Stands d cs base s)
  (hopen : s.env.exiting = false) (hcut : Text.RawLine.cut? s.held = none)
  (hunread : s.world.stdin = [])
include h hopen hcut hunread

/-- The last line of the input may lack its newline. -/
theorem Stands.advances_of_last (hempty : KeepsEmpty d) (hcs : cs ≠ []) : Advances d cs base s := by
  have hinput : s.held = Text.Utf8.encode (String.ofList cs) := by
    rw [← h.input, hunread, List.append_nil]
  have hnewline : '\n' ∉ cs := by
    have hheld := Text.RawLine.cut?_eq_none_iff.mp hcut
    rw [hinput, Text.Utf8.newline_mem_encode] at hheld
    simpa using hheld
  have hheld : s.held ≠ [] := by
    rw [hinput, ne_eq, Text.Utf8.encode_eq_nil, String.toList_ofList]
    exact hcs
  have hlines : Text.lines cs = (String.ofList cs).toList :: Text.lines [] := by
    rw [Text.lines_of_notMem hnewline hcs, String.toList_ofList, Text.lines_nil]
  have hrest : [] ++ s.world.stdin = Text.Utf8.encode (String.ofList []) := by
    rw [hunread, Text.Utf8.encode_ofList_nil, List.nil_append]
  obtain ⟨base', s', hs', hstands, hunread', hheld', hruns⟩ :=
    h.next hempty hopen hlines (List.nil_subset cs) hrest (.inl hunread)
  have hworld : ({ s.world with stdin := [] } : World) = s.world := by rw [← hunread]
  refine ⟨[], base', s', hstands, ?_, fun fuel => ?_, hruns⟩
  · have hpos := List.length_pos_iff.mpr hheld
    rw [State.rounds, State.rounds, hunread', hheld', List.length_nil]
    omega
  · have hentry := enter?_encode (d := d) { s with held := [] } h.plain
      (show cs = if false then Text.dropReturn cs else cs from rfl)
    rw [← hs', ← hinput] at hentry
    rw [run, hopen, if_neg Bool.false_ne_true, hcut, World.takeChunk, hunread]
    simp only [List.take_nil, List.drop_nil, hworld, List.isEmpty_iff, hheld, if_false, hentry]

/-- At the end of the input the loop is done. -/
theorem Stands.run_at_end (hcs : cs = []) (fuel : Nat) :
    RunsFrom d cs base s (run d World.takeChunk "" (fuel + 1) s) := by
  have hheld : s.held = [] := by
    have hinput := h.input
    rw [hunread, hcs, Text.Utf8.encode_ofList_nil, List.append_nil] at hinput
    exact hinput
  have hworld : ({ s.world with stdin := [] } : World) = s.world := by rw [← hunread]
  rw [run, hopen, if_neg Bool.false_ne_true, hcut, World.takeChunk, hunread]
  simp only [List.take_nil, List.drop_nil, hworld, hheld, List.isEmpty_nil, if_true]
  have hsame : ({ s with held := [] } : State World).say "" = s := by
    rw [← hheld, State.say, String.append_empty]
  rw [hsame]
  exact h.finished (by rw [hcs]; rfl)

end

/-- As long as the input is its own, a loop runs the lines of its input
one by one. -/
theorem run_eq_session (hempty : KeepsEmpty d) (fuel : Nat) {cs : List Char} {base : World}
    {s : State World} (h : Stands d cs base s) (hfuel : s.rounds < fuel) :
    RunsFrom d cs base s (run d World.takeChunk "" fuel s) := by
  induction fuel generalizing cs base s with
  | zero => exact absurd hfuel (Nat.not_lt_zero _)
  | succ fuel ih =>
      -- A round that advances leaves a run with less fuel, which is complete by induction.
      have hadvances (hstep : Advances d cs base s) :
          RunsFrom d cs base s (run d World.takeChunk "" (fuel + 1) s) := by
        obtain ⟨cs', base', s', hstands, hrounds, hrun, hruns⟩ := hstep
        rw [hrun]
        exact hruns _ (ih hstands (by omega))
      cases hexit : s.env.exiting with
      | true =>
          rw [run, hexit, if_pos rfl]
          exact h.finished (session_of_exiting hexit)
      | false =>
          cases hcut : Text.RawLine.cut? s.held with
          | some found => exact hadvances (h.advances_of_cut hexit hempty hcut)
          | none =>
              by_cases hunread : s.world.stdin = []
              · by_cases hcs : cs = []
                · exact h.run_at_end hexit hcut hunread hcs fuel
                · exact hadvances (h.advances_of_last hexit hcut hunread hempty hcs)
              · exact hadvances (h.advances_of_chunk hexit hcut hunread)

end ReadLoop
end PipeShell
