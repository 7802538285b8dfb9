import PipeShell.Program
import PipeShell.Proofs.Search.Dispatch
import PipeShell.Proofs.Search.PatternWord

/-!
# `PipeShell.Proofs.Search.Arrangement`: the order of what a search is given

Behind the name of a search stand its pattern and perhaps a file, its
switches, and perhaps the number of lines to keep after a match. Two
readers go over these words from left to right. One looks for the
pattern, to see its quotes, and the other sorts the arguments out. Both
have to pass over the number wherever it stands.

An `Item` is one thing that is given, with its words. The two words of a
number are one item, so they stay together. Items that are not fit for
their place cannot be written down: an operand does not look like an
option or ask for help, and a number can be read.

* `reads_items`: the arguments are sorted out item by item, and what
  comes of it is what each item adds.
* `patternWord?_items`: the other reader stops at the first operand.
* `Given.Arranges.searchOptions`: what its arguments say does not depend
  on their order, as a switch may be repeated and there is one number at
  the most.
* `dispatch_arranged`: in whatever order the items are given, the search
  is the same, as long as the operands keep theirs.
-/

set_option autoImplicit false

namespace PipeShell.Search

open Args (Progress)
open Host (World Launcher)
open Line (Word command? patternWord? searchName)

/-! ### What a search is given -/

/-- A word that is taken as it is: it does not look like an option and
asks for no help. -/
structure Operand where
  word : Word
  notDashed : Args.isDashed word.value = false
  notHelp : word.value ≠ "help"
deriving DecidableEq

/-- A word that can be read as a number of lines. -/
structure CountWord where
  word : Word
  count : Nat
  reads : Text.Count.read word.value = .ok count
deriving DecidableEq

/-- The switches of a search. -/
inductive Switch where
  | ignoreCase
  | wordRegexp
deriving DecidableEq

/-- The long name of a switch. -/
def Switch.long : Switch → String
  | ignoreCase => "ignore-case"
  | wordRegexp => "word-regexp"

/-- A switch as it is written, as a letter or with its long name. -/
def Switch.form : Switch → (short : Bool) → String
  | ignoreCase, true => "-i"
  | ignoreCase, false => "--ignore-case"
  | wordRegexp, true => "-w"
  | wordRegexp, false => "--word-regexp"

/-- The long name of the option that takes a number. -/
def contextName : String := "after-context"

/-- That option as it is written. -/
def contextForm : (short : Bool) → String
  | true => "-A"
  | false => "--after-context"

/-- One thing that a search is given. -/
inductive Item where
  | operand (o : Operand)
  | switch (s : Switch) (short : Bool)
  | context (short : Bool) (n : CountWord)
deriving DecidableEq

namespace Item

/-- The words of an item. Options stand without quotes. -/
def words : Item → List Word
  | operand o => [o.word]
  | switch s short => [⟨s.form short, none⟩]
  | context short n => [⟨contextForm short, none⟩, n.word]

/-- The item as an operand. -/
def operand? : Item → Option Operand
  | operand o => some o
  | _ => none

/-- The name that the item adds to the switches. -/
def switch? : Item → Option String
  | switch s _ => some s.long
  | _ => none

/-- What the item adds to the values of options. -/
def value? : Item → Option (String × String)
  | context _ n => some (contextName, n.word.value)
  | _ => none

/-- How far a reading has come after the item. -/
def take (p : Progress) : Item → Progress
  | operand o => p.withOperand o.word.value
  | switch s _ => p.withSwitch s.long
  | context _ n => p.withValue contextName n.word.value

end Item

/-- The arguments that items come to. -/
def sortedOut (items : List Item) : Args.Given where
  switches := items.filterMap Item.switch?
  values := items.filterMap Item.value?
  operands := (items.filterMap Item.operand?).map (·.word.value)

/-- All that a search is given, in no order but that of the operands. -/
structure Given where
  pattern : Operand
  file : Option Operand
  switches : List (Switch × Bool)
  context : Option (Bool × CountWord)

namespace Given

/-- The operands, the pattern first. -/
def operands (g : Given) : List Operand := g.pattern :: g.file.toList

/-- The items in one order. -/
def items (g : Given) : List Item :=
  g.operands.map .operand ++ (g.switches.map fun s => .switch s.1 s.2)
    ++ g.context.toList.map fun c => .context c.1 c.2

/-- The items are those that are given, with the operands in order. -/
def Arranges (g : Given) (items : List Item) : Prop :=
  items.Perm g.items ∧ items.filterMap Item.operand? = g.operands

/-- The options of the search that is asked for. -/
def options (g : Given) : SearchOptions where
  pattern := some g.pattern.word.value
  wholeWord := g.switches.any fun s => s.1 = .wordRegexp
  ignoreCase := g.switches.any fun s => s.1 = .ignoreCase
  literal := g.pattern.word.quote == some .single
  after := g.context.elim 0 fun c => c.2.count

end Given

/-! ### Sorting out the arguments -/

/-- A word for a switch calls it. -/
theorem exists_calls_switch {p : Progress} (hopen : p.ended = false) (hhelp : p.help = false)
    (s : Switch) (short : Bool) :
    ∃ o, Builtin.grep.spec.Calls p (s.form short) o ∧ o.kind = .switch ∧ o.long = s.long := by
  cases s <;> cases short <;>
    exact ⟨_, ⟨hopen, hhelp, by decide, by decide, by decide, rfl⟩, rfl, rfl⟩

/-- A word for the option that takes a number calls it. -/
theorem exists_calls_context {p : Progress} (hopen : p.ended = false) (hhelp : p.help = false)
    (short : Bool) :
    ∃ o, Builtin.grep.spec.Calls p (contextForm short) o ∧ o.kind = .count ∧
      o.long = contextName := by
  cases short <;> exact ⟨_, ⟨hopen, hhelp, by decide, by decide, by decide, rfl⟩, rfl, rfl⟩

/-- Before one item and after it. The option that takes a number must
not have had one. -/
theorem reads_item {p q : Progress} (hopen : p.ended = false) (hhelp : p.help = false)
    {item : Item} (hvalues : item.value?.isSome → p.given.values = []) {rest : List String}
    (hrest : Builtin.grep.spec.Reads (item.take p) rest q) :
    Builtin.grep.spec.Reads p (item.words.map Word.value ++ rest) q := by
  cases item with
  | operand o =>
      have hpositional : p.Positional o.word.value :=
        Args.positional_of_not_dashed p o.notDashed o.notHelp
      exact .operand hpositional rfl hrest
  | switch s short =>
      obtain ⟨option, hcalls, hkind, hlong⟩ := exists_calls_switch hopen hhelp s short
      refine .switch hcalls hkind ?_
      rw [hlong]
      exact hrest
  | context short n =>
      obtain ⟨option, hcalls, hkind, hlong⟩ := exists_calls_context hopen hhelp short
      have hnone : p.given.values = [] := hvalues rfl
      have htake : option.takeValue p (contextForm short) n.word.value
          = .ok (p.withValue contextName n.word.value) := by
        simp [Args.OptionSpec.takeValue, Args.Given.value?, hnone, hkind, hlong,
          Args.OptionKind.fault?, n.reads]
      have hcount : option.kind ≠ .switch := by
        rw [hkind]
        decide
      exact .value hcalls hcount htake hrest

/-- No item ends the options or asks for help, and each adds what it is
to what was given. -/
theorem foldl_take (items : List Item) (p : Progress) :
    items.foldl Item.take p
      = { p with given := ⟨p.given.switches ++ items.filterMap Item.switch?,
          p.given.values ++ items.filterMap Item.value?,
          p.given.operands ++ (items.filterMap Item.operand?).map (·.word.value)⟩ } := by
  induction items generalizing p with
  | nil => simp
  | cons item items ih =>
      rw [List.foldl_cons, ih]
      cases item <;>
        simp [Item.take, Item.switch?, Item.value?, Item.operand?, Progress.withOperand,
          Progress.withSwitch, Progress.withValue, List.filterMap_cons]

/-- Items are read one after the other, if at most one of them is a
number and none was read before. -/
theorem reads_items {items : List Item} {p : Progress} (hopen : p.ended = false)
    (hhelp : p.help = false)
    (honce : p.given.values.length + (items.filterMap Item.value?).length ≤ 1) :
    Builtin.grep.spec.Reads p ((items.flatMap Item.words).map Word.value)
      (items.foldl Item.take p) := by
  induction items generalizing p with
  | nil => exact .nil p
  | cons item items ih =>
      rw [List.flatMap_cons, List.map_append, List.foldl_cons]
      have hvalues : item.value?.isSome → p.given.values = [] := by
        intro hsome
        obtain ⟨v, hv⟩ := Option.isSome_iff_exists.mp hsome
        rw [List.filterMap_cons_some hv, List.length_cons] at honce
        exact List.length_eq_zero_iff.mp (by omega)
      refine reads_item hopen hhelp hvalues (ih ?_ ?_ ?_)
      · cases item <;> exact hopen
      · cases item <;> exact hhelp
      · -- What the item adds to the values is taken off what is still to come.
        cases item with
        | operand o => exact honce
        | switch s short => exact honce
        | context short n =>
            have hv : (Item.context short n).value? = some (contextName, n.word.value) := rfl
            rw [List.filterMap_cons_some hv, List.length_cons] at honce
            simp only [Item.take, Progress.withValue, List.length_append, List.length_singleton]
            omega

/-! ### Looking for the pattern -/

/-- An item that is no operand is passed over, and a number together with
the option before it. -/
theorem patternWord?_words_append {item : Item} (h : item.operand? = none) (ws : List Word) :
    patternWord? (item.words ++ ws) = patternWord? ws := by
  cases item with
  | operand o => cases h
  | switch s short =>
      have hskip : patternWord? (⟨s.form short, none⟩ :: ws) = _ :=
        Line.patternWord?_cons_of_dashed ws (by cases s <;> cases short <;> decide)
          (by cases s <;> cases short <;> decide)
      exact hskip.trans (by cases s <;> cases short <;> rfl)
  | context short n =>
      have hskip : patternWord? (⟨contextForm short, none⟩ :: n.word :: ws) = _ :=
        Line.patternWord?_cons_of_dashed (n.word :: ws) (by cases short <;> decide)
          (by cases short <;> decide)
      exact hskip.trans (by cases short <;> rfl)

/-- The pattern is the first operand, wherever it stands. -/
theorem patternWord?_items {items : List Item} {o : Operand} {os : List Operand}
    (hoperands : items.filterMap Item.operand? = o :: os) :
    patternWord? (items.flatMap Item.words) = some o.word := by
  induction items with
  | nil => cases hoperands
  | cons item items ih =>
      rw [List.flatMap_cons]
      cases hitem : item.operand? with
      | none =>
          rw [List.filterMap_cons_none hitem] at hoperands
          rw [patternWord?_words_append hitem, ih hoperands]
      | some o' =>
          rw [List.filterMap_cons_some hitem] at hoperands
          obtain rfl : o' = o := (List.cons.inj hoperands).1
          obtain rfl : item = .operand o' := by
            cases item <;> cases hitem
            rfl
          have hdash : (o'.word.value.toList.head? == some '-') = false := o'.notDashed
          have hplain : ¬o'.word.isOption := by simp [Line.Word.isOption, hdash]
          exact Line.patternWord?_cons_of_not_isOption hplain _

/-! ### Arrangements -/

namespace Given

variable {g : Given} {items : List Item}

/-- However the items are arranged, the same switches are given. -/
theorem Arranges.has (h : g.Arranges items) (s : Switch) :
    (sortedOut items).has s.long = g.switches.any fun t => t.1 = s := by
  have hlong : ∀ t : Switch, t.long = s.long ↔ t = s := by
    intro t
    cases t <;> cases s <;> decide
  have hgiven : s.long ∈ g.items.filterMap Item.switch? ↔ ∃ t ∈ g.switches, t.1 = s := by
    simp [Given.items, List.filterMap_append, List.filterMap_map, Function.comp_def, Item.switch?,
      hlong]
  have hmem := (h.1.filterMap Item.switch?).mem_iff.trans hgiven
  rw [Args.Given.has, sortedOut, List.contains_eq_mem, Bool.eq_iff_iff, decide_eq_true_iff, hmem]
  simp

/-- And the same number, if there is one. -/
theorem Arranges.values_eq (h : g.Arranges items) :
    (sortedOut items).values = g.context.toList.map fun c => (contextName, c.2.word.value) := by
  have hperm := h.1.filterMap Item.value?
  have hgiven : g.items.filterMap Item.value?
      = g.context.toList.map fun c => (contextName, c.2.word.value) := by
    simp [Given.items, List.filterMap_append, List.filterMap_map, Function.comp_def, Item.value?]
  rw [hgiven] at hperm
  -- One value at the most has only one order.
  cases hcontext : g.context with
  | none =>
      rw [hcontext] at hperm
      exact List.perm_nil.mp hperm
  | some c =>
      rw [hcontext] at hperm
      exact List.perm_singleton.mp hperm

/-- So the arguments are accepted. -/
theorem Arranges.read (h : g.Arranges items) :
    Builtin.grep.spec.read ((items.flatMap Item.words).map Word.value) = .ok (sortedOut items) := by
  have hlength : (sortedOut items).values.length ≤ 1 := by
    rw [h.values_eq, List.length_map]
    cases g.context <;> simp
  have honce : Progress.start.given.values.length + (items.filterMap Item.value?).length ≤ 1 :=
    (Nat.zero_add _).le.trans hlength
  have hreads := reads_items (p := .start) rfl rfl honce
  rw [foldl_take] at hreads
  exact Args.read_of_reads hreads rfl

/-- And the options of the search are those that are asked for. -/
theorem Arranges.searchOptions (h : g.Arranges items) (input : Option String)
    (env : Environment) (world : World) :
    (Builtin.Call.mk (sortedOut items) (g.pattern.word.quote == some .single) input env
      world).searchOptions (some g.pattern.word.value) = g.options := by
  have hword : (sortedOut items).has "word-regexp" = _ := h.has .wordRegexp
  have hcase : (sortedOut items).has "ignore-case" = _ := h.has .ignoreCase
  have hvalue : (sortedOut items).value? "after-context"
      = g.context.map fun c => c.2.word.value := by
    rw [Args.Given.value?, h.values_eq]
    cases g.context <;> rfl
  simp only [Builtin.Call.searchOptions, Given.options, hword, hcase, hvalue]
  cases g.context with
  | none => rfl
  | some c => simp [c.2.reads, Except.toOption]

/-- The words make one command, which is literal by the quotes of the
pattern and does what was asked for. -/
theorem Arranges.exists_command (h : g.Arranges items) {name : Word}
    (hname : name.value = searchName) (launch : Launcher) :
    ∃ c, command? (name :: items.flatMap Item.words) = some c ∧
      c.literal = (g.pattern.word.quote == some .single) ∧
      ∀ input env world, launch.shell.dispatch c input env world
        = (outcome (search g.options world.read input
            (g.file.map fun o => env.resolve o.word.value)), env, world) := by
  obtain ⟨c, hc⟩ : ∃ c, command? (name :: items.flatMap Item.words) = some c := ⟨_, rfl⟩
  have hpattern : patternWord? (items.flatMap Item.words) = some g.pattern.word :=
    patternWord?_items h.2
  have hmade : c = ⟨searchName, (items.flatMap Item.words).map Word.value,
      g.pattern.word.quote == some .single⟩ := by
    rw [command?, hpattern, hname, Option.some.injEq] at hc
    rw [← hc]
    rfl
  subst hmade
  have hoperands : (sortedOut items).operands
      = g.pattern.word.value :: (g.file.map fun o => o.word.value).toList := by
    rw [sortedOut, h.2, Given.operands]
    cases g.file <;> rfl
  refine ⟨_, hc, rfl, fun input env world => ?_⟩
  rw [dispatch_search rfl h.read hoperands, h.searchOptions, Option.map_map]
  rfl

end Given

/-- In whatever order the items are given, as long as the operands keep
theirs, the search is the same. It looks for the first operand, which is
literal if it stands in single quotes, in the input or else in the file
that the second one names, with the options that are given. -/
theorem dispatch_arranged {g : Given} {items items' : List Item} (h : g.Arranges items)
    (h' : g.Arranges items') {name : Word} (hname : name.value = searchName)
    (launch : Launcher) :
    ∃ c c', command? (name :: items.flatMap Item.words) = some c ∧
      command? (name :: items'.flatMap Item.words) = some c' ∧
      c.literal = c'.literal ∧ (c.literal = true ↔ g.pattern.word.quote = some .single) ∧
      ∀ input env world,
        launch.shell.dispatch c input env world = launch.shell.dispatch c' input env world ∧
        launch.shell.dispatch c input env world
          = (outcome (search g.options world.read input
              (g.file.map fun o => env.resolve o.word.value)), env, world) := by
  obtain ⟨c, hc, hliteral, hdispatch⟩ := h.exists_command hname launch
  obtain ⟨c', hc', hliteral', hdispatch'⟩ := h'.exists_command hname launch
  refine ⟨c, c', hc, hc', hliteral.trans hliteral'.symm, ?_, fun input env world => ?_⟩
  · rw [hliteral]
    exact beq_iff_eq
  · exact ⟨(hdispatch input env world).trans (hdispatch' input env world).symm,
      hdispatch input env world⟩

/-- A number between the operands, and all options in front of them. -/
theorem dispatch_arranged_number_between :
    let c : Command := ⟨"grep", ["a.c", "-A", "2", "f", "-i"], true⟩
    let c' : Command := ⟨"grep", ["-i", "-A", "2", "a.c", "f"], true⟩
    Line.parse (fun _ => none) "grep 'a.c' -A 2 f -i" = [c] ∧
      Line.parse (fun _ => none) "grep -i -A 2 'a.c' f" = [c'] ∧
      ∀ input env world, shell.dispatch c input env world = shell.dispatch c' input env world := by
  intro c c'
  let pattern : Operand := ⟨⟨"a.c", some .single⟩, by decide, by decide⟩
  let file : Operand := ⟨⟨"f", none⟩, by decide, by decide⟩
  let number : CountWord := ⟨⟨"2", none⟩, 2, rfl⟩
  let g : Given := ⟨pattern, some file, [(.ignoreCase, true)], some (true, number)⟩
  have h : g.Arranges [.operand pattern, .context true number, .operand file,
      .switch .ignoreCase true] := ⟨by decide, rfl⟩
  have h' : g.Arranges [.switch .ignoreCase true, .context true number, .operand pattern,
      .operand file] := ⟨by decide, rfl⟩
  have hname : (⟨"grep", none⟩ : Word).value = searchName := rfl
  obtain ⟨_, _, hc, hc', -, -, hdispatch⟩ := dispatch_arranged h h' hname Host.standIn
  refine ⟨by decide +kernel, by decide +kernel, fun input env world => ?_⟩
  cases hc
  cases hc'
  exact (hdispatch input env world).1

end PipeShell.Search
