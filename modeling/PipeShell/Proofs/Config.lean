import PipeShell.Config
import PipeShell.Proofs.Args.Refusal
import Mathlib.Data.List.Nodup

/-!
# `PipeShell.Proofs.Config`: choices written down and read back

The choices of a user are written as options with their values, in any
order, and a choice that is the one of a user who makes none need not be
written at all. Reading gives the choices back. A value is the argument
behind its option and nothing else is asked of it, so it may look like
an option, like the end of the options or like a request for help.

* `reads_choices`: choices for different fields are read one by one.
* `lookup_entry`: what a reading knows of a field is its choice.
* `read_of_repeated`, `read_of_valueless`: a field that is chosen twice is
  refused at its second choice, and so is an option without a value.
* `read_written`: the whole command line.
-/

set_option autoImplicit false

namespace PipeShell.Config

open Args (Progress)

/-- What there is to choose. -/
inductive Field where
  | command
  | prompt
  | history
  | logLevel
deriving Repr, DecidableEq

namespace Field

/-- All there is to choose. -/
def all : List Field := [command, prompt, history, logLevel]

/-- The long name of the option for a field. -/
def long : Field → String
  | command => "command"
  | prompt => "prompt"
  | history => "history"
  | logLevel => "log-level"

/-- The option for a field as it can be written. -/
def forms : Field → List String
  | command => ["-c", "--command"]
  | prompt => ["--prompt"]
  | history => ["--history"]
  | logLevel => ["--log-level"]

/-- What is chosen for a field, if anything is. -/
def value? (c : Config) : Field → Option String
  | command => c.command
  | prompt => some c.prompt
  | history => c.history
  | logLevel => some c.logLevel

theorem long_inj {f g : Field} : f.long = g.long ↔ f = g := by
  cases f <;> cases g <;> decide

end Field

/-- A choice that is written: an option in one of its forms, and its
value. -/
structure Choice where
  field : Field
  form : String
  value : String
  isForm : form ∈ field.forms
deriving DecidableEq

namespace Choice

/-- A choice with its option in the long form. -/
def inLongForm (f : Field) (value : String) : Choice :=
  ⟨f, "--" ++ f.long, value, by cases f <;> decide⟩

/-- The arguments that a choice is written as. -/
def words (x : Choice) : List String := [x.form, x.value]

/-- What a reading keeps of a choice. -/
def entry (x : Choice) : String × String := (x.field.long, x.value)

end Choice

/-- The choices say all of a configuration, each field once. A field that
is left out is as it is by default. -/
structure Writes (c : Config) (choices : List Choice) : Prop where
  once : (choices.map Choice.field).Nodup
  said : ∀ x ∈ choices, x.field.value? c = some x.value
  unsaid : ∀ f ∉ choices.map Choice.field, f.value? c = f.value? default

variable {c : Config} {choices : List Choice} {p : Progress}

/-! ### What is accepted -/

/-- Every form of a field calls an option that takes a text. -/
theorem exists_calls (hopen : p.ended = false) (hhelp : p.help = false) {f : Field}
    {form : String} (hform : form ∈ f.forms) :
    ∃ o, spec.Calls p form o ∧ o.kind = .text ∧ o.long = f.long := by
  cases f <;> simp only [Field.forms, List.mem_cons, List.not_mem_nil, or_false] at hform
  case command =>
    rcases hform with rfl | rfl <;>
      exact ⟨_, ⟨hopen, hhelp, by decide, by decide, by decide, rfl⟩, rfl, rfl⟩
  all_goals
    subst hform
    exact ⟨_, ⟨hopen, hhelp, by decide, by decide, by decide, rfl⟩, rfl, rfl⟩

/-- What a reading knows of a field is the choice for it. -/
theorem lookup_entry (choices : List Choice) (f : Field) :
    (choices.map Choice.entry).lookup f.long
      = (choices.find? fun x => x.field = f).map Choice.value := by
  induction choices with
  | nil => rfl
  | cons x choices ih =>
      by_cases hx : x.field = f
      · simp [Choice.entry, hx]
      · have hlong : f.long ≠ x.field.long := by
          intro h
          exact hx (Field.long_inj.mp h).symm
        rw [List.map_cons, Choice.entry, List.lookup_cons, beq_eq_false_iff_ne.mpr hlong, ih,
          List.find?_cons_of_neg (by simpa using hx)]

/-- The point that a reading comes to with choices. -/
def afterChoices (choices : List Choice) : Progress :=
  ⟨⟨[], choices.map Choice.entry, []⟩, false, false⟩

/-- Whatever the values are, choices for different fields are read one by
one. -/
theorem reads_choices (honce : (choices.map Choice.field).Nodup) :
    spec.Reads .start (choices.flatMap Choice.words) (afterChoices choices) := by
  induction choices using List.reverseRecOn with
  | nil => exact .nil _
  | append_singleton choices x ih =>
      rw [List.map_append, List.map_singleton, List.nodup_append_comm, List.singleton_append,
        List.nodup_cons] at honce
      obtain ⟨o, hcalls, hkind, hlong⟩ := exists_calls (p := afterChoices choices) rfl rfl x.isForm
      -- The field of the last choice is new, so its value is taken whatever it looks like.
      have hfree : (afterChoices choices).given.value? o.long = none := by
        show (choices.map Choice.entry).lookup o.long = none
        rw [hlong, lookup_entry, Option.map_eq_none_iff, List.find?_eq_none]
        intro y hy
        have hne : y.field ≠ x.field := fun h => honce.1 (h ▸ List.mem_map_of_mem hy)
        simpa using hne
      have htake : o.takeValue (afterChoices choices) x.form x.value
          = .ok (afterChoices (choices ++ [x])) := by
        rw [Args.OptionSpec.takeValue, hfree, hkind, hlong]
        simp [Args.OptionKind.fault?, Progress.withValue, afterChoices, Choice.entry]
      have hone : spec.Reads (afterChoices choices) x.words (afterChoices (choices ++ [x])) :=
        .value hcalls (by simp [hkind]) htake (.nil _)
      rw [List.flatMap_append, List.flatMap_singleton]
      exact (ih honce.2).append hone

/-- What is read of a field is what was chosen for it. -/
theorem Writes.or_lookup (h : c.Writes choices) (f : Field) :
    ((choices.map Choice.entry).lookup f.long).or (f.value? default) = f.value? c := by
  rw [lookup_entry]
  cases hfind : choices.find? fun x => x.field = f with
  | none =>
      have hleft : f ∉ choices.map Choice.field := by
        rintro hmem
        obtain ⟨x, hx, rfl⟩ := List.mem_map.mp hmem
        simpa using List.find?_eq_none.mp hfind x hx
      exact (h.unsaid f hleft).symm
  | some x =>
      obtain rfl : x.field = f := by simpa using List.find?_some hfind
      exact (h.said x (List.mem_of_find?_eq_some hfind)).symm

/-- What was chosen is read back. -/
theorem Writes.ofGiven_eq (h : c.Writes choices) :
    ofGiven ⟨[], choices.map Choice.entry, []⟩ = c := by
  have hcommand := h.or_lookup .command
  have hprompt := h.or_lookup .prompt
  have hhistory := h.or_lookup .history
  have hlogLevel := h.or_lookup .logLevel
  simp only [Field.long, Field.value?, default, Option.or_none, Option.or_some,
    Option.some.injEq] at hcommand hprompt hhistory hlogLevel
  simp only [ofGiven, Args.Given.value?, default, hcommand, hprompt, hhistory, hlogLevel]

theorem Writes.read_eq (h : c.Writes choices) :
    Config.read (choices.flatMap Choice.words) = .ok c := by
  rw [Config.read, Args.read_of_reads (reads_choices h.once) rfl]
  exact congrArg Except.ok h.ofGiven_eq

/-! ### What is refused -/

/-- Where a field is chosen more than once, there is a first choice for a
field that was chosen before. -/
theorem exists_repeated (h : ¬(choices.map Choice.field).Nodup) :
    ∃ before x after, choices = before ++ x :: after ∧ (before.map Choice.field).Nodup ∧
      x.field ∈ before.map Choice.field := by
  induction choices using List.reverseRecOn with
  | nil => exact absurd List.nodup_nil h
  | append_singleton choices x ih =>
      -- Either the last choice is the first that repeats one, or there is another before it.
      by_cases hnodup : (choices.map Choice.field).Nodup
      · rw [List.map_append, List.map_singleton, List.nodup_append_comm, List.singleton_append,
          List.nodup_cons] at h
        have hx : x.field ∈ choices.map Choice.field := by
          by_contra hnew
          exact h ⟨hnew, hnodup⟩
        exact ⟨choices, x, [], rfl, hnodup, hx⟩
      · obtain ⟨before, y, after, rfl, hbefore, hy⟩ := ih hnodup
        exact ⟨before, y, after ++ [x], by simp, hbefore, hy⟩

/-- A field that is chosen twice is refused at its second choice,
whatever stands behind that. -/
theorem read_of_repeated (h : ¬(choices.map Choice.field).Nodup) (tail : List String) :
    ∃ x ∈ choices, 2 ≤ (choices.map Choice.field).count x.field ∧
      Config.read (choices.flatMap Choice.words ++ tail)
        = .error (.fault (.badValue x.form x.value "duplicate values provided")) := by
  obtain ⟨before, x, after, rfl, hbefore, hx⟩ := exists_repeated h
  refine ⟨x, by simp, ?_, ?_⟩
  · have hpos := List.count_pos_iff.mpr hx
    rw [List.map_append, List.map_cons, List.count_append, List.count_cons_self]
    omega
  · obtain ⟨o, hcalls, hkind, hlong⟩ := exists_calls (p := afterChoices before) rfl rfl x.isForm
    have hgiven : ((afterChoices before).given.value? o.long).isSome = true := by
      show ((before.map Choice.entry).lookup o.long).isSome = true
      obtain ⟨y, hy, hfield⟩ := List.mem_map.mp hx
      rw [hlong, lookup_entry, Option.isSome_map, List.find?_isSome]
      exact ⟨y, hy, by simpa using hfield⟩
    have hrefused := Args.readFrom_of_repeated hcalls (by simp [hkind]) hgiven x.value
      (after.flatMap Choice.words ++ tail)
    have hargs : (before ++ x :: after).flatMap Choice.words ++ tail
        = before.flatMap Choice.words
          ++ x.form :: x.value :: (after.flatMap Choice.words ++ tail) := by
      simp [Choice.words]
    rw [Config.read, Args.Spec.read, hargs, Args.readFrom_append (reads_choices hbefore), hrefused]
    rfl

/-- An option at the end has no value. -/
theorem read_of_valueless (honce : (choices.map Choice.field).Nodup) {f : Field} {form : String}
    (hform : form ∈ f.forms) :
    Config.read (choices.flatMap Choice.words ++ [form]) = .error (.fault (.noValue form)) := by
  obtain ⟨o, hcalls, hkind, -⟩ := exists_calls (p := afterChoices choices) rfl rfl hform
  have hrefused := Args.readFrom_of_valueless hcalls (by simp [hkind])
  rw [Config.read, Args.Spec.read, Args.readFrom_append (reads_choices honce), hrefused]
  rfl

/-! ### The whole command line -/

/-- Every configuration can be written, field by field. -/
theorem exists_writes (c : Config) : ∃ choices, c.Writes choices := by
  refine ⟨Field.all.filterMap fun f => (f.value? c).map (Choice.inLongForm f), ?_, ?_, ?_⟩
  · rcases c with ⟨_ | line, prompt, _ | file, level⟩ <;>
      simp [Field.all, Field.value?, Choice.inLongForm]
  · intro x hx
    obtain ⟨f, -, hf⟩ := List.mem_filterMap.mp hx
    obtain ⟨v, hv, rfl⟩ := Option.map_eq_some_iff.mp hf
    exact hv
  · intro f hf
    rcases c with ⟨_ | line, prompt, _ | file, level⟩ <;> cases f <;>
      simp [Field.all, Field.value?, Choice.inLongForm, default] at hf ⊢

/-- A configuration is written as options with their values, in any order
and in any of their forms, and only what is not so by default has to be.
Reading gives it back. A field that is chosen once more, wherever that
stands, and an option without a value at the end are refused. -/
theorem read_written :
    (∀ c : Config, ∃ choices, c.Writes choices) ∧
    (∀ (c : Config) (choices : List Choice), c.Writes choices →
      Config.read (choices.flatMap Choice.words) = .ok c) ∧
    (∀ (c : Config) (before after : List Choice), c.Writes (before ++ after) →
      ∀ x : Choice, x.field ∈ (before ++ after).map Choice.field → ∀ tail : List String,
      ∃ y ∈ before ++ x :: after, y.field = x.field ∧
        Config.read ((before ++ x :: after).flatMap Choice.words ++ tail)
          = .error (.fault (.badValue y.form y.value "duplicate values provided"))) ∧
    ∀ (c : Config) (choices : List Choice), c.Writes choices →
      ∀ (f : Field) (form : String), form ∈ f.forms →
      Config.read (choices.flatMap Choice.words ++ [form]) = .error (.fault (.noValue form)) := by
  refine ⟨exists_writes, fun c choices h => h.read_eq, ?_, ?_⟩
  · intro c before after h x hx tail
    have hperm : ((before ++ x :: after).map Choice.field).Perm
        (x.field :: (before ++ after).map Choice.field) := List.perm_middle.map Choice.field
    have hrepeated : ¬((before ++ x :: after).map Choice.field).Nodup := by
      rw [hperm.nodup_iff, List.nodup_cons]
      exact fun hnew => hnew.1 hx
    obtain ⟨y, hy, hcount, hread⟩ := read_of_repeated hrepeated tail
    refine ⟨y, hy, ?_, hread⟩
    -- Without `x` no field is chosen twice.
    by_contra hne
    have honce := List.nodup_iff_count_le_one.mp h.once y.field
    rw [hperm.count_eq, List.count_cons_of_ne (Ne.symm hne)] at hcount
    omega
  · intro c choices h f form hform
    exact read_of_valueless h.once hform

/-- Values that look like a request for help, like an option and like
nothing at all, with the prompt left out. A second line to run is refused
in front of the first, which then is the second one, and so is an option
at the end that was not written yet. -/
theorem read_written_lookalikes :
    let c : Config := ⟨some "--help", "> ", some "--prompt", ""⟩
    let before : List Choice := [⟨.logLevel, "--log-level", "", by decide⟩]
    let after : List Choice := [⟨.history, "--history", "--prompt", by decide⟩,
      ⟨.command, "--command", "--help", by decide⟩]
    let again : Choice := ⟨.command, "-c", "--", by decide⟩
    (c.Writes (before ++ after) ∧ again.field ∈ (before ++ after).map Choice.field) ∧
      Config.read ["--log-level", "", "--history", "--prompt", "--command", "--help"] = .ok c ∧
      (∃ y ∈ before ++ again :: after, y.field = .command ∧
        Config.read ["--log-level", "", "-c", "--", "--history", "--prompt", "--command", "--help",
            "help"]
          = .error (.fault (.badValue y.form y.value "duplicate values provided"))) ∧
      Config.read ["--log-level", "", "--history", "--prompt", "--command", "--help", "--prompt"]
        = .error (.fault (.noValue "--prompt")) := by
  intro c before after again
  have hwrites : c.Writes (before ++ after) := by
    refine ⟨by decide, by decide, ?_⟩
    rintro (_ | _ | _ | _) hleft
    · exact absurd (by decide) hleft
    · rfl
    · exact absurd (by decide) hleft
    · exact absurd (by decide) hleft
  have hagain : again.field ∈ (before ++ after).map Choice.field := by decide
  obtain ⟨-, hread, hrepeated, hvalueless⟩ := read_written
  exact ⟨⟨hwrites, hagain⟩, hread c _ hwrites,
    hrepeated c before after hwrites again hagain ["help"],
    hvalueless c _ hwrites .prompt "--prompt" (by decide)⟩

end PipeShell.Config
