import PipeShell.Proofs.Search.Literal
import PipeShell.Proofs.Session

/-!
# `PipeShell.Proofs.Assignment`: a value that is set is read back

There are two ways to set a variable, the command `set` and an assignment
that stands by itself. Either way the assignment is put in single quotes,
and the value has to get past the expansion of the line, the scanner and
the readers of arguments or assignments. On the way out the value stands
for a reference inside quotes, is scanned again, and must not end the
quotes around it or fall apart at what it holds.

* `parse_of_expand_eq_render`: a line that is expanded to well-formed
  tokens has the commands of these tokens.
* `parse_assignment`: an assignment in quotes is one word.
* `dispatch_set`, `dispatch_assigns`: both ways to set a variable.
* `expand_quoted_reference`, `parse_quoted_reference`: the way out.
* `runLine_assignment`: all of this together.
-/

set_option autoImplicit false

namespace PipeShell

open Host (World Launcher)

/-! ### Lines without references -/

namespace Line

/-- A text without dollar signs can stand before any other. -/
theorem noReference_append {xs cs : List Char} (hxs : '$' ∉ xs) (hcs : NoReference cs) :
    NoReference (xs ++ cs) := by
  induction xs with
  | nil => exact hcs
  | cons x xs ih =>
      rw [List.mem_cons, not_or] at hxs
      rw [List.cons_append, noReference_cons]
      exact ⟨fun hx => absurd hx.symm hxs.1, ih hxs.2⟩

/-- A line that refers to no variable is expanded to itself. -/
theorem expand_of_noReference (lookup : String → Option String) {line : String}
    (h : NoReference line.toList) : expand lookup line = line := by
  rw [expand, expandFrom_of_noReference lookup h, String.ofList_toList]

/-- A line that is expanded to well-formed tokens has the commands of
these tokens. -/
theorem parse_of_expand_eq_render {lookup : String → Option String} {line : String}
    {ts : List Token} (hline : expand lookup line = render ts) (hts : ∀ t ∈ ts, t.WellFormed) :
    parse lookup line = (stages ts).filterMap command? := by
  have hscan : scan .gap [] (expand lookup line).toList = ts := by
    rw [hline]
    exact tokens_render hts
  rw [parse_eq_commandsOf, commandsOf, hscan]

/-! ### The way in -/

/-- No name has a quote in it, or a dollar sign. -/
theorem notMem_name {name : List Char} (hname : Assignment.isName name = true) {c : Char}
    (hc : isNameChar c = false) : c ∉ name := by
  intro hmem
  rw [isNameChar_of_isName hname c hmem] at hc
  cases hc

/-- The text of an assignment is a name, an equals sign and a value. -/
theorem Assignment.toList_text (a : Assignment) :
    a.text.toList = a.name.toList ++ '=' :: a.value.toList := by
  simp [Assignment.text]

section
variable {a : Assignment} (hname : Assignment.isName a.name.toList = true)
include hname

/-- Quotes around an assignment end where they should. -/
theorem notMem_text {q : Quote} (hvalue : q.char ∉ a.value.toList) : q.char ∉ a.text.toList := by
  have hq : q.char ∉ a.name.toList := notMem_name hname (by cases q <;> decide)
  have hequals : q.char ≠ '=' := by cases q <;> decide
  rw [Assignment.toList_text]
  simp [hq, hequals, hvalue]

/-- An assignment refers to a variable only if its value does. -/
theorem noReference_text (href : NoReference a.value.toList) : NoReference a.text.toList := by
  have hdollar : '$' ∉ a.name.toList := notMem_name hname (by decide)
  rw [Assignment.toList_text]
  refine noReference_append hdollar (noReference_cons.mpr ⟨fun h => ?_, href⟩)
  exact absurd h (by decide)

/-- An assignment in single quotes is one word, whatever its value is made
of, and that word is the last one of its line. -/
theorem parse_assignment (hquote : '\'' ∉ a.value.toList) (href : NoReference a.value.toList)
    (lookup : String → Option String) (before : List Token) (start : List Char)
    (hbefore : ∀ t ∈ before, t.WellFormed)
    {line : String} (hline : line = render (before ++ [.word ⟨a.text, some .single⟩]))
    (hstart : line.toList = start ++ (a.text.toList ++ ['\'']))
    (hdollar : '$' ∉ start) :
    parse lookup line
      = (stages (before ++ [.word ⟨a.text, some .single⟩])).filterMap command? := by
  have hnone : NoReference line.toList := by
    rw [hstart]
    exact noReference_append hdollar ((noReference_text hname href).append_quote .single)
  have hword : ∀ t ∈ before ++ [.word ⟨a.text, some .single⟩], t.WellFormed := by
    intro t ht
    rcases List.mem_append.mp ht with ht | ht
    · exact hbefore t ht
    · rw [List.mem_singleton] at ht
      subst ht
      exact notMem_text hname (q := .single) hquote
  exact parse_of_expand_eq_render ((expand_of_noReference lookup hnone).trans hline) hword

end

end Line

/-! ### The two ways to set a variable -/

section
variable {a : Line.Assignment} (hname : Line.Assignment.isName a.name.toList = true)
include hname

/-- An assignment is an operand of `set`: it has a name in front, so it is
no option, and an equals sign in it, so it does not ask for help. -/
theorem read_set_assignment : Builtin.set.spec.read [a.text] = .ok ⟨[], [], [a.text]⟩ := by
  obtain ⟨c, rest, hcons⟩ :=
    List.exists_cons_of_ne_nil (Line.ne_nil_of_isName hname)
  have htext : a.text.toList = c :: (rest ++ '=' :: a.value.toList) := by
    rw [Line.Assignment.toList_text, hcons, List.cons_append]
  have hdashed : Args.isDashed a.text = false := by
    have hc : c ≠ '-' := by
      rintro rfl
      have := Line.isNameChar_of_isName hname '-' (by rw [hcons]; exact List.mem_cons_self)
      exact absurd this (by decide)
    simp [Args.isDashed, htext, hc]
  have hhelp : a.text ≠ "help" := by
    intro h
    have hequals : '=' ∈ a.text.toList := by
      rw [Line.Assignment.toList_text]
      simp
    rw [h] at hequals
    exact absurd hequals (by decide)
  exact Args.read_singleton rfl hdashed hhelp

/-- The command `set` makes an assignment. -/
theorem dispatch_set (launch : Launcher) (input : Option String) (env : Environment)
    (world : World) :
    launch.shell.dispatch ⟨"set", [a.text], false⟩ input env world
      = (.success "", env.assign a.name a.value, world) := by
  have hassign : Line.Assignment.ofText? a.text = some a :=
    Line.Assignment.ofText?_eq_some.mpr ⟨rfl, hname⟩
  have hact : Builtin.set.act ⟨⟨[], [], [a.text]⟩, false, input, env, world⟩
      = (.ok "", env.assign a.name a.value) := by
    simp [Builtin.set, Builtin.Call.operand?, hassign]
  rw [Builtin.dispatch_of_mem (b := Builtin.set) (by simp [Builtin.all]) rfl]
  exact Builtin.handler_of_act (read_set_assignment hname) hact

/-- A command that consists of an assignment makes it. -/
theorem dispatch_assigns (launch : Launcher) (input : Option String) (env : Environment)
    (world : World) :
    launch.shell.dispatch ⟨a.text, [], false⟩ input env world
      = (.success "", env.assign a.name a.value, world) := by
  have hassigns : Dispatcher.Assigns ⟨a.text, [], false⟩ a := ⟨rfl, rfl, hname⟩
  have hhandler : launch.shell.handler? a.text = none := by
    cases hh : launch.shell.handler? a.text with
    | none => rfl
    | some h =>
        -- No built-in command has an equals sign in its name.
        obtain ⟨b, hb, hbname, -⟩ := exists_builtin_of_handler? hh
        exact absurd hassigns (not_assigns_of_mem hb hbname a)
  rw [Dispatcher.dispatch]
  simp only [hhandler]
  rw [Dispatcher.assignment?_eq_some.mpr hassigns]

end

/-! ### The way out -/

namespace Line

/-- A bare word is not taken for one inside quotes. -/
theorem endsOutside_of_wellFormed {word : String} (h : (Word.mk word none).WellFormed) :
    EndsOutside word :=
  isQuoted_after_source (t := .word ⟨word, none⟩) h

section
variable {lookup : String → Option String} {a : Assignment}
  (hname : Assignment.isName a.name.toList = true) (hset : lookup a.name = some a.value)
include hname hset

/-- A reference inside quotes is replaced by the value, and by nothing
else. -/
theorem expand_quoted_reference (q : Quote) :
    expand lookup (String.ofList (q.char :: '$' :: (a.name.toList ++ [q.char])))
      = String.ofList (q.char :: (a.value.toList ++ [q.char])) := by
  have hopen : segments (q.char :: '$' :: (a.name.toList ++ [q.char]))
      = [.char q.char, .ref a.name.toList, .char q.char] := by
    rw [segments_char (reference?_quote q _), segments_ref hname (endsName_quote q []),
      segments_char (reference?_quote q [])]
    rfl
  rw [expand, String.toList_ofList, hopen]
  simp [expandFrom, hset]

/-- A word and a reference inside quotes are a command and its one
argument, the value. -/
theorem parse_quoted_reference {q : Quote} (hquote : q.char ∉ a.value.toList) {word : String}
    (hword : (Word.mk word none).WellFormed) (hdollar : '$' ∉ word.toList)
    (hsearch : word ≠ searchName) :
    parse lookup (word ++ " " ++ String.ofList (q.char :: '$' :: (a.name.toList ++ [q.char])))
      = [⟨word, [a.value], false⟩] := by
  have hplain : expand lookup word = word := by
    refine expand_of_noReference lookup ?_
    have := noReference_append hdollar noReference_nil
    rwa [List.append_nil] at this
  have hexpand : expand lookup
      (word ++ " " ++ String.ofList (q.char :: '$' :: (a.name.toList ++ [q.char])))
        = render [.word ⟨word, none⟩, .word ⟨a.value, some q⟩] := by
    have hcut := expand_append lookup (d := ' ') (by decide) (endsOutside_of_wellFormed hword)
      (String.ofList (q.char :: '$' :: (a.name.toList ++ [q.char])))
    rw [hplain, expand_quoted_reference hname hset] at hcut
    rw [show (" " : String) = String.ofList [' '] from rfl, hcut]
    apply String.toList_injective
    simp [render, Token.source]
  have hwords : ∀ t ∈ [Token.word ⟨word, none⟩, .word ⟨a.value, some q⟩], t.WellFormed := by
    intro t ht
    rcases List.mem_pair.mp ht with rfl | rfl
    · exact hword
    · exact hquote
  rw [parse_of_expand_eq_render hexpand hwords]
  simp [stages, command?, hsearch]

end

end Line

/-- An assignment in single quotes is made with `set` in front of it and
by itself, in the same way, and nothing else about the session changes.
From then on a reference to the variable inside quotes is one argument,
and that argument is the value. The value may hold blanks, bars, equals
signs, newlines and dollar signs, or be empty; only quotes and references
are kept out of it. -/
theorem runLine_assignment (launch : Launcher) {a : Line.Assignment}
    (hname : Line.Assignment.isName a.name.toList = true) (hsingle : '\'' ∉ a.value.toList)
    (hdouble : '"' ∉ a.value.toList) (href : Line.NoReference a.value.toList)
    (env : Environment) (world : World) :
    ∃ env', env.Sets a env' ∧
      launch.shell.runLine ("set '" ++ a.text ++ "'") env world = (.success "", env', world) ∧
      launch.shell.runLine ("'" ++ a.text ++ "'") env world = (.success "", env', world) ∧
      ∀ word : String, (Line.Word.mk word none).WellFormed → '$' ∉ word.toList →
        word ≠ Line.searchName →
        Line.parse env'.lookup (word ++ " \"$" ++ a.name ++ "\"") = [⟨word, [a.value], false⟩] ∧
        Line.parse env'.lookup (word ++ " '$" ++ a.name ++ "'") = [⟨word, [a.value], false⟩] := by
  have hsets := env.sets_assign a
  have hset : (env.assign a.name a.value).lookup a.name = some a.value := by
    rw [hsets.lookup, if_pos rfl]
  have hcommand : Line.parse env.lookup ("set '" ++ a.text ++ "'")
      = [⟨"set", [a.text], false⟩] := by
    rw [Line.parse_assignment hname hsingle href env.lookup [.word ⟨"set", none⟩]
      ['s', 'e', 't', ' ', '\''] (by decide) ?_ (by simp) (by decide)]
    · rfl
    · apply String.toList_injective
      simp [Line.render, Line.Token.source, Line.Quote.char]
  have halone : Line.parse env.lookup ("'" ++ a.text ++ "'") = [⟨a.text, [], false⟩] := by
    rw [Line.parse_assignment hname hsingle href env.lookup [] ['\''] (by simp)
      ?_ (by simp) (by decide)]
    · simp [Line.stages, Line.command?, Line.patternWord?]
    · apply String.toList_injective
      simp [Line.render, Line.Token.source, Line.Quote.char]
  refine ⟨env.assign a.name a.value, hsets, ?_, ?_, ?_⟩
  · rw [Dispatcher.runLine, hcommand, Dispatcher.run, Dispatcher.runFrom, dispatch_set hname launch]
    rfl
  · rw [Dispatcher.runLine, halone, Dispatcher.run, Dispatcher.runFrom,
      dispatch_assigns hname launch]
    rfl
  · intro word hword hdollar hsearch
    have hread : ∀ q : Line.Quote, q.char ∉ a.value.toList →
        Line.parse (env.assign a.name a.value).lookup
          (word ++ " " ++ String.ofList (q.char :: '$' :: (a.name.toList ++ [q.char])))
            = [⟨word, [a.value], false⟩] :=
      fun q hq => Line.parse_quoted_reference hname hset hq hword hdollar hsearch
    constructor
    · have hline : word ++ " \"$" ++ a.name ++ "\""
          = word ++ " " ++ String.ofList ('"' :: '$' :: (a.name.toList ++ ['"'])) := by
        apply String.toList_injective
        simp
      rw [hline]
      exact hread .double hdouble
    · have hline : word ++ " '$" ++ a.name ++ "'"
          = word ++ " " ++ String.ofList ('\'' :: '$' :: (a.name.toList ++ ['\''])) := by
        apply String.toList_injective
        simp
      rw [hline]
      exact hread .single hsingle

/-- A value with blanks, a bar, an equals sign, a newline and lone dollar
signs, in a session where the variable was set before. -/
theorem runLine_assignment_separators :
    let a : Line.Assignment := ⟨"_1", "a | b=$\n$|"⟩
    let env : Environment := ⟨[("_1", "old"), ("X", "$_1")], "/", false⟩
    let world : World := ⟨.empty, [], [], []⟩
    (Line.Assignment.isName a.name.toList = true ∧ '\'' ∉ a.value.toList ∧
        '"' ∉ a.value.toList ∧ Line.NoReference a.value.toList) ∧
      ∃ env', env.Sets a env' ∧
        shell.runLine ("set '" ++ a.text ++ "'") env world = (.success "", env', world) ∧
        shell.runLine ("'" ++ a.text ++ "'") env world = (.success "", env', world) ∧
        Line.parse env'.lookup ("it's" ++ " \"$" ++ a.name ++ "\"")
          = [⟨"it's", [a.value], false⟩] := by
  intro a env world
  have href : Line.NoReference a.value.toList := by
    simp [a, Line.noReference_cons, Line.noReference_nil, Line.EndsName]
    decide
  refine ⟨⟨by decide, by decide, by decide, href⟩, ?_⟩
  obtain ⟨env', hsets, hset, halone, hback⟩ :=
    runLine_assignment Host.standIn (a := a) (by decide) (by decide) (by decide) href env world
  exact ⟨env', hsets, hset, halone, (hback "it's" (by decide) (by decide) (by decide)).1⟩

end PipeShell
