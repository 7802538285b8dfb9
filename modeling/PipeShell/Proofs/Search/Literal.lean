import PipeShell.Program
import PipeShell.Proofs.Args.Operand
import PipeShell.Proofs.Line.Rendering
import PipeShell.Proofs.Pipeline
import PipeShell.Proofs.Search.Dispatch
import PipeShell.Proofs.Search.Holding
import Mathlib.Data.List.Infix

/-!
# `PipeShell.Proofs.Search.Literal`: a text in single quotes is searched for as it is

A text that is put in single quotes behind `grep` is handed from one
reader to the next: references are replaced in it, the line is cut into
words and commands, the arguments are sorted out, and what is left of it
is read as a pattern. None of them may take a character of it for
anything but itself. Each section follows the text through one reader.

* `expandFrom_of_noReference`: nothing is replaced in it.
* `parse_append_literal`: it is the one argument of one more command,
  and that command is a literal search.
* `search_literal`: the lines found are those that hold it.
* `runLine_literal`: so a line that has such a search at its end keeps
  the lines of the output before that hold the text.
-/

set_option autoImplicit false

namespace PipeShell

/-! ### References -/

namespace Line

/-- The text refers to no variable: nowhere in it does a dollar sign
stand right before a character of a name. -/
def NoReference (cs : List Char) : Prop := ∀ c, isNameChar c = true → ¬['$', c] <:+: cs

theorem noReference_nil : NoReference [] := by
  intro c _ h
  exact absurd (List.eq_nil_of_infix_nil h) (List.cons_ne_nil _ _)

theorem noReference_cons {d : Char} {cs : List Char} :
    NoReference (d :: cs) ↔ (d = '$' → EndsName cs) ∧ NoReference cs := by
  constructor
  · intro h
    constructor
    · rintro rfl c hc
      obtain ⟨rest, rfl⟩ := List.head?_eq_some_iff.mp hc
      by_contra hname
      exact h c (by simpa using hname) ⟨[], rest, rfl⟩
    · intro c hname hc
      exact h c hname (List.infix_cons hc)
  · rintro ⟨hd, hcs⟩ c hname hc
    -- A dollar sign with a name after it is right at the start, or it is in the rest.
    rcases List.infix_cons_iff.mp hc with ⟨rest, hrest⟩ | hrest
    · cases hrest
      rw [hd rfl c rfl] at hname
      cases hname
    · exact hcs c hname hrest

/-- Nor does it refer to one with a closing quote after it. -/
theorem NoReference.append_quote {cs : List Char} (h : NoReference cs) (q : Quote) :
    NoReference (cs ++ [q.char]) := by
  induction cs with
  | nil => exact noReference_cons.mpr ⟨fun _ => by simp [EndsName], noReference_nil⟩
  | cons c cs ih =>
      obtain ⟨hc, hcs⟩ := noReference_cons.mp h
      refine noReference_cons.mpr ⟨fun heq => ?_, ih hcs⟩
      cases cs with
      | nil => exact endsName_quote q []
      | cons d cs => exact hc heq

/-- A text that refers to no variable is expanded to itself. -/
theorem expandFrom_of_noReference (lookup : String → Option String) {cs : List Char}
    (h : NoReference cs) (before : Option Char) (m : Mode) :
    expandFrom lookup before m (segments cs) = cs := by
  induction cs generalizing before m with
  | nil => rfl
  | cons c cs ih =>
      obtain ⟨hc, hcs⟩ := noReference_cons.mp h
      have href : reference? (c :: cs) = none := reference?_cons_eq_none.mpr hc
      rw [segments_char href, expandFrom, ih hcs]

/-! ### Words and commands -/

/-- The command that searches for a text as it is. -/
def literalSearch (text : String) : Command := ⟨searchName, [text], true⟩

section
variable {text : String} (hquote : '\'' ∉ text.toList)
include hquote

/-- The words of a search for a text in single quotes. -/
theorem scan_literal :
    scan .gap [] ("grep '" ++ text ++ "'").toList
      = [.word ⟨searchName, none⟩, .word ⟨text, some .single⟩] := by
  have hwellFormed : ∀ t ∈ [Token.word ⟨searchName, none⟩, .word ⟨text, some .single⟩],
      t.WellFormed := by
    intro t ht
    rcases List.mem_pair.mp ht with rfl | rfl
    · decide
    · exact hquote
  have hline : "grep '" ++ text ++ "'"
      = render [.word ⟨searchName, none⟩, .word ⟨text, some .single⟩] := by
    apply String.toList_injective
    simp [render, Token.source, searchName, Quote.char]
  rw [hline]
  exact tokens_render hwellFormed

/-- A search for a text in single quotes adds one command to a line that
does not end inside quotes. -/
theorem parse_append_literal (lookup : String → Option String) {line : String}
    (hraw : EndsOutside line) (hexpanded : EndsOutside (expand lookup line))
    (href : NoReference text.toList) :
    parse lookup (line ++ " | grep '" ++ text ++ "'")
      = parse lookup line ++ [literalSearch text] := by
  -- The line is cut at the blank: what follows it has no references.
  have hcut : line ++ " | grep '" ++ text ++ "'"
      = line ++ String.ofList [' '] ++ ("| grep '" ++ text ++ "'") := by
    apply String.toList_injective
    simp
  have hrest : expand lookup ("| grep '" ++ text ++ "'") = "| grep '" ++ text ++ "'" := by
    have hclosed : NoReference (text.toList ++ ['\'']) := href.append_quote .single
    have hnone : NoReference ("| grep '" ++ text ++ "'").toList := by
      simpa [noReference_cons] using hclosed
    rw [expand, expandFrom_of_noReference lookup hnone, String.ofList_toList]
  have hchars : (expand lookup line ++ String.ofList [' '] ++ ("| grep '" ++ text ++ "'")).toList
      = (expand lookup line).toList ++ ' ' :: '|' :: ' ' :: ("grep '" ++ text ++ "'").toList := by
    simp
  have htokens : ∀ cs, scan .gap [] (' ' :: '|' :: ' ' :: cs) = .pipe :: scan .gap [] cs :=
    fun _ => rfl
  rw [parse_eq_commandsOf, hcut, expand_append lookup (by decide) hraw, hrest, hchars, commandsOf,
    scan_append hexpanded (by rfl), htokens, stages_append, List.filterMap_append,
    scan_literal hquote, parse_eq_commandsOf]
  rfl

end

end Line

/-! ### Lines -/

namespace Search

/-- The lines of a text that hold another text. -/
def linesWith (text : List Char) (content : String) : List (List Char) :=
  (splitLines content.toList).filter fun l => text <:+: l

/-- A literal search gives the lines that hold the text. -/
theorem search_literal {o : SearchOptions} {text : String} (hpattern : o.pattern = some text)
    (hliteral : o.literal = true) (hcase : o.ignoreCase = false) (hafter : o.after = 0)
    (hsize : Pattern.compile (Pattern.escape text.toList) false ≠ .error .tooLarge)
    (read : String → Except Host.Cause (List UInt8)) (content : String) (file : Option String) :
    search o read (some content) file
      = .ok (String.ofList (unlines (linesWith text.toList content))) := by
  obtain ⟨m, hm, hholds⟩ := @matcher_literal o text.toList hliteral (hcase.symm ▸ hsize)
  have hfilter : (splitLines content.toList).filter m.accepts = linesWith text.toList content := by
    refine List.filter_congr fun l _ => ?_
    rw [Bool.eq_iff_iff, decide_eq_true_iff, hholds, hcase]
    exact holds_false
  rw [search, hpattern]
  simp only [source, hm, filter, hafter, select_zero, hfilter]

end Search

/-! ### The whole way -/

/-- A search for a text keeps the lines of its input that hold the
text, and touches nothing. -/
theorem dispatch_literalSearch {launch : Host.Launcher} {text : String}
    (hdash : Args.isDashed text = false) (hhelp : text ≠ "help")
    (hsize : Pattern.compile (Pattern.escape text.toList) false ≠ .error .tooLarge)
    (content : String) (env : Environment) (world : Host.World) :
    launch.shell.dispatch (Line.literalSearch text) (some content) env world
      = (.success (String.ofList (Search.unlines (Search.linesWith text.toList content))), env,
          world) := by
  have hread : Builtin.grep.spec.read (Line.literalSearch text).args = .ok ⟨[], [], [text]⟩ :=
    Args.read_singleton rfl hdash hhelp
  have hoperands : (⟨[], [], [text]⟩ : Args.Given).operands
      = text :: (none : Option String).toList := rfl
  rw [Search.dispatch_search rfl hread hoperands, Option.map_none,
    Search.search_literal rfl rfl rfl rfl hsize]
  rfl

/-- Behind any line that succeeds, a search for a text in single quotes
keeps those lines of its output that hold the text. It does not matter
what the text is made of, as long as it has no single quote in it,
refers to no variable, and is neither an option nor a word for help.
What the line does to the session and the world stays, whatever programs
it starts. -/
theorem runLine_literal {launch : Host.Launcher} {line text output : String}
    {env env' : Environment} {world world' : Host.World} (hraw : Line.EndsOutside line)
    (hexpanded : Line.EndsOutside (Line.expand env.lookup line))
    (hcommands : Line.parse env.lookup line ≠ [])
    (hline : launch.shell.runLine line env world = (.success output, env', world'))
    (hquote : '\'' ∉ text.toList) (href : Line.NoReference text.toList)
    (hdash : Args.isDashed text = false) (hhelp : text ≠ "help")
    (hsize : Pattern.compile (Pattern.escape text.toList) false ≠ .error .tooLarge) :
    launch.shell.runLine (line ++ " | grep '" ++ text ++ "'") env world
      = (.success (String.ofList (Search.unlines (Search.linesWith text.toList output))), env',
          world') := by
  have hparse := Line.parse_append_literal hquote env.lookup hraw hexpanded href
  rw [Dispatcher.runLine, Dispatcher.run] at hline ⊢
  -- The search comes last, so its input is the output of the whole line before it.
  rw [hparse, Dispatcher.runFrom_append launch.shell _ _ none env world hcommands, hline]
  simp only [Dispatcher.runFrom, dispatch_literalSearch hdash hhelp hsize, Option.getD_some]

/-- Operators of patterns, a blank, a bar, a double quote and a lone
dollar sign in the text. -/
theorem runLine_literal_operators :
    let env : Environment := ⟨[("X", "a (b|\"c).* $]\n(b|\"c)... $]\nb|\"c).* $\n")], "/", false⟩
    let world : Host.World := ⟨.empty, [], [], []⟩
    let text := "b|\"c).* $"
    (Line.EndsOutside "echo '$X'" ∧ Line.EndsOutside (Line.expand env.lookup "echo '$X'") ∧
      Line.parse env.lookup "echo '$X'" ≠ [] ∧ Line.NoReference text.toList) ∧
      shell.runLine ("echo '$X'" ++ " | grep '" ++ text ++ "'") env world
        = (.success "a (b|\"c).* $]\nb|\"c).* $\n", env, world) := by
  intro env world text
  have hraw : Line.EndsOutside "echo '$X'" := by decide
  have hexpanded : Line.EndsOutside (Line.expand env.lookup "echo '$X'") := by decide +kernel
  have hcommands : Line.parse env.lookup "echo '$X'" ≠ [] := by decide +kernel
  have href : Line.NoReference text.toList := by
    simp [text, Line.noReference_cons, Line.noReference_nil, Line.EndsName]
  have hline : shell.runLine "echo '$X'" env world
      = (.success "a (b|\"c).* $]\n(b|\"c)... $]\nb|\"c).* $\n\n", env, world) := by
    decide +kernel
  have hsize : Pattern.compile (Pattern.escape text.toList) false ≠ .error .tooLarge := by
    rw [Pattern.compile_escape, if_neg (by decide +kernel)]
    rintro ⟨⟩
  have hkept : String.ofList (Search.unlines (Search.linesWith text.toList
      "a (b|\"c).* $]\n(b|\"c)... $]\nb|\"c).* $\n\n")) = "a (b|\"c).* $]\nb|\"c).* $\n" := by
    decide +kernel
  refine ⟨⟨hraw, hexpanded, hcommands, href⟩, ?_⟩
  rw [← hkept]
  exact runLine_literal hraw hexpanded hcommands hline (by decide) href (by decide) (by decide)
    hsize

end PipeShell
