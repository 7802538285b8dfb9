import PipeShell.Proofs.Pattern.Reach
import PipeShell.Proofs.Search.Holding
import PipeShell.Proofs.Search.Wrapping

/-!
# `PipeShell.Proofs.Search.WholeWord`: a search for whole words finds less

The pattern of a search for whole words is the pattern as a group
between two word boundaries, as long as the group is read as one
(`PipeShell.Proofs.Search.Wrapping`). Then a line that matches it has a
stretch that matches the pattern alone.

* `compile_wholeWords_cases`: what the two patterns compile to.
* `search_wholeWord_narrows`: what the two searches give.
-/

set_option autoImplicit false

namespace PipeShell.Search

open Pattern

/-! ### The meaning of the group -/

/-- A match between two word boundaries. -/
def bound (m : Modes) (r : Regex) : Regex :=
  .seq (.look (m.look .boundary)) (.seq (.group false r) (.seq (.look (m.look .boundary)) .empty))

theorem IsWrapped.toOption_regex {n w : Node} (h : IsWrapped n w) (m : Modes) :
    (w.regex m).toOption = (n.regex m).toOption.map fun p => (bound m p.1, m) := by
  obtain ⟨_, _, _, _, n', hn, rfl⟩ := h
  have hregex : (n'.regex (m.apply [])).toOption = (n.regex m).toOption :=
    (Node.toOption_regex_congr hn m).symm
  rw [← hregex]
  cases hn' : n'.regex (m.apply []) with
  | error e => simp [Node.regex, Node.sequence, hn', bind, Except.bind, Except.toOption]
  | ok p => simp [Node.regex, Node.sequence, hn', bind, Except.bind, Except.toOption, bound]

/-- The matcher of a meaning, if it is not too large. -/
def sized (r : Regex) : Except Refusal Matcher :=
  if r.isTooLarge then .error .tooLarge else .ok ⟨r⟩

section
variable {pattern : List Char} (ignoreCase : Bool)

theorem compile_of_error {e : Fault} (h : read pattern = .error e) :
    compile pattern ignoreCase = .error (.malformed pattern e) := by
  rw [compile, meaning, h]
  rfl

theorem meaning_of_ok {n : Node} (h : read pattern = .ok n) :
    meaning pattern ignoreCase = (n.regex (.initial ignoreCase)).map Prod.fst := by
  rw [meaning, h]
  show (n.regex _ >>= fun p => pure p.1) = _
  cases n.regex (.initial ignoreCase) <;> rfl

theorem compile_of_regex_error {n : Node} {e : Fault} (h : read pattern = .ok n)
    (hn : n.regex (.initial ignoreCase) = .error e) :
    compile pattern ignoreCase = .error (.malformed pattern e) := by
  rw [compile, meaning_of_ok ignoreCase h, hn]
  rfl

theorem compile_of_regex {n : Node} {r : Regex} {m : Modes} (h : read pattern = .ok n)
    (hn : n.regex (.initial ignoreCase) = .ok (r, m)) : compile pattern ignoreCase = sized r := by
  rw [compile, meaning_of_ok ignoreCase h, hn]
  rfl

section
variable {n w : Node} (hw : IsWrapped n w) (hread : read (wholeWords pattern) = .ok w)
include hw hread

/-- Where the group is read as one and is not too deep, it has a meaning
just when the pattern has one. -/
theorem compile_of_isWrapped_error {e : Fault} (hn : n.regex (.initial ignoreCase) = .error e) :
    ∃ f, compile (wholeWords pattern) ignoreCase = .error (.malformed (wholeWords pattern) f) := by
  have hregex := hw.toOption_regex (.initial ignoreCase)
  cases hwr : w.regex (.initial ignoreCase) with
  | error f => exact ⟨f, compile_of_regex_error ignoreCase hread hwr⟩
  | ok q => simp [hn, hwr, Except.toOption] at hregex

theorem compile_of_isWrapped {r : Regex} {m : Modes}
    (hn : n.regex (.initial ignoreCase) = .ok (r, m)) :
    compile (wholeWords pattern) ignoreCase = sized (bound (.initial ignoreCase) r) := by
  have hregex := hw.toOption_regex (.initial ignoreCase)
  cases hwr : w.regex (.initial ignoreCase) with
  | error f => simp [hn, hwr, Except.toOption] at hregex
  | ok q =>
      have hq : q = (bound (.initial ignoreCase) r, .initial ignoreCase) := by
        simpa [hn, hwr, Except.toOption] using hregex
      rw [hq] at hwr
      exact compile_of_regex ignoreCase hread hwr

end

end

/-- There is no room for the group and the row around the pattern. -/
def FillsNesting (pattern : List Char) : Prop :=
  ∃ n, read pattern = .ok n ∧ nestLimit < n.depth + 2

/-- A pattern is refused for a closing parenthesis that nothing opened, or
both patterns are refused for what is written in them, or the pattern
has a meaning. Then the other one is refused, as the group is not read
as one or is nested too deep, or it means the same between two word
boundaries. -/
theorem compile_wholeWords_cases (pattern : List Char) (ignoreCase : Bool) :
    (∃ f, compile pattern ignoreCase = .error (.malformed pattern f) ∧
        f.trouble = .groupUnopened) ∨
      (∃ f f', compile pattern ignoreCase = .error (.malformed pattern f) ∧
        compile (wholeWords pattern) ignoreCase = .error (.malformed (wholeWords pattern) f')) ∨
      ∃ r, compile pattern ignoreCase = sized r ∧
        ((HidesClosing pattern ∨ FillsNesting pattern) ∧
            (∃ f', compile (wholeWords pattern) ignoreCase
              = .error (.malformed (wholeWords pattern) f')) ∨
          ¬(HidesClosing pattern ∨ FillsNesting pattern) ∧
            compile (wholeWords pattern) ignoreCase = sized (bound (.initial ignoreCase) r)) := by
  rcases read_wholeWords_cases pattern with ⟨e, he, htrouble⟩ | ⟨e, e', he, he'⟩ | ⟨n, hn, hgroup⟩
  · exact .inl ⟨e, compile_of_error ignoreCase he, htrouble⟩
  · exact .inr (.inl ⟨e, e', compile_of_error ignoreCase he, compile_of_error ignoreCase he'⟩)
  · -- What can be read may still have no meaning, and then it has none in the group either.
    have hfills : FillsNesting pattern ↔ nestLimit < n.depth + 2 := by
      refine ⟨?_, fun hdeep => ⟨n, hn, hdeep⟩⟩
      rintro ⟨n', hn', hdeep⟩
      rw [hn] at hn'
      cases hn'
      exact hdeep
    have hwhole : (HidesClosing pattern ∨ FillsNesting pattern) ∧
          (∃ e, read (wholeWords pattern) = .error e) ∨
        ¬(HidesClosing pattern ∨ FillsNesting pattern) ∧
          ∃ w, IsWrapped n w ∧ read (wholeWords pattern) = .ok w := by
      rcases hgroup with ⟨hhides, he⟩ | ⟨hhides, w, hw, hread⟩
      · exact .inl ⟨.inl hhides, he⟩
      · rcases Nat.lt_or_ge nestLimit w.depth with hdeep | hdepth
        · obtain ⟨span, hspan⟩ := withinLimit_of_lt hdeep
          exact .inl ⟨.inr (hfills.mpr (hw.depth_eq ▸ hdeep)), _, hread.trans hspan⟩
        · refine .inr ⟨?_, w, hw, hread.trans (withinLimit_of_le hdepth)⟩
          rintro (hno | hdeep)
          · exact hhides hno
          · exact absurd (hfills.mp hdeep) (Nat.not_lt_of_le (hw.depth_eq ▸ hdepth))
    rcases hwhole with ⟨hlost, e, he⟩ | ⟨hkept, w, hw, hread⟩
    · have hmalformed := compile_of_error ignoreCase he
      cases hr : n.regex (.initial ignoreCase) with
      | error f => exact .inr (.inl ⟨f, e, compile_of_regex_error ignoreCase hn hr, hmalformed⟩)
      | ok p =>
          obtain ⟨r, m⟩ := p
          exact .inr (.inr ⟨r, compile_of_regex ignoreCase hn hr, .inl ⟨hlost, e, hmalformed⟩⟩)
    · cases hr : n.regex (.initial ignoreCase) with
      | error f =>
          obtain ⟨f', hf'⟩ := compile_of_isWrapped_error ignoreCase hw hread hr
          exact .inr (.inl ⟨f, f', compile_of_regex_error ignoreCase hn hr, hf'⟩)
      | ok p =>
          obtain ⟨r, m⟩ := p
          exact .inr (.inr ⟨r, compile_of_regex ignoreCase hn hr,
            .inr ⟨hkept, compile_of_isWrapped ignoreCase hw hread hr⟩⟩)

/-! ### The two searches -/

/-- The search is refused for what is written in its pattern. -/
def Malformed (f : Fault) (r : Except Failure String) : Prop :=
  ∃ pattern, r = .error (.invalidPattern (.malformed pattern f))

/-- The search is refused for the size of its matcher, or it gives the
lines of the text that are kept. -/
def GivesIfFits (content : String) (keep : List Char → Bool) (r : Except Failure String) : Prop :=
  r = .error (.invalidPattern .tooLarge) ∨
    r = .ok (String.ofList (unlines ((splitLines content.toList).filter keep)))

section
variable {o : SearchOptions} {pattern content : String}
  {read : String → Except Host.Cause (List UInt8)} {input file : Option String}
  (hpattern : o.pattern = some pattern) (hsource : source read input file = .ok content)
include hpattern hsource

theorem malformed_of_matcher {p : List Char} {f : Fault}
    (h : matcher o pattern.toList = .error (.malformed p f)) :
    Malformed f (search o read input file) := by
  rw [search, hpattern, hsource]
  simp only [h]
  exact ⟨p, rfl⟩

theorem givesIfFits_of_matcher {r : Regex} (hafter : o.after = 0)
    (h : matcher o pattern.toList = sized r) :
    GivesIfFits content r.matchesLine (search o read input file) := by
  rw [search, hpattern, hsource, hafter]
  rw [sized] at h
  split at h
  · simp only [h]
    exact .inl rfl
  · simp only [h, filter, select_zero]
    exact .inr rfl

end

theorem GivesIfFits.not_malformed {content : String} {keep : List Char → Bool}
    {r : Except Failure String} (h : GivesIfFits content keep r) (f : Fault) : ¬Malformed f r := by
  rintro ⟨p, hp⟩
  rcases h with h | h <;> rw [h] at hp <;> cases hp

theorem matcher_plain {o : SearchOptions} (hliteral : o.literal = false) (p : List Char) :
    matcher { o with wholeWord := false } p = compile p o.ignoreCase := by
  simp [matcher, effectivePattern, hliteral]

theorem matcher_wholeWord {o : SearchOptions} (hliteral : o.literal = false) (p : List Char) :
    matcher { o with wholeWord := true } p = compile (wholeWords p) o.ignoreCase := by
  simp [matcher, effectivePattern, hliteral]

/-- Unless a closing parenthesis that nothing opened ends the group, a
search for whole words is refused for what is written in its pattern just
when the other one is, or the pattern ends with a comment that takes in
what ends the group, or it is nested too deep for one more group. And
where neither is refused, the lines that are given for whole words are
among those that are given otherwise. -/
theorem search_wholeWord_narrows {o : SearchOptions} {pattern content : String}
    {read : String → Except Host.Cause (List UInt8)} {input file : Option String}
    (hpattern : o.pattern = some pattern) (hliteral : o.literal = false) (hafter : o.after = 0)
    (hsource : source read input file = .ok content) :
    let plain := search { o with wholeWord := false } read input file
    let whole := search { o with wholeWord := true } read input file
    ((∀ f, Malformed f plain → f.trouble ≠ .groupUnopened) →
      ((∃ f, Malformed f whole) ↔
        (∃ f, Malformed f plain) ∨ HidesClosing pattern.toList ∨ FillsNesting pattern.toList)) ∧
      ((¬∃ f, Malformed f plain) → (¬∃ f, Malformed f whole) →
        ∃ keep keep', GivesIfFits content keep plain ∧ GivesIfFits content keep' whole ∧
          (∀ line, keep' line = true → keep line = true) ∧
          ((splitLines content.toList).filter keep').Sublist
            ((splitLines content.toList).filter keep)) := by
  intro plain whole
  rcases compile_wholeWords_cases pattern.toList o.ignoreCase with
    ⟨f, hf, htrouble⟩ | ⟨f, f', hf, hf'⟩ | ⟨r, hr, hwhole⟩
  · have hplain : Malformed f plain :=
      malformed_of_matcher (o := { o with wholeWord := false }) hpattern hsource
        ((matcher_plain hliteral _).trans hf)
    exact ⟨fun hopened => absurd htrouble (hopened f hplain),
      fun hno _ => absurd ⟨f, hplain⟩ hno⟩
  · have hplain : Malformed f plain :=
      malformed_of_matcher (o := { o with wholeWord := false }) hpattern hsource
        ((matcher_plain hliteral _).trans hf)
    have hwhole : Malformed f' whole :=
      malformed_of_matcher (o := { o with wholeWord := true }) hpattern hsource
        ((matcher_wholeWord hliteral _).trans hf')
    exact ⟨fun _ => ⟨fun _ => .inl ⟨f, hplain⟩, fun _ => ⟨f', hwhole⟩⟩,
      fun hno _ => absurd ⟨f, hplain⟩ hno⟩
  · have hplain : GivesIfFits content r.matchesLine plain :=
      givesIfFits_of_matcher (o := { o with wholeWord := false }) hpattern hsource hafter
        ((matcher_plain hliteral _).trans hr)
    rcases hwhole with ⟨hlost, f', hf'⟩ | ⟨hkept, hbound⟩
    · have hwhole : Malformed f' whole :=
        malformed_of_matcher (o := { o with wholeWord := true }) hpattern hsource
        ((matcher_wholeWord hliteral _).trans hf')
      exact ⟨fun _ => ⟨fun _ => .inr hlost, fun _ => ⟨f', hwhole⟩⟩,
        fun _ hno => absurd ⟨f', hwhole⟩ hno⟩
    · have hwhole : GivesIfFits content (bound (.initial o.ignoreCase) r).matchesLine whole :=
        givesIfFits_of_matcher (o := { o with wholeWord := true }) hpattern hsource hafter
          ((matcher_wholeWord hliteral _).trans hbound)
      have hmatches : ∀ line, (bound (.initial o.ignoreCase) r).matchesLine line = true →
          r.matchesLine line = true := fun line => Regex.matchesLine_of_bound
      refine ⟨fun _ => ⟨?_, ?_⟩, fun _ _ => ⟨_, _, hplain, hwhole, hmatches,
        List.monotone_filter_right _ hmatches⟩⟩
      · rintro ⟨f, hf⟩
        exact absurd hf (hwhole.not_malformed f)
      · rintro (⟨f, hf⟩ | hlost)
        · exact absurd hf (hplain.not_malformed f)
        · exact absurd hlost hkept

/-- Two alternatives in one group, which neither ends with a comment nor
is nested deep. -/
theorem search_wholeWord_narrows_alternation :
    let o : SearchOptions := ⟨some "cat|dog", true, false, false, 0⟩
    let read : String → Except Host.Cause (List UInt8) := fun _ => .ok []
    (o.pattern = some "cat|dog" ∧ o.literal = false ∧ o.after = 0 ∧
      source read (some "hotdog\nbig dog\n") none = .ok "hotdog\nbig dog\n") ∧
      ∃ keep keep', (∀ line, keep' line = true → keep line = true) ∧
        GivesIfFits "hotdog\nbig dog\n" keep
          (search { o with wholeWord := false } read (some "hotdog\nbig dog\n") none) ∧
        GivesIfFits "hotdog\nbig dog\n" keep'
          (search { o with wholeWord := true } read (some "hotdog\nbig dog\n") none) := by
  intro o read
  refine ⟨⟨rfl, rfl, rfl, rfl⟩, ?_⟩
  obtain ⟨hrefused, hlines⟩ := @search_wholeWord_narrows o "cat|dog" "hotdog\nbig dog\n" read
    (some "hotdog\nbig dog\n") none rfl rfl rfl rfl
  have hplain : ∀ f, ¬Malformed f
      (search { o with wholeWord := false } read (some "hotdog\nbig dog\n") none) := by
    rintro f ⟨p, hp⟩
    have hgives : search { o with wholeWord := false } read (some "hotdog\nbig dog\n") none
        = .ok "hotdog\nbig dog\n" := by cbv
    rw [hgives] at hp
    cases hp
  have hread : (Pattern.read ("cat|dog".toList ++ closing)).toOption.map Node.depth = none := by
    cbv
  have hdepth : (Pattern.read "cat|dog".toList).toOption.map Node.depth = some 2 := by cbv
  have hwhole : ¬∃ f, Malformed f
      (search { o with wholeWord := true } read (some "hotdog\nbig dog\n") none) := by
    rw [hrefused fun f hf => absurd hf (hplain f)]
    rintro (⟨f, hf⟩ | ⟨n, hn⟩ | ⟨n, hn, hdeep⟩)
    · exact hplain f hf
    · rw [hn] at hread
      cases hread
    · rw [hn] at hdepth
      obtain hdepth : n.depth = 2 := Option.some.inj hdepth
      simp [hdepth, nestLimit] at hdeep
  obtain ⟨keep, keep', hkeep, hkeep', hnarrows, -⟩ := hlines (not_exists.mpr hplain) hwhole
  exact ⟨keep, keep', hnarrows, hkeep, hkeep'⟩

/-- The parentheses of `)(` are refused, but with the group around it the
first one ends the group, and the second one opens another. The comment
at the end of `(?x)a # c` takes in what ends the group. -/
theorem search_wholeWord_not_iff :
    let o : SearchOptions := ⟨some ")(", false, false, false, 0⟩
    let o' : SearchOptions := ⟨some "(?x)a # c", false, false, false, 0⟩
    let read : String → Except Host.Cause (List UInt8) := fun _ => .ok []
    ((∃ refusal, search o read (some "") none = .error (.invalidPattern refusal)) ∧
        search { o with wholeWord := true } read (some "") none = .ok "") ∧
      search o' read (some "") none = .ok "" ∧
        ∃ refusal, search { o' with wholeWord := true } read (some "") none
          = .error (.invalidPattern refusal) := by
  intro o o' read
  refine ⟨⟨⟨.malformed ")(".toList ⟨.groupUnopened, ⟨⟨0, 1, 1⟩, ⟨1, 1, 2⟩⟩, none⟩, ?_⟩, ?_⟩, ?_,
    ⟨.malformed "\\b(?:(?x)a # c)\\b".toList ⟨.groupUnclosed, ⟨⟨2, 1, 3⟩, ⟨3, 1, 4⟩⟩, none⟩, ?_⟩⟩
  · cbv
  · cbv
  · cbv
  · cbv

end PipeShell.Search
