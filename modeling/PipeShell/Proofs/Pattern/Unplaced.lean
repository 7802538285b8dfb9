import PipeShell.Pattern.Meaning

/-!
# `PipeShell.Proofs.Pattern.Unplaced`: patterns without their places

The same pattern read at another place has other spans. `unplaced` takes
the spans out of what was read, so that two readings can be compared.
Spans are only shown when a pattern is refused: how deep it is nested
and what it means do not depend on them.

* `Node.overdeep?_eq_none_iff`: whether a part lies too deep is a matter
  of the depth of the pattern alone.
* `Node.depth_congr`, `Node.toOption_regex_congr`: two readings that
  differ in their spans alone have the same depth and the same meaning,
  if they have one.
-/

set_option autoImplicit false

namespace PipeShell.Pattern

open Unicode

/-! ### Taking the spans out -/

/-- A literal without its place. -/
def Literal.unplaced (l : Literal) : Literal := { l with span := default }

mutual

/-- A part of a class without places. -/
def ClassNode.unplaced : ClassNode → ClassNode
  | .empty _ => .empty default
  | .literal l => .literal l.unplaced
  | .range _ lo hi => .range default lo.unplaced hi.unplaced
  | .posix _ negated kind => .posix default negated kind
  | .property _ negated query => .property default negated query
  | .short _ negated kind => .short default negated kind
  | .bracketed _ negated body => .bracketed default negated body.unplaced
  | .union _ items => .union default (ClassNode.allUnplaced items)
  | .binary _ op lhs rhs => .binary default op lhs.unplaced rhs.unplaced

/-- Several parts of a class without places. -/
def ClassNode.allUnplaced : List ClassNode → List ClassNode
  | [] => []
  | n :: ns => n.unplaced :: ClassNode.allUnplaced ns

end

mutual

/-- A part of a pattern without places. -/
def Node.unplaced : Node → Node
  | .empty _ => .empty default
  | .flags _ changes => .flags default changes
  | .literal l => .literal l.unplaced
  | .dot _ => .dot default
  | .anchor _ kind => .anchor default kind
  | .property _ negated query => .property default negated query
  | .short _ negated kind => .short default negated kind
  | .bracketed _ negated body => .bracketed default negated body.unplaced
  | .repeated _ least most body => .repeated default least most body.unplaced
  | .group _ kept changes body => .group default kept changes body.unplaced
  | .alternation _ branches => .alternation default (Node.allUnplaced branches)
  | .concat _ parts => .concat default (Node.allUnplaced parts)

/-- Several parts of a pattern without places. -/
def Node.allUnplaced : List Node → List Node
  | [] => []
  | n :: ns => n.unplaced :: Node.allUnplaced ns

end

/-- Two literals differ in their places alone. -/
abbrev Literal.Like (l l' : Literal) : Prop := l.unplaced = l'.unplaced

theorem Literal.char_congr {l l' : Literal} (h : l.Like l') : l.char = l'.char :=
  show l.unplaced.char = l'.unplaced.char from congrArg Literal.char h

/-- Two parts of a class differ in their places alone. -/
abbrev ClassNode.Like (n n' : ClassNode) : Prop := n.unplaced = n'.unplaced

/-- Two parts of a pattern differ in their places alone. -/
abbrev Node.Like (n n' : Node) : Prop := n.unplaced = n'.unplaced

theorem ClassNode.allUnplaced_eq_map (ns : List ClassNode) :
    ClassNode.allUnplaced ns = ns.map ClassNode.unplaced := by
  induction ns with
  | nil => rfl
  | cons n ns ih => rw [allUnplaced, ih, List.map_cons]

theorem Node.allUnplaced_eq_map (ns : List Node) :
    Node.allUnplaced ns = ns.map Node.unplaced := by
  induction ns with
  | nil => rfl
  | cons n ns ih => rw [allUnplaced, ih, List.map_cons]

/-- Parts in a row, whatever the span they are put under. -/
theorem Node.unplaced_ofParts {ns ns' : List Node}
    (h : ns.map Node.unplaced = ns'.map Node.unplaced) (span span' : Span) :
    (Node.ofParts span ns).unplaced = (Node.ofParts span' ns').unplaced := by
  match ns, ns' with
  | [], [] => rfl
  | [], _ :: _ => simp at h
  | _ :: _, [] => simp at h
  | [n], [n'] => simpa [ofParts] using h
  | [_], _ :: _ :: _ => simp at h
  | _ :: _ :: _, [_] => simp at h
  | _ :: _ :: _, _ :: _ :: _ => simpa [ofParts, unplaced, allUnplaced_eq_map] using h

/-- Items side by side, whatever the span they are put under. -/
theorem ClassNode.unplaced_ofItems {ns ns' : List ClassNode}
    (h : ns.map ClassNode.unplaced = ns'.map ClassNode.unplaced) (span span' : Span) :
    (ClassNode.ofItems span ns).unplaced = (ClassNode.ofItems span' ns').unplaced := by
  match ns, ns' with
  | [], [] => rfl
  | [], _ :: _ => simp at h
  | _ :: _, [] => simp at h
  | [n], [n'] => simpa [ofItems] using h
  | [_], _ :: _ :: _ => simp at h
  | _ :: _ :: _, [_] => simp at h
  | _ :: _ :: _, _ :: _ :: _ => simpa [ofItems, unplaced, allUnplaced_eq_map] using h

/-! ### Nesting -/

mutual

/-- How deep a part of a class is nested. -/
def ClassNode.depth : ClassNode → Nat
  | .bracketed _ _ body => body.depth + 1
  | .union _ items => ClassNode.maxDepth items + 1
  | .binary _ _ lhs rhs => max lhs.depth rhs.depth + 1
  | _ => 0

/-- How deep the deepest of several parts of a class is nested. -/
def ClassNode.maxDepth : List ClassNode → Nat
  | [] => 0
  | n :: ns => max n.depth (ClassNode.maxDepth ns)

end

mutual

/-- How deep a part of a pattern is nested. -/
def Node.depth : Node → Nat
  | .bracketed _ _ body => body.depth + 1
  | .repeated _ _ _ body => body.depth + 1
  | .group _ _ _ body => body.depth + 1
  | .alternation _ branches => Node.maxDepth branches + 1
  | .concat _ parts => Node.maxDepth parts + 1
  | _ => 0

/-- How deep the deepest of several parts of a pattern is nested. -/
def Node.maxDepth : List Node → Nat
  | [] => 0
  | n :: ns => max n.depth (Node.maxDepth ns)

end

mutual

theorem ClassNode.overdeep?_eq_none_iff (room : Nat) :
    ∀ n : ClassNode, n.overdeep? room = none ↔ n.depth ≤ room
  | .empty _ => by cases room <;> simp [overdeep?, depth]
  | .literal _ => by cases room <;> simp [overdeep?, depth]
  | .range .. => by cases room <;> simp [overdeep?, depth]
  | .posix .. => by cases room <;> simp [overdeep?, depth]
  | .property .. => by cases room <;> simp [overdeep?, depth]
  | .short .. => by cases room <;> simp [overdeep?, depth]
  | .bracketed _ _ body => by
      cases room with
      | zero => simp [overdeep?, depth]
      | succ room => simp [overdeep?, depth, ClassNode.overdeep?_eq_none_iff room body]
  | .union _ items => by
      cases room with
      | zero => simp [overdeep?, depth]
      | succ room => simp [overdeep?, depth, ClassNode.anyOverdeep?_eq_none_iff room items]
  | .binary _ _ lhs rhs => by
      cases room with
      | zero => simp [overdeep?, depth]
      | succ room =>
          have hlhs := ClassNode.overdeep?_eq_none_iff room lhs
          have hrhs := ClassNode.overdeep?_eq_none_iff room rhs
          simp only [overdeep?, depth, Nat.add_le_add_iff_right, Nat.max_le, ← hlhs, ← hrhs]
          cases lhs.overdeep? room <;> simp

theorem ClassNode.anyOverdeep?_eq_none_iff (room : Nat) :
    ∀ ns : List ClassNode, ClassNode.anyOverdeep? room ns = none ↔ ClassNode.maxDepth ns ≤ room
  | [] => by simp [anyOverdeep?, maxDepth]
  | n :: ns => by
      have hn := ClassNode.overdeep?_eq_none_iff room n
      have hns := ClassNode.anyOverdeep?_eq_none_iff room ns
      simp only [anyOverdeep?, maxDepth, Nat.max_le, ← hn, ← hns]
      cases n.overdeep? room <;> simp

end

mutual

/-- A part lies too deep just when the pattern is nested deeper than
there is room. -/
theorem Node.overdeep?_eq_none_iff (room : Nat) :
    ∀ n : Node, n.overdeep? room = none ↔ n.depth ≤ room
  | .empty _ => by cases room <;> simp [overdeep?, depth]
  | .flags .. => by cases room <;> simp [overdeep?, depth]
  | .literal _ => by cases room <;> simp [overdeep?, depth]
  | .dot _ => by cases room <;> simp [overdeep?, depth]
  | .anchor .. => by cases room <;> simp [overdeep?, depth]
  | .property .. => by cases room <;> simp [overdeep?, depth]
  | .short .. => by cases room <;> simp [overdeep?, depth]
  | .bracketed _ _ body => by
      cases room with
      | zero => simp [overdeep?, depth]
      | succ room => simp [overdeep?, depth, ClassNode.overdeep?_eq_none_iff room body]
  | .repeated _ _ _ body => by
      cases room with
      | zero => simp [overdeep?, depth]
      | succ room => simp [overdeep?, depth, Node.overdeep?_eq_none_iff room body]
  | .group _ _ _ body => by
      cases room with
      | zero => simp [overdeep?, depth]
      | succ room => simp [overdeep?, depth, Node.overdeep?_eq_none_iff room body]
  | .alternation _ branches => by
      cases room with
      | zero => simp [overdeep?, depth]
      | succ room => simp [overdeep?, depth, Node.anyOverdeep?_eq_none_iff room branches]
  | .concat _ parts => by
      cases room with
      | zero => simp [overdeep?, depth]
      | succ room => simp [overdeep?, depth, Node.anyOverdeep?_eq_none_iff room parts]

theorem Node.anyOverdeep?_eq_none_iff (room : Nat) :
    ∀ ns : List Node, Node.anyOverdeep? room ns = none ↔ Node.maxDepth ns ≤ room
  | [] => by simp [anyOverdeep?, maxDepth]
  | n :: ns => by
      have hn := Node.overdeep?_eq_none_iff room n
      have hns := Node.anyOverdeep?_eq_none_iff room ns
      simp only [anyOverdeep?, maxDepth, Nat.max_le, ← hn, ← hns]
      cases n.overdeep? room <;> simp

end

mutual

theorem ClassNode.depth_unplaced : ∀ n : ClassNode, n.unplaced.depth = n.depth
  | .empty _ => rfl
  | .literal _ => rfl
  | .range .. => rfl
  | .posix .. => rfl
  | .property .. => rfl
  | .short .. => rfl
  | .bracketed _ _ body => by simp [unplaced, depth, ClassNode.depth_unplaced body]
  | .union _ items => by simp [unplaced, depth, ClassNode.maxDepth_allUnplaced items]
  | .binary _ _ lhs rhs => by
      simp [unplaced, depth, ClassNode.depth_unplaced lhs, ClassNode.depth_unplaced rhs]

theorem ClassNode.maxDepth_allUnplaced :
    ∀ ns : List ClassNode, ClassNode.maxDepth (ClassNode.allUnplaced ns) = ClassNode.maxDepth ns
  | [] => rfl
  | n :: ns => by
      simp [allUnplaced, maxDepth, ClassNode.depth_unplaced n, ClassNode.maxDepth_allUnplaced ns]

end

mutual

theorem Node.depth_unplaced : ∀ n : Node, n.unplaced.depth = n.depth
  | .empty _ => rfl
  | .flags .. => rfl
  | .literal _ => rfl
  | .dot _ => rfl
  | .anchor .. => rfl
  | .property .. => rfl
  | .short .. => rfl
  | .bracketed _ _ body => by simp [unplaced, depth, ClassNode.depth_unplaced body]
  | .repeated _ _ _ body => by simp [unplaced, depth, Node.depth_unplaced body]
  | .group _ _ _ body => by simp [unplaced, depth, Node.depth_unplaced body]
  | .alternation _ branches => by simp [unplaced, depth, Node.maxDepth_allUnplaced branches]
  | .concat _ parts => by simp [unplaced, depth, Node.maxDepth_allUnplaced parts]

theorem Node.maxDepth_allUnplaced :
    ∀ ns : List Node, Node.maxDepth (Node.allUnplaced ns) = Node.maxDepth ns
  | [] => rfl
  | n :: ns => by
      simp [allUnplaced, maxDepth, Node.depth_unplaced n, Node.maxDepth_allUnplaced ns]

end

/-- Two readings that differ in their spans alone are nested alike. -/
theorem Node.depth_congr {n n' : Node} (h : n.Like n') : n.depth = n'.depth := by
  rw [← depth_unplaced, h, depth_unplaced]

/-! ### Meaning -/

/-- Where both steps have the same result, if any, so do both
sequences. -/
theorem toOption_bind_congr {ε α β : Type} {x y : Except ε α} {f g : α → Except ε β}
    (h : x.toOption = y.toOption) (hf : ∀ a, (f a).toOption = (g a).toOption) :
    (x >>= f).toOption = (y >>= g).toOption := by
  cases x <;> cases y <;> simp only [Except.toOption, reduceCtorEq, Option.some.injEq] at h
  · rfl
  · subst h
    exact hf _

section
variable (m : Modes)

theorem Modes.toOption_literal_unplaced (l : Literal) :
    (m.literal l.unplaced).toOption = (m.literal l).toOption := by
  have hunplaced : m.literal l.unplaced
      = if !m.unicode && l.byteEscape && 0x7F < l.char.toNat then
          .error (faultAt .invalidUtf8 default)
        else .ok l.char := rfl
  rw [hunplaced, Modes.literal]
  split <;> rfl

theorem Modes.toOption_classLiteral_unplaced (l : Literal) :
    (m.classLiteral l.unplaced).toOption = (m.classLiteral l).toOption := by
  refine toOption_bind_congr (m.toOption_literal_unplaced l) fun c => ?_
  split <;> rfl

theorem Modes.toOption_finish (span span' : Span) (negated : Bool) (s : CharSet) :
    (m.finish span negated s).toOption = (m.finish span' negated s).toOption := by
  simp only [Modes.finish]
  split
  · rfl
  · split <;> rfl

theorem Modes.toOption_short (span span' : Span) (negated : Bool) (kind : ShortClass) :
    (m.short span negated kind).toOption = (m.short span' negated kind).toOption := by
  simp only [Modes.short]
  split
  · rfl
  · split <;> rfl

theorem Modes.toOption_property (span span' : Span) (negated : Bool) (query : Query) :
    (m.property span negated query).toOption = (m.property span' negated query).toOption := by
  simp only [Modes.property]
  split
  · rfl
  · split
    · exact m.toOption_finish span span' negated _
    · rfl
    · rfl

theorem Modes.toOption_dot (span span' : Span) :
    (m.dot span).toOption = (m.dot span').toOption := by
  simp only [Modes.dot]
  split
  · rfl
  · split
    · rfl
    · split <;> rfl

mutual

theorem ClassNode.toOption_set_unplaced :
    ∀ n : ClassNode, (n.unplaced.set m).toOption = (n.set m).toOption
  | .empty _ => rfl
  | .literal l => toOption_bind_congr (m.toOption_classLiteral_unplaced l) fun _ => rfl
  | .range _ lo hi =>
      toOption_bind_congr (m.toOption_classLiteral_unplaced lo) fun _ =>
        toOption_bind_congr (m.toOption_classLiteral_unplaced hi) fun _ => rfl
  | .posix span negated kind => m.toOption_finish default span negated kind.set
  | .property span negated query => m.toOption_property default span negated query
  | .short span negated kind => m.toOption_short default span negated kind
  | .bracketed span negated body =>
      toOption_bind_congr (ClassNode.toOption_set_unplaced body) fun s =>
        m.toOption_finish default span negated s
  | .union _ items => toOption_bind_congr (ClassNode.toOption_sets_unplaced items) fun _ => rfl
  | .binary _ _ lhs rhs =>
      toOption_bind_congr (ClassNode.toOption_set_unplaced lhs) fun _ =>
        toOption_bind_congr (ClassNode.toOption_set_unplaced rhs) fun _ => rfl

theorem ClassNode.toOption_sets_unplaced :
    ∀ ns : List ClassNode,
      (ClassNode.sets m (ClassNode.allUnplaced ns)).toOption = (ClassNode.sets m ns).toOption
  | [] => rfl
  | n :: ns =>
      toOption_bind_congr (ClassNode.toOption_set_unplaced n) fun _ =>
        toOption_bind_congr (ClassNode.toOption_sets_unplaced ns) fun _ => rfl

end

end

mutual

theorem Node.toOption_regex_unplaced (m : Modes) :
    ∀ n : Node, (n.unplaced.regex m).toOption = (n.regex m).toOption
  | .empty _ => rfl
  | .flags .. => rfl
  | .literal l => toOption_bind_congr (m.toOption_literal_unplaced l) fun _ => rfl
  | .dot span => toOption_bind_congr (m.toOption_dot default span) fun _ => rfl
  | .anchor .. => rfl
  | .property span negated query =>
      toOption_bind_congr (m.toOption_property default span negated query) fun _ => rfl
  | .short span negated kind =>
      toOption_bind_congr (m.toOption_short default span negated kind) fun _ => rfl
  | .bracketed span negated body =>
      toOption_bind_congr (ClassNode.toOption_set_unplaced m body) fun s =>
        toOption_bind_congr (m.toOption_finish default span negated s) fun _ => rfl
  | .repeated _ _ _ body => toOption_bind_congr (Node.toOption_regex_unplaced m body) fun _ => rfl
  | .group _ _ changes body =>
      toOption_bind_congr (Node.toOption_regex_unplaced (m.apply changes) body) fun _ => rfl
  | .alternation _ branches => Node.toOption_alternatives_unplaced m branches
  | .concat _ parts => Node.toOption_sequence_unplaced m parts

theorem Node.toOption_sequence_unplaced (m : Modes) :
    ∀ ns : List Node,
      (Node.sequence m (Node.allUnplaced ns)).toOption = (Node.sequence m ns).toOption
  | [] => rfl
  | n :: ns =>
      toOption_bind_congr (Node.toOption_regex_unplaced m n) fun a =>
        toOption_bind_congr (Node.toOption_sequence_unplaced a.2 ns) fun _ => rfl

theorem Node.toOption_alternatives_unplaced (m : Modes) :
    ∀ ns : List Node,
      (Node.alternatives m (Node.allUnplaced ns)).toOption = (Node.alternatives m ns).toOption
  | [] => rfl
  | [n] => Node.toOption_regex_unplaced m n
  | n :: n' :: ns =>
      toOption_bind_congr (Node.toOption_regex_unplaced m n) fun a =>
        toOption_bind_congr (Node.toOption_alternatives_unplaced a.2 (n' :: ns)) fun _ => rfl

end

/-- Two readings that differ in their spans alone mean the same, if they
mean anything. -/
theorem Node.toOption_regex_congr {n n' : Node} (h : n.Like n') (m : Modes) :
    (n.regex m).toOption = (n'.regex m).toOption := by
  rw [← toOption_regex_unplaced, h, toOption_regex_unplaced]

end PipeShell.Pattern
