import PipeShell.Dispatch
import PipeShell.Proofs.Line.Reference

/-!
# `PipeShell.Proofs.Dispatch`: who serves a command

`Serves` says who serves a command after handlers were registered one
after the other: the handler that was registered last under the very
name of the command, or else the one that was there under that name from
the start, or else nobody, if the command is an assignment, or else the
fallback.

* `ofText?_eq_some`: which texts are assignments.
* `handler?_registerAll`: which handlers are found after registering.
* `dispatch_eq_act`: a dispatcher leaves a command to its `server`.
* `serves_server`: that server is the one that `Serves` asks for.
-/

set_option autoImplicit false

namespace PipeShell

/-! ### Assignments -/

namespace Line.Assignment

/-- A text is an assignment exactly when it is a name, an equals sign
and a value. -/
theorem ofText?_eq_some {text : String} {a : Assignment} :
    ofText? text = some a ↔ text = a.text ∧ isName a.name.toList = true := by
  constructor
  · intro h
    have hcut := List.takeWhile_append_dropWhile (p := (· != '=')) (l := text.toList)
    rw [ofText?] at h
    cases hdrop : text.toList.dropWhile (· != '=') with
    | nil => simp only [hdrop] at h; cases h
    | cons c value =>
        have hc : c = '=' := by
          have hmem : c ∈ (text.toList.dropWhile (· != '=')).head? := by
            rw [hdrop]
            rfl
          simpa using head?_dropWhile_eq_false c hmem
        simp only [hdrop] at h
        split at h
        · rename_i hname
          cases h
          refine ⟨?_, by simpa using hname⟩
          rw [← String.toList_inj, Assignment.text]
          simp only [String.toList_append, String.toList_ofList]
          rw [hdrop, hc] at hcut
          simpa using hcut.symm
        · cases h
  · rintro ⟨rfl, hname⟩
    -- A name holds no equals sign, so the first one in the text is the one after it.
    have hrun : ∀ c ∈ a.name.toList, (c != '=') = true := by
      intro c hc
      have hchar := isNameChar_of_isName hname c hc
      rw [bne_iff_ne]
      rintro rfl
      revert hchar
      decide
    have hstop : ∀ c ∈ ('=' :: a.value.toList).head?, (c != '=') = false := by
      intro c hc
      cases hc
      rfl
    have htext : a.text.toList = a.name.toList ++ '=' :: a.value.toList := by
      simp [Assignment.text]
    rw [ofText?, htext, takeWhile_run_append hrun hstop, dropWhile_run_append hrun hstop]
    simp [hname]

end Line.Assignment

namespace Dispatcher

variable {w : Type}

/-! ### Registering -/

/-- Register handlers one after the other. -/
def registerAll (d : Dispatcher w) (regs : List (String × Handler w)) : Dispatcher w :=
  regs.foldl (fun d r => d.register r.1 r.2) d

/-- The handlers registered last come first. -/
theorem handlers_registerAll (regs : List (String × Handler w)) (d : Dispatcher w) :
    (d.registerAll regs).handlers = regs.reverse ++ d.handlers := by
  induction regs generalizing d with
  | nil => rfl
  | cons r regs ih =>
      show ((d.register r.1 r.2).registerAll regs).handlers = _
      rw [ih, List.reverse_cons, List.append_assoc]
      rfl

/-- Registering does not touch the fallback. -/
theorem fallback_registerAll (regs : List (String × Handler w)) (d : Dispatcher w) :
    (d.registerAll regs).fallback = d.fallback := by
  induction regs generalizing d with
  | nil => rfl
  | cons r regs ih =>
      show ((d.register r.1 r.2).registerAll regs).fallback = _
      rw [ih]
      rfl

/-! ### Serving -/

/-- What serves a command. -/
inductive Server (w : Type) where
  | handler (h : Handler w)
  /-- The command sets a variable and calls nobody. -/
  | assignment (a : Line.Assignment)

/-- What the server of a command does. -/
def Server.act : Server w → Handler w
  | handler h => h
  | assignment a => fun _ _ env world => (.success "", env.assign a.name a.value, world)

/-- The server of a command, read off a dispatcher. -/
def server (d : Dispatcher w) (c : Command) : Server w :=
  match d.handler? c.name with
  | some h => .handler h
  | none =>
      match assignment? c with
      | some a => .assignment a
      | none => .handler d.fallback

/-- A command is left to its server. -/
theorem dispatch_eq_act (d : Dispatcher w) (c : Command) :
    d.dispatch c = (d.server c).act c := by
  funext input env world
  rw [dispatch, server]
  cases d.handler? c.name with
  | some h => rfl
  | none => cases assignment? c <;> rfl

/-- The command consists of an assignment alone. -/
def Assigns (c : Command) (a : Line.Assignment) : Prop :=
  c.args = [] ∧ c.name = a.text ∧ Line.Assignment.isName a.name.toList = true

theorem assignment?_eq_some {c : Command} {a : Line.Assignment} :
    assignment? c = some a ↔ Assigns c a := by
  rw [assignment?, Assigns, ← Line.Assignment.ofText?_eq_some]
  cases c.args with
  | nil => simp
  | cons arg args => simp

/-- Who serves a command, when the dispatcher had the handlers `start`
and those of `regs` were registered after that, in their order. -/
inductive Serves (start regs : List (String × Handler w)) (fallback : Handler w) (c : Command) :
    Server w → Prop where
  /-- The handler registered last under the name of the command. -/
  | registered {h : Handler w} {before after : List (String × Handler w)} :
      regs = before ++ (c.name, h) :: after → (∀ r ∈ after, r.1 ≠ c.name) →
      Serves start regs fallback c (.handler h)
  /-- The handler that had the name from the start. -/
  | starting {h : Handler w} :
      (∀ r ∈ regs, r.1 ≠ c.name) → start.lookup c.name = some h →
      Serves start regs fallback c (.handler h)
  /-- No handler at all. -/
  | assigning {a : Line.Assignment} :
      (∀ r ∈ regs ++ start, r.1 ≠ c.name) → Assigns c a →
      Serves start regs fallback c (.assignment a)
  | other :
      (∀ r ∈ regs ++ start, r.1 ≠ c.name) → (∀ a, ¬ Assigns c a) →
      Serves start regs fallback c (.handler fallback)

/-- A name is looked up among the registrations from the last to the
first, and then among the handlers there were from the start. -/
theorem handler?_registerAll (start regs : List (String × Handler w)) (fallback : Handler w)
    (name : String) :
    ((Dispatcher.mk start fallback).registerAll regs).handler? name
      = (regs.reverse.lookup name).or (start.lookup name) := by
  rw [handler?, handlers_registerAll, List.lookup_append]

/-- Nothing is found under a name that no entry has. -/
theorem lookup_eq_none {entries : List (String × Handler w)} {name : String} :
    entries.lookup name = none ↔ ∀ r ∈ entries, r.1 ≠ name := by
  rw [List.lookup_eq_none_iff]
  simp only [bne_iff_ne, ne_comm]

/-- A dispatcher picks the server of a command as it should. -/
theorem serves_server (start regs : List (String × Handler w)) (fallback : Handler w)
    (c : Command) :
    Serves start regs fallback c
      (((Dispatcher.mk start fallback).registerAll regs).server c) := by
  rw [server, handler?_registerAll]
  cases hregs : regs.reverse.lookup c.name with
  | some h =>
      -- The first entry found from the back is the last one registered.
      obtain ⟨after, before, hsplit, hafter⟩ := List.lookup_eq_some_iff.mp hregs
      have hregs' : regs = before.reverse ++ (c.name, h) :: after.reverse := by
        rw [← List.reverse_reverse regs, hsplit]
        simp
      refine .registered hregs' fun r hr => ?_
      simpa [ne_comm] using hafter r (List.mem_reverse.mp hr)
  | none =>
      have hregs' : ∀ r ∈ regs, r.1 ≠ c.name := fun r hr =>
        lookup_eq_none.mp hregs r (List.mem_reverse.mpr hr)
      cases hstart : start.lookup c.name with
      | some h => exact .starting hregs' hstart
      | none =>
          have hall : ∀ r ∈ regs ++ start, r.1 ≠ c.name := by
            intro r hr
            rcases List.mem_append.mp hr with hr | hr
            · exact hregs' r hr
            · exact lookup_eq_none.mp hstart r hr
          cases hassign : assignment? c with
          | some a => exact .assigning hall (assignment?_eq_some.mp hassign)
          | none =>
              have hother : ∀ a, ¬ Assigns c a := by
                intro a ha
                rw [assignment?_eq_some.mpr ha] at hassign
                cases hassign
              show Serves start regs fallback c
                (.handler ((Dispatcher.mk start fallback).registerAll regs).fallback)
              rw [fallback_registerAll]
              exact .other hall hother

end Dispatcher

end PipeShell
