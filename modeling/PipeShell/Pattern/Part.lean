import PipeShell.Pattern.Regex

/-!
# `PipeShell.Pattern.Part`: patterns in a plain form

Before a matching program is laid out for a pattern, the pattern is
brought into a plain form: neighbouring characters become one text,
nothing stands beside something, a row in a row is one row and a choice
in a choice one choice, a choice between single characters is a set, and
what all branches of a choice begin with is written once. The space of
the program is measured on that form.
-/

set_option autoImplicit false

namespace PipeShell.Pattern

open Unicode

/-- A pattern in its plain form. -/
inductive Part where
  | nothing
  | text (cs : List Char)
  | chars (s : CharSet)
  | look (l : Look)
  | rep (p : Part) (least : Nat) (most : Option Nat)
  /-- A group whose match is kept. -/
  | kept (p : Part)
  | row (ps : List Part)
  | choice (ps : List Part)

namespace Part

/-! ### Looking at a part -/

mutual

/-- How many texts, sets and operations a part is made of. -/
def count : Part → Nat
  | rep p _ _ => p.count + 1
  | kept p => p.count + 1
  | row ps => countAll ps + 1
  | choice ps => countAll ps + 1
  | _ => 1

/-- How many texts, sets and operations several parts are made of. -/
def countAll : List Part → Nat
  | [] => 0
  | p :: ps => p.count + countAll ps

end

mutual

/-- Nothing but the empty stretch matches. -/
def onlyEmpty : Part → Bool
  | nothing => true
  | text _ => false
  | chars _ => false
  | look _ => true
  | rep p _ _ => p.onlyEmpty
  | kept p => p.onlyEmpty
  | row ps => allOnlyEmpty ps
  | choice ps => allOnlyEmpty ps

/-- Nothing but the empty stretch matches any of several parts. -/
def allOnlyEmpty : List Part → Bool
  | [] => true
  | p :: ps => p.onlyEmpty && allOnlyEmpty ps

end

mutual

/-- The least length of a match in characters; none for a part that
needs a character of the empty set. -/
def leastLength? : Part → Option Nat
  | nothing => some 0
  | text cs => some cs.length
  | chars s => if s.isEmpty then none else some 1
  | look _ => some 0
  | rep p least _ => p.leastLength?.map (least * ·)
  | kept p => p.leastLength?
  | row ps => totalLength? ps
  | choice ps => shortestLength? ps

/-- The sum of the least lengths. -/
def totalLength? : List Part → Option Nat
  | [] => some 0
  | p :: ps => do return (← p.leastLength?) + (← totalLength? ps)

/-- The smallest of the least lengths. -/
def shortestLength? : List Part → Option Nat
  | [] => none
  | [p] => p.leastLength?
  | p :: ps => do return min (← p.leastLength?) (← shortestLength? ps)

end

mutual

/-- Every match begins, or ends, at a place where the condition holds,
as far as that can be read off the form. `back` asks for the end. -/
def isBound (l : Look) (back : Bool) : Part → Bool
  | look k => k == l
  | rep p least _ => 0 < least && p.isBound l back
  | kept p => p.isBound l back
  | row ps => rowBound l back ps
  | choice ps => allBound l back ps
  | _ => false

/-- The first part of a row that can take a character, or one before it,
is bound; from the other end if `back` is set. -/
def rowBound (l : Look) (back : Bool) : List Part → Bool
  | [] => false
  | p :: ps =>
      if back then rowBound l back ps || (allOnlyEmpty ps && p.isBound l back)
      else p.isBound l back || (p.onlyEmpty && rowBound l back ps)

/-- All branches of a choice are bound. -/
def allBound (l : Look) (back : Bool) : List Part → Bool
  | [] => false
  | [p] => p.isBound l back
  | p :: ps => p.isBound l back && allBound l back ps

end

mutual

/-- Whether two parts are written alike. No group is written twice. -/
def same : Part → Part → Bool
  | nothing, nothing => true
  | text a, text b => a == b
  | chars a, chars b => a == b
  | look a, look b => a == b
  | rep p least most, rep q least' most' => least == least' && most == most' && p.same q
  | row ps, row qs => sameAll ps qs
  | choice ps, choice qs => sameAll ps qs
  | _, _ => false

/-- Whether parts are written alike one by one. -/
def sameAll : List Part → List Part → Bool
  | [], [] => true
  | p :: ps, q :: qs => p.same q && sameAll ps qs
  | _, _ => false

end

/-! ### Building the plain form -/

/-- A set; of one character it is a text. -/
def ofSet (s : CharSet) : Part :=
  match s.single? with
  | some c => text [c]
  | none => chars s

/-- The parts of a row. -/
def rowParts : Part → List Part
  | nothing => []
  | row ps => ps
  | p => [p]

/-- A part before a row; two texts that meet become one. -/
def beside (p : Part) (ps : List Part) : List Part :=
  match p, ps with
  | text a, text b :: rest => text (a ++ b) :: rest
  | _, _ => p :: ps

/-- Parts in a row. A single one stands for itself. -/
def ofRow : List Part → Part
  | [] => nothing
  | [p] => p
  | ps => row ps

/-- One part after another. -/
def append (a b : Part) : Part :=
  ofRow (a.rowParts.foldr beside b.rowParts)

/-- Several parts one after another. -/
def appendAll (ps : List Part) : Part := ps.foldr append nothing

/-- A repetition. What matches only the empty stretch is matched at most
once. -/
def repeated (p : Part) (least : Nat) (most : Option Nat) : Part :=
  let least := if p.onlyEmpty then min least 1 else least
  let most := if p.onlyEmpty then some (min (most.getD 1) 1) else most
  if most == some 0 then nothing
  else if least == 1 && most == some 1 then p
  else rep p least most

/-- The branches of a choice. -/
def branches : Part → List Part
  | choice ps => ps
  | p => [p]

/-- The characters, if all of several parts are single characters. -/
def letters? : List Part → Option (List CharSet)
  | [] => some []
  | text [c] :: ps => (letters? ps).map (.single c :: ·)
  | _ => none

/-- The sets, if all of several parts are sets. -/
def sets? : List Part → Option (List CharSet)
  | [] => some []
  | chars s :: ps => (sets? ps).map (s :: ·)
  | _ => none

/-- The parts that two rows begin with alike. -/
def commonRow : List Part → List Part → List Part
  | p :: ps, q :: qs => if p.same q then p :: commonRow ps qs else []
  | _, _ => []

/-- The parts of the rows, if all of several parts are rows. -/
def rows? : List Part → Option (List (List Part))
  | [] => some []
  | row ps :: rest => (rows? rest).map (ps :: ·)
  | _ => none

/-- A choice between parts; `fuel` bounds how often a common beginning
is taken out. -/
def choose : (fuel : Nat) → List Part → Part
  | 0, ps => choice ps
  | fuel + 1, ps =>
      match ps.flatMap branches with
      | [] => chars .empty
      | [p] => p
      | ps =>
          match letters? ps, sets? ps, rows? ps with
          | some ss, _, _ => ofSet (.unions ss)
          | _, some ss, _ => ofSet (.unions ss)
          | _, _, some (r :: rs) =>
              let common := rs.foldl commonRow r
              if common.isEmpty then choice ps
              else
                let rest := (r :: rs).map fun ps => appendAll (ps.drop common.length)
                append (ofRow common) (choose fuel rest)
          | _, _, _ => choice ps

/-- The branches of a pattern in their plain form. -/
def ofBranches : Regex → List Part
  | .empty => [nothing]
  | .one s => [ofSet s]
  | .look l => [look l]
  | .seq a b =>
      [append (close (ofBranches a)) (close (ofBranches b))]
  | .alt a b => close (ofBranches a) :: ofBranches b
  | .rep r least most => [repeated (close (ofBranches r)) least most]
  | .group captured r =>
      let p := close (ofBranches r)
      [if captured then kept p else p]
where
  /-- The branches as one part. -/
  close : List Part → Part
    | [p] => p
    | ps => choose (countAll ps + 1) ps

/-- The plain form of a pattern. -/
def ofRegex (r : Regex) : Part := ofBranches.close (ofBranches r)

end Part

end PipeShell.Pattern
