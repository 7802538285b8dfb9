import PipeShell.Host.Cause
import PipeShell.Host.Path

/-!
# `PipeShell.Host.FileTree`: files, directories and links

A tree maps places, which are lists of names from the root down, to what
stands there. `FileTree.find` follows the text of a path through it the
way a system does: names are looked up one after the other, links are
replaced by their targets, and everything but the last name has to be a
directory.

Following a link starts the walk again with the target in place of its
name, so the walk is written as a walk between links (`walkWith`), run
with a supply of links (`walk`).

A name with a slash behind it asks for a directory. Where such a name is
free, one who looks for it finds nothing, and one who would give it to a
file is told that it is the name of a directory. So the walks are told
what to say there.

What a path leads to need not be open to everyone. The tree has a list
of what the system refuses, and why.
-/

set_option autoImplicit false

namespace PipeShell.Host

/-- Names from the root down. -/
abbrev Place := List String

/-- The text of a place. -/
def Place.path (p : Place) : String := "/" ++ String.intercalate "/" p

/-- Programs that can be put into a tree without their bytes. What they do
is up to the one who starts them. -/
inductive Tool where
  | shell
  | concatenate
  | translate
  | makeDirectory
deriving Repr, DecidableEq

/-- What stands at a place. A `sink` holds nothing and takes in whatever
is written to it. -/
inductive Entry where
  | file (bytes : List UInt8) (executable : Bool)
  | dir
  | link (target : String)
  | tool (t : Tool)
  | sink
deriving Repr, DecidableEq

/-- What can be done with what stands at a place. -/
inductive Access where
  | reading
  | writing
deriving Repr, DecidableEq

/-- Everything there is below the root, and what the system refuses to
do with it. -/
structure FileTree where
  entries : List (Place × Entry)
  refused : List ((Place × Access) × Cause)
deriving Repr, DecidableEq

/-- Where a path leads: to something, or to a name that is free in a
directory that is there. -/
inductive Found where
  | entry (place : Place) (e : Entry)
  | vacant (place : Place)
deriving Repr, DecidableEq

namespace FileTree

/-- Nothing but the root. -/
def empty : FileTree := ⟨[], []⟩

/-- What stands at a place. -/
def get? (t : FileTree) (place : Place) : Option Entry :=
  if place.isEmpty then some .dir else t.entries.lookup place

/-- The entries after one of them was put. -/
def putIn (place : Place) (e : Entry) : List (Place × Entry) → List (Place × Entry)
  | [] => [(place, e)]
  | (p, old) :: rest =>
      if p == place then (place, e) :: rest else (p, old) :: putIn place e rest

/-- Put something at a place, whatever stood there before. -/
def put (t : FileTree) (place : Place) (e : Entry) : FileTree :=
  { t with entries := putIn place e t.entries }

/-- Why the system refuses an access, if it does. -/
def refusal? (t : FileTree) (place : Place) (access : Access) : Option Cause :=
  t.refused.lookup (place, access)

/-- Let the system refuse an access. -/
def forbid (t : FileTree) (place : Place) (access : Access) (cause : Cause) : FileTree :=
  { t with refused := ((place, access), cause) :: t.refused }

/-- Go on only if the system does not refuse an access. -/
def permit (t : FileTree) (place : Place) (access : Access) : Except Cause Unit :=
  match t.refusal? place access with
  | some cause => .error cause
  | none => .ok ()

/-- The names in a directory, in the order of their characters. -/
def names (t : FileTree) (place : Place) : List String :=
  let found := t.entries.filterMap fun (p, _) =>
    match p.getLast? with
    | some name => if p.dropLast == place then some name else none
    | none => none
  found.mergeSort fun a b => !decide (b < a)

/-! ### Following a path -/

/-- The longest name, in bytes. -/
def nameLimit : Nat := 255

/-- The longest path, in bytes. -/
def pathLimit : Nat := 4095

/-- How many links may be followed on the way. -/
def linkLimit : Nat := 40

/-- Walk from a directory along the pieces of a path up to the next
link, which `follow` takes care of. A free name with a slash behind it
ends the walk with the cause `slash`. -/
def walkWith (t : FileTree) (slash : Cause) (follow : Place → List String → Except Cause Found) :
    Place → List String → Except Cause Found
  | here, [] => .ok (.entry here .dir)
  | here, p :: rest =>
      if p == "" || p == "." then walkWith t slash follow here rest
      else if p == ".." then walkWith t slash follow here.dropLast rest
      else if nameLimit < p.utf8ByteSize then .error .nameTooLong
      else
        let place := here ++ [p]
        match t.get? place with
        | none =>
            if rest.isEmpty then .ok (.vacant place)
            else if rest.all (· == "") then .error slash
            else .error .noEntry
        | some .dir => walkWith t slash follow place rest
        | some (.link target) =>
            follow (if Path.isAbsolute target then [] else here) (Path.pieces target ++ rest)
        | some e => if rest.isEmpty then .ok (.entry place e) else .error .notDirectory

/-- Walk along the pieces of a path with a supply of links. -/
def walk (t : FileTree) (slash : Cause) : (links : Nat) → Place → List String → Except Cause Found
  | 0 => walkWith t slash fun _ _ => .error .linkLoop
  | links + 1 => walkWith t slash (walk t slash links)

/-- Where a path leads that is seen from a directory, with the cause for
a free name that has a slash behind it. -/
def findOr (t : FileTree) (slash : Cause) (base : Place) (path : String) : Except Cause Found :=
  if path.toList.contains (Char.ofNat 0) then .error .nulInPath
  else if path == "" then .error .noEntry
  else if pathLimit < path.utf8ByteSize then .error .nameTooLong
  else walk t slash linkLimit (if Path.isAbsolute path then [] else base) (Path.pieces path)

/-- Where a path leads that is seen from a directory. -/
def find (t : FileTree) (base : Place) (path : String) : Except Cause Found :=
  t.findOr .noEntry base path

/-! ### Asking -/

/-- The bytes of a file. -/
def read (t : FileTree) (base : Place) (path : String) : Except Cause (List UInt8) := do
  match ← t.find base path with
  | .vacant _ => .error .noEntry
  | .entry place e =>
      t.permit place .reading
      match e with
      | .file bytes _ => .ok bytes
      | .dir => .error .isDirectory
      | _ => .ok []

/-- The names in a directory. -/
def list (t : FileTree) (base : Place) (path : String) : Except Cause (List String) := do
  match ← t.find base path with
  | .vacant _ => .error .noEntry
  | .entry place .dir =>
      t.permit place .reading
      .ok (t.names place)
  | .entry _ _ => .error .notDirectory

/-- The place that a path leads to, which has to be taken. -/
def locate (t : FileTree) (base : Place) (path : String) : Except Cause Place := do
  match ← t.find base path with
  | .entry place _ => .ok place
  | .vacant _ => .error .noEntry

/-- Whether a path leads to a directory. -/
def isDir (t : FileTree) (base : Place) (path : String) : Bool :=
  match t.find base path with
  | .ok (.entry _ .dir) => true
  | _ => false

/-- Whether a path leads to a file, or a program of the system. -/
def isFile (t : FileTree) (base : Place) (path : String) : Bool :=
  match t.find base path with
  | .ok (.entry _ (.file _ _)) => true
  | .ok (.entry _ (.tool _)) => true
  | _ => false

/-! ### Changing -/

/-- Write a file. A file that was there keeps its permission to run; a
new one changes its directory. -/
def write (t : FileTree) (base : Place) (path : String) (bytes : List UInt8) :
    Except Cause FileTree := do
  match ← t.findOr .isDirectory base path with
  | .entry place (.file _ executable) =>
      t.permit place .writing
      .ok (t.put place (.file bytes executable))
  | .entry _ .sink => .ok t
  | .entry _ .dir => .error .isDirectory
  | .entry _ _ => .error .permission
  | .vacant place =>
      t.permit place.dropLast .writing
      .ok (t.put place (.file bytes false))

/-- Make the directories that the pieces of a path name, as far as they
are missing; gives the place of the last one. -/
def makeDirs (t : FileTree) : (here : Place) → List String → Except Cause (FileTree × Place)
  | here, [] => .ok (t, here)
  | here, p :: rest => do
      match ← walk t .noEntry linkLimit here [p] with
      | .entry place .dir => makeDirs t place rest
      | .entry _ _ => .error .notDirectory
      | .vacant place => makeDirs (t.put place .dir) place rest

/-- Make the directory that a path names and those above it, as far as
they are missing. -/
def makeDir (t : FileTree) (base : Place) (path : String) : Except Cause (FileTree × Place) :=
  makeDirs t (if Path.isAbsolute path then [] else base) (Path.pieces path)

end FileTree

end PipeShell.Host
