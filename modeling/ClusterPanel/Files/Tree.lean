import ClusterPanel.Files.Path

/- Files and directories. A tree holds what lies where, each place given by the names from the root down; the root
   is a directory in every tree. An operation on a path either changes the tree or fails, for the first reason that
   is met on the way (`Fault`); `Action` is the type of operations, which may change the tree even if a later part
   of them fails. There are no links, and nobody is denied anything. -/
namespace ClusterPanel.Files

open Text

/-- The names from the root down to a file or directory. -/
abbrev Place := List String

inductive Entry where
  | file (content : List UInt8) (mode : Nat)
  | directory
deriving DecidableEq, Repr

/-- The directory that relative paths start from, and the entries below the root. -/
structure Tree where
  workingDirectory : Place := []
  entries : List (Place × Entry) := []
deriving Repr

/-- Why an operation on a path fails. -/
inductive Fault where
  | notFound
  | exists
  | notDirectory
  | isDirectory
  | busy
  | nameTooLong
  | nulInName
  | notText
deriving DecidableEq, Repr

def Fault.message : Fault → String
  | notFound => "No such file or directory (os error 2)"
  | busy => "Device or resource busy (os error 16)"
  | .exists => "File exists (os error 17)"
  | notDirectory => "Not a directory (os error 20)"
  | isDirectory => "Is a directory (os error 21)"
  | nameTooLong => "File name too long (os error 36)"
  | nulInName => "file name contained an unexpected NUL byte"
  | notText => "stream did not contain valid UTF-8"

/-- A name has at most this many bytes. -/
def nameLimit : Nat := 255

/-- A path has fewer bytes than this. -/
def pathLimit : Nat := 4096

/-- The permissions of a file that is made without saying which: all may read it. -/
def openMode : Nat := 0o644

/-- The permissions of a file that only its owner may read and write. -/
def ownerMode : Nat := 0o600

namespace Tree

def find? (t : Tree) (q : Place) : Option Entry :=
  if q = [] then some .directory else (t.entries.find? (·.1 = q)).map (·.2)

/-- The tree with nothing at a place. -/
def erase (t : Tree) (q : Place) : Tree := { t with entries := t.entries.filter (·.1 ≠ q) }

/-- The tree with an entry at a place, in the stead of what lay there. -/
def put (t : Tree) (q : Place) (e : Entry) : Tree := { t.erase q with entries := (t.erase q).entries ++ [(q, e)] }

/-- The place that a step leads to from a directory, which must be a directory as well. -/
def enter (t : Tree) (dir : Place) (step : String) : Except Fault Place :=
  if step = "." then .ok dir
  else if step = ".." then .ok dir.dropLast
  else if nameLimit < step.utf8ByteSize then .error .nameTooLong
  else
    match t.find? (dir ++ [step]) with
    | none => .error .notFound
    | some (.file _ _) => .error .notDirectory
    | some .directory => .ok (dir ++ [step])

/-- Where a path leads: to a name in a directory, whether or not something lies there, or to a directory that no
    name was said for. -/
inductive Target where
  | name (place : Place)
  | unnamed (place : Place)
deriving DecidableEq, Repr

/-- Where a path leads. Every step but the last must lead to a directory. -/
def locate (t : Tree) (p : Path) : Except Fault Target :=
  if p.steps.any (·.contains '\x00') then .error .nulInName
  else if pathLimit ≤ p.text.utf8ByteSize then .error .nameTooLong
  else do
    let start := if p.absolute then [] else t.workingDirectory
    match p.steps.getLast? with
    | none => if p.absolute then pure (.unnamed []) else throw .notFound
    | some last =>
      let dir ← p.steps.dropLast.foldlM t.enter start
      if last = "." then pure (.unnamed dir)
      else if last = ".." then pure (.unnamed dir.dropLast)
      else if nameLimit < last.utf8ByteSize then throw .nameTooLong
      else pure (.name (dir ++ [last]))

def read (t : Tree) (p : Path) : Except Fault (List UInt8) := do
  match ← t.locate p with
  | .unnamed _ => throw .isDirectory
  | .name q =>
    match t.find? q with
    | none => throw .notFound
    | some .directory => throw .isDirectory
    | some (.file content _) => if p.closed then throw .notDirectory else pure content

/-- The content of a file that is text. -/
def readText (t : Tree) (p : Path) : Except Fault String := do
  match textOf? (← t.read p) with
  | some s => pure s
  | none => throw .notText

/-- Whether a directory lies at a path. -/
def isDirectory (t : Tree) (p : Path) : Bool :=
  match t.locate p with
  | .error _ => false
  | .ok (.unnamed _) => true
  | .ok (.name q) => t.find? q == some .directory

def mode? (t : Tree) (p : Path) : Option Nat :=
  match t.locate p with
  | .ok (.name q) =>
    match t.find? q with
    | some (.file _ m) => some m
    | _ => none
  | _ => none

/-- The files below a directory, by their paths from there. -/
def filesBelow (t : Tree) (dir : Place) : List (String × List UInt8) :=
  t.entries.filterMap fun (q, e) =>
    match e with
    | .directory => none
    | .file content _ => if dir.isPrefixOf q then some ("/".intercalate (q.drop dir.length), content) else none

end Tree

/-- An operation on a tree. -/
abbrev Action (α : Type) := ExceptT Fault (StateM Tree) α

/-- Looks at the tree without changing it. -/
def Action.look {α : Type} (f : Tree → Except Fault α) : Action α := do
  match f (← get) with
  | .ok x => pure x
  | .error e => throw e

def makeDirectory (p : Path) : Action Unit := do
  match ← .look (·.locate p) with
  | .unnamed _ => throw .exists
  | .name q =>
    match (← get).find? q with
    | some _ => throw .exists
    | none => modify (·.put q .directory)

/-- Makes a directory; there may be one already. -/
def ensureDirectory (p : Path) : Action Unit :=
  tryCatch (makeDirectory p) fun e => do
    if (← get).isDirectory p then pure () else throw e

/-- Makes a directory and those above it that are missing. The parts of its path stand last first. -/
def makeDirectoriesFrom (absolute : Bool) : List String → Action Unit
  | [] => pure ()
  | s :: above =>
    let p : Path := { absolute, steps := above.reverse ++ [s] }
    tryCatch (ensureDirectory p) fun e => do
      if e = .notFound then
        makeDirectoriesFrom absolute above
        ensureDirectory p
      else throw e

/-- Makes a directory and those above it that are missing. -/
def makeDirectories (p : Path) : Action Unit := makeDirectoriesFrom p.absolute p.parts.reverse

/-- Gives a file its content. A file that is new gets the usual permissions. -/
def write (p : Path) (content : List UInt8) : Action Unit := do
  match ← .look (·.locate p) with
  | .unnamed _ => throw .isDirectory
  | .name q =>
    if p.closed then throw .isDirectory
    else
      match (← get).find? q with
      | some .directory => throw .isDirectory
      | some (.file _ mode) => modify (·.put q (.file content mode))
      | none => modify (·.put q (.file content openMode))

def setMode (p : Path) (mode : Nat) : Action Unit := do
  match ← .look (·.locate p) with
  | .unnamed _ => throw .isDirectory
  | .name q =>
    match (← get).find? q with
    | none => throw .notFound
    | some .directory => throw .isDirectory
    | some (.file content _) => modify (·.put q (.file content mode))

/-- Moves a regular file to another path, in the stead of the file that lay there. -/
def moveFile (p q : Path) : Action Unit := do
  let source ← .look (·.locate p)
  let target ← .look (·.locate q)
  match source, target with
  | .name a, .name b =>
    match (← get).find? a with
    | none => throw .notFound
    | some .directory => throw .isDirectory
    | some f =>
      if q.closed then throw .notDirectory
      else if (← get).find? b = some .directory then throw .isDirectory
      else modify fun t => (t.erase a).put b f
  | _, _ => throw .busy

def removeFile (p : Path) : Action Unit := do
  match ← .look (·.locate p) with
  | .unnamed _ => throw .isDirectory
  | .name q =>
    match (← get).find? q with
    | none => throw .notFound
    | some .directory => throw .isDirectory
    | some (.file _ _) => if p.closed then throw .notDirectory else modify (·.erase q)

end ClusterPanel.Files
