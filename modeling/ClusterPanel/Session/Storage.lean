import ClusterPanel.Files.Tree

/- Where the record of a session is kept: in memory, or in a file. A file is replaced as a whole: the new record is
   written beside it, made readable for the owner alone, and moved to the place of the old one, so that the old
   record stays if any step fails. That there is no record is no failure, neither for reading nor for removing. -/
namespace ClusterPanel

open Files Text

/-- Why a record cannot be read, saved or removed. -/
structure StorageFault where
  reason : String
deriving DecidableEq, Repr

def StorageFault.message (f : StorageFault) : String := "session storage io error: " ++ f.reason

/-- The path of the file that a new record is written to first. -/
def Files.Path.temporary (p : Path) : Path := p.beside (p.name?.getD "" ++ ".tmp")

/-- The record in a file, if there is one. -/
def loadRecord (t : Tree) (p : Path) : Except Fault (Option String) :=
  match t.readText p with
  | .ok record => .ok (some record)
  | .error .notFound => .ok none
  | .error e => .error e

def saveRecord (p : Path) (record : String) : Action Unit := do
  match p.parent? with
  | none => pure ()
  | some above => makeDirectories above
  write p.temporary (bytesOf record)
  setMode p.temporary ownerMode
  moveFile p.temporary p

def removeRecord (p : Path) : Action Unit :=
  tryCatch (removeFile p) fun e => if e = .notFound then pure () else throw e

/-- The calls that fail whenever they are made, each with its reason. -/
structure Failures where
  load : Option String := none
  save : Option String := none
  remove : Option String := none
deriving DecidableEq, Repr

/-- The place of a record and what lies there. -/
inductive Storage where
  | memory (record : Option String) (failures : Failures)
  | file (path : Path) (tree : Tree)
deriving Repr

namespace Storage

/-- A storage with what an operation on it failed for, if it did. -/
def ofAction (path : Path) (r : Except Fault Unit × Tree) : Storage × Option StorageFault :=
  match r with
  | (.ok _, t) => (.file path t, none)
  | (.error e, t) => (.file path t, some ⟨e.message⟩)

def load : Storage → Except StorageFault (Option String)
  | memory record failures =>
    match failures.load with
    | some reason => .error ⟨reason⟩
    | none => .ok record
  | file path tree => (loadRecord tree path).mapError fun e => ⟨e.message⟩

def save (record : String) : Storage → Storage × Option StorageFault
  | memory old failures =>
    match failures.save with
    | some reason => (memory old failures, some ⟨reason⟩)
    | none => (memory (some record) failures, none)
  | file path tree => ofAction path ((saveRecord path record).run.run tree)

def remove : Storage → Storage × Option StorageFault
  | memory old failures =>
    match failures.remove with
    | some reason => (memory old failures, some ⟨reason⟩)
    | none => (memory none failures, none)
  | file path tree => ofAction path ((removeRecord path).run.run tree)

/-- The bytes of the record, if there is one. -/
def record? : Storage → Option (List UInt8)
  | memory record _ => record.map bytesOf
  | file path tree => (tree.read path).toOption

/-- The files that the record lies among. -/
def tree : Storage → Tree
  | memory _ _ => {}
  | file _ t => t

end Storage

end ClusterPanel
