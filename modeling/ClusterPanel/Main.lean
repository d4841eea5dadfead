import ClusterPanel.Program.Command
import Std.Time.DateTime.Timestamp

/- The program on a machine. What lies where a call may look is read from the disk first, as a tree; the run itself
   is `runProgram`; what it changed in the tree is written back after it, and every file that is new appears with
   all of its content at once. No network is reached, so a request fails. Times are shown for Greenwich. -/
namespace ClusterPanel.Machine

open Files

/-- The path of a place on the disk. -/
def diskPath (q : Place) : String := "/" ++ "/".intercalate q

def placesThrough (q : Place) : List String → List Place
  | [] => [q]
  | s :: steps => q :: placesThrough (if s = "." then q else if s = ".." then q.dropLast else q ++ [s]) steps

/-- The places that a path leads through. -/
def placesOf (workingDirectory : Place) (p : Path) : List Place :=
  placesThrough (if p.absolute then [] else workingDirectory) p.steps

/-- The paths that a call may look at. -/
def pathsOf (e : Environment) (i : Invocation) : List Path :=
  let session := ((i.config e).sessionPath.map Path.ofText).toList
  let submission :=
    match i.command with
    | .submitJob file => [Path.ofText file]
    | _ => []
  session ++ session.map Path.temporary ++ submission

/-- The directory for configurations: the one that is said to be, or else one in the home directory. -/
def configDirectory : IO (Option String) := do
  match (← IO.getEnv "XDG_CONFIG_HOME").filter fun d => (Path.ofText d).absolute with
  | some d => pure (some d)
  | none => pure ((← IO.getEnv "HOME").map (· ++ "/.config"))

/-- The variables that the program knows, as they are set. -/
def environment : IO Environment := do
  let settings ← [urlVariable, timeoutVariable, sessionFileVariable].filterMapM fun name => do
    pure ((← IO.getEnv name).map fun v => (name, v))
  pure { settings, configDirectory := ← configDirectory }

/-- Adds to a tree what lies at a place of the disk. -/
def addPlace (t : Tree) (q : Place) : IO Tree := do
  let path := (← IO.currentDir) / diskPath q
  if q.isEmpty || !(← path.pathExists) then pure t
  else if ← path.isDir then pure (t.put q .directory)
  else pure (t.put q (.file (← IO.FS.readBinFile path).toList openMode))

/-- The tree of what lies on the disk where paths lead. -/
def readTree (paths : List Path) : IO Tree := do
  let here := Path.ofText (← IO.currentDir).toString
  let start : Tree := { workingDirectory := here.steps }
  (here :: paths).foldlM (fun t p => (placesOf here.steps p).foldlM addPlace t) start

/-- Puts on the disk what a tree has at a place. -/
def writePlace (q : Place) : Entry → IO Unit
  | .directory => IO.FS.createDirAll (diskPath q)
  | .file content mode => do
    let fresh := diskPath q ++ ".new"
    IO.FS.writeBinFile fresh ⟨content.toArray⟩
    if mode = ownerMode then IO.setAccessRights fresh { user := { read := true, write := true } }
    IO.FS.rename fresh (diskPath q)

/-- Makes the changes on the disk that lead from one tree to another. -/
def writeChanges (before after : Tree) : IO Unit := do
  for (q, e) in after.entries do
    if before.find? q ≠ some e then writePlace q e
  for (q, _) in before.entries do
    if (after.find? q).isNone then IO.FS.removeFile (diskPath q)

def now : IO Time.Instant := do
  let ns := (← Std.Time.Timestamp.now).toNanosecondsSinceUnixEpoch.val
  pure ⟨ns / 1000000000, (ns % 1000000000).toNat⟩

/-- Runs the program on the machine; the answer is its status. -/
def run (args : List String) : IO UInt32 := do
  let e ← environment
  let paths :=
    match Invocation.ofArguments e args with
    | .ok i => pathsOf e i
    | .error _ => []
  let tree ← readTree paths
  let w : World :=
    { environment := e, tree, replies := [.failed "network is unreachable"], clock := { now := ← now } }
  let r := runProgram w args
  writeChanges tree r.tree
  (← IO.getStdout).putStr r.output
  (← IO.getStderr).putStr (r.errors.getD usage)
  pure r.status.toUInt32

end ClusterPanel.Machine

def main (args : List String) : IO UInt32 := ClusterPanel.Machine.run args
