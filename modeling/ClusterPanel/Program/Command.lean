import ClusterPanel.Client.Calls
import ClusterPanel.Output.Document
import ClusterPanel.Output.Report
import ClusterPanel.Program.Invocation

/- Running a command. A command is made of parts that look at its arguments, call the backend and write, one after the
   other (`CommandM`); what a part did with the client and what it wrote stays when a later one stops short. What is
   wrong with the arguments is found before any request is sent, and what is shown is written at the end. -/
namespace ClusterPanel

open Text Time

inductive CommandFault where
  | api (failure : Failure)
  | config (fault : ConfigFault)
  | invalidArgument (reason : String)
  | io (fault : Files.Fault)
deriving DecidableEq, Repr

namespace CommandFault

def message : CommandFault → String
  | api f => f.message
  | config f => "configuration error: " ++ f.message
  | invalidArgument reason => "invalid argument: " ++ reason
  | io f => "IO error: " ++ f.message

/-- Whether the session was cleared. -/
def isUnauthorized : CommandFault → Bool
  | api f => f.isUnauthorized
  | _ => false

end CommandFault

/-- An identifier without the blanks around it; `noun` says what it identifies. -/
def requireId (noun id : String) : Except CommandFault String :=
  if isBlankText id then .error (.invalidArgument (noun ++ " ID cannot be empty")) else .ok (trimText id)

/-- The submission in a file. Its job has to have a name. -/
def readSubmission (t : Files.Tree) (file : String) : Except CommandFault JobSubmission := do
  let raw ← (t.readText (.ofText file)).mapError .io
  match JobSubmission.ofBytes (bytesOf raw) with
  | .error f => throw (.invalidArgument (file ++ ": not a job submission: " ++ f.message (bytesOf raw)))
  | .ok s => if isBlankText s.jobName then throw (.invalidArgument (file ++ ": job_name is required")) else pure s

/-- What is shown of a session that was opened for a user. -/
def Session.opened (f : Format) (clock : Clock) (username : String) (s : Session) : Shown :=
  match f with
  | .json => s.shown clock
  | .table =>
    let expiry := showAbsolute s.expiryText clock.zone
    Message.shown ⟨"Logged in as " ++ s.username.getD username ++ " (expires " ++ expiry ++ ")", true⟩

/-- Why a command stops short: a fault, or a crash. -/
inductive Halt where
  | failed (fault : CommandFault)
  | crashed

/-- What a command works with: the client, and what was written so far. -/
structure Console where
  client : Client
  output : String := ""

/-- A command, or a part of one. If it stops short, what it did with the client and what it wrote stays. -/
abbrev CommandM := ExceptT Halt (StateM Console)

namespace CommandM

variable {α : Type}

/-- What comes of a part of a command, and the console that it leaves. -/
def start (m : CommandM α) (t : Console) : Except Halt α × Console := m.run.run t

def fail (fault : CommandFault) : CommandM α := throw (.failed fault)

def ofExcept (r : Except CommandFault α) : CommandM α :=
  match r with
  | .ok x => pure x
  | .error fault => fail fault

/-- Does something with the client alone. -/
def withClient (g : Client → α × Client) : CommandM α :=
  modifyGet fun t => ((g t.client).1, { t with client := (g t.client).2 })

/-- Calls the backend. A call that fails stops the command. -/
def call (g : Client → Except Failure α × Client) : CommandM α := do
  let r ← withClient g
  ofExcept (r.mapError .api)

/-- Writes something after what was written before. -/
def present (f : Format) (s : Shown) : CommandM Shown := do
  modify fun t => { t with output := t.output ++ s.text f }
  pure s

/-- Calls the backend and shows the answer. -/
def ask (f : Format) (show_ : α → Shown) (g : Client → Except Failure α × Client) : CommandM Shown := do
  let answer ← call g
  present f (show_ answer)

def login (f : Format) (clock : Clock) (username password : String) : CommandM Shown := do
  if isBlankText username then fail (.invalidArgument "username cannot be empty")
  else
    match ← call (Client.login ⟨username, password⟩ clock.now) with
    | none => throw .crashed
    | some s => present f (s.opened f clock username)

def logout (f : Format) : CommandM Shown := do
  let t ← get
  withClient fun c => ((), c.logout)
  let message : Message :=
    if t.client.store.current.isAuthenticated then ⟨"Logged out", true⟩ else ⟨"Not logged in", false⟩
  present f message.shown

def whoami (f : Format) (clock : Clock) : CommandM Shown := do
  let t ← get
  present f (t.client.store.current.shown clock)

/-- Reads a resource and shows it. -/
def showResource (f : Format) (clock : Clock) (r : Resource) : CommandM Shown :=
  ask f (fun v => v.shown clock) (Client.get r)

def showEvents (f : Format) (clock : Clock) (id : String) : CommandM Shown :=
  ask f (fun e => e.shown clock) (Client.jobEvents id)

def withId (noun id : String) (k : String → CommandM Shown) : CommandM Shown := do
  let id ← ofExcept (requireId noun id)
  k id

/-- Submits the job that a file describes. -/
def submit (f : Format) (clock : Clock) (file : String) : CommandM Shown := do
  let t ← get
  let s ← ofExcept (readSubmission t.client.store.storage.tree file)
  ask f (fun v => v.shown clock) (Client.submit (.ok s.toValue))

end CommandM

/-- What a command does; it comes to what it shows. -/
def Command.perform (f : Format) (clock : Clock) : Command → CommandM Shown
  | .login username password => .login f clock username password
  | .logout => .logout f
  | .whoami => .whoami f clock
  | .listJobs status => .showResource f clock (.jobs status)
  | .getJob id => .withId "job" id fun id => .showResource f clock (.job id)
  | .jobStatus id => .withId "job" id fun id => .showResource f clock (.jobStatus id)
  | .jobEvents id => .withId "job" id fun id => .showEvents f clock id
  | .submitJob file => .submit f clock file
  | .listInstances => .showResource f clock .instances
  | .getInstance id => .withId "instance" id fun id => .showResource f clock (.instanceOf id)
  | .listNodes => .showResource f clock .nodes
  | .getNode id => .withId "node" id fun id => .showResource f clock (.node id)
  | .nodeHealth id => .withId "node" id fun id => .showResource f clock (.nodeHealth id)
  | .statistics => .showResource f clock .statistics

/-- How a command ends: with something shown, with a fault, or in a crash. -/
inductive Ending where
  | shown (output : Shown)
  | failed (fault : CommandFault)
  | crashed

def Ending.of (r : Except Halt Shown) : Ending :=
  match r with
  | .ok s => .shown s
  | .error (.failed fault) => .failed fault
  | .error .crashed => .crashed

/-- What a run comes to: how it ends, the client that it leaves, and what it wrote, however it ended. -/
structure CommandRun (γ : Type) where
  ending : Ending
  client : γ
  output : String

/-- Runs a command from the start, with nothing written. -/
def CommandM.runOn (m : CommandM Shown) (c : Client) : CommandRun Client :=
  let r := m.start ⟨c, ""⟩
  ⟨.of r.1, r.2.client, r.2.output⟩

def Client.run (f : Format) (clock : Clock) (c : Client) (cmd : Command) : CommandRun Client :=
  (cmd.perform f clock).runOn c

/-- The world that a program runs in: its environment, the files, the replies of the network, and the clock. -/
structure World where
  environment : Environment := {}
  tree : Files.Tree
  replies : List Http.Reply := []
  clock : Clock

/-- Runs the command of a call. If the configuration cannot be used there is no client, and nothing is written. -/
def Invocation.run (w : World) (i : Invocation) : CommandRun (Option Client) :=
  match Client.ofConfig (i.config w.environment) w.tree w.replies with
  | .error e => ⟨.failed (.config e), none, ""⟩
  | .ok c =>
    let r := c.run i.format w.clock i.command
    ⟨r.ending, some r.client, r.output⟩

/-- What a run of the program leaves: its status, what it wrote, and the files. Nothing is said of what it writes
    when the command line is wrong. -/
structure Result where
  status : Nat
  output : String := ""
  errors : Option String := some ""
  tree : Files.Tree

def CommandFault.report (f : CommandFault) : String :=
  line ("Error: " ++ f.message) ++
    if f.isUnauthorized then line "Session cleared; run `centroctl login` again." else ""

/-- The status of a run whose command line is wrong. -/
def usageStatus : Nat := 2

/-- The status of a run that crashed. -/
def crashStatus : Nat := 101

def runProgram (w : World) (args : List String) : Result :=
  match Invocation.ofArguments w.environment args with
  | .error .displayHelp => { status := 0, output := usage, tree := w.tree }
  | .error .displayVersion => { status := 0, output := line (programName ++ " " ++ programVersion), tree := w.tree }
  | .error _ => { status := usageStatus, errors := none, tree := w.tree }
  | .ok i =>
    let r := i.run w
    let tree := (r.client.map fun c => c.store.storage.tree).getD w.tree
    match r.ending with
    | .shown _ => { status := 0, output := r.output, tree }
    | .failed f => { status := 1, output := r.output, errors := some f.report, tree }
    | .crashed => { status := crashStatus, output := r.output, tree }

end ClusterPanel
