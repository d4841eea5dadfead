import ClusterPanel.Arguments.Reading

/- What the program is called with: the global options, and the command to be run. -/
namespace ClusterPanel

open Arguments Text

inductive Command where
  | login (username password : String)
  | logout
  | whoami
  | listJobs (status : Option JobStatus)
  | getJob (id : String)
  | jobStatus (id : String)
  | jobEvents (id : String)
  | submitJob (file : String)
  | listInstances
  | getInstance (id : String)
  | listNodes
  | getNode (id : String)
  | nodeHealth (id : String)
  | statistics
deriving DecidableEq, Repr

/-- A call of the program. The timeout counts seconds. -/
structure Invocation where
  url : String
  timeout : Nat
  sessionFile : Option String
  format : Format
  command : Command
deriving DecidableEq, Repr

def bare : Grammar := .command [] [] false []

def withValue (name : String) (kind : ValueKind) : Grammar := .command [] [{ name, kind, required := true }] false []

def group (commands : List (String × Grammar)) : Grammar := .command [] [] false commands

def loginGrammar : Grammar :=
  .command [{ name := "username", required := true }, { name := "password", required := true }] [] false []

def listJobsGrammar : Grammar := .command [{ name := "status", kind := .status, letter := some 's' }] [] false []

def jobsGrammar : Grammar :=
  group
    [("list", listJobsGrammar), ("get", withValue "id" .text), ("status", withValue "id" .text),
     ("events", withValue "id" .text), ("submit", withValue "file" .path)]

def instancesGrammar : Grammar := group [("list", bare), ("get", withValue "id" .text)]

def nodesGrammar : Grammar := group [("list", bare), ("get", withValue "id" .text), ("health", withValue "id" .text)]

/-- The options that come before the command. -/
def globalOptions : List Argument :=
  [{ name := "url", letter := some 'u', standIn := some urlVariable },
   { name := "session-file", kind := .path, standIn := some sessionFileVariable },
   { name := "timeout", kind := .wholeNumber, standIn := some timeoutVariable },
   { name := "format", kind := .format, letter := some 'f' }]

def programGrammar : Grammar :=
  .command globalOptions [] true
    [("login", loginGrammar), ("logout", bare), ("whoami", bare), ("jobs", jobsGrammar),
     ("instances", instancesGrammar), ("nodes", nodesGrammar), ("stats", bare)]

/-- What the program is called. -/
def programName : String := "centroctl"

def programVersion : String := "0.1.0"

/-- How a command line is made up. -/
def usage : String :=
  line ("Usage: " ++ programName ++ " [OPTIONS] <COMMAND>") ++
    line ("Options: " ++ ", ".intercalate (globalOptions.map fun a => "--" ++ a.name)) ++
    line ("Commands: " ++ ", ".intercalate (programGrammar.commands.map (·.1)))

/-- The command that a command line names. -/
def Command.ofLine (l : Line) : Option Command :=
  let value (name : String) : String := (valueOf? name l.values).getD ""
  match l.path with
  | ["login"] => some (.login (value "username") (value "password"))
  | ["logout"] => some .logout
  | ["whoami"] => some .whoami
  | ["jobs", "list"] => some (.listJobs ((valueOf? "status" l.values).bind JobStatus.ofText?))
  | ["jobs", "get"] => some (.getJob (value "id"))
  | ["jobs", "status"] => some (.jobStatus (value "id"))
  | ["jobs", "events"] => some (.jobEvents (value "id"))
  | ["jobs", "submit"] => some (.submitJob (value "file"))
  | ["instances", "list"] => some .listInstances
  | ["instances", "get"] => some (.getInstance (value "id"))
  | ["nodes", "list"] => some .listNodes
  | ["nodes", "get"] => some (.getNode (value "id"))
  | ["nodes", "health"] => some (.nodeHealth (value "id"))
  | ["stats"] => some .statistics
  | _ => none

namespace Invocation

/-- The call that a command line describes. -/
def ofArguments (e : Environment) (args : List String) : Except Arguments.Fault Invocation := do
  let l ← Arguments.read e programGrammar args
  match Command.ofLine l with
  | none => throw .missingCommand
  | some command =>
    pure
      { url := (valueOf? "url" l.values).getD (Config.usual e).baseUrl
        timeout := ((valueOf? "timeout" l.values).bind fun v => wholeNumber? v.toList).getD
          ((Config.usual e).timeout / 1000)
        sessionFile := valueOf? "session-file" l.values
        format := if valueOf? "format" l.values = some Format.json.name then .json else .table
        command }

/-- The configuration that a call asks for. -/
def config (e : Environment) (i : Invocation) : Config :=
  { Config.usual e with
    baseUrl := i.url
    timeout := i.timeout * 1000
    sessionPath := i.sessionFile.or (Config.usual e).sessionPath }

end Invocation

end ClusterPanel
