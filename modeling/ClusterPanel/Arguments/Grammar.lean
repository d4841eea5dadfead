import ClusterPanel.Config
import ClusterPanel.Job.Status
import ClusterPanel.Output.Basic

/- What may stand on a command line. A command has options, each with a value, then either positional values or
   commands of its own; the innermost command that is named is the one that is meant. -/
namespace ClusterPanel.Arguments

/-- What is wrong with a command line, or that it asks to be told about the program. -/
inductive Fault where
  | displayHelp
  | displayVersion
  | nothingSaid
  | missingCommand
  | missingRequired
  | invalidValue
  | refusedValue
  | unknownArgument
  | unknownCommand
  | repeated
  | unneededValue
deriving DecidableEq, Repr

inductive ValueKind where
  | text
  | path
  | wholeNumber
  | format
  | status
deriving DecidableEq, Repr

/-- Whether a text is a value of a kind. -/
def ValueKind.check (kind : ValueKind) (value : String) : Except Fault Unit :=
  match kind with
  | text => .ok ()
  | path => if value.isEmpty then .error .invalidValue else .ok ()
  | wholeNumber => if (wholeNumber? value.toList).isSome then .ok () else .error .refusedValue
  | format => if value = Format.table.name ∨ value = Format.json.name then .ok () else .error .invalidValue
  | status => if (JobStatus.ofText? value).isSome then .ok () else .error .refusedValue

/-- An option or a positional value: its name, and the letter and the variable that may stand in for it. -/
structure Argument where
  name : String
  kind : ValueKind := .text
  letter : Option Char := none
  standIn : Option String := none
  required : Bool := false
deriving DecidableEq, Repr

/-- A command: its options, its positional values in order, whether it tells its version, and its own commands. -/
inductive Grammar where
  | command (options positionals : List Argument) (versioned : Bool) (commands : List (String × Grammar))

namespace Grammar

def options : Grammar → List Argument
  | command o _ _ _ => o

def positionals : Grammar → List Argument
  | command _ p _ _ => p

def versioned : Grammar → Bool
  | command _ _ v _ => v

def commands : Grammar → List (String × Grammar)
  | command _ _ _ c => c

def option? (name : String) (g : Grammar) : Option Argument := g.options.find? (·.name = name)

def letter? (letter : Char) (g : Grammar) : Option Argument := g.options.find? (·.letter = some letter)

def command? (name : String) (g : Grammar) : Option Grammar := (g.commands.find? (·.1 = name)).map (·.2)

/-- The name of the command that tells about commands. -/
def helpName : String := "help"

/-- Whether a name is that of a command. Where there are commands, one of them tells about the others. -/
def isCommand (name : String) (g : Grammar) : Bool :=
  !g.commands.isEmpty && (name = helpName || (g.command? name).isSome)

end Grammar

end ClusterPanel.Arguments
