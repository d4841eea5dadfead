import ClusterPanel.Arguments.Grammar

/- Reading a command line from left to right. A value that stands in an argument of its own is taken as it is and
   looked at only when the next option, or the next positional value, or the end of the line comes; a fault that is
   met before that wins. A value attached to its option is looked at where it stands. After two hyphens all
   arguments are positional. Variables stand in for options that are not given, and are looked at last. -/
namespace ClusterPanel.Arguments

/-- The commands that were named, outermost first, and the values that were given. -/
structure Line where
  path : List String := []
  values : List (String × String) := []
deriving DecidableEq, Repr

/-- How far the reading of one command has come: the values that were looked at, an argument whose value was not,
    whether its value is the next argument, the positional values still to come, and whether only those follow. -/
structure Progress where
  values : List (String × String) := []
  pending : Option (Argument × Option String) := none
  awaiting : Bool := false
  positionals : List Argument := []
  positionalOnly : Bool := false

def valueOf? (name : String) (values : List (String × String)) : Option String :=
  (values.find? (·.1 = name)).map (·.2)

namespace Progress

/-- Looks at a value and keeps it. No argument is given twice. -/
def keep (a : Argument) (value : String) (p : Progress) : Except Fault Progress :=
  if (valueOf? a.name p.values).isSome then .error .repeated
  else do
    a.kind.check value
    pure { p with values := p.values ++ [(a.name, value)] }

/-- Looks at the value that is pending. -/
def settle (p : Progress) : Except Fault Progress :=
  match p.pending with
  | none => .ok p
  | some (_, none) => .error .invalidValue
  | some (a, some value) => keep a value { p with pending := none }

/-- Takes an option whose value is attached, or else is the next argument. -/
def takeOption (a : Argument) (value : Option String) (p : Progress) : Except Fault Progress := do
  let p ← p.settle
  match value with
  | some v => keep a v { p with awaiting := false }
  | none => pure { p with pending := some (a, none), awaiting := true }

end Progress

/-- What stands before the first equals sign, and after it if there is one. -/
def splitEquals : List Char → List Char × Option (List Char)
  | [] => ([], none)
  | c :: s => if c = '=' then ([], some s) else ((c :: (splitEquals s).1), (splitEquals s).2)

/-- What the argument of a long name does. -/
def readLong (g : Grammar) (s : List Char) (p : Progress) : Except Fault Progress :=
  let name := String.ofList (splitEquals s).1
  let value := (splitEquals s).2.map String.ofList
  match g.option? name with
  | some a => p.takeOption a value
  | none =>
    if name = "help" || g.versioned && name = "version" then
      if value.isSome then .error .unneededValue
      else do
        let _ ← p.settle
        throw (if name = "help" then .displayHelp else .displayVersion)
    else .error .unknownArgument

/-- What the argument of a letter does; what follows the letter is its value. -/
def readLetter (g : Grammar) (c : Char) (s : List Char) (p : Progress) : Except Fault Progress :=
  match g.letter? c with
  | some a =>
    match s with
    | [] => p.takeOption a none
    | '=' :: v => p.takeOption a (some (String.ofList v))
    | v => p.takeOption a (some (String.ofList v))
  | none =>
    if c = 'h' || g.versioned && c = 'V' then do
      let _ ← p.settle
      throw (if c = 'h' then .displayHelp else .displayVersion)
    else .error .unknownArgument

/-- The fault of an argument that has no place. -/
def misplaced (g : Grammar) (arg : String) (p : Progress) : Fault :=
  if g.commands.isEmpty || p.positionalOnly && g.isCommand arg then .unknownArgument else .unknownCommand

/-- What an argument does that names no option. -/
def readPlain (g : Grammar) (arg : String) (p : Progress) : Except Fault Progress :=
  match p.positionals with
  | [] => .error (misplaced g arg p)
  | a :: rest => do
    let p ← p.settle
    pure { p with pending := some (a, some arg), positionals := rest }

/-- What an argument does that is neither a command nor behind two hyphens. -/
def readArgument (g : Grammar) (arg : String) (p : Progress) : Except Fault Progress :=
  match arg.toList with
  | '-' :: '-' :: s => if s.isEmpty then .ok { p with positionalOnly := true } else readLong g s p
  | '-' :: c :: s => readLetter g c s p
  | _ =>
    match p.awaiting, p.pending with
    | true, some (a, _) => .ok { p with pending := some (a, some arg), awaiting := false }
    | _, _ => readPlain g arg p

/-- The values of the variables that stand for options which are not given. -/
def valuesOfVariables (e : Environment) (g : Grammar) (values : List (String × String)) :
    Except Fault (List (String × String)) :=
  g.options.foldlM (fun more a =>
    match a.standIn.bind e.value? with
    | none => pure more
    | some v =>
      if (valueOf? a.name values).isSome then pure more
      else do
        a.kind.check v
        pure (more ++ [(a.name, v)])) []

/-- Ends the reading of a command; `inner` is what was read of the command in it. -/
def finish (e : Environment) (g : Grammar) (inner : Option Line) (p : Progress) : Except Fault Line := do
  let p ← p.settle
  let values := p.values ++ (← valuesOfVariables e g p.values)
  match inner with
  | some l => pure { l with values := values ++ l.values }
  | none =>
    if !g.commands.isEmpty then throw (if values.isEmpty then .nothingSaid else .missingCommand)
    else if (g.options ++ g.positionals).any fun a => a.required && (valueOf? a.name values).isNone then
      throw .missingRequired
    else pure { values }

/-- What becomes of a question about commands, which are named one within the other. -/
def readHelp (g : Grammar) : List String → Fault
  | [] => .displayHelp
  | arg :: rest =>
    if !g.isCommand arg then .unknownCommand
    else
      match g.command? arg with
      | some inner => readHelp inner rest
      | none => if rest.isEmpty then .displayHelp else .unknownCommand

def readCommand (e : Environment) (g : Grammar) (p : Progress) : List String → Except Fault Line
  | [] => finish e g none p
  | arg :: rest =>
    if p.positionalOnly then do readCommand e g (← readPlain g arg p) rest
    else if !p.awaiting && g.isCommand arg then
      match g.command? arg with
      | none => .error (readHelp g rest)
      | some inner => do
        let l ← readCommand e inner { positionals := inner.positionals } rest
        finish e g (some { l with path := arg :: l.path }) p
    else do readCommand e g (← readArgument g arg p) rest

def read (e : Environment) (g : Grammar) (args : List String) : Except Fault Line :=
  readCommand e g { positionals := g.positionals } args

end ClusterPanel.Arguments
