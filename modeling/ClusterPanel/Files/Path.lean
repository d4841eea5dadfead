import ClusterPanel.Text.Utf8

/- Paths. A path is looked up step by step, where a step is a name, `.` or `..`; empty steps count for nothing.
   Some operations look at the text of a path alone: its parts (`Path.parts`), which leave out every `.` but one
   that a relative path starts with, the path above it (`Path.parent?`), its last name (`Path.name?`) and the path
   beside it under another name (`Path.beside`). -/
namespace ClusterPanel.Files

open Text

/-- A path, as the steps from the root or from the working directory. -/
structure Path where
  absolute : Bool := false
  steps : List String := []
  /-- Whether a slash stands at its end. -/
  closed : Bool := false
deriving DecidableEq, Repr

/-- The texts between the slashes of a text. -/
def splitSlashes : List Char → List (List Char)
  | [] => [[]]
  | c :: s =>
    if c = '/' then [] :: splitSlashes s
    else
      match splitSlashes s with
      | [] => [[c]]
      | a :: r => (c :: a) :: r

namespace Path

def ofText (text : String) : Path where
  absolute := text.toList.head? == some '/'
  steps := ((splitSlashes text.toList).filter (· ≠ [])).map String.ofList
  closed := text.toList.getLast? == some '/'

def text (p : Path) : String :=
  (if p.absolute then "/" else "") ++ "/".intercalate p.steps ++ (if p.closed && !p.steps.isEmpty then "/" else "")

/-- The steps that count when only the text is looked at. -/
def parts (p : Path) : List String :=
  match p.steps with
  | [] => []
  | s :: r => (if s = "." && p.absolute then [] else [s]) ++ r.filter (· ≠ ".")

/-- The last name of a path, if its last part is one. -/
def name? (p : Path) : Option String := p.parts.getLast?.filter fun s => s ≠ "." && s ≠ ".."

/-- The path above, if there is a part to leave out. -/
def parent? (p : Path) : Option Path :=
  if p.parts.isEmpty then none else some { absolute := p.absolute, steps := p.parts.dropLast }

/-- The path with another last name. Where the last part is no name, the name is added. -/
def beside (p : Path) (name : String) : Path where
  absolute := p.absolute
  steps := (if p.name?.isSome then p.parts.dropLast else p.parts) ++ [name]

/-- The path of a name within a directory. -/
def within (dir : Path) (name : String) : Path where
  absolute := dir.absolute
  steps := dir.steps ++ [name]

end Path

end ClusterPanel.Files
