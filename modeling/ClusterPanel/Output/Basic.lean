import ClusterPanel.Json.Printer
import ClusterPanel.Time.Instant

/- What a command shows: a JSON value for scripts, and a text for people. The JSON form is written over several lines
   and ends with a line feed. -/
namespace ClusterPanel

open Json Time

inductive Format where
  | table
  | json
deriving DecidableEq, Repr

def Format.name : Format → String
  | table => "table"
  | json => "json"

/-- The time at which something is shown, and the zone in which times are shown, in seconds east of Greenwich. -/
structure Clock where
  now : Instant
  zone : Int := 0
deriving DecidableEq, Repr

/-- A text with the end of its line. -/
def line (s : String) : String := s ++ "\n"

structure Shown where
  value : Value
  table : String

def Shown.text (f : Format) (s : Shown) : String :=
  match f with
  | .json => line s.value.pretty
  | .table => s.table

end ClusterPanel
