import ClusterPanel.Output.Basic
import ClusterPanel.Time.Display

/- An answer of the backend, shown as it is. In a table, fields and items stand in rows of their own, indented by how
   deep they are nested (`Json.Value.rows`). A list of scalars is one row; a field whose name tells of a time shows
   the time in full and its age. -/
namespace ClusterPanel

open Json Time

/-- What a row begins with: the key of a field, or the dash of an item. -/
inductive RowLabel where
  | field (key : String)
  | item
deriving DecidableEq, Repr

/-- A row of a table. A row without content stands above those of its parts. -/
structure Row where
  depth : Nat
  label : RowLabel
  content : Option String
deriving DecidableEq, Repr

def RowLabel.text : RowLabel → String
  | field key => key ++ ":"
  | item => "-"

/-- The text of a row: two spaces for each level, the label, and the content after a space. -/
def Row.text (r : Row) : String :=
  String.ofList (List.replicate (2 * r.depth) ' ') ++ r.label.text ++
    match r.content with
    | none => ""
    | some s => " " ++ s

/-- A value in a row: a string as it is, `null` as a dash, any other value as JSON. -/
def Json.Value.rowText : Value → String
  | .null => "-"
  | .string s => s
  | v => v.compact

/-- Whether `part` stands somewhere in `s`. -/
def hasPart (part : List Char) : List Char → Bool
  | [] => part.isEmpty
  | c :: s => part.isPrefixOf (c :: s) || hasPart part s

/-- Whether the name of a field tells of a time. -/
def isTimeKey (key : String) : Bool :=
  "_at".toList.isSuffixOf key.toList || hasPart "time".toList key.toList || hasPart "heartbeat".toList key.toList

/-- A time in full with its age; a text that is no time stays as it is. -/
def showTime (clock : Clock) (raw : String) : String :=
  match readTimestamp raw with
  | none => raw
  | some i =>
    if i.isUnset then showAbsolute (some raw) clock.zone
    else showAbsolute (some raw) clock.zone ++ " (" ++ showRelative raw clock.now clock.zone ++ ")"

def fieldText (clock : Clock) (key s : String) : String := if isTimeKey key then showTime clock s else s

mutual

def fieldRows (clock : Clock) (depth : Nat) (key : String) : Value → List Row
  | .object [] => [⟨depth, .field key, some "-"⟩]
  | .object (m :: ms) => ⟨depth, .field key, none⟩ :: memberRows clock (depth + 1) (m :: ms)
  | .array [] => [⟨depth, .field key, some "[]"⟩]
  | .array (v :: vs) =>
    if (v :: vs).all Value.isScalar then
      [⟨depth, .field key, some (", ".intercalate ((v :: vs).map Value.rowText))⟩]
    else ⟨depth, .field key, none⟩ :: itemRows clock (depth + 1) (v :: vs)
  | .string s => [⟨depth, .field key, some (fieldText clock key s)⟩]
  | .null => [⟨depth, .field key, some (Value.rowText .null)⟩]
  | .bool b => [⟨depth, .field key, some (Value.rowText (.bool b))⟩]
  | .number n => [⟨depth, .field key, some (Value.rowText (.number n))⟩]

/-- The rows of the fields of an object. -/
def memberRows (clock : Clock) (depth : Nat) : List (String × Value) → List Row
  | [] => []
  | (key, v) :: ms => fieldRows clock depth key v ++ memberRows clock depth ms

/-- The rows of the items of a list. -/
def itemRows (clock : Clock) (depth : Nat) : List Value → List Row
  | [] => []
  | .object ms :: vs =>
    ⟨depth, .item, none⟩ :: memberRows clock (depth + 1) ms ++ itemRows clock depth vs
  | v :: vs => ⟨depth, .item, some v.rowText⟩ :: itemRows clock depth vs

end

/-- The rows of an answer; none if it is neither an object nor a list. -/
def Json.Value.rows (clock : Clock) : Value → List Row
  | .object ms => memberRows clock 0 ms
  | .array vs => itemRows clock 0 vs
  | _ => []

def Json.Value.table (clock : Clock) (v : Value) : String :=
  match v with
  | .object [] => line "(empty)"
  | .object ms => String.join ((Value.rows clock (.object ms)).map fun r => line r.text)
  | .array vs => String.join ((Value.rows clock (.array vs)).map fun r => line r.text)
  | v => line v.rowText

def Json.Value.shown (clock : Clock) (v : Value) : Shown := ⟨v, v.table clock⟩

end ClusterPanel
