import ClusterPanel.Number.Shortest
import ClusterPanel.Text.Quoted

/- Why a text is not the JSON that was asked for, and where. A fault counts the bytes that were left when it was
   found, so that readers need not know what stood before them; `Fault.message` turns the count into line and
   column of the whole text. -/
namespace ClusterPanel.Json

open Text Number

/-- Texts are read as bytes. -/
abbrev Bytes := List UInt8

/-- What stood where something else was expected. -/
inductive Found where
  | null
  | bool (b : Bool)
  | int (i : Int)
  | double (x : Binary)
  | string (s : String)
  | list
  | map

/-- Doubles are written plainly when the exponent of their first digit is in this range. -/
def doubleRange : PlainRange := ⟨-5, 15⟩

def singleRange : PlainRange := ⟨-6, 12⟩

/-- A double as text; an infinite one has none of its own and is `null`. -/
def doubleText (x : Binary) : List Char := (Precision.double.text? doubleRange x).getD ['n', 'u', 'l', 'l']

/-- A number of single precision as text. -/
def singleText (x : Binary) : List Char := (Precision.single.text? singleRange x).getD ['n', 'u', 'l', 'l']

def Found.describe : Found → String
  | null => "null"
  | bool true => "boolean `true`"
  | bool false => "boolean `false`"
  | int i => "integer `" ++ String.ofList (integerNumeral i) ++ "`"
  | double x => "floating point `" ++ String.ofList (doubleText x) ++ "`"
  | string s => "string " ++ quoted s
  | list => "sequence"
  | map => "map"

inductive Cause where
  | endOfList
  | endOfObject
  | endOfString
  | endOfValue
  | expectedColon
  | expectedListEnd
  | expectedObjectEnd
  | expectedWord
  | expectedValue
  | invalidEscape
  | invalidNumber
  | numberOutOfRange
  | invalidCodePoint
  | controlCharacter
  | keyNotString
  | loneSurrogate
  | trailingComma
  | trailingCharacters
  | endOfEscape
  | tooDeep
  | wrongType (found : Found) (expected : String)
  | wrongValue (found : Found) (expected : String)
  | wrongLength (length : Nat) (record : String) (fields : Nat)
  | missingField (name : String)
  | duplicateField (name : String)
  | unknownVariant (name : String) (variants : List String)
  | notAccepted (reason : String)

def Cause.message : Cause → String
  | endOfList => "EOF while parsing a list"
  | endOfObject => "EOF while parsing an object"
  | endOfString => "EOF while parsing a string"
  | endOfValue => "EOF while parsing a value"
  | expectedColon => "expected `:`"
  | expectedListEnd => "expected `,` or `]`"
  | expectedObjectEnd => "expected `,` or `\x7d`"
  | expectedWord => "expected ident"
  | expectedValue => "expected value"
  | invalidEscape => "invalid escape"
  | invalidNumber => "invalid number"
  | numberOutOfRange => "number out of range"
  | invalidCodePoint => "invalid unicode code point"
  | controlCharacter => "control character (\\u0000-\\u001F) found while parsing a string"
  | keyNotString => "key must be a string"
  | loneSurrogate => "lone leading surrogate in hex escape"
  | trailingComma => "trailing comma"
  | trailingCharacters => "trailing characters"
  | endOfEscape => "unexpected end of hex escape"
  | tooDeep => "recursion limit exceeded"
  | wrongType f e => "invalid type: " ++ f.describe ++ ", expected " ++ e
  | wrongValue f e => "invalid value: " ++ f.describe ++ ", expected " ++ e
  | wrongLength n r k =>
    "invalid length " ++ String.ofList (numeral n) ++ ", expected struct " ++ r ++ " with " ++
      String.ofList (numeral k) ++ (if k = 1 then " element" else " elements")
  | missingField n => "missing field `" ++ n ++ "`"
  | duplicateField n => "duplicate field `" ++ n ++ "`"
  | unknownVariant n vs =>
    "unknown variant `" ++ n ++ "`, expected one of " ++ ", ".intercalate (vs.map fun v => "`" ++ v ++ "`")
  | notAccepted reason => reason

/-- A cause, and the number of bytes left behind the place of the fault. -/
structure Fault where
  cause : Cause
  left : Nat

/-- A fault at the front of the text that is left. -/
def Fault.here (c : Cause) (s : Bytes) : Fault := ⟨c, s.length⟩

/-- A fault at the next byte, which counts as read; at the end of the text, there. -/
def Fault.next (c : Cause) (s : Bytes) : Fault := ⟨c, s.length - 1⟩

/-- A line and a column, from the bytes that stand before a place: lines count from 1, and the column is the
    number of bytes since the last line feed. -/
def position : Bytes → Nat × Nat → Nat × Nat
  | [], p => p
  | b :: s, p => position s (if b = 0x0A then (p.1 + 1, 0) else (p.1, p.2 + 1))

/-- The fault in words, for the whole text that was read. -/
def Fault.message (f : Fault) (text : Bytes) : String :=
  let p := position (text.take (text.length - f.left)) (1, 0)
  f.cause.message ++ " at line " ++ String.ofList (numeral p.1) ++ " column " ++ String.ofList (numeral p.2)

end ClusterPanel.Json
