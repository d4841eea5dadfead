import ClusterPanel.Json.Value
import ClusterPanel.Json.Fault

/- Writing JSON. `Value.compact` puts nothing between the parts; `Value.pretty` gives each item a line of its own,
   two spaces deeper than its list. A string escapes the quote, the backslash and the controls below U+0020 and
   keeps every other character. -/
namespace ClusterPanel.Json

open Text Number

/-- A digit of base sixteen, small letters. -/
def hexDigit (n : Nat) : Char := if n < 10 then Char.ofNat (48 + n) else Char.ofNat (87 + n)

/-- A character as it stands inside of a string. -/
def escapeChar (c : Char) : List Char :=
  if c = '"' then ['\\', '"']
  else if c = '\\' then ['\\', '\\']
  else if c.toNat = 0x08 then ['\\', 'b']
  else if c.toNat = 0x0C then ['\\', 'f']
  else if c.toNat = 0x0A then ['\\', 'n']
  else if c.toNat = 0x0D then ['\\', 'r']
  else if c.toNat = 0x09 then ['\\', 't']
  else if c.toNat < 0x20 then ['\\', 'u', '0', '0', hexDigit (c.toNat / 16), hexDigit (c.toNat % 16)]
  else [c]

def printString (s : String) : List Char := '"' :: s.toList.flatMap escapeChar ++ ['"']

def Numeric.print : Numeric → List Char
  | int i => integerNumeral i
  | double x => doubleText x
  | single x => singleText x

def Value.printScalar : Value → List Char
  | .null => ['n', 'u', 'l', 'l']
  | .bool true => ['t', 'r', 'u', 'e']
  | .bool false => ['f', 'a', 'l', 's', 'e']
  | .number n => n.print
  | .string s => printString s
  | .array _ => []
  | .object _ => []

mutual

/-- A value without blanks. -/
def Value.print : Value → List Char
  | .array [] => ['[', ']']
  | .array (v :: vs) => '[' :: v.print ++ printItems vs ++ [']']
  | .object [] => ['\x7b', '\x7d']
  | .object ((k, v) :: ms) => '\x7b' :: printString k ++ ':' :: v.print ++ printMembers ms ++ ['\x7d']
  | .null => ['n', 'u', 'l', 'l']
  | .bool b => Value.printScalar (.bool b)
  | .number n => n.print
  | .string s => printString s

def printItems : List Value → List Char
  | [] => []
  | v :: vs => ',' :: v.print ++ printItems vs

def printMembers : List (String × Value) → List Char
  | [] => []
  | (k, v) :: ms => ',' :: printString k ++ ':' :: v.print ++ printMembers ms

end

/-- A line feed and two spaces for each level. -/
def indent (level : Nat) : List Char := '\n' :: List.replicate (2 * level) ' '

mutual

/-- A value with its items on lines of their own, within a list of the given level. -/
def Value.printPretty (level : Nat) : Value → List Char
  | .array [] => ['[', ']']
  | .array (v :: vs) =>
    '[' :: indent (level + 1) ++ v.printPretty (level + 1) ++ printPrettyItems (level + 1) vs ++ indent level ++ [']']
  | .object [] => ['\x7b', '\x7d']
  | .object ((k, v) :: ms) =>
    '\x7b' :: indent (level + 1) ++ printString k ++ ':' :: ' ' :: v.printPretty (level + 1) ++
      printPrettyMembers (level + 1) ms ++ indent level ++ ['\x7d']
  | .null => ['n', 'u', 'l', 'l']
  | .bool b => Value.printScalar (.bool b)
  | .number n => n.print
  | .string s => printString s

def printPrettyItems (level : Nat) : List Value → List Char
  | [] => []
  | v :: vs => ',' :: indent level ++ v.printPretty level ++ printPrettyItems level vs

def printPrettyMembers (level : Nat) : List (String × Value) → List Char
  | [] => []
  | (k, v) :: ms =>
    ',' :: indent level ++ printString k ++ ':' :: ' ' :: v.printPretty level ++ printPrettyMembers level ms

end

/-- The value without blanks. -/
def Value.compact (v : Value) : String := .ofList v.print

/-- The value with its items on lines of their own. -/
def Value.pretty (v : Value) : String := .ofList (v.printPretty 0)

end ClusterPanel.Json
