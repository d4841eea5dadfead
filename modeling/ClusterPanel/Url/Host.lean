import ClusterPanel.Text.Blank
import ClusterPanel.Url.Domain

/- Hosts: a domain name, an address of four numbers, or an address in brackets. A name whose last label is a number
   is an address of numbers. -/
namespace ClusterPanel.Url

open Text

inductive Fault where
  | emptyHost
  | domainName
  | port
  | numericAddress
  | bracketedAddress
  | hostCharacter
  | relative
deriving DecidableEq, Repr

def Fault.message : Fault → String
  | emptyHost => "empty host"
  | domainName => "invalid international domain name"
  | port => "invalid port number"
  | numericAddress => "invalid IPv4 address"
  | bracketedAddress => "invalid IPv6 address"
  | hostCharacter => "invalid domain character"
  | relative => "relative URL without a base"

/-! ## Addresses of numbers -/

/-- The value of a text of digits in a base up to sixteen. -/
def valueIn? (base : Nat) (s : List Char) : Option Nat :=
  s.foldlM (fun n c => do
    let d ← hexDigit? c
    if d < base then some (n * base + d) else none) 0

/-- The number that a label is: in base sixteen after `0x`, in base eight after `0`, else in base ten. -/
def labelNumber? : List Char → Option Nat
  | [] => none
  | ['0'] => some 0
  | '0' :: c :: s => if c = 'x' || c = 'X' then valueIn? 16 s else valueIn? 8 (c :: s)
  | s => valueIn? 10 s

/-- The labels without an empty one at the end. -/
def closedLabels (labels : List (List Char)) : List (List Char) :=
  if 1 < labels.length && labels.getLast? == some [] then labels.dropLast else labels

/-- Whether the last label is a number, or has the look of one. -/
def endsInNumber (labels : List (List Char)) : Bool :=
  match (closedLabels labels).getLast? with
  | none => false
  | some label => (!label.isEmpty && label.all isDigit) || (labelNumber? label).isSome

/-- The address that labels are: up to four numbers, of which all but the last are bytes and the last fills the
    bytes that are left. -/
def numericAddress? (labels : List (List Char)) : Option Nat := do
  let numbers ← (closedLabels labels).mapM labelNumber?
  let last ← numbers.getLast?
  let bytes := numbers.dropLast
  if numbers.length ≤ 4 && bytes.all (· < 256) && last < Nat.pow 256 (4 - bytes.length) then
    some (bytes.zipIdx.foldl (fun n (b, i) => n + b * Nat.pow 256 (3 - i)) last)
  else none

/-! ## Addresses in brackets -/

/-- The texts between the colons. -/
def splitColons : List Char → List (List Char)
  | [] => [[]]
  | c :: s =>
    if c = ':' then [] :: splitColons s
    else
      match splitColons s with
      | [] => [[c]]
      | a :: r => (c :: a) :: r

/-- What stands before and after the first two colons in a row. -/
def splitDoubleColon : List Char → Option (List Char × List Char)
  | [] => none
  | [_] => none
  | a :: b :: s =>
    if a = ':' && b = ':' then some ([], s) else (splitDoubleColon (b :: s)).map fun p => (a :: p.1, p.2)

/-- One to four digits in base sixteen. -/
def isGroup (s : List Char) : Bool := !s.isEmpty && s.length ≤ 4 && s.all fun c => (hexDigit? c).isSome

/-- A byte in base ten, without needless zeros. -/
def isByte (s : List Char) : Bool :=
  !s.isEmpty && s.all isDigit && decimalValue s < 256 && (s.length == 1 || s.head? != some '0')

/-- Four bytes with dots between them. -/
def isQuad (s : List Char) : Bool := (splitDots s).length == 4 && (splitDots s).all isByte

/-- How many groups of sixteen bits a list of texts stands for; four bytes may stand at the very end. -/
def groupCount? (final : Bool) : List (List Char) → Option Nat
  | [] => some 0
  | [s] => if isGroup s then some 1 else if final && isQuad s then some 2 else none
  | s :: r => if isGroup s then (groupCount? final r).map (· + 1) else none

/-- The texts between the colons of a part that may be empty. -/
def groupTexts (s : List Char) : List (List Char) := if s.isEmpty then [] else splitColons s

/-- Whether a text is an address: eight groups, or fewer with two colons in the place of one group or more. -/
def isBracketedAddress (s : List Char) : Bool :=
  match splitDoubleColon s with
  | none => groupCount? true (groupTexts s) == some 8
  | some (a, b) =>
    match groupCount? b.isEmpty.not (groupTexts b), groupCount? false (groupTexts a) with
    | some n, some m => n + m ≤ 7
    | _, _ => false

/-! ## Hosts -/

/-- Whether a host is an address in brackets; none if it has no bracket in front. -/
def bracketed? (s : List Char) : Option (Except Fault Unit) :=
  if s.head? = some '[' then
    some (if 1 < s.length && s.getLast? == some ']' && isBracketedAddress (s.drop 1).dropLast then .ok ()
      else .error .bracketedAddress)
  else none

/-- Whether a text is a host of the schemes that name a host by domain or address. -/
def checkHost (s : List Char) : Except Fault Unit :=
  match bracketed? s with
  | some r => r
  | none =>
    match domainLabels? (percentDecoded s) with
    | none => .error .domainName
    | some labels =>
      if labels = [[]] then .error .emptyHost
      else if endsInNumber labels then
        if (numericAddress? labels).isSome then .ok () else .error .numericAddress
      else .ok ()

/-- A character that no host of another scheme holds. -/
def isForbiddenInOpaque (c : Char) : Bool :=
  ['\x00', '\t', '\n', '\r', ' ', '#', '/', ':', '<', '>', '?', '@', '[', '\\', ']', '^', '|'].contains c

/-- Whether a text is a host of another scheme, for which it need not be a domain. -/
def checkOpaqueHost (s : List Char) : Except Fault Unit :=
  match bracketed? s with
  | some r => r
  | none => if s.any isForbiddenInOpaque then .error .hostCharacter else .ok ()

end ClusterPanel.Url
