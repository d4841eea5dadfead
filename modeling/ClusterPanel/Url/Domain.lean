import ClusterPanel.Text.Utf8
import ClusterPanel.Url.DomainCharacters
import ClusterPanel.Url.Punycode

/- Domain names. A name is brought into one form, in which capitals are small letters, some characters are replaced
   and some are left out; it is refused if a character is, or if one of its labels breaks the rules: a label does not
   begin with a mark, its joiners follow a joining sign, one written in Punycode stands for a text in the one form,
   and where some label is written from right to left no label mixes the directions. -/
namespace ClusterPanel.Url

open Text

/-- A value of a digit in base sixteen. -/
def hexDigit? (c : Char) : Option Nat :=
  if '0' ≤ c ∧ c ≤ '9' then some (c.toNat - 48)
  else if 'a' ≤ c ∧ c ≤ 'f' then some (c.toNat - 87)
  else if 'A' ≤ c ∧ c ≤ 'F' then some (c.toNat - 55)
  else none

/-- The bytes of a text in which a percent sign and two digits stand for a byte. -/
def percentDecoded : List Char → List UInt8
  | '%' :: a :: b :: s =>
    match hexDigit? a, hexDigit? b with
    | some x, some y => .ofNat (16 * x + y) :: percentDecoded s
    | _, _ => .ofNat 0x25 :: percentDecoded (a :: b :: s)
  | c :: s => Utf8.encodeChar c ++ percentDecoded s
  | [] => []

/-- An ASCII character that no domain name holds. -/
def isForbidden (c : Char) : Bool :=
  c.toNat ≤ 32 || c.toNat == 127 ||
    ['%', '#', '/', ':', '<', '>', '?', '@', '[', '\\', ']', '^', '|'].contains c

def isAscii (c : Char) : Bool := c.toNat < 128

/-- The ASCII character of which `c` is the wide form. -/
def narrow? (c : Char) : Option Char :=
  if 0xFF01 ≤ c.toNat ∧ c.toNat ≤ 0xFF5E then some (Char.ofNat (c.toNat - 0xFEE0)) else none

/-- What stands for a character in the one form; none if it is refused. -/
def canonicalChar? (c : Char) : Option (List Char) :=
  if isAscii c then if isForbidden c then none else some [c.toLower]
  else if c.toNat = 0x3002 ∨ c.toNat = 0xFF61 then some ['.']
  else
    match narrow? c with
    | some d => if isForbidden d then none else some [d.toLower]
    | none =>
      if inRanges ignoredRanges c then some [] else if inRanges refusedRanges c then none else some [c]

/-- The one form of a name. -/
def canonical? (s : List Char) : Option (List Char) := (s.mapM canonicalChar?).map List.flatten

/-- The texts between the dots. -/
def splitDots : List Char → List (List Char)
  | [] => [[]]
  | c :: s =>
    if c = '.' then [] :: splitDots s
    else
      match splitDots s with
      | [] => [[c]]
      | a :: r => (c :: a) :: r

/-- A character that stands for itself in the one form. -/
def isCanonical (c : Char) : Bool := canonicalChar? c == some [c] && !isReplaced c

/-- Whether every joiner follows a joining sign. -/
def joinersAllowed : List Char → Bool
  | [] => true
  | [_] => true
  | a :: b :: s =>
    (b.toNat ≠ 0x200C && b.toNat ≠ 0x200D || joiningSigns.contains a.toNat) && joinersAllowed (b :: s)

/-- The direction of writing that a character has. -/
inductive Direction where
  | left
  | right
  | number
  | arabicNumber
  | mark
  | neutral
deriving DecidableEq, Repr

def direction (c : Char) : Direction :=
  if c.isDigit || 0x6F0 ≤ c.toNat && c.toNat ≤ 0x6F9 then .number
  else if isAscii c then if c.isAlpha then .left else .neutral
  else if inRanges markRanges c then .mark
  else if inRanges arabicNumberRanges c then .arabicNumber
  else if inRanges rightToLeftRanges c then .right
  else .left

/-- Whether a label runs in one direction, by its first character. -/
def runsOneWay (label : List Char) : Bool :=
  let ds := label.map direction
  let last := (ds.reverse.dropWhile (· == .mark)).head?
  match ds.head? with
  | none => true
  | some .right =>
    !ds.contains .left && !(ds.contains .number && ds.contains .arabicNumber) &&
      (last == some .right || last == some .number || last == some .arabicNumber)
  | some .left => !ds.contains .right && !ds.contains .arabicNumber && (last == some .left || last == some .number)
  | some _ => false

/-- Whether a label has characters that are written from right to left. -/
def isRightToLeft (label : List Char) : Bool :=
  label.any fun c => direction c == .right || direction c == .arabicNumber

/-- Labels beyond ASCII have at most this many characters. -/
def labelLimit : Nat := 1000

/-- Labels in Punycode have at most this many characters. -/
def punycodeLabelLimit : Nat := 2000

/-- The mark of a label that is written in Punycode. -/
def punycodeMark : List Char := ['x', 'n', '-', '-']

/-- Whether a text beyond ASCII may be a label. -/
def isLabelText (s : List Char) : Bool :=
  s.length ≤ labelLimit && !(s.head?.any fun c => inRanges markRanges c || c.toNat = 0x200C || c.toNat = 0x200D) &&
    joinersAllowed s

/-- The text that a label stands for, if it is one. -/
def labelText? (label : List Char) : Option (List Char) :=
  if punycodeMark.isPrefixOf label then
    if label.length ≤ punycodeLabelLimit + 4 && label.all isAscii then
      match punycodeText? (label.drop 4) with
      | some s => if !s.all isAscii && s.all isCanonical && isLabelText s then some s else none
      | none => none
    else none
  else if label.all isAscii then some label
  else if isLabelText label then some label
  else none

/-- The labels of the one form of a name, unless the name is refused. -/
def domainLabels? (name : List UInt8) : Option (List (List Char)) := do
  let s ← Utf8.decode name
  let form ← canonical? s
  let labels := splitDots form
  let texts ← labels.mapM labelText?
  if texts.any isRightToLeft && !texts.all runsOneWay then none else some labels

end ClusterPanel.Url
