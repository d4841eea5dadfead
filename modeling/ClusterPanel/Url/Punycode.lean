/- Punycode: text beyond ASCII written with ASCII letters and digits. The ASCII characters of the text come first; after
   the last hyphen, numbers of variable length say which other characters to insert and where. -/
namespace ClusterPanel.Url

/-- The value of a digit: letters of either case for 0 to 25, digits for 26 to 35. -/
def punycodeDigit? (c : Char) : Option Nat :=
  if 'a' ≤ c ∧ c ≤ 'z' then some (c.toNat - 97)
  else if 'A' ≤ c ∧ c ≤ 'Z' then some (c.toNat - 65)
  else if '0' ≤ c ∧ c ≤ '9' then some (c.toNat - 48 + 26)
  else none

/-- Numbers stay below this. -/
def punycodeLimit : Nat := 0x100000000

/-- The threshold of a digit at position `k`, a multiple of 36. -/
def threshold (bias k : Nat) : Nat := if k ≤ bias then 1 else if bias + 26 ≤ k then 26 else k - bias

/-- A number at the front, added to `i`, and what is left. -/
def readDelta (bias : Nat) : List Char → (i weight k : Nat) → Option (Nat × List Char)
  | [], _, _, _ => none
  | c :: s, i, weight, k => do
    let digit ← punycodeDigit? c
    let i := i + digit * weight
    if punycodeLimit ≤ i then none
    else if digit < threshold bias k then some (i, s)
    else if punycodeLimit ≤ weight * (36 - threshold bias k) then none
    else readDelta bias s i (weight * (36 - threshold bias k)) (k + 36)

/-- Brings a number into the range of the bias: the result, with what the steps add to it. -/
def scale : Nat → Nat → Nat → Nat
  | 0, _, k => k
  | n + 1, delta, k => if 455 < delta then scale n (delta / 35) (k + 36) else k + 36 * delta / (delta + 38)

/-- The bias after a number, given the length of the text then. -/
def adapt (delta length : Nat) (first : Bool) : Nat :=
  let d := if first then delta / 700 else delta / 2
  scale 32 (d + d / length) 0

/-- The text after the insertions that the numbers say. Each number takes a character or more. -/
def insertAll : Nat → (text s : List Char) → (i code bias : Nat) → Option (List Char)
  | 0, _, _, _, _, _ => none
  | n + 1, text, s, i, code, bias =>
    if s.isEmpty then some text
    else do
      let p ← readDelta bias s i 1 36
      let length := text.length + 1
      let code := code + p.1 / length
      let place := p.1 % length
      if h : code.isValidChar then
        insertAll n (text.take place ++ Char.ofNatAux code h :: text.drop place) p.2 (place + 1) code
          (adapt (p.1 - i) length (i == 0))
      else none

/-- The text that is written in Punycode. -/
def punycodeText? (s : List Char) : Option (List Char) :=
  let numbers := (s.reverse.takeWhile (· ≠ '-')).reverse
  let basic := s.take (s.length - numbers.length)
  if basic.isEmpty then insertAll (s.length + 1) [] numbers 0 128 72
  else if basic = ['-'] then none
  else insertAll (s.length + 1) basic.dropLast numbers 0 128 72

end ClusterPanel.Url
