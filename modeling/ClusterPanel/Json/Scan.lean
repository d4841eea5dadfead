import ClusterPanel.Json.Fault
import ClusterPanel.Json.Value
import ClusterPanel.Text.Utf8

/- The smallest parts of JSON texts: blanks, words, strings, numbers, and values that are passed over. Each reader
   takes its part off the front of the bytes and gives the rest. Numbers gather their digits in 64 bits; digits
   that no longer fit only move the exponent, and the sum is multiplied or divided by a power of ten in double
   precision. -/
namespace ClusterPanel.Json

open Text Number

@[match_pattern] abbrev quoteByte : UInt8 := 0x22
@[match_pattern] abbrev backslashByte : UInt8 := 0x5C
@[match_pattern] abbrev commaByte : UInt8 := 0x2C
@[match_pattern] abbrev colonByte : UInt8 := 0x3A
@[match_pattern] abbrev minusByte : UInt8 := 0x2D
@[match_pattern] abbrev plusByte : UInt8 := 0x2B
@[match_pattern] abbrev pointByte : UInt8 := 0x2E
@[match_pattern] abbrev listOpen : UInt8 := 0x5B
@[match_pattern] abbrev listClose : UInt8 := 0x5D
@[match_pattern] abbrev objectOpen : UInt8 := 0x7B
@[match_pattern] abbrev objectClose : UInt8 := 0x7D

abbrev letter (c : Char) : UInt8 := c.toUInt8

/-- Space, tab, line feed and carriage return. -/
def isBlankByte (b : UInt8) : Bool := b == 0x20 || b == 0x0A || b == 0x09 || b == 0x0D

/-- The text from its first byte that is no blank. -/
def skipBlanks (s : Bytes) : Bytes := s.dropWhile isBlankByte

/-- Whether the byte is one of `0` to `9`. -/
def isDigitByte (b : UInt8) : Bool := 0x30 ≤ b && b ≤ 0x39

def digitOf (b : UInt8) : Nat := b.toNat - 48

/-- The rest of a word whose first letter was taken. -/
def readWord : Bytes → Bytes → Except Fault (Unit × Bytes)
  | [], s => .ok ((), s)
  | _ :: _, [] => .error (.here .endOfValue [])
  | e :: es, b :: s => if b = e then readWord es s else .error (.here .expectedWord s)

/-! ## Strings -/

/-- The value of a digit of base sixteen. -/
def hexValue? (b : UInt8) : Option Nat :=
  if 0x30 ≤ b && b ≤ 0x39 then some (b.toNat - 48)
  else if 0x41 ≤ b && b ≤ 0x46 then some (b.toNat - 55)
  else if 0x61 ≤ b && b ≤ 0x66 then some (b.toNat - 87)
  else none

/-- Four digits of base sixteen. -/
def readHex (s : Bytes) : Except Fault (Nat × Bytes) :=
  match s with
  | a :: b :: c :: d :: r =>
    match hexValue? a, hexValue? b, hexValue? c, hexValue? d with
    | some a, some b, some c, some d => .ok (((a * 16 + b) * 16 + c) * 16 + d, r)
    | _, _, _, _ => .error (.here .invalidEscape r)
  | _ => .error (.here .endOfString [])

/-- The second half of a character beyond 16 bits, after its first half. -/
def readLowSurrogate (s : Bytes) : Except Fault (Nat × Bytes) :=
  match s with
  | [] => .error (.here .endOfString [])
  | b :: s =>
    if b = backslashByte then
      match s with
      | [] => .error (.here .endOfString [])
      | b :: s =>
        if b = letter 'u' then do
          let p ← readHex s
          if 0xDC00 ≤ p.1 && p.1 ≤ 0xDFFF then pure p else throw (.here .loneSurrogate p.2)
        else .error (.here .endOfEscape s)
    else .error (.here .endOfEscape s)

/-- A character named by its code in 16 bits, or by two such codes. -/
def readCodeEscape (s : Bytes) : Except Fault (List UInt8 × Bytes) := do
  let p ← readHex s
  if 0xDC00 ≤ p.1 && p.1 ≤ 0xDFFF then throw (.here .loneSurrogate p.2)
  else if 0xD800 ≤ p.1 && p.1 ≤ 0xDBFF then
    let q ← readLowSurrogate p.2
    pure (Utf8.encodeChar (.ofNat ((p.1 - 0xD800) * 1024 + (q.1 - 0xDC00) + 0x10000)), q.2)
  else pure (Utf8.encodeChar (.ofNat p.1), p.2)

/-- The byte that an escape of one letter stands for. -/
def escapedByte? (b : UInt8) : Option UInt8 :=
  if b = quoteByte || b = backslashByte || b = 0x2F then some b
  else if b = letter 'b' then some 0x08
  else if b = letter 'f' then some 0x0C
  else if b = letter 'n' then some 0x0A
  else if b = letter 'r' then some 0x0D
  else if b = letter 't' then some 0x09
  else none

/-- What follows a backslash. -/
def readEscape (s : Bytes) : Except Fault (List UInt8 × Bytes) :=
  match s with
  | [] => .error (.here .endOfString [])
  | b :: s =>
    match escapedByte? b with
    | some x => .ok ([x], s)
    | none => if b = letter 'u' then readCodeEscape s else .error (.here .invalidEscape s)

/-- The bytes of a string up to its closing quote. Each round takes a byte or more, so the length of the text
    bounds their number. -/
def readStringBytes : Nat → Bytes → Except Fault (Bytes × Bytes)
  | 0, s => .error (.here .endOfString s)
  | _ + 1, [] => .error (.here .endOfString [])
  | n + 1, b :: s =>
    if b = quoteByte then .ok ([], s)
    else if b = backslashByte then do
      let e ← readEscape s
      let p ← readStringBytes n e.2
      pure (e.1 ++ p.1, p.2)
    else if b < 0x20 then .error (.here .controlCharacter s)
    else do
      let p ← readStringBytes n s
      pure (b :: p.1, p.2)

/-- A string after its opening quote. Its bytes have to spell a text; if not, the first that is of no character
    counts as read. -/
def readStringBody (s : Bytes) : Except Fault (String × Bytes) := do
  let p ← readStringBytes (s.length + 1) s
  match textOf? p.1 with
  | some t => pure (t, p.2)
  | none =>
    let written := s.take (s.length - p.2.length)
    throw (.here .invalidCodePoint (s.drop (Utf8.textLength written + 1)))

/-- Passes over a string after its opening quote; its bytes need spell no text. -/
def skipString : Nat → Bytes → Except Fault (Unit × Bytes)
  | 0, s => .error (.here .endOfString s)
  | _ + 1, [] => .error (.here .endOfString [])
  | n + 1, b :: s =>
    if b = quoteByte then .ok ((), s)
    else if b = backslashByte then
      match s with
      | [] => .error (.here .endOfString [])
      | b :: s =>
        if (escapedByte? b).isSome then skipString n s
        else if b = letter 'u' then do
          let p ← readHex s
          skipString n p.2
        else .error (.here .invalidEscape s)
    else if b < 0x20 then .error (.here .controlCharacter (b :: s))
    else skipString n s

/-! ## Numbers -/

/-- The digits at the front of a text. -/
def spanDigits (s : Bytes) : Bytes × Bytes := (s.takeWhile isDigitByte, s.dropWhile isDigitByte)

/-- Adds digits to a significand while it fits into 64 bits; the number of digits taken, and whether the next digit
    did not fit. -/
def gather (m : Nat) : Bytes → Nat → Nat × Nat × Bool
  | [], n => (m, n, false)
  | b :: s, n =>
    if m * 10 + digitOf b < 0x10000000000000000 then gather (m * 10 + digitOf b) s (n + 1) else (m, n, true)

/-- `x / 10 ^ k`, in steps of at most `10 ^ 308`. -/
def divPower (fuel : Nat) (x : Binary) (k : Nat) : Binary :=
  match fuel with
  | 0 => x
  | fuel + 1 =>
    if k ≤ 308 then Precision.double.div x (Precision.double.powerOfTen k)
    else if x.isZero then x
    else divPower fuel (Precision.double.div x (Precision.double.powerOfTen 308)) (k - 308)

/-- `m * 10 ^ e` in double precision, the significand rounded before the power is applied; too large a number
    is a fault. -/
def scaleDouble (negative : Bool) (m : Nat) (e : Int) (s : Bytes) : Except Fault (Numeric × Bytes) :=
  let x := Precision.double.ofNat m
  let signed (y : Binary) : Except Fault (Numeric × Bytes) := .ok (.double (if negative then y.neg else y), s)
  if 0 ≤ e then
    if e ≤ 308 then
      let y := Precision.double.mul x (Precision.double.powerOfTen e.toNat)
      if y.isInfinite then .error (.here .numberOutOfRange s) else signed y
    else if x.isZero then signed x
    else .error (.here .numberOutOfRange s)
  else signed (divPower 8 x (-e).toNat)

/-- The exponent of a number after its letter, for the significand `m` and the exponent `e` that its point gives.
    An exponent beyond 31 bits is none: the number is zero or too large. -/
def readExponent (negative : Bool) (m : Nat) (e : Int) (s : Bytes) : Except Fault (Numeric × Bytes) :=
  let sign : Bool × Bytes :=
    match s with
    | b :: r => if b = plusByte then (false, r) else if b = minusByte then (true, r) else (false, s)
    | [] => (false, [])
  match sign.2 with
  | [] => .error (.here .endOfValue [])
  | b :: r =>
    if isDigitByte b then
      let digits := (b :: r).takeWhile isDigitByte
      let rest := (b :: r).dropWhile isDigitByte
      let k := digits.foldl (fun n d => n * 10 + digitOf d) 0
      let shifted := if sign.1 then max (e - k) (-0x80000000) else min (e + k) 0x7fffffff
      if k < 0x80000000 then scaleDouble negative m shifted rest
      else if m ≠ 0 && !sign.1 then
        .error (.here .numberOutOfRange ((b :: r).drop (overflowAt 0 digits 0)))
      else .ok (.double (.finite negative 0 Precision.double.least), rest)
    else .error (.here .invalidNumber r)
where
  /-- The number of digits read when the exponent leaves 31 bits. -/
  overflowAt (k : Nat) : Bytes → Nat → Nat
    | [], n => n
    | d :: ds, n => if k * 10 + digitOf d < 0x80000000 then overflowAt (k * 10 + digitOf d) ds (n + 1) else n + 1

/-- What may follow the digits of a number: an exponent or nothing. -/
def readTail (negative : Bool) (m : Nat) (e : Int) (s : Bytes) : Except Fault (Numeric × Bytes) :=
  match s with
  | b :: r => if b = letter 'e' || b = letter 'E' then readExponent negative m e r else scaleDouble negative m e s
  | [] => scaleDouble negative m e s

/-- The digits after a point. -/
def readDecimals (negative : Bool) (m : Nat) (e : Int) (s : Bytes) : Except Fault (Numeric × Bytes) :=
  let d := spanDigits s
  let g := gather m d.1 0
  if d.1.isEmpty then
    match s with
    | [] => .error (.here .endOfValue [])
    | _ :: _ => .error (.next .invalidNumber s)
  else readTail negative g.1 (e - g.2.1) d.2

/-- A number after its sign. -/
def readNumber (negative : Bool) (s : Bytes) : Except Fault (Numeric × Bytes) :=
  match s with
  | [] => .error (.here .endOfValue [])
  | b :: r =>
    if !isDigitByte b then .error (.here .invalidNumber r)
    else if b = 0x30 && (match r with | c :: _ => isDigitByte c | [] => false) then .error (.next .invalidNumber r)
    else
      let d := spanDigits s
      let d : Bytes × Bytes := if b = 0x30 then ([b], r) else d
      let g := gather 0 d.1 0
      let dropped : Int := ((d.1.length - g.2.1 : Nat) : Int)
      match d.2 with
      | c :: t =>
        if c = pointByte then readDecimals negative g.1 dropped t
        else if c = letter 'e' || c = letter 'E' then readExponent negative g.1 dropped t
        else whole negative g.1 g.2.2 dropped d.2
      | [] => whole negative g.1 g.2.2 dropped d.2
where
  /-- A number without point and exponent: an integer, if it fits into 64 bits. -/
  whole (negative : Bool) (m : Nat) (overflow : Bool) (dropped : Int) (s : Bytes) : Except Fault (Numeric × Bytes) :=
    if overflow then scaleDouble negative m dropped s
    else if !negative then .ok (.int m, s)
    else if m ≠ 0 && m ≤ 0x8000000000000000 then .ok (.int (-m), s)
    else .ok (.double (Precision.double.ofNat m).neg, s)

/-! ## Values that are passed over -/

/-- Passes over the exponent of a number after its letter. -/
def skipExponent (s : Bytes) : Except Fault (Unit × Bytes) :=
  let t :=
    match s with
    | b :: r => if b = plusByte || b = minusByte then r else s
    | [] => []
  match t with
  | [] => .error (.here .invalidNumber [])
  | b :: r => if isDigitByte b then .ok ((), r.dropWhile isDigitByte) else .error (.here .invalidNumber r)

/-- Passes over a number after its sign. -/
def skipNumber (s : Bytes) : Except Fault (Unit × Bytes) :=
  match s with
  | [] => .error (.here .invalidNumber [])
  | b :: r =>
    if !isDigitByte b then .error (.here .invalidNumber r)
    else if b = 0x30 && (match r with | c :: _ => isDigitByte c | [] => false) then .error (.next .invalidNumber r)
    else
      match (if b = 0x30 then r else r.dropWhile isDigitByte) with
      | [] => .ok ((), [])
      | c :: t =>
        if c = pointByte then
          let d := spanDigits t
          if d.1.isEmpty then .error (.next .invalidNumber t)
          else
            match d.2 with
            | e :: u => if e = letter 'e' || e = letter 'E' then skipExponent u else .ok ((), d.2)
            | [] => .ok ((), [])
        else if c = letter 'e' || c = letter 'E' then skipExponent t
        else .ok ((), c :: t)

def readColon (s : Bytes) : Except Fault (Unit × Bytes) :=
  match skipBlanks s with
  | [] => .error (.here .endOfObject [])
  | b :: r => if b = colonByte then .ok ((), r) else .error (.next .expectedColon (b :: r))

mutual

/-- Passes over a value, however deep. Numbers may be out of any range and strings no text. -/
def skipValue : Nat → Bytes → Except Fault (Unit × Bytes)
  | 0, s => .error (.here .endOfValue s)
  | n + 1, s =>
    match skipBlanks s with
    | [] => .error (.here .endOfValue [])
    | b :: r =>
      if b = letter 'n' then readWord [letter 'u', letter 'l', letter 'l'] r
      else if b = letter 't' then readWord [letter 'r', letter 'u', letter 'e'] r
      else if b = letter 'f' then readWord [letter 'a', letter 'l', letter 's', letter 'e'] r
      else if b = minusByte then skipNumber r
      else if isDigitByte b then skipNumber (b :: r)
      else if b = quoteByte then skipString (r.length + 1) r
      else if b = listOpen then
        match skipBlanks r with
        | [] => .error (.here .endOfList [])
        | c :: t => if c = listClose then .ok ((), t) else skipItems n (c :: t)
      else if b = objectOpen then
        match skipBlanks r with
        | [] => .error (.here .endOfObject [])
        | c :: t => if c = objectClose then .ok ((), t) else skipMembers n (c :: t)
      else .error (.next .expectedValue (b :: r))

/-- Passes over the items of a list up to its end. -/
def skipItems : Nat → Bytes → Except Fault (Unit × Bytes)
  | 0, s => .error (.here .endOfList s)
  | n + 1, s => do
    let p ← skipValue n s
    match skipBlanks p.2 with
    | [] => throw (.here .endOfList [])
    | b :: r =>
      if b = commaByte then skipItems n r
      else if b = listClose then pure ((), r)
      else throw (.next .expectedListEnd (b :: r))

/-- Passes over the members of an object up to its end. -/
def skipMembers : Nat → Bytes → Except Fault (Unit × Bytes)
  | 0, s => .error (.here .endOfObject s)
  | n + 1, s =>
    match skipBlanks s with
    | [] => .error (.here .endOfObject [])
    | b :: r =>
      if b = quoteByte then do
        let k ← skipString (r.length + 1) r
        let c ← readColon k.2
        let p ← skipValue n c.2
        match skipBlanks p.2 with
        | [] => throw (.here .endOfObject [])
        | d :: t =>
          if d = commaByte then skipMembers n t
          else if d = objectClose then pure ((), t)
          else throw (.next .expectedObjectEnd (d :: t))
      else .error (.next .keyNotString (b :: r))

end

end ClusterPanel.Json
