/- UTF-8. A character is written as one to four bytes: the code point in base 64 below a first byte that tells
   their number. `decode` takes back exactly what `encode` writes (`decode_encode`); bytes that are no such text,
   overlong spellings and surrogates among them, are refused. -/
namespace ClusterPanel.Text.Utf8

def encodeChar (c : Char) : List UInt8 :=
  let n := c.toNat
  if n < 0x80 then [.ofNat n]
  else if n < 0x800 then [.ofNat (0xC0 + n / 64), .ofNat (0x80 + n % 64)]
  else if n < 0x10000 then [.ofNat (0xE0 + n / 4096), .ofNat (0x80 + n / 64 % 64), .ofNat (0x80 + n % 64)]
  else [.ofNat (0xF0 + n / 262144), .ofNat (0x80 + n / 4096 % 64), .ofNat (0x80 + n / 64 % 64),
    .ofNat (0x80 + n % 64)]

def encode (s : List Char) : List UInt8 := s.flatMap encodeChar

/-- The six low bits of a byte that continues a character. -/
def continuation? (b : UInt8) : Option Nat :=
  if 0x80 ≤ b.toNat ∧ b.toNat < 0xC0 then some (b.toNat - 0x80) else none

/-- The character of a code point that is at least `least`, the first that needs its number of bytes. -/
def charFrom? (least n : Nat) : Option Char :=
  if h : least ≤ n ∧ n.isValidChar then some (Char.ofNatAux n h.2) else none

/-- The text that the bytes spell. -/
def decode : List UInt8 → Option (List Char)
  | [] => some []
  | a :: r =>
    let n := a.toNat
    if n < 0x80 then (decode r).map (Char.ofNat n :: ·)
    else if n < 0xC0 then none
    else if n < 0xE0 then
      match r with
      | b :: r => do
        let x ← continuation? b
        let c ← charFrom? 0x80 ((n - 0xC0) * 64 + x)
        let s ← decode r
        pure (c :: s)
      | _ => none
    else if n < 0xF0 then
      match r with
      | b :: d :: r => do
        let x ← continuation? b
        let y ← continuation? d
        let c ← charFrom? 0x800 (((n - 0xE0) * 64 + x) * 64 + y)
        let s ← decode r
        pure (c :: s)
      | _ => none
    else
      match r with
      | b :: d :: e :: r => do
        let x ← continuation? b
        let y ← continuation? d
        let z ← continuation? e
        let c ← charFrom? 0x10000 ((((n - 0xF0) * 64 + x) * 64 + y) * 64 + z)
        let s ← decode r
        pure (c :: s)
      | _ => none

/-- The length of the longest part at the start that spells a text. -/
def textLength (s : List UInt8) : Nat :=
  ((List.range (s.length + 1)).reverse.find? fun n => (decode (s.take n)).isSome).getD 0

theorem toNat_ofNat {n : Nat} (h : n < 256) : (UInt8.ofNat n).toNat = n := by
  simp only [UInt8.toNat_ofNat']
  omega

theorem continuation?_ofNat {x : Nat} (h : x < 64) : continuation? (.ofNat (0x80 + x)) = some x := by
  have : (UInt8.ofNat (0x80 + x)).toNat = 0x80 + x := toNat_ofNat (by omega)
  simp only [continuation?, this]
  rw [if_pos (by omega)]
  simp

theorem toNat_isValidChar (c : Char) : c.toNat.isValidChar := c.valid

theorem charFrom?_toNat {least : Nat} {c : Char} (h : least ≤ c.toNat) : charFrom? least c.toNat = some c := by
  rw [charFrom?, dif_pos ⟨h, toNat_isValidChar c⟩]
  rfl

theorem decode_encodeChar (c : Char) (r : List UInt8) : decode (encodeChar c ++ r) = (decode r).map (c :: ·) := by
  have hv : c.toNat < 0x110000 := by
    have := toNat_isValidChar c
    simp only [Nat.isValidChar] at this
    omega
  simp only [encodeChar]
  split
  · next h =>
    have : (UInt8.ofNat c.toNat).toNat = c.toNat := toNat_ofNat (by omega)
    rw [List.cons_append, List.nil_append, decode.eq_def]
    simp only [this]
    rw [if_pos h, Char.ofNat_toNat]
  · split
    · next h₁ h₂ =>
      have : (UInt8.ofNat (0xC0 + c.toNat / 64)).toNat = 0xC0 + c.toNat / 64 := toNat_ofNat (by omega)
      have e : (0xC0 + c.toNat / 64 - 0xC0) * 64 + c.toNat % 64 = c.toNat := by omega
      simp only [List.cons_append, List.nil_append, decode, this]
      rw [if_neg (by omega), if_neg (by omega), if_pos (by omega), continuation?_ofNat (Nat.mod_lt _ (by omega))]
      simp only [Option.bind_eq_bind, Option.bind_some, e, charFrom?_toNat (Nat.le_of_not_lt h₁)]
      cases decode r <;> rfl
    · split
      · next h₁ h₂ h₃ =>
        have : (UInt8.ofNat (0xE0 + c.toNat / 4096)).toNat = 0xE0 + c.toNat / 4096 := toNat_ofNat (by omega)
        have e : ((0xE0 + c.toNat / 4096 - 0xE0) * 64 + c.toNat / 64 % 64) * 64 + c.toNat % 64 = c.toNat := by
          omega
        simp only [List.cons_append, List.nil_append, decode, this]
        rw [if_neg (by omega), if_neg (by omega), if_neg (by omega), if_pos (by omega),
          continuation?_ofNat (Nat.mod_lt _ (by omega)), continuation?_ofNat (Nat.mod_lt _ (by omega))]
        simp only [Option.bind_eq_bind, Option.bind_some, e, charFrom?_toNat (Nat.le_of_not_lt h₂)]
        cases decode r <;> rfl
      · next h₁ h₂ h₃ =>
        have : (UInt8.ofNat (0xF0 + c.toNat / 262144)).toNat = 0xF0 + c.toNat / 262144 := toNat_ofNat (by omega)
        have e : (((0xF0 + c.toNat / 262144 - 0xF0) * 64 + c.toNat / 4096 % 64) * 64 + c.toNat / 64 % 64) * 64 +
            c.toNat % 64 = c.toNat := by omega
        simp only [List.cons_append, List.nil_append, decode, this]
        rw [if_neg (by omega), if_neg (by omega), if_neg (by omega), if_neg (by omega),
          continuation?_ofNat (Nat.mod_lt _ (by omega)), continuation?_ofNat (Nat.mod_lt _ (by omega)),
          continuation?_ofNat (Nat.mod_lt _ (by omega))]
        simp only [Option.bind_eq_bind, Option.bind_some, e, charFrom?_toNat (Nat.le_of_not_lt h₃)]
        cases decode r <;> rfl

/-- Every text comes back from its bytes. -/
theorem decode_encode (s : List Char) : decode (encode s) = some s := by
  induction s with
  | nil => rfl
  | cons c s ih =>
    have : encode (c :: s) = encodeChar c ++ encode s := by simp [encode]
    rw [this, decode_encodeChar, ih]
    rfl

end ClusterPanel.Text.Utf8

namespace ClusterPanel.Text

def bytesOf (s : String) : List UInt8 := Utf8.encode s.toList

/-- The text that the bytes spell, if they spell one. -/
def textOf? (b : List UInt8) : Option String := (Utf8.decode b).map String.ofList

@[simp] theorem textOf?_bytesOf (s : String) : textOf? (bytesOf s) = some s := by
  simp [textOf?, bytesOf, Utf8.decode_encode]

end ClusterPanel.Text
