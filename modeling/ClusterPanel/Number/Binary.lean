/- Binary floating-point numbers by exact arithmetic. A finite number is `m * 2 ^ q` with a sign; a format says how
   many bits `m` may have and which `q` there are. All arithmetic is exact on naturals and rounds once, to the
   nearest number of the format and from a tie to the even one (`Precision.round`). There is no number that is
   none: nothing here produces one. -/
namespace ClusterPanel.Number

/-- A binary floating-point format. -/
structure Precision where
  /-- the number of bits of a significand -/
  bits : Nat
  /-- the least exponent of a significand's last bit -/
  least : Int
  /-- the greatest exponent of a significand's last bit -/
  greatest : Int
deriving DecidableEq, Repr

/-- Sixty-four bits. -/
def Precision.double : Precision := ⟨53, -1074, 971⟩

/-- Thirty-two bits. -/
def Precision.single : Precision := ⟨24, -149, 104⟩

/-- A floating-point number; `finite negative m q` is `m * 2 ^ q`, its significand as long as the format allows. -/
inductive Binary where
  | finite (negative : Bool) (m : Nat) (q : Int)
  | infinite (negative : Bool)
deriving DecidableEq, Repr, Inhabited

def Binary.neg : Binary → Binary
  | finite s m q => .finite (!s) m q
  | infinite s => .infinite !s

def Binary.isInfinite : Binary → Bool
  | infinite _ => true
  | finite .. => false

/-- Zero of either sign. -/
def Binary.isZero : Binary → Bool
  | finite _ m _ => m == 0
  | infinite _ => false

/-- `a / b` to the nearest integer, a tie to the even one. -/
def roundQuotient (a b : Nat) : Nat :=
  let d := a / b
  let r := a % b
  if 2 * r > b || (2 * r == b && d % 2 == 1) then d + 1 else d

/-- `a / (b * 2 ^ q)` as a quotient of naturals. -/
def scaled (a b : Nat) (q : Int) : Nat × Nat := (a * Nat.pow 2 (-q).toNat, b * Nat.pow 2 q.toNat)

/-- The number of the format nearest to `a / b`, for `b > 0`. -/
def Precision.round (p : Precision) (negative : Bool) (a b : Nat) : Binary :=
  if a = 0 then .finite negative 0 p.least
  else
    let guess := max p.least ((a.log2 : Int) - b.log2 - p.bits)
    let s := scaled a b guess
    let q := if s.1 / s.2 < Nat.pow 2 p.bits then guess else guess + 1
    let t := scaled a b q
    let m := roundQuotient t.1 t.2
    let n : Nat × Int := if m = Nat.pow 2 p.bits then (Nat.pow 2 (p.bits - 1), q + 1) else (m, q)
    if n.2 > p.greatest then .infinite negative else .finite negative n.1 n.2

/-- The number of the format nearest to `m * 2 ^ q`. -/
def Precision.roundScaled (p : Precision) (negative : Bool) (m : Nat) (q : Int) : Binary :=
  p.round negative (m * Nat.pow 2 q.toNat) (Nat.pow 2 (-q).toNat)

/-- The number nearest to a natural number. -/
def Precision.ofNat (p : Precision) (n : Nat) : Binary := p.round false n 1

/-- The number nearest to an integer. -/
def Precision.ofInt (p : Precision) (i : Int) : Binary := p.round (i < 0) i.natAbs 1

/-- The same number in another format, rounded. -/
def Precision.convert (p : Precision) : Binary → Binary
  | .finite s m q => p.roundScaled s m q
  | .infinite s => .infinite s

/-- The product, rounded. -/
def Precision.mul (p : Precision) : Binary → Binary → Binary
  | .finite s m q, .finite t n r => p.roundScaled (s != t) (m * n) (q + r)
  | .finite s .., .infinite t => .infinite (s != t)
  | .infinite s, .finite t .. => .infinite (s != t)
  | .infinite s, .infinite t => .infinite (s != t)

/-- The quotient of two finite numbers, the second not zero, rounded; infinite where one of them is no such
    number. -/
def Precision.div (p : Precision) : Binary → Binary → Binary
  | .finite s m q, .finite t n r =>
    if n = 0 then .infinite (s != t)
    else p.round (s != t) (m * Nat.pow 2 (q - r).toNat) (n * Nat.pow 2 (r - q).toNat)
  | .finite s .., .infinite t => .infinite (s != t)
  | .infinite s, .finite t .. => .infinite (s != t)
  | .infinite s, .infinite t => .infinite (s != t)

/-- The number nearest to `10 ^ k`. -/
def Precision.powerOfTen (p : Precision) (k : Nat) : Binary := p.round false (Nat.pow 10 k) 1

end ClusterPanel.Number
