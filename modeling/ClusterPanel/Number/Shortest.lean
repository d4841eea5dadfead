import ClusterPanel.Number.Binary
import ClusterPanel.Text.Numeral

/- The shortest decimal text of a floating-point number: the fewest digits that read back as the number, of those
   the nearest to it, from a tie the even ones. The reals that read back form an interval around `m * 2 ^ q`, its
   ends included when `m` is even; the search tries the two neighbours of the number on ever finer decimal grids. -/
namespace ClusterPanel.Number

open Text

/-- `digits * 10 ^ exponent` -/
structure Decimal where
  digits : Nat
  exponent : Int
deriving DecidableEq, Repr

/-- Compares `a * 10 ^ i` with `n * 2 ^ j`. -/
def compareScaled (a : Nat) (i : Int) (n : Nat) (j : Int) : Ordering :=
  compare (a * Nat.pow 10 i.toNat * Nat.pow 2 (-j).toNat) (n * Nat.pow 2 j.toNat * Nat.pow 10 (-i).toNat)

/-- Whether a decimal lies among the reals that round to `m * 2 ^ q`. Below a power of two the gap is half as
    wide, but not below the least exponent. -/
def Precision.readsBack (p : Precision) (m : Nat) (q : Int) (d : Decimal) : Bool :=
  let narrow := m == Nat.pow 2 (p.bits - 1) && p.least < q
  let low := compareScaled d.digits d.exponent (if narrow then 4 * m - 1 else 4 * m - 2) (q - 2)
  let high := compareScaled d.digits d.exponent (4 * m + 2) (q - 2)
  let even := m % 2 == 0
  (low == .gt || (even && low == .eq)) && (high == .lt || (even && high == .eq))

/-- The least `k` with `m * 2 ^ q < 10 ^ k`, for `m > 0`. -/
def magnitude (m : Nat) (q : Int) : Int :=
  let guess := ((m.log2 : Int) + q) * 30103 / 100000
  (([guess - 1, guess, guess + 1].find? fun k => compareScaled 1 k m q == .gt)).getD (guess + 2)

/-- The best decimal on the grid of `10 ^ e`, if one of the number's two neighbours there reads back. -/
def Precision.onGrid? (p : Precision) (m : Nat) (q : Int) (e : Int) : Option Decimal :=
  let a := m * Nat.pow 2 q.toNat * Nat.pow 10 (-e).toNat / (Nat.pow 2 (-q).toNat * Nat.pow 10 e.toNat)
  let down : Decimal := ⟨a, e⟩
  let up : Decimal := ⟨a + 1, e⟩
  match p.readsBack m q down, p.readsBack m q up with
  | true, false => some down
  | false, true => some up
  | false, false => none
  | true, true =>
    match compareScaled (2 * a + 1) e (2 * m) q with
    | .gt => some down
    | .lt => some up
    | .eq => some (if a % 2 = 0 then down else up)

/-- Drops zeros at the end of the digits, at most `fuel` of them. -/
def Decimal.strip : Nat → Decimal → Decimal
  | 0, d => d
  | fuel + 1, d =>
    if d.digits % 10 = 0 ∧ d.digits ≠ 0 then Decimal.strip fuel ⟨d.digits / 10, d.exponent + 1⟩ else d

/-- The shortest decimal of `m * 2 ^ q`, for `m > 0`. Seventeen digits always suffice; should they not, the exact
    value stands in. -/
def Precision.shortest (p : Precision) (m : Nat) (q : Int) : Decimal :=
  let k := magnitude m q
  match (List.range 17).findSome? fun (n : Nat) => p.onGrid? m q (k - 1 - n) with
  | some d => d.strip 17
  | none => if 0 ≤ q then ⟨m * Nat.pow 2 q.toNat, 0⟩ else ⟨m * Nat.pow 5 (-q).toNat, q⟩

/-- From which to which exponent of the leading digit a number is written without an exponent. -/
structure PlainRange where
  first : Int
  last : Int
deriving DecidableEq, Repr

/-- A decimal as text: plain within the range, else one digit, the others after a point, and the exponent with
    its sign. An integer keeps a zero after the point. -/
def Decimal.text (d : Decimal) (plain : PlainRange) : List Char :=
  let ds := numeral d.digits
  let e := d.exponent + ds.length - 1
  if plain.first ≤ e ∧ e ≤ plain.last then
    if 0 ≤ d.exponent then ds ++ List.replicate d.exponent.toNat '0' ++ ['.', '0']
    else if 0 ≤ e then ds.take (e.toNat + 1) ++ '.' :: ds.drop (e.toNat + 1)
    else ['0', '.'] ++ List.replicate (-e - 1).toNat '0' ++ ds
  else
    let fraction := if ds.length ≤ 1 then [] else '.' :: ds.drop 1
    let exponent := (if e < 0 then '-' else '+') :: numeral e.natAbs
    ds.take 1 ++ fraction ++ 'e' :: exponent

/-- A finite number as text; `none` for an infinite one. -/
def Precision.text? (p : Precision) (plain : PlainRange) : Binary → Option (List Char)
  | .finite s m q =>
    let body := if m = 0 then ['0', '.', '0'] else (p.shortest m q).text plain
    some (if s then '-' :: body else body)
  | .infinite _ => none

end ClusterPanel.Number
