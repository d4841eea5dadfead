import ClusterPanel.Text.Blank

/- Numerals in base ten. `paddedDigits w n` writes the last `w` digits of `n`, zeros in front; it has exactly `w`
   digits, all of them `0` to `9`, and spells `n` when `n < 10 ^ w`. `takeDigits` splits a run of digits of at
   most a given length off a text and loses nothing. `numeral n` is the shortest spelling. -/
namespace ClusterPanel.Text

def digitChar (d : Nat) : Char := Char.ofNat (48 + d)

/-- The last `w` digits of `n`, the highest first. -/
def paddedDigits : Nat → Nat → List Char
  | 0, _ => []
  | w + 1, n => paddedDigits w (n / 10) ++ [digitChar (n % 10)]

/-- The shortest spelling of `n`. -/
def numeral (n : Nat) : List Char := Nat.toDigits 10 n

/-- The shortest spelling of an integer, a minus sign in front of a negative one. -/
def integerNumeral (i : Int) : List Char := if i < 0 then '-' :: numeral i.natAbs else numeral i.natAbs

/-- The first digits of a text, at most `max` of them, and what follows. -/
def takeDigits : Nat → List Char → List Char × List Char
  | 0, s => ([], s)
  | _ + 1, [] => ([], [])
  | n + 1, c :: s => if isDigit c then (c :: (takeDigits n s).1, (takeDigits n s).2) else ([], c :: s)

theorem digitChar_toNat {d : Nat} (h : d < 10) : (digitChar d).toNat = 48 + d := by
  have : d = 0 ∨ d = 1 ∨ d = 2 ∨ d = 3 ∨ d = 4 ∨ d = 5 ∨ d = 6 ∨ d = 7 ∨ d = 8 ∨ d = 9 := by omega
  rcases this with rfl | rfl | rfl | rfl | rfl | rfl | rfl | rfl | rfl | rfl <;> rfl

theorem isDigit_digitChar {d : Nat} (h : d < 10) : isDigit (digitChar d) = true := by
  simp only [isDigit, digitChar_toNat h, Bool.and_eq_true, decide_eq_true_eq]
  omega

theorem digitValue_digitChar {d : Nat} (h : d < 10) : digitValue (digitChar d) = d := by
  simp only [digitValue, digitChar_toNat h]
  omega

@[simp] theorem length_paddedDigits (w n : Nat) : (paddedDigits w n).length = w := by
  induction w generalizing n with
  | zero => rfl
  | succ w ih => simp [paddedDigits, ih]

theorem isDigit_of_mem_paddedDigits {w n : Nat} {c : Char} (h : c ∈ paddedDigits w n) : isDigit c = true := by
  induction w generalizing n with
  | zero => simp [paddedDigits] at h
  | succ w ih =>
    simp only [paddedDigits, List.mem_append, List.mem_singleton] at h
    rcases h with h | rfl
    · exact ih h
    · exact isDigit_digitChar (Nat.mod_lt _ (by omega))

theorem decimalValue_append (ds : List Char) (c : Char) :
    decimalValue (ds ++ [c]) = decimalValue ds * 10 + digitValue c := by
  simp [decimalValue]

/-- A padded numeral spells the number that fits into it. -/
theorem decimalValue_paddedDigits (w n : Nat) : decimalValue (paddedDigits w n) = n % Nat.pow 10 w := by
  induction w generalizing n with
  | zero => simp [paddedDigits, decimalValue, Nat.mod_one]
  | succ w ih =>
    rw [paddedDigits, decimalValue_append, ih, digitValue_digitChar (Nat.mod_lt _ (by omega)),
      show Nat.pow 10 (w + 1) = 10 * Nat.pow 10 w from Nat.mul_comm _ _, Nat.mod_mul]
    omega

theorem takeDigits_append (n : Nat) (s : List Char) : (takeDigits n s).1 ++ (takeDigits n s).2 = s := by
  fun_induction takeDigits n s <;> simp_all

/-- A run of digits is split off whole where it is as long as allowed or no digit follows. -/
theorem takeDigits_of_digits {n : Nat} {ds r : List Char} (hd : ∀ c ∈ ds, isDigit c = true) (hl : ds.length ≤ n)
    (hr : ds.length = n ∨ ∀ c ∈ r.head?, isDigit c = false) : takeDigits n (ds ++ r) = (ds, r) := by
  induction ds generalizing n with
  | nil =>
    cases n with
    | zero => rfl
    | succ n =>
      cases r with
      | nil => rfl
      | cons c r =>
        have : isDigit c = false := by simpa using hr
        simp [takeDigits, this]
  | cons d ds ih =>
    cases n with
    | zero => simp at hl
    | succ n =>
      have h : takeDigits n (ds ++ r) = (ds, r) :=
        ih (fun c hc => hd c (by simp [hc])) (by simpa using hl) (by simpa using hr)
      simp [takeDigits, hd d (by simp), h]

end ClusterPanel.Text
