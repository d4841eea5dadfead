import ClusterPanel.Login
import ClusterPanel.Proofs.JsonReading
import ClusterPanel.Proofs.Timestamps

/- Instants that come out of texts. What a layout reads shows at most the sixtieth second and less than a second
   beyond it, whatever the layout and the text (`readItems_timely`), and offsets are whole minutes
   (`readOffset_minutes`); so an instant that is read is held, and a leap second that is read stands at the end of a
   minute (`held_of_readRelaxed`). The expiry that a login computes has no leap second at all (`held_of_expiry`). -/
namespace ClusterPanel

open Text Json

namespace Text

/-! ## The size of numbers -/

theorem digitValue_lt {c : Char} (h : isDigit c = true) : digitValue c < 10 := by
  simp only [isDigit, Bool.and_eq_true, decide_eq_true_eq] at h
  unfold digitValue
  omega

/-- Digits spell less than the power of ten of their number. -/
theorem decimalValue_lt {ds : List Char} (hd : ∀ c ∈ ds, isDigit c = true) :
    decimalValue ds < Nat.pow 10 ds.length := by
  -- The digits that were read before shift to the left by those that follow.
  have hfold : ∀ (ds : List Char) (a : Nat), (∀ c ∈ ds, isDigit c = true) →
      ds.foldl (fun n c => n * 10 + digitValue c) a < (a + 1) * Nat.pow 10 ds.length := by
    intro ds
    induction ds with
    | nil =>
      intro a _
      simp
    | cons c ds ih =>
      intro a hd
      have hc := digitValue_lt (hd c List.mem_cons_self)
      calc ds.foldl (fun n c => n * 10 + digitValue c) (a * 10 + digitValue c)
          < (a * 10 + digitValue c + 1) * Nat.pow 10 ds.length := ih _ fun d h => hd d (List.mem_cons_of_mem _ h)
        _ ≤ ((a + 1) * 10) * Nat.pow 10 ds.length := Nat.mul_le_mul_right _ (by omega)
        _ = (a + 1) * Nat.pow 10 (c :: ds).length := by
          rw [List.length_cons, Nat.mul_assoc]
          congr 1
          exact Nat.mul_comm _ _
  simpa [decimalValue] using hfold ds 0 hd

theorem takeDigits_digits (n : Nat) (s : List Char) :
    (takeDigits n s).1.length ≤ n ∧ ∀ c ∈ (takeDigits n s).1, isDigit c = true := by
  fun_induction takeDigits n s with
  | case1 s => simp
  | case2 n => simp
  | case3 n c s hc ih =>
    refine ⟨Nat.succ_le_succ ih.1, ?_⟩
    intro d hd
    rcases List.mem_cons.1 hd with rfl | hd
    · exact hc
    · exact ih.2 d hd
  | case4 n c s hc => simp

end Text

namespace Time

/-! ## What a layout reads -/

/-- A fraction is less than a second. -/
theorem readFraction_lt {s r : List Char} {v : Nat} (h : readFraction s = .ok (v, r)) : v < 1000000000 := by
  unfold readFraction at h
  dsimp only at h
  split at h
  · cases h
  · cases h
    obtain ⟨hlength, hdigits⟩ := takeDigits_digits 9 s
    generalize (takeDigits 9 s).1 = ds at hlength hdigits
    calc decimalValue ds * Nat.pow 10 (9 - ds.length)
        < Nat.pow 10 ds.length * Nat.pow 10 (9 - ds.length) :=
          Nat.mul_lt_mul_of_pos_right (decimalValue_lt hdigits) (Nat.pow_pos (by omega))
      _ = Nat.pow 10 (ds.length + (9 - ds.length)) := (Nat.pow_add 10 _ _).symm
      _ = 1000000000 := by rw [Nat.add_sub_cancel' hlength]

/-- The clock shows at most the sixtieth second, and less than a second beyond it. -/
structure Reading.IsTimely (x : Reading) : Prop where
  second : x.second ≤ 60
  nanos : x.nanos < 1000000000

theorem Reading.IsTimely.set {x x' : Reading} {f : Field} {v : Int} (hx : x.IsTimely) (h : x.set f v = .ok x') :
    x'.IsTimely := by
  unfold Reading.set at h
  split at h
  · next hadmits =>
    cases h
    cases f with
    | second =>
      simp only [Field.admits, Bool.and_eq_true, decide_eq_true_eq] at hadmits
      exact ⟨by simp only [Reading.put]; omega, hx.nanos⟩
    | _ => exact ⟨hx.second, hx.nanos⟩
  · cases h

theorem Item.read_timely {item : Item} {x x' : Reading} {s r : List Char} (hx : x.IsTimely)
    (h : item.read x s = .ok (x', r)) : x'.IsTimely := by
  cases item with
  | exact f width =>
    obtain ⟨p, -, h⟩ := bind_eq_ok h
    obtain ⟨y, hset, h⟩ := bind_eq_ok h
    cases h
    exact hx.set hset
  | loose f =>
    -- A year is read in a way of its own, and entered like the others.
    cases f with
    | year | month | day | hour | minute | second =>
      obtain ⟨p, -, h⟩ := bind_eq_ok h
      obtain ⟨y, hset, h⟩ := bind_eq_ok h
      cases h
      exact hx.set hset
  | mark c =>
    simp only [Item.read] at h
    split at h
    · cases h
    · split at h
      · cases h
        exact hx
      · cases h
  | oneOf cs =>
    simp only [Item.read] at h
    split at h
    · cases h
    · split at h
      · cases h
        exact hx
      · cases h
  | blanks =>
    cases h
    exact hx
  | fraction =>
    simp only [Item.read] at h
    split at h
    · next s' =>
      obtain ⟨p, hfraction, h⟩ := map_eq_ok h
      cases h
      exact ⟨hx.second, readFraction_lt hfraction⟩
    · cases h
      exact hx

theorem readItems_timely {items : List Item} {x x' : Reading} {s r : List Char} (hx : x.IsTimely)
    (h : readItems items x s = .ok (x', r)) : x'.IsTimely := by
  induction items generalizing x s with
  | nil =>
    cases h
    exact hx
  | cons item items ih =>
    obtain ⟨p, hread, h⟩ := bind_eq_ok h
    exact ih (Item.read_timely hx hread) h

/-! ## Offsets -/

/-- An offset is a number of whole minutes. -/
theorem readOffset_minutes {gap : List Char → Except ReadError (List Char)} {s r : List Char} {o : Int}
    (h : readOffset gap s = .ok (o, r)) : o % 60 = 0 := by
  unfold readOffset at h
  extract_lets magnitude at h
  have hmagnitude : ∀ s p, magnitude s = .ok p → p.1 % 60 = 0 := by
    intro s p h
    obtain ⟨hours, -, h⟩ := bind_eq_ok h
    obtain ⟨s', -, h⟩ := bind_eq_ok h
    obtain ⟨minutes, -, h⟩ := bind_eq_ok h
    split at h
    · cases h
      dsimp only
      omega
    · cases h
  split at h
  · cases h
  · split at h
    · cases h
      rfl
    split at h
    · obtain ⟨p, hp, h⟩ := map_eq_ok h
      have := hmagnitude _ p hp
      cases h
      omega
    split at h
    · obtain ⟨p, hp, h⟩ := map_eq_ok h
      have := hmagnitude _ p hp
      cases h
      omega
    · cases h

theorem readRelaxedOffset_minutes {s r : List Char} {o : Int} (h : readRelaxedOffset s = .ok (o, r)) : o % 60 = 0 := by
  unfold readRelaxedOffset at h
  split at h
  · cases h
    rfl
  · exact readOffset_minutes h

/-! ## Instants -/

/-- What is read at an offset of whole minutes is held, and a leap second in it ends a minute. -/
theorem held_of_reading {x : Reading} {o : Int} {i : Instant} (hx : x.IsTimely) (ho : o % 60 = 0)
    (h : x.instant? o = .ok i) : i.IsHeld ∧ i.LeapEndsMinute := by
  unfold Reading.instant? at h
  dsimp only at h
  split at h
  · cases h
  split at h
  · cases h
  split at h
  · next hrange =>
    cases h
    have hsecond := hx.second
    have hnanos := hx.nanos
    refine ⟨⟨hrange, ?_⟩, ?_⟩
    · unfold Reading.civil
      split <;> simp only [CivilTime.instant] <;> omega
    · unfold Instant.LeapEndsMinute Reading.civil
      split <;> simp only [CivilTime.instant] <;> omega
  · cases h

/-- Every instant that is read of a record is held, and a leap second in it ends a minute. -/
theorem held_of_readRelaxed {s : List Char} {i : Instant} (h : readRelaxed s = .ok i) :
    i.IsHeld ∧ i.LeapEndsMinute := by
  obtain ⟨p, hitems, h⟩ := bind_eq_ok h
  obtain ⟨o, hoffset, h⟩ := bind_eq_ok h
  split at h
  · exact held_of_reading (readItems_timely ⟨by decide, by decide⟩ hitems) (readRelaxedOffset_minutes hoffset) h
  · cases h

/-- The end of a lifetime is held, and it is no leap second. -/
theorem held_of_expiry {lifetime : Int} {now i : Instant} (h : expiry lifetime now = some i) :
    i.IsHeld ∧ i.LeapEndsMinute := by
  unfold expiry at h
  split at h
  · next hin =>
    cases h
    have hnanos : (now.addSeconds lifetime).nanos < 1000000000 := Nat.mod_lt _ (by omega)
    simp only [Bool.and_eq_true] at hin
    exact ⟨⟨hin.2, by omega⟩, fun hleap => by omega⟩
  · cases h

end Time

end ClusterPanel
