import ClusterPanel.Proofs.JsonReading

/- Values that are passed over. What is read as a string can be passed over as one, and both leave the same rest
   (`skipString_of_readStringBytes`); so a printed string is passed over whatever characters it holds, and a member of
   a name that a record does not know leaves the draft as it was (`readFields_unknown`). -/
namespace ClusterPanel.Json

open Text

/-! ## Strings -/

theorem readHex_length {s r : Bytes} {v : Nat} (h : readHex s = .ok (v, r)) : s.length = r.length + 4 := by
  unfold readHex at h
  split at h
  · split at h
    · cases h
      rfl
    · cases h
  · cases h

/-- The second half of a long character is an escape of its own. -/
theorem readLowSurrogate_eq {s r : Bytes} {v : Nat} (h : readLowSurrogate s = .ok (v, r)) :
    ∃ t, s = backslashByte :: letter 'u' :: t ∧ readHex t = .ok (v, r) := by
  unfold readLowSurrogate at h
  split at h
  · cases h
  split at h
  · next hb =>
    subst hb
    split at h
    · cases h
    split at h
    · next b' s' hb' =>
      subst hb'
      obtain ⟨p, hp, h⟩ := bind_eq_ok h
      split at h
      · cases h
        exact ⟨s', rfl, hp⟩
      · cases h
    · cases h
  · cases h

theorem skipString_code {s r : Bytes} {v : Nat} (h : readHex s = .ok (v, r)) (m : Nat) :
    skipString (m + 1) (backslashByte :: letter 'u' :: s) = skipString m r := by
  have hq : (backslashByte : UInt8) ≠ quoteByte := by decide
  have hu : escapedByte? (letter 'u') = none := by decide
  simp only [skipString, if_neg hq, if_true, hu, Option.isSome_none, Bool.false_eq_true, if_false, h, bind, Except.bind]

/-- An escape that is read is passed over, in one round or two, each of which takes more than a byte. -/
theorem skipString_escape {s r bs : Bytes} (h : readEscape s = .ok (bs, r)) {m : Nat} (hm : s.length < m) :
    ∃ m', r.length < m' ∧ skipString (m + 1) (backslashByte :: s) = skipString m' r := by
  have hq : (backslashByte : UInt8) ≠ quoteByte := by decide
  unfold readEscape at h
  split at h
  · cases h
  · next b s =>
    split at h
    · next x hx =>
      cases h
      refine ⟨m, by simp at hm; omega, ?_⟩
      simp only [skipString, if_neg hq, if_true, hx, Option.isSome_some]
    · split at h
      · next hb =>
        subst hb
        obtain ⟨p, hp, h⟩ := bind_eq_ok h
        have hlength := readHex_length hp
        simp only [List.length_cons] at hm
        rw [skipString_code hp]
        split at h
        · cases h
        split at h
        · -- Two codes stand for one character.
          obtain ⟨q, hlow, h⟩ := bind_eq_ok h
          obtain rfl : q.2 = r := congrArg Prod.snd (Except.ok.inj h)
          obtain ⟨t, ht, hhex⟩ := readLowSurrogate_eq hlow
          have hlength' := readHex_length hhex
          obtain ⟨k, rfl⟩ : ∃ k, m = k + 1 := ⟨m - 1, by omega⟩
          rw [ht] at hlength ⊢
          rw [skipString_code hhex]
          exact ⟨k, by simp only [List.length_cons] at hlength; omega, rfl⟩
        · cases h
          exact ⟨m, by omega, rfl⟩
      · cases h

/-- What is read as a string is passed over as one. -/
theorem skipString_of_readStringBytes {n : Nat} {s r bs : Bytes} (h : readStringBytes n s = .ok (bs, r)) {m : Nat}
    (hm : s.length < m) : skipString m s = .ok ((), r) := by
  induction n generalizing s bs m with
  | zero => cases h
  | succ n ih =>
    obtain ⟨m, rfl⟩ : ∃ k, m = k + 1 := ⟨m - 1, by omega⟩
    cases s with
    | nil => cases h
    | cons b s =>
      simp only [List.length_cons, Nat.add_lt_add_iff_right] at hm
      unfold readStringBytes at h
      split at h
      · next hb =>
        cases h
        simp only [skipString, if_pos hb]
      split at h
      · next hb =>
        subst hb
        obtain ⟨e, he, h⟩ := bind_eq_ok h
        obtain ⟨p, hp, h⟩ := bind_eq_ok h
        cases h
        obtain ⟨m', hm', hskip⟩ := skipString_escape he hm
        rw [hskip]
        exact ih hp hm'
      split at h
      · cases h
      · next hq hb hc =>
        obtain ⟨p, hp, h⟩ := bind_eq_ok h
        cases h
        simp only [skipString, if_neg hq, if_neg hb, if_neg hc]
        exact ih hp hm

theorem skipString_of_readStringBody {s r : Bytes} {x : String} (h : readStringBody s = .ok (x, r)) :
    skipString (s.length + 1) s = .ok ((), r) := by
  obtain ⟨p, hp, h⟩ := bind_eq_ok h
  split at h
  · cases h
    exact skipString_of_readStringBytes hp (Nat.lt_succ_self _)
  · cases h

/-! ## Values -/

/-- The text of a value is passed over, whatever follows it. -/
def Skips (text : List Char) : Prop := ∀ n r, skipValue (n + 1) (Utf8.encode text ++ r) = .ok ((), r)

theorem skips_null : Skips ['n', 'u', 'l', 'l'] := fun _ _ => rfl

theorem skips_string (s : String) : Skips (printString s) := by
  intro n r
  rw [encode_printString, skipValue, skipBlanks_quote]
  exact skipString_of_readStringBody (readStringBody_escape s r)

/-! ## Records -/

/-- A member that is no field of the record leaves the draft as it was. -/
theorem readFields_unknown {δ : Type} {fields : List (FieldShape δ)} {key : String} {value : List Char}
    (hf : fields.find? (·.name == key) = none) (hskip : Skips value) (n : Nat) (first : Bool) (d : δ) (r : Bytes) :
    readFields fields (n + 1) first d (Utf8.encode (memberText first key value) ++ r) =
      readFields fields n false d r := by
  have hcolon : readColon (colonByte :: (Utf8.encode value ++ r)) = .ok ((), Utf8.encode value ++ r) := by
    rw [readColon, skipBlanks_cons (by decide)]
    exact if_pos rfl
  rw [readFields, nextKey_member]
  simp only [bind, Except.bind, hf, hcolon, hskip _ r]

end ClusterPanel.Json
