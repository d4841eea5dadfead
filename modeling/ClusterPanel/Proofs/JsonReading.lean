import ClusterPanel.Json.Printer
import ClusterPanel.Json.Record

/- What was printed is read. `Reads read text x` says that a reader takes exactly a text off the front of whatever
   begins with it, and makes `x` of it. Every string is read of what `printString` prints of it, whatever characters
   it holds (`reads_string`): an escape stands for one character, and a character that is kept consists of bytes that
   end no string and begin no escape. A field of a record is read of its member (`readFields_member`), so the reading
   of a printed record goes member by member. Of a text that nobody printed, what can be said of a record that is made
   of it is what the readers of its fields keep (`finish_of_read`). -/
namespace ClusterPanel.Json

open Text

/-- The reader takes the text, whatever follows it, and makes `x` of it. -/
def Reads {α : Type} (read : Bytes → Except Fault (α × Bytes)) (text : List Char) (x : α) : Prop :=
  ∀ r, read (Utf8.encode text ++ r) = .ok (x, r)

/-- A reading whose parts succeeded. -/
theorem bind_eq_ok {ε α β : Type} {x : Except ε α} {f : α → Except ε β} {b : β} (h : x >>= f = .ok b) :
    ∃ a, x = .ok a ∧ f a = .ok b := by
  cases x with
  | error e => cases h
  | ok a => exact ⟨a, rfl, h⟩

theorem map_eq_ok {ε α β : Type} {x : Except ε α} {f : α → β} {b : β} (h : x.map f = .ok b) :
    ∃ a, x = .ok a ∧ f a = b := by
  cases x with
  | error e => cases h
  | ok a => exact ⟨a, rfl, Except.ok.inj h⟩

/-! ## Bytes of texts -/

@[simp] theorem encode_nil : Utf8.encode [] = [] := rfl

@[simp] theorem encode_cons (c : Char) (s : List Char) :
    Utf8.encode (c :: s) = Utf8.encodeChar c ++ Utf8.encode s := by
  simp [Utf8.encode]

@[simp] theorem encode_append (s t : List Char) : Utf8.encode (s ++ t) = Utf8.encode s ++ Utf8.encode t := by
  simp [Utf8.encode]

theorem encodeChar_ascii {c : Char} (h : c.toNat < 0x80) : Utf8.encodeChar c = [.ofNat c.toNat] := by
  simp only [Utf8.encodeChar]
  exact if_pos h

/-! ## Characters in strings -/

/-- A byte that neither ends a string nor begins an escape nor is a control. -/
def IsPlain (b : UInt8) : Prop := b ≠ quoteByte ∧ b ≠ backslashByte ∧ ¬b < 0x20

theorem isPlain_ofNat {n : Nat} (h : n < 256) (h₁ : 0x20 ≤ n) (h₂ : n ≠ 0x22) (h₃ : n ≠ 0x5C) :
    IsPlain (.ofNat n) := by
  have hn := Utf8.toNat_ofNat h
  refine ⟨?_, ?_, ?_⟩
  · intro he
    rw [he] at hn
    exact h₂ hn.symm
  · intro he
    rw [he] at hn
    exact h₃ hn.symm
  · rw [UInt8.lt_iff_toNat_lt, hn]
    exact Nat.not_lt.2 h₁

/-- A character that is kept as it is consists of plain bytes. -/
theorem isPlain_of_mem_encodeChar {c : Char} (h₁ : 0x20 ≤ c.toNat) (h₂ : c.toNat ≠ 0x22) (h₃ : c.toNat ≠ 0x5C)
    {b : UInt8} (hb : b ∈ Utf8.encodeChar c) : IsPlain b := by
  have hv : c.toNat < 0x110000 := by
    have := Utf8.toNat_isValidChar c
    simp only [Nat.isValidChar] at this
    omega
  simp only [Utf8.encodeChar] at hb
  split at hb
  · cases List.mem_singleton.1 hb
    exact isPlain_ofNat (by omega) h₁ h₂ h₃
  -- From here on all bytes are `0x80` or more.
  · split at hb
    · simp only [List.mem_cons, List.not_mem_nil, or_false] at hb
      rcases hb with rfl | rfl <;> apply isPlain_ofNat <;> omega
    · split at hb
      · simp only [List.mem_cons, List.not_mem_nil, or_false] at hb
        rcases hb with rfl | rfl | rfl <;> apply isPlain_ofNat <;> omega
      · simp only [List.mem_cons, List.not_mem_nil, or_false] at hb
        rcases hb with rfl | rfl | rfl | rfl <;> apply isPlain_ofNat <;> omega

/-- Plain bytes are taken one by one. -/
theorem readStringBytes_plain {bs : Bytes} (h : ∀ b ∈ bs, IsPlain b) (n : Nat) (s : Bytes) :
    readStringBytes (bs.length + n) (bs ++ s) = (readStringBytes n s).map fun p => (bs ++ p.1, p.2) := by
  induction bs with
  | nil =>
    rw [List.length_nil, Nat.zero_add, List.nil_append]
    cases readStringBytes n s <;> rfl
  | cons b bs ih =>
    obtain ⟨hq, hb, hc⟩ := h b (by simp)
    rw [List.length_cons, Nat.succ_add, List.cons_append, readStringBytes, if_neg hq, if_neg hb, if_neg hc,
      ih fun b hb => h b (by simp [hb])]
    cases readStringBytes n s <;> rfl

theorem hexValue?_hexDigit {d : Nat} (h : d < 16) : hexValue? (.ofNat (hexDigit d).toNat) = some d := by
  revert d
  decide

theorem hexDigit_toNat_lt {d : Nat} (h : d < 16) : (hexDigit d).toNat < 0x80 := by
  revert d
  decide

theorem readHex_control {n : Nat} (h : n < 0x20) (r : Bytes) :
    readHex (Utf8.encode ['0', '0', hexDigit (n / 16), hexDigit (n % 16)] ++ r) = .ok (n, r) := by
  have h₁ : n / 16 < 16 := by omega
  have h₂ : n % 16 < 16 := by omega
  simp only [encode_cons, encode_nil, encodeChar_ascii (hexDigit_toNat_lt h₁), encodeChar_ascii (hexDigit_toNat_lt h₂),
    List.append_nil, List.append_assoc, List.cons_append, List.nil_append]
  have h0 : hexValue? (.ofNat '0'.toNat) = some 0 := by decide
  rw [encodeChar_ascii (by decide), List.singleton_append, List.singleton_append, readHex]
  simp only [h0, hexValue?_hexDigit h₁, hexValue?_hexDigit h₂]
  congr 2
  omega

/-- What stands for an escaped character begins with a backslash, and what follows it is read as the character. -/
theorem readEscape_escapeChar {c : Char} (h : c.toNat < 0x20 ∨ c.toNat = 0x22 ∨ c.toNat = 0x5C) :
    ∃ t, Utf8.encode (escapeChar c) = backslashByte :: t ∧ ∀ r, readEscape (t ++ r) = .ok (Utf8.encodeChar c, r) := by
  unfold escapeChar
  split
  · next hc => subst hc; exact ⟨_, rfl, fun r => rfl⟩
  split
  · next hc => subst hc; exact ⟨_, rfl, fun r => rfl⟩
  split
  · next hc => obtain rfl : c = '\x08' := Char.toNat_inj.1 hc; exact ⟨_, rfl, fun r => rfl⟩
  split
  · next hc => obtain rfl : c = '\x0c' := Char.toNat_inj.1 hc; exact ⟨_, rfl, fun r => rfl⟩
  split
  · next hc => obtain rfl : c = '\n' := Char.toNat_inj.1 hc; exact ⟨_, rfl, fun r => rfl⟩
  split
  · next hc => obtain rfl : c = '\r' := Char.toNat_inj.1 hc; exact ⟨_, rfl, fun r => rfl⟩
  split
  · next hc => obtain rfl : c = '\t' := Char.toNat_inj.1 hc; exact ⟨_, rfl, fun r => rfl⟩
  split
  · next hc =>
    refine ⟨letter 'u' :: Utf8.encode ['0', '0', hexDigit (c.toNat / 16), hexDigit (c.toNat % 16)], rfl, ?_⟩
    intro r
    have hu : escapedByte? (letter 'u') = none := by decide
    simp only [List.cons_append, readEscape, hu, if_pos, readCodeEscape, readHex_control hc, bind, Except.bind]
    have h₁ : ¬(0xDC00 ≤ c.toNat) := by omega
    have h₂ : ¬(0xD800 ≤ c.toNat) := by omega
    simp [h₁, h₂, Char.ofNat_toNat, pure, Except.pure]
  · next hq hb h₈ h₁₂ h₁₀ h₁₃ h₉ hlt =>
    rcases h with h | h | h
    · exact absurd h hlt
    · exact absurd (Char.toNat_inj.1 h) hq
    · exact absurd (Char.toNat_inj.1 h) hb

theorem escapeChar_of_not {c : Char} (h : ¬(c.toNat < 0x20 ∨ c.toNat = 0x22 ∨ c.toNat = 0x5C)) :
    escapeChar c = [c] := by
  have hq : c ≠ '"' := fun hc => h (.inr (.inl (by rw [hc]; rfl)))
  have hb : c ≠ '\\' := fun hc => h (.inr (.inr (by rw [hc]; rfl)))
  unfold escapeChar
  rw [if_neg hq, if_neg hb, if_neg (by omega), if_neg (by omega), if_neg (by omega), if_neg (by omega),
    if_neg (by omega), if_neg (by omega)]

/-- A character within a string. There are rounds left for what follows if there were for all of it. -/
theorem readStringBytes_escapeChar (c : Char) (r : Bytes) {n : Nat} (h : (Utf8.encode (escapeChar c)).length ≤ n) :
    ∃ m, n ≤ m + (Utf8.encode (escapeChar c)).length ∧
      readStringBytes n (Utf8.encode (escapeChar c) ++ r) =
        (readStringBytes m r).map fun p => (Utf8.encodeChar c ++ p.1, p.2) := by
  by_cases hc : c.toNat < 0x20 ∨ c.toNat = 0x22 ∨ c.toNat = 0x5C
  · -- An escape takes one round, however long it is.
    obtain ⟨t, ht, hread⟩ := readEscape_escapeChar hc
    rw [ht, List.length_cons] at h ⊢
    obtain ⟨m, rfl⟩ : ∃ m, n = m + 1 := ⟨n - 1, by omega⟩
    refine ⟨m, by omega, ?_⟩
    have hq : (backslashByte : UInt8) ≠ quoteByte := by decide
    rw [List.cons_append, readStringBytes, if_neg hq, if_pos rfl, hread]
    cases hm : readStringBytes m r <;> simp [bind, Except.bind, hm] <;> rfl
  · -- A character that is kept takes a round for each of its bytes.
    have hplain : ∀ b ∈ Utf8.encode [c], IsPlain b := by
      intro b hb
      rw [encode_cons, encode_nil, List.append_nil] at hb
      exact isPlain_of_mem_encodeChar (by omega) (by omega) (by omega) hb
    rw [escapeChar_of_not hc] at h ⊢
    refine ⟨n - (Utf8.encode [c]).length, by omega, ?_⟩
    have hread := readStringBytes_plain hplain (n - (Utf8.encode [c]).length) r
    rw [Nat.add_sub_cancel' h] at hread
    rw [hread, encode_cons, encode_nil, List.append_nil]

/-- A string up to its closing quote. -/
theorem readStringBytes_escape (s : List Char) (r : Bytes) {n : Nat}
    (h : (Utf8.encode (s.flatMap escapeChar)).length < n) :
    readStringBytes n (Utf8.encode (s.flatMap escapeChar) ++ quoteByte :: r) = .ok (Utf8.encode s, r) := by
  induction s generalizing n with
  | nil =>
    obtain ⟨m, rfl⟩ : ∃ m, n = m + 1 := ⟨n - 1, by omega⟩
    rfl
  | cons c s ih =>
    rw [List.flatMap_cons, encode_append, List.length_append] at h
    obtain ⟨m, hm, hread⟩ :=
      readStringBytes_escapeChar c (Utf8.encode (s.flatMap escapeChar) ++ quoteByte :: r) (n := n) (by omega)
    rw [List.flatMap_cons, encode_append, List.append_assoc, hread, ih (by omega), encode_cons]
    rfl

theorem readStringBody_escape (s : String) (r : Bytes) :
    readStringBody (Utf8.encode (s.toList.flatMap escapeChar) ++ quoteByte :: r) = .ok (s, r) := by
  have hrounds : (Utf8.encode (s.toList.flatMap escapeChar)).length <
      (Utf8.encode (s.toList.flatMap escapeChar) ++ quoteByte :: r).length + 1 := by
    rw [List.length_append]
    omega
  have hread := readStringBytes_escape s.toList r hrounds
  have htext : textOf? (Utf8.encode s.toList) = some s := textOf?_bytesOf s
  unfold readStringBody
  simp only [hread, bind, Except.bind, htext]
  rfl

theorem encode_printString (s : String) (r : Bytes) :
    Utf8.encode (printString s) ++ r = quoteByte :: (Utf8.encode (s.toList.flatMap escapeChar) ++ quoteByte :: r) := by
  have hquote : Utf8.encodeChar '"' = [quoteByte] := by decide
  simp only [printString, List.cons_append, encode_cons, encode_append, encode_nil, hquote, List.append_assoc,
    List.nil_append, List.append_nil]

/-! ## Values -/

theorem skipBlanks_cons {b : UInt8} (h : isBlankByte b = false) (r : Bytes) : skipBlanks (b :: r) = b :: r := by
  rw [skipBlanks, List.dropWhile_cons, h]
  rfl

theorem skipBlanks_quote (r : Bytes) : skipBlanks (quoteByte :: r) = quoteByte :: r := skipBlanks_cons (by decide) r

/-- A printed string is read whatever characters it holds. -/
theorem reads_stringFor (expected : String) (s : String) : Reads (readStringFor expected) (printString s) s := by
  intro r
  rw [encode_printString, readStringFor, skipBlanks_quote]
  exact (if_pos rfl).trans (readStringBody_escape s r)

theorem reads_string (s : String) : Reads readString (printString s) s := reads_stringFor "a string" s

/-- A value that may be `null` and is. -/
theorem reads_null {α : Type} (read : Bytes → Except Fault (α × Bytes)) :
    Reads (readOption read) ['n', 'u', 'l', 'l'] none := by
  intro r
  rfl

/-- A value that may be `null` and is a string. -/
theorem reads_some {α : Type} {read : Bytes → Except Fault (α × Bytes)} {s : String} {x : α}
    (h : Reads read (printString s) x) : Reads (readOption read) (printString s) (some x) := by
  intro r
  have hread := h r
  have hn : (quoteByte : UInt8) ≠ letter 'n' := by decide
  rw [encode_printString] at hread ⊢
  simp only [readOption, skipBlanks_quote, if_neg hn, hread, Except.map]

/-! ## Records -/

variable {δ : Type}

/-- The text of a member: a comma before every one but the first, the key, a colon and the value. -/
def memberText (first : Bool) (key : String) (value : List Char) : List Char :=
  (if first then [] else [',']) ++ printString key ++ ':' :: value

theorem length_memberText_pos (first : Bool) (key : String) (value : List Char) :
    0 < (Utf8.encode (memberText first key value)).length := by
  have hcolon : Utf8.encodeChar ':' = [colonByte] := by decide
  rw [memberText, encode_append, encode_cons, hcolon, List.length_append, List.length_append, List.length_singleton]
  omega

theorem nextKey_member (first : Bool) (key : String) (value : List Char) (r : Bytes) :
    nextKey first (Utf8.encode (memberText first key value) ++ r) =
      .ok (some (key, colonByte :: (Utf8.encode value ++ r))) := by
  have hbody := readStringBody_escape key (colonByte :: (Utf8.encode value ++ r))
  have hcolon : Utf8.encodeChar ':' = [colonByte] := by decide
  have hcomma : Utf8.encodeChar ',' = [commaByte] := by decide
  have hclose : (quoteByte : UInt8) ≠ objectClose := by decide
  have hclose' : (commaByte : UInt8) ≠ objectClose := by decide
  have hqc : (quoteByte : UInt8) ≠ commaByte := by decide
  have hkey := encode_printString key (colonByte :: (Utf8.encode value ++ r))
  cases first with
  | true =>
    simp only [memberText, if_true, List.nil_append, encode_append, encode_cons, hcolon, List.append_assoc,
      List.cons_append, hkey]
    simp [nextKey, skipBlanks_quote, hclose, hqc, hbody, Except.map]
  | false =>
    simp only [memberText, Bool.false_eq_true, if_false, encode_append, encode_cons, hcolon, hcomma,
      List.append_assoc, List.cons_append, List.nil_append, hkey]
    rw [nextKey, skipBlanks_cons (by decide)]
    simp [skipBlanks_quote, hclose', hbody, Except.map]

/-- A member that is a field of the record goes into the draft. -/
theorem readFields_member {fields : List (FieldShape δ)} {f : FieldShape δ} {key : String} {value : List Char}
    {d d' : δ} (hf : fields.find? (·.name == key) = some f) (hnew : f.filled d = false)
    (hread : Reads (f.read d) value d') (n : Nat) (first : Bool) (r : Bytes) :
    readFields fields (n + 1) first d (Utf8.encode (memberText first key value) ++ r) =
      readFields fields n false d' r := by
  have hcolon : readColon (colonByte :: (Utf8.encode value ++ r)) = .ok ((), Utf8.encode value ++ r) := by
    rw [readColon, skipBlanks_cons (by decide)]
    exact if_pos rfl
  rw [readFields, nextKey_member]
  simp only [bind, Except.bind, hf, hnew, Bool.false_eq_true, if_false, hcolon, hread r]

/-- The members end at the brace. -/
theorem readFields_end (fields : List (FieldShape δ)) (n : Nat) (first : Bool) (d : δ) (r : Bytes) :
    readFields fields (n + 1) first d (objectClose :: r) = .ok (d, objectClose :: r) := by
  have hkey : nextKey first (objectClose :: r) = .ok none := by
    rw [nextKey, skipBlanks_cons (by decide)]
    exact if_pos rfl
  rw [readFields, hkey]
  rfl

/-- A record that stands in an object is made of the draft that its members leave. -/
theorem read_object {α : Type} {shape : Shape δ α} {d : δ} {x : α} {t r : Bytes}
    (hread : readFields shape.fields (t.length + 1) true shape.start t = .ok (d, objectClose :: r))
    (hfinish : shape.finish d = .ok x) : shape.read (objectOpen :: t) = .ok (x, r) := by
  have hend : endObject (objectClose :: r) = .ok ((), r) := by
    rw [endObject, skipBlanks_cons (by decide)]
    exact if_pos rfl
  have hlist : (objectOpen : UInt8) ≠ listOpen := by decide
  rw [Shape.read, skipBlanks_cons (by decide)]
  simp only [if_neg hlist, if_true, hread, bind, Except.bind, hfinish, hend]
  rfl

/-- What stands in the wrong place is never read as something. -/
theorem readMismatch_ne_ok {α : Type} {expected : String} {s : Bytes} {x : α × Bytes} :
    readMismatch expected s ≠ .ok x := by
  intro h
  unfold readMismatch at h
  dsimp only at h
  -- Whatever the first byte promises, the reader fails with it or after it.
  split at h
  · cases h
  · split at h
    · obtain ⟨_, _, h⟩ := bind_eq_ok h
      cases h
    split at h
    · obtain ⟨_, _, h⟩ := bind_eq_ok h
      cases h
    split at h
    · obtain ⟨_, _, h⟩ := bind_eq_ok h
      cases h
    split at h
    · obtain ⟨_, _, h⟩ := bind_eq_ok h
      split at h <;> cases h
    split at h
    · obtain ⟨_, _, h⟩ := bind_eq_ok h
      split at h <;> cases h
    split at h
    · obtain ⟨_, _, h⟩ := bind_eq_ok h
      cases h
    split at h
    · cases h
    split at h <;> cases h

/-! ## What is made of a text -/

theorem of_readOption {α : Type} {q : α → Prop} {read : Bytes → Except Fault (α × Bytes)} {x : Option α} {s r : Bytes}
    (hread : ∀ s x r, read s = .ok (x, r) → q x) (h : readOption read s = .ok (x, r)) : ∀ y ∈ x, q y := by
  intro y hy
  have hsome {s' : Bytes} (h : (read s').map (fun p => (some p.1, p.2)) = .ok (x, r)) : q y := by
    obtain ⟨p, hp, h⟩ := map_eq_ok h
    cases h
    cases hy
    exact hread s' p.1 p.2 hp
  unfold readOption at h
  split at h
  · exact hsome h
  · split at h
    · obtain ⟨p, -, h⟩ := bind_eq_ok h
      cases h
      cases hy
    · exact hsome h

/-- What holds of a draft holds of it still when the field was read into it. -/
def FieldShape.Keeps (q : δ → Prop) (f : FieldShape δ) : Prop :=
  ∀ d s d' r, q d → f.read d s = .ok (d', r) → q d'

variable {q : δ → Prop}

theorem FieldShape.keeps_of {β : Type} {name : String} {optional : Bool} {get : δ → Option β} {set : δ → β → δ}
    {read : Bytes → Except Fault (β × Bytes)} (h : ∀ d s x r, q d → read s = .ok (x, r) → q (set d x)) :
    (FieldShape.of name optional get set read).Keeps q := by
  intro d s d' r hd hread
  obtain ⟨p, hp, hset⟩ := map_eq_ok hread
  cases hset
  exact h d s p.1 p.2 hd hp

theorem readFields_keeps {fields : List (FieldShape δ)} {n : Nat} {first : Bool} {d d' : δ} {s r : Bytes}
    (hf : ∀ f ∈ fields, f.Keeps q) (hd : q d) (h : readFields fields n first d s = .ok (d', r)) : q d' := by
  induction n generalizing first d s with
  | zero => cases h
  | succ n ih =>
    obtain ⟨key, -, h⟩ := bind_eq_ok h
    split at h
    · cases h
      exact hd
    split at h
    · -- A member that is passed over leaves the draft as it is.
      obtain ⟨c, -, h⟩ := bind_eq_ok h
      obtain ⟨p, -, h⟩ := bind_eq_ok h
      exact ih hd h
    · next f hfind =>
      split at h
      · cases h
      · obtain ⟨c, -, h⟩ := bind_eq_ok h
        obtain ⟨p, hread, h⟩ := bind_eq_ok h
        exact ih (hf f (List.mem_of_find?_eq_some hfind) d c.2 p.1 p.2 hd hread) h

theorem readInOrder_keeps {record : String} {total done : Nat} {fields : List (FieldShape δ)} {first : Bool} {d d' : δ}
    {s r : Bytes} (hf : ∀ f ∈ fields, f.Keeps q) (hd : q d)
    (h : readInOrder record total fields done first d s = .ok (d', r)) : q d' := by
  induction fields generalizing done first d s with
  | nil =>
    cases h
    exact hd
  | cons f fs ih =>
    have hfs : ∀ f ∈ fs, f.Keeps q := fun f h => hf f (List.mem_cons_of_mem _ h)
    obtain ⟨item, -, h⟩ := bind_eq_ok h
    split at h
    · split at h
      · exact ih hfs hd h
      · cases h
    · next t =>
      obtain ⟨p, hread, h⟩ := bind_eq_ok h
      exact ih hfs (hf f List.mem_cons_self d t p.1 p.2 hd hread) h

/-- What stands at the end of both ways to write a record: the draft is finished, and the record is closed. -/
theorem finish_of_close {α : Type} {made : Except String α} {x : α} {r : Bytes} {fault : String → Fault}
    {close : Except Fault (Unit × Bytes)}
    (h : (match made with
      | .ok x => do
        let e ← close
        pure (x, e.2)
      | .error f => .error (fault f)) = .ok (x, r)) : made = .ok x := by
  cases made with
  | ok y =>
    obtain ⟨_, _, h⟩ := bind_eq_ok h
    cases h
    rfl
  | error f => cases h

/-- No record is made but by its shape, of a draft of which all holds that its fields keep. -/
theorem finish_of_read {α : Type} {shape : Shape δ α} {x : α} {s r : Bytes} (hstart : q shape.start)
    (hf : ∀ f ∈ shape.fields, f.Keeps q) (h : shape.read s = .ok (x, r)) :
    ∃ d, q d ∧ shape.finish d = .ok x := by
  unfold Shape.read at h
  split at h
  · cases h
  split at h
  · obtain ⟨p, hread, h⟩ := bind_eq_ok h
    exact ⟨p.1, readInOrder_keeps hf hstart hread, finish_of_close h⟩
  split at h
  · obtain ⟨p, hread, h⟩ := bind_eq_ok h
    exact ⟨p.1, readFields_keeps hf hstart hread, finish_of_close h⟩
  · exact absurd h readMismatch_ne_ok

end ClusterPanel.Json
