import ClusterPanel.Proofs.IntegerReading
import ClusterPanel.Proofs.RecordReading

/- Printed values read back. What is read nests no deeper than it may, and the keys of its objects are in order
   (`nests_of_read`). Of a value that nests so and whose numbers are integers of 64 bits, what `Value.printPretty` makes
   is read as this value at the same depth (`reads_printPretty`), whatever level it is printed at: the gaps before its
   parts are passed over (`skipBlanks_indent`), and a number ends where a gap, a comma or the end of a text follows
   (`EndsNumber`). -/
namespace ClusterPanel.Json

open Text

/-! ## What a value holds -/

mutual

/-- The numbers in a value, in the order in which they stand in it. -/
def Value.numbers : Value → List Numeric
  | .number n => [n]
  | .array vs => itemNumbers vs
  | .object ms => memberNumbers ms
  | .null => []
  | .bool _ => []
  | .string _ => []

def itemNumbers : List Value → List Numeric
  | [] => []
  | v :: vs => v.numbers ++ itemNumbers vs

def memberNumbers : List (String × Value) → List Numeric
  | [] => []
  | (_, v) :: ms => v.numbers ++ memberNumbers ms

end

/-- An integer that fits into 64 bits, with its sign or without one. -/
def Numeric.IsWhole : Numeric → Prop
  | .int i => -0x8000000000000000 ≤ i ∧ i < 0x10000000000000000
  | .double _ => False
  | .single _ => False

/-- All numbers in a value are integers of 64 bits. -/
def Value.IsWhole (v : Value) : Prop := ∀ n ∈ v.numbers, n.IsWhole

theorem isWhole_array {vs : List Value} : (Value.array vs).IsWhole ↔ ∀ v ∈ vs, v.IsWhole := by
  unfold Value.IsWhole
  rw [Value.numbers]
  induction vs with
  | nil => simp [itemNumbers]
  | cons v vs ih => simp only [itemNumbers, List.mem_append, List.forall_mem_cons, ← ih, or_imp, forall_and]

theorem isWhole_object {ms : List (String × Value)} : (Value.object ms).IsWhole ↔ ∀ m ∈ ms, m.2.IsWhole := by
  unfold Value.IsWhole
  rw [Value.numbers]
  induction ms with
  | nil => simp [memberNumbers]
  | cons m ms ih => simp only [memberNumbers, List.mem_append, List.forall_mem_cons, ← ih, or_imp, forall_and]

/-- Lists and objects are nested at most so deep, and the keys of every object are in order and each there once. -/
def Value.Nests : Nat → Value → Prop
  | 0, v => v.isScalar = true
  | _ + 1, .null => True
  | _ + 1, .bool _ => True
  | _ + 1, .number _ => True
  | _ + 1, .string _ => True
  | depth + 1, .array vs => ∀ v ∈ vs, v.Nests depth
  | depth + 1, .object ms => Keyed.Sorted ms ∧ ∀ m ∈ ms, m.2.Nests depth

theorem nests_of_isScalar {v : Value} (h : v.isScalar = true) (depth : Nat) : v.Nests depth := by
  cases depth with
  | zero => exact h
  | succ depth =>
    cases v with
    | null | bool _ | number _ | string _ => trivial
    | array _ | object _ => cases h

/-! ## What is read nests -/

section Read

variable {α : Type} {read : Bytes → Except Fault (α × Bytes)} {n : Nat} {first : Bool} {s r : Bytes}

/-- Every item of a list that was read was read by the reader of items. -/
theorem readItems_mem {xs : List α} (h : readItems read n first s = .ok (xs, r)) :
    ∀ x ∈ xs, ∃ t u, read t = .ok (x, u) := by
  induction n generalizing first s xs r with
  | zero => cases h
  | succ n ih =>
    rw [readItems] at h
    obtain ⟨next, -, h⟩ := bind_eq_ok h
    cases next with
    | none =>
      obtain ⟨_, -, h⟩ := bind_eq_ok h
      cases h
      exact fun x hx => absurd hx List.not_mem_nil
    | some t =>
      obtain ⟨p, hp, h⟩ := bind_eq_ok h
      obtain ⟨q, hq, h⟩ := bind_eq_ok h
      cases h
      intro x hx
      rcases List.mem_cons.1 hx with rfl | hx
      · exact ⟨t, p.2, hp⟩
      · exact ih hq x hx

theorem readMembers_mem {ms : List (String × α)} (h : readMembers read n first s = .ok (ms, r)) :
    ∀ m ∈ ms, ∃ t u, read t = .ok (m.2, u) := by
  induction n generalizing first s ms r with
  | zero => cases h
  | succ n ih =>
    rw [readMembers] at h
    obtain ⟨next, -, h⟩ := bind_eq_ok h
    cases next with
    | none =>
      obtain ⟨_, -, h⟩ := bind_eq_ok h
      cases h
      exact fun m hm => absurd hm List.not_mem_nil
    | some kt =>
      obtain ⟨k, t⟩ := kt
      obtain ⟨c, -, h⟩ := bind_eq_ok h
      obtain ⟨p, hp, h⟩ := bind_eq_ok h
      obtain ⟨q, hq, h⟩ := bind_eq_ok h
      cases h
      intro m hm
      rcases List.mem_cons.1 hm with rfl | hm
      · exact ⟨c.2, p.2, hp⟩
      · exact ih hq m hm

end Read

/-- What a value that was read is: no list or object, or one whose parts were read one level deeper. -/
theorem readValue_ok {depth : Nat} {s r : Bytes} {v : Value} (h : readValue depth s = .ok (v, r)) :
    v.isScalar = true ∨ ∃ below, depth = below + 1 ∧
      ((∃ n t vs, readItems (readValue below) n true t = .ok (vs, r) ∧ v = .array vs) ∨
        ∃ n t ms, readMembers (readValue below) n true t = .ok (ms, r) ∧ v = .object (Keyed.ofList ms)) := by
  unfold readValue at h
  split at h
  · cases h
  · next b t _ =>
    split at h
    · obtain ⟨_, -, h⟩ := bind_eq_ok h
      cases h
      exact .inl rfl
    split at h
    · obtain ⟨_, -, h⟩ := bind_eq_ok h
      cases h
      exact .inl rfl
    split at h
    · obtain ⟨_, -, h⟩ := bind_eq_ok h
      cases h
      exact .inl rfl
    split at h
    · obtain ⟨_, -, h⟩ := map_eq_ok h
      cases h
      exact .inl rfl
    split at h
    · obtain ⟨_, -, h⟩ := map_eq_ok h
      cases h
      exact .inl rfl
    split at h
    · obtain ⟨_, -, h⟩ := map_eq_ok h
      cases h
      exact .inl rfl
    split at h
    · cases depth with
      | zero => cases h
      | succ below =>
        obtain ⟨p, hitems, h⟩ := map_eq_ok h
        cases h
        exact .inr ⟨below, rfl, .inl ⟨_, _, _, hitems, rfl⟩⟩
    split at h
    · cases depth with
      | zero => cases h
      | succ below =>
        obtain ⟨p, hmembers, h⟩ := map_eq_ok h
        cases h
        exact .inr ⟨below, rfl, .inr ⟨_, _, _, hmembers, rfl⟩⟩
    · cases h

/-- A value that was read nests as deep as it may. -/
theorem nests_of_read {depth : Nat} {s r : Bytes} {v : Value} (h : readValue depth s = .ok (v, r)) : v.Nests depth := by
  induction depth generalizing s r v with
  | zero =>
    rcases readValue_ok h with hscalar | ⟨below, hdepth, -⟩
    · exact hscalar
    · cases hdepth
  | succ depth ih =>
    rcases readValue_ok h with hscalar | ⟨below, hdepth, ⟨n, t, vs, hitems, rfl⟩ | ⟨n, t, ms, hmembers, rfl⟩⟩
    · exact nests_of_isScalar hscalar _
    · cases hdepth
      intro v hv
      obtain ⟨t, u, hread⟩ := readItems_mem hitems v hv
      exact ih hread
    · cases hdepth
      refine ⟨Keyed.sorted_ofList ms, ?_⟩
      intro m hm
      obtain ⟨t, u, hread⟩ := readMembers_mem hmembers m (Keyed.mem_of_mem_ofList hm)
      exact ih hread

/-! ## Gaps -/

theorem encode_lineFeed : Utf8.encodeChar '\n' = [0x0A] := by decide

theorem encode_space : Utf8.encodeChar ' ' = [0x20] := by decide

theorem encode_indent (level : Nat) : Utf8.encode (indent level) = 0x0A :: List.replicate (2 * level) 0x20 := by
  have hspaces (n : Nat) : Utf8.encode (List.replicate n ' ') = List.replicate n 0x20 := by
    induction n with
    | zero => rfl
    | succ n ih => rw [List.replicate_succ, encode_cons, encode_space, ih]; rfl
  rw [indent, encode_cons, encode_lineFeed, hspaces]
  rfl

/-- Gaps do not count. -/
theorem skipBlanks_indent (level : Nat) (s : Bytes) : skipBlanks (Utf8.encode (indent level) ++ s) = skipBlanks s := by
  unfold skipBlanks
  rw [List.dropWhile_append_of_pos]
  intro b hb
  rw [encode_indent] at hb
  rcases List.mem_cons.1 hb with rfl | hb
  · decide
  · rw [List.eq_of_mem_replicate hb]
    decide

theorem endsNumber_comma (r : Bytes) : EndsNumber (commaByte :: r) := by
  intro b hb
  cases hb
  decide

theorem endsNumber_lineFeed (r : Bytes) : EndsNumber (0x0A :: r) := by
  intro b hb
  cases hb
  decide

theorem endsNumber_indent (level : Nat) (r : Bytes) : EndsNumber (Utf8.encode (indent level) ++ r) := by
  rw [encode_indent]
  exact endsNumber_lineFeed _

/-! ## What was printed is read -/

/-- The reader takes the text where something follows that ends a number, and makes `x` of it. -/
def ReadsBefore {α : Type} (read : Bytes → Except Fault (α × Bytes)) (text : List Char) (x : α) : Prop :=
  ∀ r, EndsNumber r → read (Utf8.encode text ++ r) = .ok (x, r)

/-- The text begins neither with a blank nor with the end of a list. -/
def Starts (text : List Char) : Prop :=
  ∃ b t, Utf8.encode text = b :: t ∧ isBlankByte b = false ∧ b ≠ listClose

theorem Starts.skipBlanks {text : List Char} (h : Starts text) (r : Bytes) :
    skipBlanks (Utf8.encode text ++ r) = Utf8.encode text ++ r := by
  obtain ⟨b, t, ht, hb, -⟩ := h
  rw [ht, List.cons_append]
  exact skipBlanks_cons hb _

/-! ### Lists -/

section Items

variable {read : Bytes → Except Fault (Value × Bytes)} {text : List Char} {level close : Nat}

theorem nextItem_indent (h : Starts text) (r : Bytes) :
    nextItem true (Utf8.encode (indent level) ++ (Utf8.encode text ++ r)) = .ok (some (Utf8.encode text ++ r)) := by
  rw [nextItem, skipBlanks_indent, h.skipBlanks]
  obtain ⟨b, t, ht, -, hclose⟩ := h
  rw [ht, List.cons_append]
  simp only [if_neg hclose, Bool.not_true, Bool.and_false, Bool.false_eq_true, if_false, if_true]

theorem nextItem_comma_indent (h : Starts text) (r : Bytes) :
    nextItem false (commaByte :: (Utf8.encode (indent level) ++ (Utf8.encode text ++ r))) =
      .ok (some (Utf8.encode text ++ r)) := by
  have hcomma : (commaByte : UInt8) ≠ listClose := by decide
  rw [nextItem, skipBlanks_cons (by decide)]
  simp only [if_neg hcomma, Bool.not_false, Bool.and_true, decide_true, if_true, skipBlanks_indent, h.skipBlanks]
  obtain ⟨b, t, ht, -, hclose⟩ := h
  rw [ht, List.cons_append]
  simp only [if_neg hclose]

theorem readItems_end (first : Bool) (n : Nat) (r : Bytes) :
    readItems read (n + 1) first (Utf8.encode (indent close) ++ listClose :: r) = .ok ([], r) := by
  have hnext : nextItem first (Utf8.encode (indent close) ++ listClose :: r) = .ok none := by
    rw [nextItem, skipBlanks_indent, skipBlanks_cons (by decide)]
    rfl
  have hend : endList (Utf8.encode (indent close) ++ listClose :: r) = .ok ((), r) := by
    rw [endList, skipBlanks_indent, skipBlanks_cons (by decide)]
    rfl
  rw [readItems, hnext]
  simp only [bind, Except.bind, hend]
  rfl

theorem endsNumber_items (vs : List Value) (r : Bytes) :
    EndsNumber (Utf8.encode (printPrettyItems level vs) ++ (Utf8.encode (indent close) ++ r)) := by
  cases vs with
  | nil => exact endsNumber_indent close r
  | cons v vs =>
    rw [printPrettyItems, List.cons_append, List.cons_append, encode_cons, encode_comma]
    exact endsNumber_comma _

/-- The items after the first one, each in a line of its own. -/
theorem readItems_printPrettyItems {vs : List Value}
    (h : ∀ v ∈ vs, ReadsBefore read (v.printPretty level) v ∧ Starts (v.printPretty level)) {n : Nat}
    (hn : vs.length < n) (r : Bytes) :
    readItems read n false
      (Utf8.encode (printPrettyItems level vs) ++ (Utf8.encode (indent close) ++ listClose :: r)) = .ok (vs, r) := by
  induction vs generalizing n with
  | nil =>
    obtain ⟨n, rfl⟩ : ∃ k, n = k + 1 := ⟨n - 1, by simp at hn; omega⟩
    exact readItems_end false n r
  | cons v vs ih =>
    obtain ⟨n, rfl⟩ : ∃ k, n = k + 1 := ⟨n - 1, by simp at hn; omega⟩
    obtain ⟨hread, hstart⟩ := h v List.mem_cons_self
    have hrest := ih (fun w hw => h w (List.mem_cons_of_mem _ hw)) (Nat.lt_of_succ_lt_succ hn)
    simp only [printPrettyItems, encode_cons, encode_append, encode_comma, List.cons_append, List.nil_append,
      List.append_assoc]
    simp only [readItems, nextItem_comma_indent hstart, bind, Except.bind, hread _ (endsNumber_items vs _), hrest]
    rfl

theorem length_printPrettyItems (level : Nat) (vs : List Value) :
    vs.length ≤ (Utf8.encode (printPrettyItems level vs)).length := by
  induction vs with
  | nil => exact Nat.zero_le _
  | cons v vs ih =>
    simp only [printPrettyItems, List.cons_append, encode_cons, encode_append, encode_comma, List.length_append,
      List.length_cons, List.length_nil]
    omega

end Items

/-! ### Objects -/

section Members

variable {depth level close : Nat}

/-- A blank before a value does not count. -/
theorem readValue_space (depth : Nat) (s : Bytes) : readValue depth (0x20 :: s) = readValue depth s := by
  unfold readValue
  rfl

theorem nextKey_indent (key : String) (r : Bytes) :
    nextKey true (Utf8.encode (indent level) ++ (Utf8.encode (printString key) ++ r)) = .ok (some (key, r)) := by
  have hclose : (quoteByte : UInt8) ≠ objectClose := by decide
  rw [nextKey, skipBlanks_indent, encode_printString, skipBlanks_quote]
  simp only [if_neg hclose, Bool.not_true, Bool.and_false, Bool.false_eq_true, if_false, if_true,
    readStringBody_escape, Except.map]

theorem nextKey_comma_indent (key : String) (r : Bytes) :
    nextKey false (commaByte :: (Utf8.encode (indent level) ++ (Utf8.encode (printString key) ++ r))) =
      .ok (some (key, r)) := by
  have hcomma : (commaByte : UInt8) ≠ objectClose := by decide
  rw [nextKey, skipBlanks_cons (by decide)]
  simp only [if_neg hcomma, Bool.not_false, Bool.and_true, decide_true, if_true, skipBlanks_indent,
    encode_printString, skipBlanks_quote, readStringBody_escape, Except.map]

theorem readMembers_end {read : Bytes → Except Fault (Value × Bytes)} (first : Bool) (n : Nat) (r : Bytes) :
    readMembers read (n + 1) first (Utf8.encode (indent close) ++ objectClose :: r) = .ok ([], r) := by
  have hnext : nextKey first (Utf8.encode (indent close) ++ objectClose :: r) = .ok none := by
    rw [nextKey, skipBlanks_indent, skipBlanks_cons (by decide)]
    rfl
  have hend : endObject (Utf8.encode (indent close) ++ objectClose :: r) = .ok ((), r) := by
    rw [endObject, skipBlanks_indent, skipBlanks_cons (by decide)]
    rfl
  rw [readMembers, hnext]
  simp only [bind, Except.bind, hend]
  rfl

theorem endsNumber_members (ms : List (String × Value)) (r : Bytes) :
    EndsNumber (Utf8.encode (printPrettyMembers level ms) ++ (Utf8.encode (indent close) ++ r)) := by
  cases ms with
  | nil => exact endsNumber_indent close r
  | cons m ms =>
    rw [printPrettyMembers, List.cons_append, List.cons_append, List.cons_append, encode_cons, encode_comma]
    exact endsNumber_comma _

/-- The members after the first one, each in a line of its own, with a blank behind its colon. -/
theorem readMembers_printPrettyMembers {ms : List (String × Value)}
    (h : ∀ m ∈ ms, ReadsBefore (readValue depth) (m.2.printPretty level) m.2) {n : Nat} (hn : ms.length < n)
    (r : Bytes) :
    readMembers (readValue depth) n false
        (Utf8.encode (printPrettyMembers level ms) ++ (Utf8.encode (indent close) ++ objectClose :: r)) =
      .ok (ms, r) := by
  induction ms generalizing n with
  | nil =>
    obtain ⟨n, rfl⟩ : ∃ k, n = k + 1 := ⟨n - 1, by simp at hn; omega⟩
    exact readMembers_end false n r
  | cons m ms ih =>
    obtain ⟨n, rfl⟩ : ∃ k, n = k + 1 := ⟨n - 1, by simp at hn; omega⟩
    obtain ⟨key, v⟩ := m
    have hread := h (key, v) List.mem_cons_self
    have hrest := ih (fun w hw => h w (List.mem_cons_of_mem _ hw)) (Nat.lt_of_succ_lt_succ hn)
    have hcolon (t : Bytes) : readColon (colonByte :: t) = .ok ((), t) := rfl
    simp only [printPrettyMembers, encode_cons, encode_append, encode_comma, encode_colon, encode_space,
      List.cons_append, List.nil_append, List.append_assoc]
    simp only [readMembers, nextKey_comma_indent, bind, Except.bind, hcolon, readValue_space,
      hread _ (endsNumber_members ms _), hrest]
    rfl

theorem length_printPrettyMembers (level : Nat) (ms : List (String × Value)) :
    ms.length ≤ (Utf8.encode (printPrettyMembers level ms)).length := by
  induction ms with
  | nil => exact Nat.zero_le _
  | cons m ms ih =>
    simp only [printPrettyMembers, List.cons_append, encode_cons, encode_append, encode_comma, List.length_append,
      List.length_cons, List.length_nil]
    omega

end Members

/-! ### Values -/

section Values

variable {depth : Nat}

/-- The first byte of a numeral: its sign or a digit. -/
theorem encode_integerNumeral (i : Int) :
    ∃ b t, Utf8.encode (integerNumeral i) = b :: t ∧ (b = minusByte ∨ isDigitByte b = true) := by
  unfold integerNumeral
  split
  · rw [encode_cons, encode_minus]
    exact ⟨minusByte, _, rfl, .inl rfl⟩
  · obtain ⟨b, t, ht, hb⟩ := encode_numeral i.natAbs
    exact ⟨b, t, ht, .inr hb⟩

theorem starts_integerNumeral (i : Int) : Starts (integerNumeral i) := by
  obtain ⟨b, t, ht, hb⟩ := encode_integerNumeral i
  refine ⟨b, t, ht, ?_, ?_⟩
  · rcases hb with rfl | hb
    · decide
    · exact isBlankByte_of_isDigitByte hb
  · rintro rfl
    rcases hb with hb | hb
    · exact absurd hb (by decide)
    · exact absurd hb (by decide)

theorem starts_string (s : String) : Starts (printString s) := by
  have h := encode_printString s []
  rw [List.append_nil] at h
  exact ⟨quoteByte, _, h, by decide, by decide⟩

/-- A printed value begins with no blank, and is no end of a list. -/
theorem starts_printPretty {v : Value} (hw : v.IsWhole) (level : Nat) : Starts (v.printPretty level) := by
  have hlist (t : List Char) : Starts ('[' :: t) := by
    refine ⟨listOpen, Utf8.encode t, ?_, by decide, by decide⟩
    rw [encode_cons, encode_bracket]
    rfl
  have hobject (t : List Char) : Starts ('\x7b' :: t) := by
    refine ⟨objectOpen, Utf8.encode t, ?_, by decide, by decide⟩
    rw [encode_cons, encode_brace]
    rfl
  cases v with
  | null => exact ⟨letter 'n', _, rfl, by decide, by decide⟩
  | bool b =>
    cases b with
    | false => exact ⟨letter 'f', _, rfl, by decide, by decide⟩
    | true => exact ⟨letter 't', _, rfl, by decide, by decide⟩
  | number n =>
    cases n with
    | int i => exact starts_integerNumeral i
    | double x => exact absurd (hw _ List.mem_cons_self) id
    | single x => exact absurd (hw _ List.mem_cons_self) id
  | string s => exact starts_string s
  | array vs => cases vs <;> exact hlist _
  | object ms =>
    cases ms with
    | nil => exact hobject _
    | cons m ms => exact hobject _

theorem readValue_string (s : String) : ReadsBefore (readValue depth) (printString s) (.string s) := by
  intro r _
  rw [encode_printString]
  unfold readValue
  rw [skipBlanks_quote]
  have hbody := readStringBody_escape s r
  show (readStringBody _).map _ = _
  rw [hbody]
  rfl

/-- An integer is read of its numeral as long as it fits into 64 bits, with a sign or without. -/
theorem readValue_integer {i : Int} (hi : Numeric.IsWhole (.int i)) :
    ReadsBefore (readValue depth) (integerNumeral i) (.number (.int i)) := by
  intro r hr
  have hread := readNumber_natAbs hi.1 hi.2 hr
  unfold readValue integerNumeral
  by_cases hneg : i < 0
  · rw [decide_eq_true hneg] at hread
    rw [if_pos hneg, encode_cons, encode_minus, List.singleton_append, List.cons_append, skipBlanks_cons (by decide)]
    show (readNumber true _).map _ = _
    rw [hread]
    rfl
  · rw [decide_eq_false hneg] at hread
    obtain ⟨b, t, ht, hb⟩ := encode_numeral i.natAbs
    have hother {x : UInt8} (hx : isDigitByte x = false) : b ≠ x := by
      rintro rfl
      rw [hb] at hx
      cases hx
    rw [ht, List.cons_append] at hread
    rw [if_neg hneg, ht, List.cons_append, skipBlanks_cons (isBlankByte_of_isDigitByte hb)]
    have hn : b ≠ letter 'n' := hother (by decide)
    have ht' : b ≠ letter 't' := hother (by decide)
    have hf : b ≠ letter 'f' := hother (by decide)
    have hminus : b ≠ minusByte := hother (by decide)
    simp only [if_neg hn, if_neg ht', if_neg hf, if_neg hminus, hb, if_true, hread, Except.map]

theorem readValue_list (s : Bytes) : readValue (depth + 1) (listOpen :: s) =
    (readItems (readValue depth) (s.length + 1) true s).map fun p => (.array p.1, p.2) := by
  rw [readValue]
  rfl

theorem readValue_object (s : Bytes) : readValue (depth + 1) (objectOpen :: s) =
    (readMembers (readValue depth) (s.length + 1) true s).map fun p => (.object (Keyed.ofList p.1), p.2) := by
  rw [readValue]
  rfl

/-- A value that is no list or object is read at any depth. -/
theorem reads_scalar {v : Value} (hs : v.isScalar = true) (hw : v.IsWhole) (level : Nat) :
    ReadsBefore (readValue depth) (v.printPretty level) v := by
  cases v with
  | null =>
    intro r _
    unfold readValue
    rfl
  | bool b =>
    intro r _
    unfold readValue
    cases b <;> rfl
  | number n =>
    cases n with
    | int i => exact readValue_integer (hw _ List.mem_cons_self)
    | double x => exact absurd (hw _ List.mem_cons_self) id
    | single x => exact absurd (hw _ List.mem_cons_self) id
  | string s => exact readValue_string s
  | array vs => cases hs
  | object ms => cases hs

/-- A list is read when its items are. -/
theorem reads_array {vs : List Value} {level : Nat} (h : ∀ v ∈ vs,
      ReadsBefore (readValue depth) (v.printPretty (level + 1)) v ∧ Starts (v.printPretty (level + 1))) :
    ReadsBefore (readValue (depth + 1)) ((Value.array vs).printPretty level) (.array vs) := by
  intro r hr
  cases vs with
  | nil =>
    show readValue (depth + 1) (listOpen :: listClose :: r) = _
    rw [readValue_list]
    rfl
  | cons v vs =>
    obtain ⟨hread, hstart⟩ := h v List.mem_cons_self
    have hrest : ∀ w ∈ vs, ReadsBefore (readValue depth) (w.printPretty (level + 1)) w ∧
        Starts (w.printPretty (level + 1)) := fun w hw => h w (List.mem_cons_of_mem _ hw)
    have hlength := length_printPrettyItems (level + 1) vs
    simp only [Value.printPretty, List.cons_append, encode_cons, encode_append, encode_nil, encode_bracket,
      encode_closingBracket, List.nil_append, List.append_assoc]
    rw [readValue_list]
    simp only [readItems, nextItem_indent hstart, bind, Except.bind, hread _ (endsNumber_items vs _)]
    rw [readItems_printPrettyItems hrest]
    · rfl
    · rw [encode_indent]
      simp only [List.length_append, List.length_cons]
      omega

/-- The members of an object are read as they were printed, in whatever order, when their values are. -/
theorem readMembers_prettyObject {ms : List (String × Value)} {level : Nat}
    (h : ∀ m ∈ ms, ReadsBefore (readValue depth) (m.2.printPretty (level + 1)) m.2) (r : Bytes) :
    ∃ t, Utf8.encode ((Value.object ms).printPretty level) ++ r = objectOpen :: t ∧
      readMembers (readValue depth) (t.length + 1) true t = .ok (ms, r) := by
  cases ms with
  | nil => exact ⟨objectClose :: r, rfl, rfl⟩
  | cons m ms =>
    obtain ⟨key, v⟩ := m
    have hread := h (key, v) List.mem_cons_self
    have hrest : ∀ m ∈ ms, ReadsBefore (readValue depth) (m.2.printPretty (level + 1)) m.2 :=
      fun m hm => h m (List.mem_cons_of_mem _ hm)
    have hlength := length_printPrettyMembers (level + 1) ms
    have hcolon (t : Bytes) : readColon (colonByte :: t) = .ok ((), t) := rfl
    simp only [Value.printPretty, List.cons_append, encode_cons, encode_append, encode_nil, encode_brace,
      encode_closingBrace, encode_colon, encode_space, List.nil_append, List.append_assoc]
    refine ⟨_, rfl, ?_⟩
    simp only [readMembers, nextKey_indent, bind, Except.bind, hcolon, readValue_space,
      hread _ (endsNumber_members ms _)]
    rw [readMembers_printPrettyMembers hrest]
    · rfl
    · rw [encode_indent]
      simp only [List.length_append, List.length_cons]
      omega

/-- An object is read when its members are, if its keys are in order. -/
theorem reads_prettyObject {ms : List (String × Value)} {level : Nat} (hsorted : Keyed.Sorted ms)
    (h : ∀ m ∈ ms, ReadsBefore (readValue depth) (m.2.printPretty (level + 1)) m.2) :
    ReadsBefore (readValue (depth + 1)) ((Value.object ms).printPretty level) (.object ms) := by
  intro r hr
  obtain ⟨t, htext, hmembers⟩ := readMembers_prettyObject h r
  rw [htext, readValue_object, hmembers]
  exact congrArg (fun ms => Except.ok (Value.object ms, r)) (Keyed.ofList_of_sorted hsorted)

/-- A printed value is read as deep as it is nested, if its numbers are integers of 64 bits. -/
theorem reads_printPretty {v : Value} (hn : v.Nests depth) (hw : v.IsWhole) (level : Nat) :
    ReadsBefore (readValue depth) (v.printPretty level) v := by
  induction depth generalizing v level with
  | zero => exact reads_scalar hn hw level
  | succ depth ih =>
    cases v with
    | array vs =>
      refine reads_array ?_
      intro v hv
      have hv' := isWhole_array.1 hw v hv
      exact ⟨ih (hn v hv) hv' (level + 1), starts_printPretty hv' (level + 1)⟩
    | object ms =>
      refine reads_prettyObject hn.1 ?_
      intro m hm
      exact ih (hn.2 m hm) (isWhole_object.1 hw m hm) (level + 1)
    | null | bool _ | number _ | string _ => exact reads_scalar rfl hw level

end Values

end ClusterPanel.Json
