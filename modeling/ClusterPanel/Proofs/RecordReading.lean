import ClusterPanel.Proofs.JsonReading

/- Printed records read back. `readItems`, `readMembers` and `readFields` walk along what the printer wrote, one item
   or one member at a time: so a list is read of what its items are read of (`reads_list`), an object whose members
   are all strings gives back its pairs when its keys are in order (`reads_keyed`), and a record is read when each of
   its members fills a field of the draft (`Fills`, `reads_record`). A member that is left out fills nothing
   (`Fills.unless`). A number has no mark at its end, so a member's value has to be read only where something follows
   that can follow a member (`EndsMember`). -/
namespace ClusterPanel.Json

open Text

variable {α β δ : Type}

/-- What is read of a whole text. -/
theorem readAll_of_reads {read : Bytes → Except Fault (α × Bytes)} {v : Value} {x : α} (h : Reads read v.print x) :
    readAll read (bytesOf v.compact) = .ok x := by
  have hread := h []
  rw [List.append_nil] at hread
  rw [Value.compact, bytesOf, String.toList_ofList, readAll, hread]
  rfl

theorem reads_bool (b : Bool) : Reads readBool (Value.bool b).print b := by
  intro r
  cases b <;> rfl

/-- The text begins as a string or an object does, so neither a blank nor the end of a list. -/
def Opens (text : List Char) : Prop :=
  ∃ b t, Utf8.encode text = b :: t ∧ (b = quoteByte ∨ b = objectOpen)

theorem opens_string (s : String) : Opens (Value.string s).print := by
  have h := encode_printString s []
  rw [List.append_nil] at h
  exact ⟨quoteByte, _, h, .inl rfl⟩

theorem encode_brace : Utf8.encodeChar '\x7b' = [objectOpen] := by decide

theorem encode_closingBrace : Utf8.encodeChar '\x7d' = [objectClose] := by decide

theorem encode_bracket : Utf8.encodeChar '[' = [listOpen] := by decide

theorem encode_closingBracket : Utf8.encodeChar ']' = [listClose] := by decide

theorem encode_comma : Utf8.encodeChar ',' = [commaByte] := by decide

theorem encode_colon : Utf8.encodeChar ':' = [colonByte] := by decide

theorem Opens.skipBlanks {text : List Char} (h : Opens text) (r : Bytes) :
    skipBlanks (Utf8.encode text ++ r) = Utf8.encode text ++ r := by
  obtain ⟨b, t, ht, hb⟩ := h
  rw [ht, List.cons_append]
  rcases hb with rfl | rfl <;> exact skipBlanks_cons (by decide) _

/-! ## Lists -/

theorem nextItem_first {text : List Char} (h : Opens text) (r : Bytes) :
    nextItem true (Utf8.encode text ++ r) = .ok (some (Utf8.encode text ++ r)) := by
  rw [nextItem, h.skipBlanks]
  obtain ⟨b, t, ht, hb⟩ := h
  rw [ht, List.cons_append]
  rcases hb with rfl | rfl <;> rfl

theorem nextItem_comma {text : List Char} (h : Opens text) (r : Bytes) :
    nextItem false (commaByte :: (Utf8.encode text ++ r)) = .ok (some (Utf8.encode text ++ r)) := by
  have hclose : (commaByte : UInt8) ≠ listClose := by decide
  rw [nextItem, skipBlanks_cons (by decide)]
  simp only [if_neg hclose, Bool.not_false, Bool.and_true, decide_true, if_true, h.skipBlanks]
  obtain ⟨b, t, ht, hb⟩ := h
  rw [ht, List.cons_append]
  rcases hb with rfl | rfl <;> rfl

section Lists

variable {read : Bytes → Except Fault (α × Bytes)} {value : α → Value} {xs : List α}

/-- The items after the first one. There have to be rounds for each of them and for the end. -/
theorem readItems_printItems (h : ∀ x ∈ xs, Reads read (value x).print x ∧ Opens (value x).print) {n : Nat}
    (hn : xs.length < n) (r : Bytes) :
    readItems read n false (Utf8.encode (printItems (xs.map value)) ++ listClose :: r) = .ok (xs, r) := by
  induction xs generalizing n with
  | nil =>
    obtain ⟨n, rfl⟩ : ∃ k, n = k + 1 := ⟨n - 1, by simp at hn; omega⟩
    rfl
  | cons x xs ih =>
    obtain ⟨n, rfl⟩ : ∃ k, n = k + 1 := ⟨n - 1, by simp at hn; omega⟩
    obtain ⟨hread, hopen⟩ := h x List.mem_cons_self
    have hrest := ih (fun y hy => h y (List.mem_cons_of_mem _ hy)) (Nat.lt_of_succ_lt_succ hn)
    simp only [List.map_cons, printItems, encode_cons, encode_append, encode_comma, List.cons_append, List.nil_append,
      List.append_assoc]
    simp only [readItems, nextItem_comma hopen, bind, Except.bind, hread _, hrest]
    rfl

theorem length_printItems (vs : List Value) : vs.length ≤ (Utf8.encode (printItems vs)).length := by
  induction vs with
  | nil => exact Nat.zero_le _
  | cons v vs ih =>
    simp only [printItems, encode_cons, encode_append, encode_comma, List.length_append, List.length_cons,
      List.length_nil]
    omega

/-- A list is read when each of its items is. -/
theorem reads_list (h : ∀ x ∈ xs, Reads read (value x).print x ∧ Opens (value x).print) :
    Reads (readList read) (Value.array (xs.map value)).print xs := by
  intro r
  cases xs with
  | nil => rfl
  | cons x xs =>
    obtain ⟨hread, hopen⟩ := h x List.mem_cons_self
    have hlength := length_printItems (xs.map value)
    simp only [List.map_cons, Value.print, encode_cons, encode_append, encode_nil, encode_bracket,
      encode_closingBracket, List.append_assoc, List.cons_append, List.nil_append]
    rw [readList, skipBlanks_cons (by decide)]
    simp only [if_true, readItems, nextItem_first hopen, bind, Except.bind, hread _]
    rw [readItems_printItems (fun y hy => h y (List.mem_cons_of_mem _ hy))]
    · rfl
    · rw [List.length_map] at hlength
      rw [List.length_append, List.length_append]
      obtain ⟨b, t, ht, -⟩ := hopen
      rw [ht, List.length_cons]
      omega

theorem reads_strings (xs : List String) :
    Reads (readList readString) (Value.array (xs.map Value.string)).print xs :=
  reads_list fun x _ => ⟨reads_string x, opens_string x⟩

end Lists

/-! ## Members -/

/-- Members one after the other; `first` says that none stands before them. -/
def membersText : Bool → List (String × Value) → List Char
  | _, [] => []
  | first, (key, v) :: ms => memberText first key v.print ++ membersText false ms

theorem printMembers_eq (ms : List (String × Value)) : printMembers ms = membersText false ms := by
  induction ms with
  | nil => rfl
  | cons p ms ih => simp [printMembers, membersText, memberText, ih]

theorem print_object (ms : List (String × Value)) :
    (Value.object ms).print = '\x7b' :: (membersText true ms ++ ['\x7d']) := by
  cases ms with
  | nil => rfl
  | cons p ms => simp [Value.print, printMembers_eq, membersText, memberText]

theorem opens_object (ms : List (String × Value)) : Opens (Value.object ms).print := by
  refine ⟨objectOpen, Utf8.encode (membersText true ms ++ ['\x7d']), ?_, .inr rfl⟩
  rw [print_object, encode_cons, encode_brace]
  rfl

theorem encode_object (ms : List (String × Value)) (r : Bytes) :
    Utf8.encode (Value.object ms).print ++ r =
      objectOpen :: (Utf8.encode (membersText true ms) ++ objectClose :: r) := by
  rw [print_object, encode_cons, encode_append, encode_cons, encode_nil, encode_brace, encode_closingBrace]
  simp

theorem length_membersText (first : Bool) (ms : List (String × Value)) :
    ms.length ≤ (Utf8.encode (membersText first ms)).length := by
  induction ms generalizing first with
  | nil => exact Nat.zero_le _
  | cons p ms ih =>
    have hpos := length_memberText_pos first p.1 p.2.print
    have hrest := ih false
    rw [membersText, encode_append, List.length_append, List.length_cons]
    omega

/-- An object whose members are all strings. -/
theorem readMembers_strings (m : Keyed String) {n : Nat} (hn : m.length < n) (first : Bool) (r : Bytes) :
    readMembers readString n first
      (Utf8.encode (membersText first (m.map fun p => (p.1, .string p.2))) ++ objectClose :: r) = .ok (m, r) := by
  induction m generalizing n first with
  | nil =>
    obtain ⟨n, rfl⟩ : ∃ k, n = k + 1 := ⟨n - 1, by simp at hn; omega⟩
    cases first <;> rfl
  | cons p m ih =>
    obtain ⟨n, rfl⟩ : ∃ k, n = k + 1 := ⟨n - 1, by simp at hn; omega⟩
    obtain ⟨key, s⟩ := p
    have hrest := ih (Nat.lt_of_succ_lt_succ hn) false
    have hcolon (t : Bytes) : readColon (colonByte :: t) = .ok ((), t) := rfl
    rw [List.map_cons, membersText, encode_append, List.append_assoc, readMembers, nextKey_member]
    simp only [bind, Except.bind, hcolon, reads_string s _, Value.print, hrest]
    rfl

theorem reads_keyed {m : Keyed String} (h : m.Sorted) :
    Reads (readKeyed readString) (Value.object (m.map fun p => (p.1, .string p.2))).print m := by
  intro r
  have hlength := length_membersText true (m.map fun p => (p.1, Value.string p.2))
  rw [encode_object, readKeyed, skipBlanks_cons (by decide)]
  simp only [if_true]
  rw [readMembers_strings m]
  · simp only [Except.map, Keyed.ofList_of_sorted h]
  · rw [List.length_map] at hlength
    rw [List.length_append]
    omega

/-! ## Records -/

/-- What may stand after a member: the comma before the next one, or the end of the object. -/
def EndsMember (r : Bytes) : Prop := ∃ b t, r = b :: t ∧ (b = commaByte ∨ b = objectClose)

/-- The reader takes the text of a member's value, and makes `x` of it. -/
def ReadsMember (read : Bytes → Except Fault (α × Bytes)) (text : List Char) (x : α) : Prop :=
  ∀ r, EndsMember r → read (Utf8.encode text ++ r) = .ok (x, r)

theorem Reads.member {read : Bytes → Except Fault (α × Bytes)} {text : List Char} {x : α} (h : Reads read text x) :
    ReadsMember read text x := fun r _ => h r

/-- The members, one after the other, lead from one draft to another: each fills a field that was empty. -/
inductive Fills (fields : List (FieldShape δ)) : δ → List (String × Value) → δ → Prop
  | nil (d : δ) : Fills fields d [] d
  | cons {d d' d'' : δ} {f : FieldShape δ} {key : String} {v : Value} {ms : List (String × Value)}
      (hf : fields.find? (·.name == key) = some f) (hnew : f.filled d = false)
      (hread : ReadsMember (f.read d) v.print d') (h : Fills fields d' ms d'') : Fills fields d ((key, v) :: ms) d''

variable {fields : List (FieldShape δ)} {d d' d'' : δ} {ms ms' : List (String × Value)}

theorem Fills.append (h : Fills fields d ms d') (h' : Fills fields d' ms' d'') :
    Fills fields d (ms ++ ms') d'' := by
  induction h with
  | nil d => exact h'
  | cons hf hnew hread _ ih => exact .cons hf hnew hread (ih h')

section Field

variable {name key : String} {optional : Bool} {get : δ → Option β} {set : δ → β → δ}
  {read : Bytes → Except Fault (β × Bytes)} {v : Value} {x : β}

/-- A member of a field that keeps its value in a slot of the draft. -/
theorem Fills.field (hf : fields.find? (·.name == key) = some (.of name optional get set read)) (hnew : get d = none)
    (hread : ReadsMember read v.print x) (h : Fills fields (set d x) ms d') : Fills fields d ((key, v) :: ms) d' := by
  refine .cons hf ?_ ?_ h
  · simp only [FieldShape.of, hnew, Option.isSome_none]
  · intro r hr
    simp only [FieldShape.of, hread r hr, Except.map]

/-- A member that is left out when it says nothing fills nothing then. -/
theorem Fills.unless (skip : Bool) (hf : fields.find? (·.name == key) = some (.of name optional get set read))
    (hnew : get d = none) (hread : ReadsMember read v.print x) :
    Fills fields d (if skip then [] else [(key, v)]) (if skip then d else set d x) := by
  cases skip with
  | true => exact .nil d
  | false => exact .field hf hnew hread (.nil _)

end Field

/-- After the members of a record comes what may come after any of them. -/
theorem endsMember_membersText (ms : List (String × Value)) (r : Bytes) :
    EndsMember (Utf8.encode (membersText false ms) ++ objectClose :: r) := by
  cases ms with
  | nil => exact ⟨objectClose, r, rfl, .inr rfl⟩
  | cons p ms =>
    simp only [membersText, memberText, Bool.false_eq_true, if_false, List.cons_append,
      encode_cons, encode_comma, List.nil_append]
    exact ⟨commaByte, _, rfl, .inl rfl⟩

/-- The members of a record are read one by one, up to the brace. -/
theorem readFields_of_fills (h : Fills fields d ms d') {n : Nat} (hn : ms.length < n) (first : Bool) (r : Bytes) :
    readFields fields n first d (Utf8.encode (membersText first ms) ++ objectClose :: r) =
      .ok (d', objectClose :: r) := by
  induction h generalizing n first with
  | nil d =>
    obtain ⟨n, rfl⟩ : ∃ k, n = k + 1 := ⟨n - 1, by simp at hn; omega⟩
    exact readFields_end fields n first d r
  | @cons d d' d'' f key v ms hf hnew hread _ ih =>
    obtain ⟨n, rfl⟩ : ∃ k, n = k + 1 := ⟨n - 1, by simp at hn; omega⟩
    have hcolon (t : Bytes) : readColon (colonByte :: t) = .ok ((), t) := rfl
    rw [membersText, encode_append, List.append_assoc, readFields, nextKey_member]
    simp only [bind, Except.bind, hf, hnew, Bool.false_eq_true, if_false, hcolon,
      hread _ (endsMember_membersText ms r)]
    exact ih (Nat.lt_of_succ_lt_succ hn) false

/-- A record is read of the object whose members fill its draft. -/
theorem reads_record {shape : Shape δ α} {x : α} (h : Fills shape.fields shape.start ms d)
    (hfinish : shape.finish d = .ok x) : Reads shape.read (Value.object ms).print x := by
  intro r
  have hlength := length_membersText true ms
  rw [encode_object]
  refine read_object (readFields_of_fills h ?_ true r) hfinish
  rw [List.length_append]
  omega

/-- A value that may be `null` and is there. -/
theorem readOption_present {read : Bytes → Except Fault (α × Bytes)} {text : List Char} (hopen : Opens text)
    (r : Bytes) :
    readOption read (Utf8.encode text ++ r) = (read (Utf8.encode text ++ r)).map fun p => (some p.1, p.2) := by
  rw [readOption, hopen.skipBlanks]
  obtain ⟨b, t, ht, hb⟩ := hopen
  have hn : b ≠ letter 'n' := by rcases hb with rfl | rfl <;> decide
  rw [ht, List.cons_append]
  simp only [if_neg hn]

theorem reads_present {read : Bytes → Except Fault (α × Bytes)} {text : List Char} {x : α} (hopen : Opens text)
    (h : Reads read text x) : Reads (readOption read) text (some x) := by
  intro r
  rw [readOption_present hopen, h r]
  rfl

/-! ## What is not read -/

/-- The reader takes nothing off a text that begins so. -/
def Refuses (read : Bytes → Except Fault (α × Bytes)) (text : List Char) : Prop :=
  ∀ r x, read (Utf8.encode text ++ r) ≠ .ok x

theorem readAll_of_refuses {read : Bytes → Except Fault (α × Bytes)} {v : Value} (h : Refuses read v.print) (x : α) :
    readAll read (bytesOf v.compact) ≠ .ok x := by
  intro hread
  obtain ⟨p, hp, -⟩ := bind_eq_ok hread
  have hrefused := h [] p
  rw [List.append_nil] at hrefused
  rw [Value.compact, bytesOf, String.toList_ofList] at hp
  exact hrefused hp

theorem refuses_present {read : Bytes → Except Fault (α × Bytes)} {text : List Char} (hopen : Opens text)
    (h : Refuses read text) : Refuses (readOption read) text := by
  intro r x hread
  rw [readOption_present hopen] at hread
  obtain ⟨p, hp, -⟩ := map_eq_ok hread
  exact h r p hp

theorem refuses_field {name : String} {optional : Bool} {get : δ → Option β} {set : δ → β → δ}
    {read : Bytes → Except Fault (β × Bytes)} {text : List Char} (h : Refuses read text) (d : δ) :
    Refuses ((FieldShape.of name optional get set read).read d) text := by
  intro r x hread
  obtain ⟨p, hp, -⟩ := map_eq_ok hread
  exact h r p hp

section Refuses

variable {f : FieldShape δ} {key : String} {v : Value}

/-- Reading the members of a record goes no further than the first that is not read. -/
theorem readFields_of_refuses (h : Fills fields d ms d') (hf : fields.find? (·.name == key) = some f)
    (hv : ∀ d, Refuses (f.read d) v.print) (n : Nat) (first : Bool) (r : Bytes) (x : δ × Bytes) :
    readFields fields n first d (Utf8.encode (membersText first (ms ++ (key, v) :: ms')) ++ objectClose :: r) ≠
      .ok x := by
  have hcolon (t : Bytes) : readColon (colonByte :: t) = .ok ((), t) := rfl
  induction h generalizing n first with
  | nil d =>
    cases n with
    | zero =>
      intro hread
      cases hread
    | succ n =>
      intro hread
      rw [List.nil_append, membersText, encode_append, List.append_assoc, readFields, nextKey_member] at hread
      obtain ⟨next, hnext, hread⟩ := bind_eq_ok hread
      cases hnext
      simp only [hf] at hread
      split at hread
      · cases hread
      · obtain ⟨c, hc, hread⟩ := bind_eq_ok hread
        rw [hcolon] at hc
        cases hc
        obtain ⟨p, hp, -⟩ := bind_eq_ok hread
        exact hv d _ p hp
  | @cons d d' d'' g key' w ms hg hnew hread _ ih =>
    cases n with
    | zero =>
      intro hread
      cases hread
    | succ n =>
      rw [List.cons_append, membersText, encode_append, List.append_assoc, readFields, nextKey_member]
      simp only [bind, Except.bind, hg, hnew, Bool.false_eq_true, if_false, hcolon,
        hread _ (endsMember_membersText _ r)]
      exact ih n false

theorem refuses_record {shape : Shape δ α} (h : Fills shape.fields shape.start ms d)
    (hf : shape.fields.find? (·.name == key) = some f) (hv : ∀ d, Refuses (f.read d) v.print) :
    Refuses shape.read (Value.object (ms ++ (key, v) :: ms')).print := by
  intro r x hread
  have hlist : (objectOpen : UInt8) ≠ listOpen := by decide
  rw [encode_object, Shape.read, skipBlanks_cons (by decide)] at hread
  simp only [if_neg hlist, if_true] at hread
  obtain ⟨p, hp, -⟩ := bind_eq_ok hread
  exact readFields_of_refuses h hf hv _ true r p hp

end Refuses

end ClusterPanel.Json
