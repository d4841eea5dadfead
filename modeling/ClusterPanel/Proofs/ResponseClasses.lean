import ClusterPanel.Proofs.HeaderMerge
import ClusterPanel.Proofs.OneRequest
import ClusterPanel.Proofs.ValueReading
import Mathlib.Data.List.Induction

/- What responses come to. A response belongs to one of three classes by its status, and to each class belongs what the
   caller is told (`response_classified`): the credential is not accepted, whatever the body says; or the request
   failed, and the message is what the body explains (`Explains`), that is the last `error` member of an object, or
   else the status; or the body is read as what the caller expects. A failure is reported once, as the caller is
   told of it, and a success is not reported. -/
namespace ClusterPanel

open Http Json Number Text

/-! ## Repeated keys -/

namespace Keyed

variable {α : Type} {k : String} {v : α} {ps : List (String × α)}

/-- `v` stands last under the key `k`. -/
def IsLast (k : String) (v : α) (ps : List (String × α)) : Prop :=
  ∃ before after, ps = before ++ (k, v) :: after ∧ ∀ p ∈ after, p.1 ≠ k

theorem get?_ofList_concat (k : String) (ps : List (String × α)) (p : String × α) :
    (ofList (ps ++ [p])).get? k = if p.1 = k then some p.2 else (ofList ps).get? k := by
  have hconcat : ofList (ps ++ [p]) = (ofList ps).insert p.1 p.2 := by
    rw [ofList, List.foldl_append]
    rfl
  rw [hconcat]
  split
  · next hk => rw [hk, get?_insert_self]
  · next hk => exact get?_insert_ne (Ne.symm hk)

theorem isLast_concat {p : String × α} :
    IsLast k v (ps ++ [p]) ↔ p = (k, v) ∨ p.1 ≠ k ∧ IsLast k v ps := by
  constructor
  · rintro ⟨b, a, h, ha⟩
    rcases List.eq_nil_or_concat a with rfl | ⟨a, q, rfl⟩
    · have hlast := List.append_inj_right' h rfl
      exact .inl (List.cons.inj hlast).1
    · have hsplit : ps ++ [p] = (b ++ (k, v) :: a) ++ [q] := by simpa using h
      obtain ⟨hps, hp⟩ := List.append_inj' hsplit rfl
      have hq : p = q := (List.cons.inj hp).1
      exact .inr ⟨hq ▸ ha q (by simp), b, a, hps, fun x hx => ha x (by simp [hx])⟩
  · rintro (rfl | ⟨hp, b, a, rfl, ha⟩)
    · exact ⟨ps, [], rfl, fun q hq => absurd hq List.not_mem_nil⟩
    · refine ⟨b, a ++ [p], by simp, fun q hq => ?_⟩
      rcases List.mem_append.1 hq with hq | hq
      · exact ha q hq
      · exact List.mem_singleton.1 hq ▸ hp

/-- Of a repeated key the last value is found. -/
theorem get?_ofList_eq_some : (ofList ps).get? k = some v ↔ IsLast k v ps := by
  induction ps using List.reverseRecOn with
  | nil =>
    refine iff_of_false (by simp [ofList, get?]) ?_
    rintro ⟨b, a, h, -⟩
    simp at h
  | append_singleton ps p ih =>
    rw [get?_ofList_concat, isLast_concat, ← ih]
    obtain ⟨a, x⟩ := p
    by_cases hk : a = k
    · simp [hk]
    · simp [hk]

end Keyed

/-! ## Texts of objects -/

namespace Json

variable {depth : Nat} {s r text : Bytes} {ms ps : List (String × Value)}

/-- An object as its members in the order in which they stand in the text, those with repeated keys too. -/
def readObject (depth : Nat) (s : Bytes) : Except Fault (List (String × Value) × Bytes) :=
  match skipBlanks s with
  | [] => .error (.here .endOfValue [])
  | b :: r => if b = objectOpen then readMembers (readValue depth) (r.length + 1) true r else readMismatch "a map" (b :: r)

/-- The text is an object with these members, in this order, which nests no deeper than lists and objects may. -/
def HoldsMembers (text : Bytes) (ps : List (String × Value)) : Prop :=
  readAll (readObject (depthLimit - 1)) text = .ok ps

/-- No object is read where no brace opens. -/
theorem readValue_ne_object {b : UInt8} {t : Bytes} (hs : skipBlanks s = b :: t) (hb : b ≠ objectOpen) :
    readValue depth s ≠ .ok (.object ms, r) := by
  intro h
  unfold readValue at h
  rw [hs] at h
  dsimp only at h
  -- The words, the numbers, the strings and the lists are none.
  split at h
  · obtain ⟨_, -, h⟩ := bind_eq_ok h
    cases h
  split at h
  · obtain ⟨_, -, h⟩ := bind_eq_ok h
    cases h
  split at h
  · obtain ⟨_, -, h⟩ := bind_eq_ok h
    cases h
  split at h
  · obtain ⟨_, -, h⟩ := map_eq_ok h
    cases h
  split at h
  · obtain ⟨_, -, h⟩ := map_eq_ok h
    cases h
  split at h
  · obtain ⟨_, -, h⟩ := map_eq_ok h
    cases h
  split at h
  · cases depth with
    | zero => cases h
    | succ depth =>
      obtain ⟨_, -, h⟩ := map_eq_ok h
      cases h
  · cases h

/-- An object is its members, of which the last stays for every key. -/
theorem readValue_eq_object : readValue (depth + 1) s = .ok (.object ms, r) ↔
    ∃ ps, readObject depth s = .ok (ps, r) ∧ ms = Keyed.ofList ps := by
  unfold readObject
  cases hs : skipBlanks s with
  | nil =>
    have hread : readValue (depth + 1) s = .error (.here .endOfValue []) := by
      unfold readValue
      rw [hs]
    rw [hread]
    refine iff_of_false (fun h => by cases h) ?_
    rintro ⟨_, h, -⟩
    cases h
  | cons b t =>
    dsimp only
    by_cases hb : b = objectOpen
    · have hread : readValue (depth + 1) s =
          (readMembers (readValue depth) (t.length + 1) true t).map fun p => (.object (Keyed.ofList p.1), p.2) := by
        unfold readValue
        rw [hs, hb]
        rfl
      rw [if_pos hb, hread]
      cases readMembers (readValue depth) (t.length + 1) true t with
      | error f =>
        refine iff_of_false (fun h => by cases h) ?_
        rintro ⟨_, h, -⟩
        cases h
      | ok p =>
        obtain ⟨ps, r'⟩ := p
        constructor
        · intro h
          cases h
          exact ⟨ps, rfl, rfl⟩
        · rintro ⟨_, h, rfl⟩
          cases h
          rfl
    · rw [if_neg hb]
      refine iff_of_false (readValue_ne_object hs hb) ?_
      rintro ⟨_, h, -⟩
      exact readMismatch_ne_ok h

/-- A whole text is one value, with nothing but blanks behind it. -/
theorem readAll_eq_ok {α : Type} {read : Bytes → Except Fault (α × Bytes)} {x : α} :
    readAll read text = .ok x ↔ ∃ r, read text = .ok (x, r) ∧ skipBlanks r = [] := by
  constructor
  · intro h
    obtain ⟨⟨y, r⟩, hread, h⟩ := bind_eq_ok h
    split at h
    · next hend =>
      cases h
      exact ⟨r, hread, hend⟩
    · cases h
  · rintro ⟨r, hread, hend⟩
    simp only [readAll, hread, bind, Except.bind, hend]
    rfl

/-- A text is read as an object exactly when it holds members. -/
theorem ofBytes_eq_object :
    Value.ofBytes text = .ok (.object ms) ↔ ∃ ps, HoldsMembers text ps ∧ ms = Keyed.ofList ps := by
  have hdepth : depthLimit = depthLimit - 1 + 1 := rfl
  unfold Value.ofBytes HoldsMembers
  rw [readAll_eq_ok, hdepth]
  simp only [readAll_eq_ok, readValue_eq_object, Nat.add_sub_cancel]
  constructor
  · rintro ⟨r, ⟨ps, hobject, hps⟩, hend⟩
    exact ⟨ps, ⟨r, hobject, hend⟩, hps⟩
  · rintro ⟨ps, ⟨r, hobject, hend⟩, hps⟩
    exact ⟨r, ⟨ps, hobject, hps⟩, hend⟩

/-- A printed object holds the members that it was printed of, in whatever order and with whatever keys, if these nest
    one level less deep than a text may and their numbers are integers of 64 bits. -/
theorem holdsMembers_pretty (h : ∀ p ∈ ps, p.2.Nests (depthLimit - 1) ∧ p.2.IsWhole) :
    HoldsMembers (bytesOf (Value.object ps).pretty) ps := by
  have hread : ∀ p ∈ ps, ReadsBefore (readValue (depthLimit - 1)) (p.2.printPretty 1) p.2 :=
    fun p hp => reads_printPretty (h p hp).1 (h p hp).2 1
  obtain ⟨t, htext, hmembers⟩ := readMembers_prettyObject hread []
  rw [List.append_nil] at htext
  have hbytes : bytesOf (Value.object ps).pretty = objectOpen :: t := by
    rw [bytesOf, Value.pretty, String.toList_ofList, htext]
  refine readAll_eq_ok.2 ⟨[], ?_, rfl⟩
  rw [readObject, hbytes, skipBlanks_cons (by decide)]
  exact hmembers

/-! ## What is printed is something -/

theorem decimal_text_ne_nil (d : Decimal) (plain : PlainRange) : d.text plain ≠ [] := by
  unfold Decimal.text
  dsimp only
  split
  · split
    · simp
    · split <;> simp
  · simp

theorem text?_ne_nil {p : Precision} {plain : PlainRange} {x : Binary} {t : List Char} (h : p.text? plain x = some t) :
    t ≠ [] := by
  cases x with
  | infinite _ => cases h
  | finite negative m q =>
    cases h
    split
    · exact List.cons_ne_nil _ _
    · split
      · exact List.cons_ne_nil _ _
      · exact decimal_text_ne_nil _ _

theorem getD_text?_ne_nil {p : Precision} {plain : PlainRange} {x : Binary} {other : List Char} (h : other ≠ []) :
    (p.text? plain x).getD other ≠ [] := by
  cases ht : p.text? plain x with
  | none => exact h
  | some t => exact text?_ne_nil ht

theorem integerNumeral_ne_nil (i : Int) : integerNumeral i ≠ [] := by
  unfold integerNumeral
  split
  · exact List.cons_ne_nil _ _
  · exact numeral_ne_nil _

theorem numeric_print_ne_nil (n : Numeric) : n.print ≠ [] := by
  cases n with
  | int i => exact integerNumeral_ne_nil i
  | double x | single x => exact getD_text?_ne_nil (List.cons_ne_nil _ _)

theorem print_ne_nil (v : Value) : v.print ≠ [] := by
  cases v with
  | null => exact List.cons_ne_nil _ _
  | bool b => cases b <;> exact List.cons_ne_nil _ _
  | number n => exact numeric_print_ne_nil n
  | string s => exact List.cons_ne_nil _ _
  | array vs => cases vs <;> exact List.cons_ne_nil _ _
  | object ms =>
    cases ms with
    | nil => exact List.cons_ne_nil _ _
    | cons m ms => exact List.cons_ne_nil _ _

theorem compact_ne_empty (v : Value) : v.compact ≠ "" := by
  intro h
  rw [Value.compact, String.ofList_eq_empty_iff] at h
  exact print_ne_nil v h

end Json

/-! ## What a body explains -/

section Explains

variable {body : Bytes} {m : String}

/-- What the body of a failed response says went wrong: a text that is not empty, or any other value but `null` and
    `false` as JSON. It stands last under the key `error` in the object that the body is. -/
inductive Explains (body : Bytes) : String → Prop where
  | text {ps : List (String × Value)} {s : String} :
      HoldsMembers body ps → Keyed.IsLast "error" (.string s) ps → s ≠ "" → Explains body s
  | other {ps : List (String × Value)} {v : Value} :
      HoldsMembers body ps → Keyed.IsLast "error" v ps → v ≠ .null → v ≠ .bool false → (∀ s, v ≠ .string s) →
      Explains body v.compact

theorem Explains.ne_empty (h : Explains body m) : m ≠ "" := by
  cases h with
  | text _ _ hs => exact hs
  | other => exact compact_ne_empty _

/-- The `error` member of a body that is an object. -/
theorem error_member {ps : List (String × Value)} {v : Value} (hps : HoldsMembers body ps)
    (hv : Keyed.IsLast "error" v ps) :
    ∃ object, Value.ofBytes body = .ok object ∧ object.member? "error" = some v :=
  ⟨_, ofBytes_eq_object.2 ⟨ps, hps, rfl⟩, Keyed.get?_ofList_eq_some.2 hv⟩

theorem exists_error_member {object v : Value} (hread : Value.ofBytes body = .ok object)
    (hv : object.member? "error" = some v) : ∃ ps, HoldsMembers body ps ∧ Keyed.IsLast "error" v ps := by
  cases object with
  | object ms =>
    obtain ⟨ps, hps, rfl⟩ := ofBytes_eq_object.1 hread
    exact ⟨ps, hps, Keyed.get?_ofList_eq_some.1 hv⟩
  | null | bool _ | number _ | string _ | array _ => cases hv

/-- The message of a failed response is what its body explains. -/
theorem errorMessage?_eq_some : errorMessage? body = some m ↔ Explains body m := by
  constructor
  · intro h
    unfold errorMessage? at h
    cases hread : Value.ofBytes body with
    | error f =>
      rw [hread] at h
      cases h
    | ok object =>
      simp only [hread] at h
      split at h
      · cases h
      · cases h
      · cases h
      · next s hs =>
        obtain ⟨ps, hps, hlast⟩ := exists_error_member hread hs
        split at h
        · cases h
        · next hne =>
          cases h
          exact .text hps hlast fun he => hne (by rw [he]; rfl)
      · next v hnull hfalse hstring hv =>
        obtain ⟨ps, hps, hlast⟩ := exists_error_member hread hv
        cases h
        exact .other hps hlast hnull hfalse hstring
  · intro h
    cases h with
    | text hps hlast hs =>
      obtain ⟨object, hread, hmember⟩ := error_member hps hlast
      have hne : m.isEmpty = false := by simpa using hs
      simp only [errorMessage?, hread, hmember, hne]
      rfl
    | other hps hlast hnull hfalse hstring =>
      obtain ⟨object, hread, hmember⟩ := error_member hps hlast
      simp only [errorMessage?, hread, hmember]

end Explains

/-! ## Classes of responses -/

namespace Client

section Classes

variable {α : Type} {read : Bytes → Except Json.Fault α} {status : Nat} {body : Bytes}

theorem classify_failed (hu : status ≠ 401) (hs : status < 200 ∨ 300 ≤ status) :
    classify read (.response status body) = .error
      (.requestFailed status ((errorMessage? body).getD ("HTTP " ++ String.ofList (numeral status)))) := by
  have hunauthorized : status ≠ unauthorized := hu
  have hsuccess : isSuccess status = false := by
    simp only [isSuccess, Bool.and_eq_false_iff, decide_eq_false_iff_not]
    omega
  simp only [classify, if_neg hunauthorized, hsuccess, Bool.not_false, if_true]

theorem classify_unreadable {fault : Json.Fault} (hs : 200 ≤ status ∧ status < 300) (hread : read body = .error fault) :
    classify read (.response status body) = .error (.malformed ("invalid response body: " ++ fault.message body)) := by
  have hunauthorized : status ≠ unauthorized := by
    unfold unauthorized
    omega
  have hsuccess : isSuccess status = true := by
    simp only [isSuccess, Bool.and_eq_true, decide_eq_true_eq]
    exact hs
  simp only [classify, if_neg hunauthorized, hsuccess, Bool.not_true, Bool.false_eq_true, if_false, hread]

/-- The message of a failed response is what its body explains, or else its status; there always is one. -/
theorem message_of_failed (status : Nat) (body : Bytes) :
    let m := (errorMessage? body).getD ("HTTP " ++ String.ofList (numeral status))
    m ≠ "" ∧ (∀ m', Explains body m' → m = m') ∧
      ((∀ m', ¬Explains body m') → m = "HTTP " ++ String.ofList (numeral status)) := by
  cases h : errorMessage? body with
  | some m =>
    have hm := errorMessage?_eq_some.1 h
    refine ⟨hm.ne_empty, fun m' hm' => ?_, fun hnone => absurd hm (hnone m)⟩
    exact Option.some.inj (h.symm.trans (errorMessage?_eq_some.2 hm'))
  | none =>
    refine ⟨fun he => ?_, fun m' hm' => ?_, fun _ => rfl⟩
    · have hlength := congrArg String.length he
      simp [String.length_append] at hlength
    · exact absurd (errorMessage?_eq_some.2 hm') (h ▸ Option.some_ne_none m').symm

/-! ## Reports -/

theorem warnings_unusableCredential (session : Session) (endpoint : String) :
    ∀ d ∈ unusableCredential session endpoint, d.severity = .warning := by
  unfold unusableCredential
  split <;> simp [Diagnostic.severity]

/-- Clearing the session can report warnings only. -/
theorem log_settle (reply : Reply) (c : Client) :
    ∃ ds, (∀ d ∈ ds, d.severity = .warning) ∧ (c.settle reply).store.log = c.store.log ++ ds := by
  unfold settle
  split
  · refine ⟨_, ?_, rfl⟩
    unfold SessionStore.unsaved
    split <;> simp [Diagnostic.severity]
  · exact ⟨[], fun d hd => absurd hd List.not_mem_nil, (List.append_nil _).symm⟩

/-- What a request reports besides its failure are warnings. -/
theorem log_request (read : Bytes → Except Json.Fault α) (endpoint : String) (o : RequestOptions) (c : Client) :
    ∃ ds, (∀ d ∈ ds, d.severity = .warning) ∧
      (c.request read endpoint o).2.store.log = c.store.log ++ (ds ++ failures endpoint (classify read c.receive.1)) := by
  obtain ⟨ds, hds, hsettle⟩ := log_settle c.receive.1 (c.receive.2.send endpoint o)
  refine ⟨unusableCredential c.store.current endpoint ++ ds, ?_, ?_⟩
  · intro d hd
    exact (List.mem_append.1 hd).elim (warnings_unusableCredential _ _ d) (hds d)
  · have hsend : (c.receive.2.send endpoint o).store.log = c.store.log ++ unusableCredential c.store.current endpoint := by
      rw [receive_snd]
      rfl
    rw [Traffic.request_eq]
    show ((c.receive.2.send endpoint o).settle c.receive.1).store.log ++ _ = _
    rw [hsettle, hsend, List.append_assoc, List.append_assoc, List.append_assoc]

end Classes

/-- What a caller is told of a response, whatever its status, its body and the type that is read.

    A response with status 401 fails as such, whatever its body says, and the session is the empty one then. Any other
    status but that of a success fails with this status and a message that is never empty: what the body explains, and
    the status where it explains nothing. A response of success is what its body is read as, and fails as malformed if
    it cannot be read.

    Of errors, a request reports its own failure and no other: at its endpoint, with the kind and the message that the
    caller is told. A request that succeeds reports none. -/
theorem response_classified {α : Type} (read : Bytes → Except Json.Fault α) (endpoint : String) (o : RequestOptions)
    (c : Client) :
    let r := c.request read endpoint o
    (∀ status body, c.receive.1 = .response status body →
      (status = 401 → r.1 = .error ⟨.authenticationExpired, "Unauthorized"⟩ ∧ r.2.store.current = .empty) ∧
      (status ≠ 401 → status < 200 ∨ 300 ≤ status →
        ∃ m, r.1 = .error ⟨.requestFailed status, m⟩ ∧ m ≠ "" ∧ (∀ m', Explains body m' → m = m') ∧
          ((∀ m', ¬Explains body m') → m = "HTTP " ++ String.ofList (numeral status))) ∧
      (200 ≤ status ∧ status < 300 →
        (∃ x, read body = .ok x ∧ r.1 = .ok x) ∨
          ∃ fault, read body = .error fault ∧
            r.1 = .error ⟨.malformedResponse, "invalid response body: " ++ fault.message body⟩)) ∧
    ∃ ds, r.2.store.log = c.store.log ++ ds ∧
      ds.filter (·.severity = .error) =
        match r.1 with
        | .ok _ => []
        | .error f => [.failedRequest endpoint f.kind.name f.message] := by
  intro r
  obtain ⟨c', hrequest, hasked⟩ := request_spec read endpoint o c
  have hresult : r.1 = classify read c.receive.1 := congrArg Prod.fst hrequest
  have hclient : r.2 = c' := congrArg Prod.snd hrequest
  constructor
  · intro status body hreply
    rw [hreply] at hresult
    refine ⟨?_, ?_, ?_⟩
    · rintro rfl
      refine ⟨hresult, ?_⟩
      rw [hclient, hasked.current, hreply]
      rfl
    · intro hu hs
      exact ⟨_, hresult.trans (classify_failed hu hs), message_of_failed status body⟩
    · intro hs
      cases hread : read body with
      | ok x =>
        have hsuccess : isSuccess status = true := by
          simp only [isSuccess, Bool.and_eq_true, decide_eq_true_eq]
          exact hs
        exact .inl ⟨x, rfl, hresult.trans (classify_of_success rfl hsuccess hread)⟩
      | error fault => exact .inr ⟨fault, rfl, hresult.trans (classify_unreadable hs hread)⟩
  · obtain ⟨ds, hds, hlog⟩ := log_request read endpoint o c
    refine ⟨_, hlog, ?_⟩
    have hwarnings : ds.filter (·.severity = .error) = [] := by
      refine List.filter_eq_nil_iff.2 fun d hd => ?_
      rw [hds d hd]
      decide
    rw [List.filter_append, hwarnings, List.nil_append, hresult]
    cases classify read c.receive.1 with
    | ok x => rfl
    | error f => rfl

/-- An object in whose text `error` stands twice, first with a text and last with a list; a body that is no UTF-8 and so
    explains nothing; a rejection whose body says otherwise; and a success without a body. -/
theorem response_classified_bodies :
    let c (status : Nat) (body : Bytes) := create "http://centro.test/api/v1" (.memory none {}) [.response status body]
    let explained : Bytes := bytesOf
      (Value.object [("error", .string "old"), ("code", .int 7), ("error", .array [.int 1, .bool true])]).pretty
    ((c 503 explained).request Value.ofBytes "/jobs" {}).1 = .error ⟨.requestFailed 503, "[1,true]"⟩ ∧
      (∃ ds, ((c 503 explained).request Value.ofBytes "/jobs" {}).2.store.log = ds ∧
        ds.filter (·.severity = .error) = [.failedRequest "/jobs" "request_failed(503)" "[1,true]"]) ∧
      ((c 404 [0xFF]).request Value.ofBytes "/jobs" {}).1 = .error ⟨.requestFailed 404, "HTTP 404"⟩ ∧
      ((c 401 explained).request Value.ofBytes "/jobs" {}).1 = .error ⟨.authenticationExpired, "Unauthorized"⟩ ∧
      ((c 204 []).request Value.ofBytes "/jobs" {}).1 =
        .error ⟨.malformedResponse, "invalid response body: EOF while parsing a value at line 1 column 0"⟩ := by
  intro c explained
  let members : List (String × Value) :=
    [("error", .string "old"), ("code", .int 7), ("error", .array [.int 1, .bool true])]
  have hmembers : HoldsMembers explained members := by
    refine holdsMembers_pretty fun p hp => ?_
    simp only [List.mem_cons, List.not_mem_nil, or_false] at hp
    rcases hp with rfl | rfl | rfl
    · exact ⟨nests_of_isScalar rfl _, fun n hn => absurd hn List.not_mem_nil⟩
    · refine ⟨nests_of_isScalar rfl _, fun n hn => ?_⟩
      rw [List.mem_singleton.1 hn]
      exact ⟨by decide, by decide⟩
    · refine ⟨fun v hv => ?_, fun n hn => ?_⟩
      · simp only [List.mem_cons, List.not_mem_nil, or_false] at hv
        rcases hv with rfl | rfl <;> exact nests_of_isScalar rfl _
      · rw [List.mem_singleton.1 hn]
        exact ⟨by decide, by decide⟩
  have hlast : Keyed.IsLast "error" (.array [.int 1, .bool true]) members :=
    ⟨members.take 2, [], rfl, fun p hp => absurd hp List.not_mem_nil⟩
  have hexplains : Explains explained "[1,true]" := by
    have htext : (Value.array [.int 1, .bool true]).compact = "[1,true]" := by decide
    exact htext ▸ .other hmembers hlast (by simp) (by simp) (by simp)
  have hnothing : ∀ m, ¬Explains [0xFF] m := by
    have hnone : errorMessage? [0xFF] = none := by decide
    intro m hm
    have hsome := errorMessage?_eq_some.2 hm
    rw [hnone] at hsome
    cases hsome
  have hall (status : Nat) (body : Bytes) := response_classified Value.ofBytes "/jobs" {} (c status body)
  obtain ⟨m, hfailed, -, hexplained, -⟩ := ((hall 503 explained).1 503 explained rfl).2.1 (by decide) (by decide)
  obtain ⟨m', hfailed', -, -, hunexplained⟩ := ((hall 404 [0xFF]).1 404 [0xFF] rfl).2.1 (by decide) (by decide)
  rw [hexplained _ hexplains] at hfailed
  rw [hunexplained hnothing] at hfailed'
  refine ⟨hfailed, ?_, hfailed', (((hall 401 explained).1 401 explained rfl).1 rfl).1, ?_⟩
  · obtain ⟨ds, hlog, herrors⟩ := (hall 503 explained).2
    rw [hfailed] at herrors
    exact ⟨ds, hlog, herrors⟩
  · rcases ((hall 204 []).1 204 [] rfl).2.2 (by decide) with ⟨x, hread, -⟩ | ⟨fault, hread, h⟩
    · cases hread
    · cases hread
      exact h

end Client

end ClusterPanel
