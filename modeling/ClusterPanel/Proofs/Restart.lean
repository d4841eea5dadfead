import ClusterPanel.Proofs.HeldInstants
import ClusterPanel.Proofs.RecordStorage
import ClusterPanel.Proofs.RequestCredential

/- What a session is after a restart. The text under which a session is stored is read as the session that it shows
   (`ofText_toText`): its expiry is the instant that is shown (`Session.settled`), and there is no empty token, which no
   reading of a record ever yields (`isHeld_of_ofText`). So a session that was written and whose record could be replaced
   comes back as its text shows it from the store that is opened over the same storage, if it was logged in, and the
   empty session does if it was not (`written_session_survives_restart`).

   A text shows every instant in full but for a leap second that ends no minute. The program comes by none: it reads
   none from a record (`isHeld_ofStorage`) and computes none at a login (`isHeld_of_ofLogin`). A caller can write a
   session that has one, and it comes back with the second after (`restart_changes_session`). -/
namespace ClusterPanel

open Json Text Time

namespace Session

/-! ## Records as texts -/

/-- A session whose expiry, if it has one, is an instant that a clock library holds. -/
def IsHeld (s : Session) : Prop := ∀ i ∈ s.expiresAt, i.IsHeld

/-- The session that is shown of a session in a text: its expiry is the instant that the text shows. -/
def settled (s : Session) : Session := { s with expiresAt := s.expiresAt.map Instant.settled }

theorem settled_of_leapEndsMinute {s : Session} (h : ∀ i ∈ s.expiresAt, i.LeapEndsMinute) : s.settled = s := by
  obtain ⟨token, username, expiresAt⟩ := s
  cases expiresAt with
  | none => rfl
  | some i => rw [settled, Option.map_some, Time.settled_of_leapEndsMinute (h i rfl)]

/-- A session is shown in full exactly if its expiry is. -/
theorem settled_eq_self_iff {s : Session} : s.settled = s ↔ ∀ i ∈ s.expiresAt, i.LeapEndsMinute := by
  refine ⟨?_, settled_of_leapEndsMinute⟩
  intro h i hi
  have hexpiry : s.expiresAt.map Instant.settled = s.expiresAt := congrArg expiresAt h
  rw [Option.mem_def.1 hi, Option.map_some, Option.some.injEq] at hexpiry
  exact Time.settled_eq_self_iff.1 hexpiry

/-- The text of an instant is read as the instant that it shows. -/
theorem reads_instant {i : Instant} (h : i.IsHeld) : Reads readInstant (printString i.rfc3339Z) i.settled := by
  intro r
  unfold readInstant
  rw [reads_stringFor]
  simp only [bind, Except.bind, Instant.rfc3339Z, String.toList_ofList, readRelaxed_text h]
  rfl

theorem reads_optionValue (x : Option String) : Reads (readOption readString) (optionValue x).print x := by
  cases x with
  | none => exact reads_null readString
  | some s => exact reads_some (reads_string s)

theorem reads_expiry {x : Option Instant} (h : ∀ i ∈ x, i.IsHeld) :
    Reads (readOption readInstant) (optionValue (x.map Instant.rfc3339Z)).print (x.map Instant.settled) := by
  cases x with
  | none => exact reads_null readInstant
  | some i => exact reads_some (reads_instant (h i rfl))

/-- A field whose value goes into a slot of the draft is read as its value is. -/
theorem reads_field {δ β : Type} {name : String} {optional : Bool} {get : δ → Option β} {set : δ → β → δ}
    {read : Bytes → Except Fault (β × Bytes)} {text : List Char} {x : β} (h : Reads read text x) (d : δ) :
    Reads ((FieldShape.of name optional get set read).read d) text (set d x) := by
  intro r
  simp only [FieldShape.of, h r, Except.map]

theorem print_toValue (s : Session) :
    s.toValue.print = '\x7b' :: memberText true "token" (optionValue s.token).print ++
      memberText false "username" (optionValue s.username).print ++
      memberText false "expiresAt" (optionValue (s.expiresAt.map Instant.rfc3339Z)).print ++ ['\x7d'] := by
  simp [toValue, Value.print, printMembers, memberText]

/-- The members of a stored session, as bytes. -/
def memberBytes (s : Session) : Bytes :=
  Utf8.encode (memberText true "token" (optionValue s.token).print) ++
    (Utf8.encode (memberText false "username" (optionValue s.username).print) ++
      Utf8.encode (memberText false "expiresAt" (optionValue (s.expiresAt.map Instant.rfc3339Z)).print))

/-- A record that is read of a stored session is made of the draft that the members of the session leave. -/
theorem readAll_toText {δ α : Type} {shape : Shape δ α} {d : δ} {x : α} {s : Session}
    (hread : ∀ n r, readFields shape.fields (n + 4) true shape.start (s.memberBytes ++ objectClose :: r) =
      .ok (d, objectClose :: r)) (hfinish : shape.finish d = .ok x) :
    readAll shape.read (bytesOf s.toText) = .ok x := by
  have hopen : Utf8.encodeChar '\x7b' = [objectOpen] := by decide
  have hclose : Utf8.encodeChar '\x7d' = [objectClose] := by decide
  have hbytes : bytesOf s.toText = objectOpen :: (s.memberBytes ++ [objectClose]) := by
    rw [toText, Value.compact, bytesOf, String.toList_ofList, print_toValue, memberBytes]
    simp only [encode_append, encode_cons, encode_nil, hopen, hclose, List.append_assoc, List.cons_append,
      List.nil_append]
  have hlength : 3 ≤ s.memberBytes.length := by
    have h₁ := length_memberText_pos true "token" (optionValue s.token).print
    have h₂ := length_memberText_pos false "username" (optionValue s.username).print
    have h₃ := length_memberText_pos false "expiresAt" (optionValue (s.expiresAt.map Instant.rfc3339Z)).print
    rw [memberBytes, List.length_append, List.length_append]
    omega
  -- Three members have three bytes at least, so there are rounds left for each of them and for the end.
  obtain ⟨n, hn⟩ : ∃ n, (s.memberBytes ++ [objectClose]).length + 1 = n + 4 := by
    refine ⟨(s.memberBytes ++ [objectClose]).length - 3, ?_⟩
    rw [List.length_append, List.length_singleton]
    omega
  have hobject := read_object (hn ▸ hread n []) hfinish
  rw [hbytes]
  simp only [readAll, hobject, bind, Except.bind]
  rfl

/-- The members of a stored session fill the draft one after the other. -/
theorem read_members {s : Session} (h : s.IsHeld) (n : Nat) (r : Bytes) :
    readFields shape.fields (n + 4) true shape.start (s.memberBytes ++ objectClose :: r) =
      .ok ({ token := some s.token, username := some s.username,
             expiresAt := some (s.expiresAt.map Instant.settled) }, objectClose :: r) := by
  rw [memberBytes, List.append_assoc, List.append_assoc,
    readFields_member rfl rfl (reads_field (reads_optionValue s.token) _),
    readFields_member rfl rfl (reads_field (reads_optionValue s.username) _),
    readFields_member rfl rfl (reads_field (reads_expiry h) _), readFields_end]

/-- The text under which a session is stored is read as the session that it shows, an empty token as none. -/
theorem ofText_toText {s : Session} (h : s.IsHeld) :
    ofText s.toText = .ok { s.settled with token := s.token.filter (· ≠ "") } :=
  readAll_toText (read_members h) rfl

/-! ## Texts as sessions -/

theorem held_of_readInstant {s r : Bytes} {i : Instant} (h : readInstant s = .ok (i, r)) :
    i.IsHeld ∧ i.LeapEndsMinute := by
  obtain ⟨p, -, h⟩ := bind_eq_ok h
  split at h
  · next hread =>
    cases h
    exact held_of_readRelaxed hread
  · cases h

/-- The expiry of a draft, if there is one, is held and can be shown in full. -/
def Draft.IsRead (d : Draft) : Prop := ∀ x ∈ d.expiresAt, ∀ i ∈ x, i.IsHeld ∧ i.LeapEndsMinute

theorem keeps_isRead : ∀ f ∈ shape.fields, f.Keeps Draft.IsRead := by
  intro f hf
  simp only [shape, List.mem_cons, List.not_mem_nil, or_false] at hf
  rcases hf with rfl | rfl | rfl
  · exact FieldShape.keeps_of fun d s x r hd _ => hd
  · exact FieldShape.keeps_of fun d s x r hd _ => hd
  · apply FieldShape.keeps_of
    intro d s x r _ hread y hy
    cases hy
    exact of_readOption (fun _ _ _ => held_of_readInstant) hread

/-- No record is read as a session with an empty token, nor as one that cannot be shown in full. -/
theorem isHeld_of_ofText {text : String} {s : Session} (h : ofText text = .ok s) :
    s.token ≠ some "" ∧ s.IsHeld ∧ s.settled = s := by
  obtain ⟨⟨x, r⟩, hread, h⟩ := bind_eq_ok h
  have hstart : Draft.IsRead shape.start := fun x hx => by cases hx
  obtain ⟨d, hd, hfinish⟩ := finish_of_read hstart keeps_isRead hread
  dsimp only at h
  split at h
  · cases h
    cases hfinish
    have hexpiry : ∀ i ∈ d.expiresAt.getD none, i.IsHeld ∧ i.LeapEndsMinute := by
      intro i hi
      cases hx : d.expiresAt with
      | none =>
        rw [hx] at hi
        cases hi
      | some x =>
        rw [hx] at hi
        exact hd x hx i hi
    refine ⟨?_, fun i hi => (hexpiry i hi).1, settled_of_leapEndsMinute fun i hi => (hexpiry i hi).2⟩
    intro htoken
    exact absurd rfl (of_decide_eq_true (Option.filter_eq_some_iff.1 htoken).2)
  · cases h

/-- Nor does a login open a session that cannot be shown in full. -/
theorem isHeld_of_ofLogin {answer : LoginResponse} {now : Instant} {s : Session} (h : ofLogin answer now = some s) :
    s.IsHeld ∧ s.settled = s := by
  unfold ofLogin at h
  split at h
  · cases h
  · cases h
    exact ⟨fun i hi => (held_of_expiry hi).1, settled_of_leapEndsMinute fun i hi => (held_of_expiry hi).2⟩

end Session

namespace SessionStore

/-- The session that a readable storage is opened with is the one that its record shows. -/
theorem current_ofStorage_of_load {s : Storage} {session : Session} (h : s.load = .ok (recordOf session))
    (hs : session.IsHeld) :
    (ofStorage s).current = if session.isAuthenticated then session.settled else .empty := by
  unfold recordOf at h
  unfold ofStorage rehydrate
  cases ha : session.isAuthenticated with
  | false =>
    rw [ha] at h
    simp only [Bool.false_eq_true, if_false] at h ⊢
    rw [h]
  | true =>
    obtain ⟨token, htoken, hne⟩ := Session.isAuthenticated_iff.1 ha
    rw [ha] at h
    simp only [if_true] at h ⊢
    simp only [h, Session.ofText_toText hs]
    rw [htoken, Option.filter_some, if_pos (decide_eq_true hne), ← htoken]
    rfl

theorem isHeld_ofStorage (s : Storage) :
    (ofStorage s).current.token ≠ some "" ∧ (ofStorage s).current.IsHeld ∧
      (ofStorage s).current.settled = (ofStorage s).current := by
  have hempty : Session.empty.token ≠ some "" ∧ Session.empty.IsHeld ∧ Session.empty.settled = .empty := by
    refine ⟨?_, ?_, rfl⟩
    · intro h
      cases h
    · intro i hi
      cases hi
  unfold ofStorage rehydrate
  dsimp only
  split
  · exact hempty
  · exact hempty
  · split
    · next hread => exact Session.isHeld_of_ofText hread
    · exact hempty

/-- After a write whose record could be replaced, the store that is opened over the same storage, if that can be read,
    has the session that the record of the written one shows, if this was logged in, and the empty session if it was
    not. A session that is logged in comes back as it was exactly if a leap second in its expiry ends a minute.
    Whatever a storage holds, the store that is opened over it has no empty token, and the storage stays as it was. -/
theorem written_session_survives_restart (store : SessionStore) (session : Session) (hs : session.IsHeld)
    (hp : (persist session store.storage).2 = none) :
    (store.storage.Readable →
      let reopened := ofStorage (store.write session).storage
      (reopened.current = if session.isAuthenticated then session.settled else .empty) ∧
      (session.isAuthenticated = true → (reopened.current = session ↔ ∀ i ∈ session.expiresAt, i.LeapEndsMinute))) ∧
    ∀ s : Storage, (ofStorage s).current.token ≠ some "" ∧ (ofStorage s).storage = s := by
  refine ⟨?_, fun s => ⟨(isHeld_ofStorage s).1, rfl⟩⟩
  intro hr reopened
  obtain ⟨hholds, hreadable⟩ := holds_persist (Prod.ext rfl hp)
  have hcurrent : reopened.current = if session.isAuthenticated then session.settled else .empty :=
    current_ofStorage_of_load (hholds.load (hreadable hr)) hs
  refine ⟨hcurrent, ?_⟩
  intro ha
  rw [hcurrent, if_pos ha]
  exact Session.settled_eq_self_iff

/-- A token with a quote, a backslash, controls and a character beyond sixteen bits; an expiry in the year 10000,
    half a second into a leap second; and in the storage a record that cannot be read. -/
theorem written_session_survives_restart_escaped :
    let session : Session :=
      { token := some "a\"b\\c\n\u0007é𝄞", username := some "", expiresAt := some ⟨253402300859, 1500000000⟩ }
    let store : SessionStore := { storage := .memory (some "no record") {} }
    session.IsHeld ∧ (ofStorage (store.write session).storage).current = session := by
  intro session store
  have hs : session.IsHeld := by
    intro i hi
    cases hi
    exact ⟨by decide, by decide⟩
  obtain ⟨-, hback⟩ := (written_session_survives_restart store session hs rfl).1 rfl
  refine ⟨hs, (hback (by decide)).2 ?_⟩
  intro i hi
  cases hi
  decide

/-- A leap second in the middle of a minute is shown as the second after, and so the session comes back with another
    expiry. And a storage that takes records but cannot be read gives no session back at all. -/
theorem restart_changes_session :
    let session : Session := { token := some "tok", username := some "ada", expiresAt := some ⟨30, 1500000000⟩ }
    let store : SessionStore := { storage := .memory none {} }
    let plain : Session := { token := some "tok", username := some "ada" }
    let unread : SessionStore := { storage := .memory none { load := some "disk offline" } }
    (session.IsHeld ∧ session.isAuthenticated = true ∧ (persist session store.storage).2 = none ∧
      (ofStorage (store.write session).storage).current = { session with expiresAt := some ⟨31, 500000000⟩ } ∧
      (ofStorage (store.write session).storage).current ≠ session) ∧
    plain.IsHeld ∧ plain.isAuthenticated = true ∧ (persist plain unread.storage).2 = none ∧
      (ofStorage (unread.write plain).storage).current ≠ plain := by
  intro session store plain unread
  have hs : session.IsHeld := by
    intro i hi
    cases hi
    exact ⟨by decide, by decide⟩
  have hplain : plain.IsHeld := by
    intro i hi
    cases hi
  have hcurrent : (ofStorage (store.write session).storage).current =
      { session with expiresAt := some ⟨31, 500000000⟩ } :=
    (current_ofStorage_of_load ((Storage.holds_memory _ {}).load rfl) hs).trans (by decide)
  refine ⟨⟨hs, by decide, rfl, hcurrent, ?_⟩, hplain, by decide, rfl, by decide⟩
  rw [hcurrent]
  decide

end SessionStore

end ClusterPanel
