import ClusterPanel.Program.Command
import ClusterPanel.Proofs.OneRequest
import ClusterPanel.Proofs.Restart
import ClusterPanel.Proofs.WireRecords
import ClusterPanel.Proofs.WriteThrough

/- What a login that succeeds comes to. The answer is taken as it is: any reply of success that can be read opens a
   session, and what follows hangs on the token in it alone. A token that is not empty logs in (`loggedIn_write`): the
   session is recorded, comes back when the store is opened again, and goes with the next request. An empty token logs
   out (`loggedOut_write`): there is no record and no credential any more, though the call succeeds and the command says
   whom it logged in (`login_outcome`, `login_without_token`). -/
namespace ClusterPanel

open Http Json Text Time

namespace Client

/-- A client is logged in: its session is the given one, it is recorded and restored as such, and its token goes with
    every request but a login, if a header can hold it. -/
structure LoggedIn (session : Session) (token : String) (c : Client) : Prop where
  current : c.store.current = session
  authenticated : session.isAuthenticated = true
  record : c.store.storage.record? = some (bytesOf session.toText)
  restored : (SessionStore.ofStorage c.store.storage).current = session
  carried : isHeaderValue token = true → ∀ endpoint o, isLoginEndpoint endpoint = false →
    (c.build endpoint o).1.headers.values authorization = ["Bearer " ++ token]

/-- A client is logged out, whatever its session says besides: nothing is recorded, and no request has a credential. -/
structure LoggedOut (session : Session) (c : Client) : Prop where
  current : c.store.current = session
  authenticated : session.isAuthenticated = false
  record : c.store.storage.record? = none
  restored : (SessionStore.ofStorage c.store.storage).current = .empty
  carried : ∀ endpoint o, (c.build endpoint o).1.headers.values authorization = []

section Write

variable {c c' : Client} {session : Session} {token : String}

/-- What a storage that does not fail holds after a write, and the session that it is opened with then. -/
theorem recorded_write (hs : c.store.storage.Reliable) (hr : c.store.storage.Readable)
    (hi : session.IsHeld ∧ session.settled = session) :
    (c.write session).store.storage.record? = (SessionStore.recordOf session).map bytesOf ∧
      (SessionStore.ofStorage (c.write session).store.storage).current =
        if session.isAuthenticated then session else .empty := by
  obtain ⟨hholds, hreadable⟩ := SessionStore.holds_write hs.serves session
  have hrestored := SessionStore.current_ofStorage_of_load (hholds.load (hreadable hr)) hi.1
  rw [hi.2] at hrestored
  exact ⟨hholds.record, hrestored⟩

theorem loggedIn_write (hs : c.store.storage.Reliable) (hr : c.store.storage.Readable)
    (hi : session.IsHeld ∧ session.settled = session) (ht : session.token = some token) (hne : token ≠ "") :
    LoggedIn session token (c.write session) := by
  have ha : session.isAuthenticated = true := Session.isAuthenticated_iff.2 ⟨token, ht, hne⟩
  obtain ⟨hrecord, hrestored⟩ := recorded_write hs hr hi
  rw [SessionStore.recordOf, if_pos ha] at hrecord
  rw [if_pos ha] at hrestored
  exact ⟨rfl, ha, hrecord, hrestored, fun hv endpoint o hl => values_buildRequest_some hl ht hne hv⟩

theorem loggedOut_write (hs : c.store.storage.Reliable) (hr : c.store.storage.Readable)
    (hi : session.IsHeld ∧ session.settled = session) (ha : session.isAuthenticated = false) :
    LoggedOut session (c.write session) := by
  obtain ⟨hrecord, hrestored⟩ := recorded_write hs hr hi
  rw [SessionStore.recordOf, ha] at hrecord
  rw [ha] at hrestored
  have hb : session.bearer? = none := Option.isNone_iff_eq_none.1 (by simpa [Session.isAuthenticated] using ha)
  exact ⟨rfl, ha, hrecord, hrestored, fun endpoint o => values_buildRequest_of_not_authenticated hb⟩

/-- A login that succeeds was answered with success, and writes the session that the answer opens. -/
theorem login_ok {credentials : LoginRequest} {now : Instant} (h : c.login credentials now = (.ok (some session), c')) :
    ∃ (status : Nat) (body : Bytes) (answer : LoginResponse) (c₁ : Client),
      c.receive.1 = .response status body ∧ isSuccess status = true ∧
      readAll LoginResponse.shape.read body = .ok answer ∧ Session.ofLogin answer now = some session ∧
      c₁.store.storage = c.store.storage ∧ c' = c₁.write session := by
  obtain ⟨c₁, hasked, hfailed, hanswered⟩ := login_spec credentials now c
  cases hresult : classify (readAll LoginResponse.shape.read) c.receive.1 with
  | error e =>
    rw [hfailed e hresult] at h
    cases h
  | ok answer =>
    obtain ⟨status, body, hreply, hsuccess, hread⟩ := Traffic.classify_eq_ok hresult
    obtain ⟨hnone, hsome⟩ := hanswered answer hresult
    cases hopened : Session.ofLogin answer now with
    | none =>
      rw [hnone hopened] at h
      cases h
    | some s =>
      rw [hsome s hopened] at h
      cases h
      refine ⟨status, body, answer, c₁, hreply, hsuccess, hread, hopened, ?_, rfl⟩
      rw [hasked.storage, rejects_of_classify hresult]
      rfl

theorem token_of_ofLogin {answer : LoginResponse} {now : Instant} (h : Session.ofLogin answer now = some session) :
    session.token = some answer.token := by
  unfold Session.ofLogin at h
  split at h
  · cases h
  · cases h
    rfl

end Write

/-- A login that succeeds, over a storage that does not fail, was answered with a status of success and a body that
    can be read, whatever else the answer says, and opens the session that the answer calls for.

    If the token in the answer is not empty the client is then logged in with this session: it is the current one, its
    text is the record, a store that is opened over that record has the same session, and requests carry the token if
    a header can hold it. If the token is empty the client is logged out, though the login succeeded.

    The command shows something only when the login succeeded; what it then writes says that the user was logged in, and
    this is so exactly when the token is not empty. -/
theorem login_outcome {c : Client} (hs : c.store.storage.Reliable) (hr : c.store.storage.Readable) :
    (∀ credentials now session c', c.login credentials now = (.ok (some session), c') →
      ∃ status body answer, c.receive.1 = .response status body ∧ isSuccess status = true ∧
        readAll LoginResponse.shape.read body = .ok answer ∧ Session.ofLogin answer now = some session ∧
        (answer.token ≠ "" → LoggedIn session answer.token c') ∧ (answer.token = "" → LoggedOut session c')) ∧
    (∀ f clock username password shown c' text,
      c.run f clock (.login username password) = ⟨.shown shown, c', text⟩ →
      ∃ session, c.login ⟨username, password⟩ clock.now = (.ok (some session), c') ∧
        shown = session.opened f clock username ∧ text = shown.text f ∧
        (c'.store.current.isAuthenticated = true ↔ session.token ≠ some "")) := by
  constructor
  · intro credentials now session c' h
    obtain ⟨status, body, answer, c₁, hreply, hsuccess, hread, hopened, hstorage, rfl⟩ := login_ok h
    have htoken := token_of_ofLogin hopened
    have hheld := Session.isHeld_of_ofLogin hopened
    rw [← hstorage] at hs hr
    refine ⟨status, body, answer, hreply, hsuccess, hread, hopened, loggedIn_write hs hr hheld htoken, ?_⟩
    intro hempty
    refine loggedOut_write hs hr hheld ?_
    rw [Session.isAuthenticated, Session.bearer?, htoken, hempty]
    rfl
  · intro f clock username password shown c' text h
    change (CommandM.login f clock username password).runOn c = _ at h
    cases hname : isBlankText username with
    | true =>
      rw [CommandM.runOn_login_blank hname] at h
      cases h
    | false =>
      rcases hlogin : c.login ⟨username, password⟩ clock.now with ⟨e | _ | session, c₁⟩
      · rw [CommandM.runOn_login_error hname hlogin] at h
        cases h
      · rw [CommandM.runOn_login_none hname hlogin] at h
        cases h
      · rw [CommandM.runOn_login_some hname hlogin] at h
        cases h
        obtain ⟨_, _, answer, c₂, _, _, _, hopened, _, rfl⟩ := login_ok hlogin
        have htoken := token_of_ofLogin hopened
        refine ⟨session, rfl, rfl, rfl, ?_⟩
        change session.isAuthenticated = true ↔ _
        simp [Session.isAuthenticated_iff, htoken]

/-- A token that has to be escaped in the record, where a record was that cannot be read: the client is logged in. -/
theorem login_outcome_escaped :
    let answer : LoginResponse := ⟨"a\"b", -1, "ada"⟩
    let reply := Reply.response 201 (bytesOf answer.toValue.compact)
    let c := create "http://centro.test/api/v1" (.memory (some "no record") {}) [reply]
    let session : Session := { token := some "a\"b", username := some "ada" }
    ∃ c', c.login ⟨"ada", "pw"⟩ ⟨0, 0⟩ = (.ok (some session), c') ∧ LoggedIn session "a\"b" c' := by
  intro answer reply c session
  have hread := readAll_of_reads (LoginResponse.reads (x := answer) ⟨by decide, by decide⟩)
  obtain ⟨c', hlogin⟩ : ∃ c', c.login ⟨"ada", "pw"⟩ ⟨0, 0⟩ = (.ok (some session), c') :=
    login_of_reply rfl rfl hread rfl
  obtain ⟨status, body, answer', -, -, -, hopened, hloggedIn, -⟩ :=
    (login_outcome (c := c) (Storage.reliable_memory _) rfl).1 _ _ _ _ hlogin
  have htoken : answer'.token = "a\"b" := (Option.some.inj (token_of_ofLogin hopened)).symm
  exact ⟨c', hlogin, htoken ▸ hloggedIn (by rw [htoken]; decide)⟩

/-- An answer of success whose token is empty: the login succeeds and the command says so, but nobody is logged in, and
    there is no record. -/
theorem login_without_token :
    let answer : LoginResponse := ⟨"", 0, "ada"⟩
    let reply := Reply.response 200 (bytesOf answer.toValue.compact)
    let c := create "http://centro.test/api/v1" (.memory none {}) [reply]
    let session : Session := { token := some "", username := some "ada" }
    ∃ c', c.login ⟨"ada", "pw"⟩ ⟨0, 0⟩ = (.ok (some session), c') ∧ c'.store.current.isAuthenticated = false ∧
      c'.store.storage.record? = none ∧ (SessionStore.ofStorage c'.store.storage).current ≠ session ∧
      ∃ shown, c.run .table ⟨⟨0, 0⟩, 0⟩ (.login "ada" "pw") = ⟨.shown shown, c', shown.table⟩ ∧
        shown.table = "✓ Logged in as ada (expires N/A)\n" := by
  intro answer reply c session
  have hread := readAll_of_reads (LoginResponse.reads (x := answer) ⟨by decide, by decide⟩)
  obtain ⟨c', hlogin⟩ : ∃ c', c.login ⟨"ada", "pw"⟩ ⟨0, 0⟩ = (.ok (some session), c') :=
    login_of_reply rfl rfl hread rfl
  obtain ⟨_, _, _, c₁, _, _, _, _, hstorage, hc⟩ := login_ok hlogin
  have hout : LoggedOut session c' := by
    have hi : session.IsHeld ∧ session.settled = session := ⟨fun _ hi => (Option.not_mem_none _ hi).elim, rfl⟩
    rw [hc]
    exact loggedOut_write (hstorage ▸ Storage.reliable_memory none) (hstorage ▸ rfl) hi rfl
  have hrun : c.run .table ⟨⟨0, 0⟩, 0⟩ (.login "ada" "pw") = _ :=
    CommandM.runOn_login_some (by decide +kernel) hlogin
  refine ⟨c', hlogin, hout.current ▸ hout.authenticated, hout.record, ?_, _, hrun, by decide +kernel⟩
  rw [hout.restored]
  decide

end Client

end ClusterPanel
