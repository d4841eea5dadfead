import ClusterPanel.Proofs.CommandParts
import ClusterPanel.Proofs.CredentialProtocol

/- One request and the reply to it. What a caller gets is what the reply is taken for (`classify`), and what becomes of
   the client hangs on the reply alone, not on what the caller expects of it (`request_spec`): the session is cleared if
   the credential is not accepted, and this is when the failure says so (`isUnauthorized_of_classify`). -/
namespace ClusterPanel

open Http Json Time

/-! ## What a reply is taken for -/

section Classify

variable {α : Type} {read : Bytes → Except Json.Fault α} {reply : Reply}

/-- A response of success that can be read is taken for what it is. -/
theorem classify_of_success {status : Nat} {body : Bytes} {x : α} (hreply : reply = .response status body)
    (hsuccess : isSuccess status = true) (hread : read body = .ok x) : classify read reply = .ok x := by
  have hstatus : status ≠ unauthorized := by
    rintro rfl
    exact absurd hsuccess (by decide)
  simp only [hreply, classify, if_neg hstatus, hsuccess, hread, Bool.not_true, Bool.false_eq_true, if_false]

/-- What can be read is a response of success, which accepts the credential. -/
theorem rejects_of_classify {x : α} (h : classify read reply = .ok x) : Client.rejects reply = false := by
  cases hr : Client.rejects reply with
  | false => rfl
  | true =>
    obtain ⟨body, hbody⟩ := Traffic.rejects_eq_true hr
    rw [hbody] at h
    cases h

/-- A failure says that the credential is not accepted exactly when the reply does. -/
theorem isUnauthorized_of_classify {f : Failure} (h : classify read reply = .error f) :
    f.isUnauthorized = Client.rejects reply := by
  cases reply with
  | failed reason =>
    cases h
    rfl
  | response status body =>
    unfold classify at h
    dsimp only at h
    show f.isUnauthorized = decide (status = unauthorized)
    split at h
    · next hstatus =>
      cases h
      exact (decide_eq_true hstatus).symm
    · next hstatus =>
      rw [decide_eq_false hstatus]
      split at h
      · cases h
        rfl
      · split at h
        · cases h
        · cases h
          rfl

end Classify

/-! ## What a request does -/

namespace Client

/-- One request was sent and the reply to it taken in: the session is cleared if the credential is not accepted, and
    is not touched otherwise. -/
structure Asked (c c' : Client) : Prop where
  sent : ∃ endpoint o, c'.sent = c.sent ++ [buildRequest c.base c.store.current endpoint o]
  replies : c'.replies = c.replies.tail
  current : c'.store.current = if rejects c.receive.1 then .empty else c.store.current
  storage : c'.store.storage =
    if rejects c.receive.1 then (SessionStore.persist .empty c.store.storage).1 else c.store.storage

theorem receive_snd (c : Client) : c.receive.2 = { c with replies := c.replies.tail } := by
  obtain ⟨base, store, replies, sent, written⟩ := c
  cases replies <;> rfl

theorem request_spec {α : Type} (read : Bytes → Except Json.Fault α) (endpoint : String) (o : RequestOptions)
    (c : Client) : ∃ c', c.request read endpoint o = (classify read c.receive.1, c') ∧ Asked c c' := by
  rw [Traffic.request_eq, receive_snd]
  refine ⟨_, rfl, ⟨endpoint, o, ?_⟩, ?_, ?_, ?_⟩
  all_goals
    unfold settle
    split <;> rfl

/-- A login is one request. If the answer to it opens a session, this session is written. -/
theorem login_spec (credentials : LoginRequest) (now : Instant) (c : Client) :
    ∃ c₁, Asked c c₁ ∧
      (∀ e, classify (readAll LoginResponse.shape.read) c.receive.1 = .error e →
        c.login credentials now = (.error e, c₁)) ∧
      ∀ answer, classify (readAll LoginResponse.shape.read) c.receive.1 = .ok answer →
        (Session.ofLogin answer now = none → c.login credentials now = (.ok none, c₁)) ∧
        ∀ s, Session.ofLogin answer now = some s → c.login credentials now = (.ok (some s), c₁.write s) := by
  obtain ⟨c₁, hrequest, hasked⟩ := request_spec (readAll LoginResponse.shape.read) loginEndpoint
    (.post credentials.toValue) c
  unfold login authenticate
  rw [hrequest]
  refine ⟨c₁, hasked, ?_, ?_⟩
  · intro e he
    rw [he]
  · intro answer hanswer
    rw [hanswer]
    refine ⟨?_, ?_⟩
    · intro hnone
      simp only [hnone]
    · intro s hs
      simp only [hs]

/-- Every answer of success that can be read and opens a session makes a login succeed. -/
theorem login_of_reply {c : Client} {credentials : LoginRequest} {now : Instant} {status : Nat} {body : Bytes}
    {answer : LoginResponse} {session : Session} (hreply : c.receive.1 = .response status body)
    (hsuccess : isSuccess status = true) (hread : readAll LoginResponse.shape.read body = .ok answer)
    (hopened : Session.ofLogin answer now = some session) :
    ∃ c', c.login credentials now = (.ok (some session), c') := by
  obtain ⟨c₁, -, -, hanswered⟩ := login_spec credentials now c
  exact ⟨_, (hanswered answer (classify_of_success hreply hsuccess hread)).2 session hopened⟩

/-- What is sent is the request for the endpoint, under the session of the moment. -/
theorem sent_request {α : Type} (read : Bytes → Except Json.Fault α) (endpoint : String) (o : RequestOptions)
    (c : Client) :
    (c.request read endpoint o).2.sent = c.sent ++ [buildRequest c.base c.store.current endpoint o] := by
  rw [Traffic.request_eq, receive_snd]
  show (settle ..).sent = _
  unfold settle
  split <;> rfl

/-- A command that is one request sends what the request does. -/
theorem sent_ask {α : Type} (f : Format) (show_ : α → Shown) (read : Bytes → Except Json.Fault α) (endpoint : String)
    (o : RequestOptions) (c : Client) :
    ((CommandM.ask f show_ (request read endpoint o)).runOn c).client.sent =
      c.sent ++ [buildRequest c.base c.store.current endpoint o] := by
  rw [CommandM.client_runOn_ask, sent_request]

end Client

end ClusterPanel
