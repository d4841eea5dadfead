import ClusterPanel.Client.Calls
import ClusterPanel.Proofs.RequestCredential

/- Many requests at once. `Traffic` is a client together with the requests that were sent and are not yet answered,
   and the logins whose answer has come and whose session is still to be written. `Step` lets any of them go on, in
   any order: a request is sent, an answer to any request in flight comes in (or word that the exchange failed), a
   login that was answered writes its session, or someone writes a session or logs out. What a single caller does
   one thing after the other, `Client.request` and `Client.login`, is a run of it (`run_request`, `run_login`).

   What is proved of every run (`credential_protocol`):
     1. the session and its record change at four kinds of steps only: a write, a logout, the end of a login that was
        answered with success and could be read, and the completion of any request with status 401;
     2. after a 401 and until the next write or login nobody is logged in: the session is the empty one, there is no
        record, and no request that is sent carries a credential;
     3. every request carries the credential of the session that was current when it was sent, whatever became of the
        session since; a login carries none. -/
namespace ClusterPanel

open Http Json Time

/-- Who waits for the answer to a request. -/
inductive Waiter where
  | caller
  | login
deriving DecidableEq, Repr

/-- A request in flight. -/
structure Flight where
  endpoint : String
  request : Request
  waiter : Waiter
deriving Repr

/-- A client, its requests in flight, and the answers to logins that are still to be turned into sessions. -/
structure Traffic where
  client : Client
  flights : List Flight := []
  answers : List LoginResponse := []

/-- What may happen. Flights and answers are named by their places. -/
inductive Action where
  | send (endpoint : String) (options : RequestOptions)
  | beginLogin (credentials : LoginRequest)
  | complete (flight : Nat) (reply : Reply)
  | endLogin (answer : Nat) (now : Instant)
  | dropLogin (answer : Nat) (now : Instant)
  | write (session : Session)
  | logout

namespace Action

/-- What an action sends, if it sends something: the endpoint and what is asked for. -/
def sends? : Action → Option (String × RequestOptions)
  | send endpoint o => some (endpoint, o)
  | beginLogin credentials => some (loginEndpoint, .post credentials.toValue)
  | _ => none

/-- Writes a session that may be logged in: a write, or the end of a login. -/
def mayLogIn : Action → Bool
  | write _ => true
  | endLogin _ _ => true
  | _ => false

end Action

namespace Traffic

/-- The current session. -/
def session (t : Traffic) : Session := t.client.store.current

/-- Where the session is recorded. -/
def storage (t : Traffic) : Storage := t.client.store.storage

/-- The client of a backend over a memory, before anything was sent. -/
def start (base : String) (record : Option String) : Traffic :=
  { client := .create base (.memory record {}) [] }

/-- Sends a request, which is then in flight. -/
def launch (endpoint : String) (o : RequestOptions) (waiter : Waiter) (t : Traffic) : Traffic :=
  { t with
    client := t.client.send endpoint o
    flights := t.flights ++ [⟨endpoint, (t.client.build endpoint o).1, waiter⟩] }

/-- Takes in the reply to a request in flight, which is over then. -/
def land {α : Type} (read : Bytes → Except Json.Fault α) (n : Nat) (f : Flight) (reply : Reply) (t : Traffic) :
    Traffic :=
  { t with client := (t.client.complete read f.endpoint reply).2, flights := t.flights.eraseIdx n }

/-- Reads the answer to a login. -/
def readAnswer : Bytes → Except Json.Fault LoginResponse := readAll LoginResponse.shape.read

/-- One step. A caller may read the reply as any type. A login whose answer names a lifetime that is no duration
    ends without a session. -/
inductive Step : Traffic → Action → Traffic → Prop where
  | send (t : Traffic) (endpoint : String) (o : RequestOptions) :
      Step t (.send endpoint o) (t.launch endpoint o .caller)
  | beginLogin (t : Traffic) (credentials : LoginRequest) :
      Step t (.beginLogin credentials) (t.launch loginEndpoint (.post credentials.toValue) .login)
  | complete {α : Type} (read : Bytes → Except Json.Fault α) {t : Traffic} {n : Nat} {f : Flight} (reply : Reply) :
      t.flights[n]? = some f → f.waiter = .caller → Step t (.complete n reply) (t.land read n f reply)
  | refuseLogin {t : Traffic} {n : Nat} {f : Flight} {reply : Reply} {e : Failure} :
      t.flights[n]? = some f → f.waiter = .login → classify readAnswer reply = .error e →
      Step t (.complete n reply) (t.land readAnswer n f reply)
  | answerLogin {t : Traffic} {n : Nat} {f : Flight} {reply : Reply} {r : LoginResponse} :
      t.flights[n]? = some f → f.waiter = .login → classify readAnswer reply = .ok r →
      Step t (.complete n reply)
        { t.land readAnswer n f reply with answers := t.answers ++ [r] }
  | endLogin {t : Traffic} {n : Nat} {now : Instant} {r : LoginResponse} {s : Session} :
      t.answers[n]? = some r → Session.ofLogin r now = some s →
      Step t (.endLogin n now) { t with client := t.client.write s, answers := t.answers.eraseIdx n }
  | dropLogin {t : Traffic} {n : Nat} {now : Instant} {r : LoginResponse} :
      t.answers[n]? = some r → Session.ofLogin r now = none →
      Step t (.dropLogin n now) { t with answers := t.answers.eraseIdx n }
  | write (t : Traffic) (s : Session) : Step t (.write s) { t with client := t.client.write s }
  | logout (t : Traffic) : Step t .logout { t with client := t.client.logout }

/-- Any number of steps. -/
inductive Run (t : Traffic) : List Action → Traffic → Prop where
  | nil : Run t [] t
  | snoc {as : List Action} {u v : Traffic} {a : Action} : Run t as u → Step u a v → Run t (as ++ [a]) v

/-! ## Callers who wait for the answer -/

/-- Sending does not touch the replies that are still to come, so the next of them may be taken first. -/
theorem request_eq {α : Type} (read : Bytes → Except Json.Fault α) (endpoint : String) (o : RequestOptions)
    (c : Client) :
    c.request read endpoint o = (c.receive.2.send endpoint o).complete read endpoint c.receive.1 := by
  have hreceive : (c.send endpoint o).receive = (c.receive.1, c.receive.2.send endpoint o) := by
    unfold Client.receive
    cases hr : c.replies <;> simp [Client.send, Client.build, Client.report, hr]
  simp only [Client.request, hreceive]

/-- A request that lands next leaves what was in flight before. -/
theorem land_launch {α : Type} (read : Bytes → Except Json.Fault α) (endpoint : String) (o : RequestOptions)
    (waiter : Waiter) (reply : Reply) (t : Traffic) :
    (t.launch endpoint o waiter).land read t.flights.length ⟨endpoint, (t.client.build endpoint o).1, waiter⟩ reply =
      { t with client := ((t.client.send endpoint o).complete read endpoint reply).2 } := by
  simp [land, launch, List.eraseIdx_append_of_length_le]

variable (c : Client) (fs : List Flight) (rs : List LoginResponse)

/-- A request of a caller who waits for the answer is a run of two steps, whatever else is in flight. -/
theorem run_request {α : Type} (read : Bytes → Except Json.Fault α) (endpoint : String) (o : RequestOptions) :
    Run ⟨c.receive.2, fs, rs⟩ [.send endpoint o, .complete fs.length c.receive.1]
      ⟨(c.request read endpoint o).2, fs, rs⟩ := by
  have hrun := (Run.nil.snoc (.send ⟨c.receive.2, fs, rs⟩ endpoint o)).snoc
    (.complete read c.receive.1 List.getElem?_concat_length rfl)
  rw [land_launch read endpoint o .caller c.receive.1 ⟨c.receive.2, fs, rs⟩] at hrun
  rw [request_eq]
  exact hrun

/-- A login that is waited for is a run as well: its request, the answer, and the end of the login if the answer
    could be read. -/
theorem run_login (credentials : LoginRequest) (now : Instant) :
    ∃ as, Run ⟨c.receive.2, fs, rs⟩ as ⟨(c.login credentials now).2, fs, rs⟩ := by
  have hsend := Run.nil.snoc (.beginLogin ⟨c.receive.2, fs, rs⟩ credentials)
  have hland := land_launch readAnswer loginEndpoint (.post credentials.toValue) .login c.receive.1
    ⟨c.receive.2, fs, rs⟩
  have hask : c.authenticate credentials = (classify readAnswer c.receive.1,
      ((c.receive.2.send loginEndpoint (.post credentials.toValue)).complete readAnswer loginEndpoint
        c.receive.1).2) := by
    rw [Client.authenticate, request_eq]
    rfl
  cases hr : classify readAnswer c.receive.1 with
  | error e =>
    have hrun := hsend.snoc (.refuseLogin List.getElem?_concat_length rfl hr)
    rw [hland] at hrun
    exact ⟨_, by simpa only [Client.login, hask, hr] using hrun⟩
  | ok r =>
    have hrun := hsend.snoc (.answerLogin List.getElem?_concat_length rfl hr)
    rw [hland] at hrun
    change Run _ _ ⟨_, fs, rs ++ [r]⟩ at hrun
    have hlast : (rs ++ [r]).eraseIdx rs.length = rs := by simp [List.eraseIdx_append_of_length_le]
    cases hs : Session.ofLogin r now with
    | none =>
      have hdrop := hrun.snoc (.dropLogin List.getElem?_concat_length hs)
      exact ⟨_, by simpa only [Client.login, hask, hr, hs, hlast] using hdrop⟩
    | some s =>
      have hend := hrun.snoc (.endLogin List.getElem?_concat_length hs)
      exact ⟨_, by simpa only [Client.login, hask, hr, hs, hlast] using hend⟩

/-! ## What a step does -/

/-- The login that answered `r` was completed by a reply of success that could be read. -/
def Answered (as : List Action) (r : LoginResponse) : Prop :=
  ∃ n status body, .complete n (.response status body) ∈ as ∧ isSuccess status = true ∧ readAnswer body = .ok r

/-- The actions that make `s` the session, after the actions `as`. -/
def Replaces (as : List Action) (s : Session) : Action → Prop
  | .write s' => s = s'
  | .logout => s = .empty
  | .complete _ reply => s = .empty ∧ ∃ body, reply = .response unauthorized body
  | .endLogin _ now => ∃ r, Answered as r ∧ Session.ofLogin r now = some s
  | _ => False

/-- What a run keeps: the record lies in a memory, what is in flight was sent, and the answers that wait came from
    logins that succeeded. -/
structure Sound (as : List Action) (t : Traffic) : Prop where
  memory : ∃ record, t.storage = .memory record {}
  sent : ∀ f ∈ t.flights, f.request ∈ t.client.sent
  answered : ∀ r ∈ t.answers, Answered as r

theorem Answered.append {as : List Action} {r : LoginResponse} (h : Answered as r) (bs : List Action) :
    Answered (as ++ bs) r := by
  obtain ⟨n, status, body, hmem, hrest⟩ := h
  exact ⟨n, status, body, List.mem_append_left bs hmem, hrest⟩

/-- A reply that can be read is a response of success. -/
theorem classify_eq_ok {α : Type} {read : Bytes → Except Json.Fault α} {reply : Reply} {x : α}
    (h : classify read reply = .ok x) :
    ∃ status body, reply = .response status body ∧ isSuccess status = true ∧ read body = .ok x := by
  cases reply with
  | failed reason => cases h
  | response status body =>
    simp only [classify] at h
    split at h
    · cases h
    · split at h
      · cases h
      · next hs =>
        refine ⟨status, body, rfl, by simpa using hs, ?_⟩
        cases hx : read body with
        | ok y => simpa [hx] using h
        | error e => simp [hx] at h

theorem rejects_eq_true {reply : Reply} (h : Client.rejects reply = true) :
    ∃ body, reply = .response unauthorized body := by
  cases reply with
  | failed reason => cases h
  | response status body =>
    have hs : status = unauthorized := by simpa [Client.rejects] using h
    exact ⟨body, by rw [hs]⟩

/-- Completion with status 401 clears the session; any other completion leaves session and record alone. -/
theorem store_land {α : Type} (read : Bytes → Except Json.Fault α) (n : Nat) (f : Flight) (reply : Reply)
    (t : Traffic) :
    (t.land read n f reply).session = (if Client.rejects reply then .empty else t.session) ∧
      (t.land read n f reply).storage =
        (if Client.rejects reply then (SessionStore.persist .empty t.storage).1 else t.storage) := by
  simp only [land, session, storage, Client.complete, Client.settle, Client.report]
  split <;> exact ⟨rfl, rfl⟩

theorem sent_land {α : Type} (read : Bytes → Except Json.Fault α) (n : Nat) (f : Flight) (reply : Reply)
    (t : Traffic) : (t.land read n f reply).client.sent = t.client.sent := by
  simp only [land, Client.complete, Client.settle, Client.report]
  split <;> rfl

theorem sent_launch (endpoint : String) (o : RequestOptions) (waiter : Waiter) (t : Traffic) :
    (t.launch endpoint o waiter).client.sent =
      t.client.sent ++ [buildRequest t.client.base t.session endpoint o] := rfl

/-- Every step either leaves session and record alone or is one of those that replace the session, and then the
    record becomes that of the new session. -/
theorem step_store {as : List Action} {t u : Traffic} {a : Action} (hs : Sound as t) (h : Step t a u) :
    u.session = t.session ∧ u.storage = t.storage ∨
      Replaces as u.session a ∧ u.storage = (SessionStore.persist u.session t.storage).1 := by
  have land {α : Type} (read : Bytes → Except Json.Fault α) (n : Nat) (f : Flight) (reply : Reply) :
      (t.land read n f reply).session = t.session ∧ (t.land read n f reply).storage = t.storage ∨
        Replaces as (t.land read n f reply).session (.complete n reply) ∧
          (t.land read n f reply).storage =
            (SessionStore.persist (t.land read n f reply).session t.storage).1 := by
    obtain ⟨hsession, hstorage⟩ := store_land read n f reply t
    cases hr : Client.rejects reply with
    | false => rw [hr] at hsession hstorage; exact .inl ⟨hsession, hstorage⟩
    | true =>
      rw [hr] at hsession hstorage
      refine .inr ⟨⟨hsession, rejects_eq_true hr⟩, ?_⟩
      rw [hstorage, hsession]
      rfl
  cases h with
  | send | beginLogin | dropLogin => exact .inl ⟨rfl, rfl⟩
  | complete read reply _ _ => exact land read _ _ reply
  | refuseLogin _ _ _ => exact land _ _ _ _
  | answerLogin _ _ _ => exact land _ _ _ _
  | endLogin hr hl => exact .inr ⟨⟨_, hs.answered _ (List.mem_of_getElem? hr), hl⟩, rfl⟩
  | write s => exact .inr ⟨rfl, rfl⟩
  | logout => exact .inr ⟨rfl, rfl⟩

theorem Replaces.append {as : List Action} {s : Session} {a : Action} (h : Replaces as s a) (bs : List Action) :
    Replaces (as ++ bs) s a := by
  cases a with
  | endLogin _ _ =>
    obtain ⟨r, hr, hl⟩ := h
    exact ⟨r, hr.append bs, hl⟩
  | _ => exact h

/-- Writing a session keeps the record in a memory whose calls do not fail. -/
theorem persist_memory (s : Session) (record : Option String) :
    ∃ record', (SessionStore.persist s (.memory record {})).1 = .memory record' {} := by
  unfold SessionStore.persist
  split
  · exact ⟨some s.toText, rfl⟩
  · exact ⟨none, rfl⟩

theorem persist_empty_memory (record : Option String) :
    (SessionStore.persist .empty (.memory record {})).1 = .memory none {} := rfl

theorem sound_start (base : String) (record : Option String) : Sound [] (start base record) where
  memory := ⟨record, rfl⟩
  sent := by simp [start]
  answered := by simp [start]

theorem Sound.step {as : List Action} {t u : Traffic} {a : Action} (hs : Sound as t) (h : Step t a u) :
    Sound (as ++ [a]) u := by
  have hmemory : ∃ record, u.storage = .memory record {} := by
    obtain ⟨record, hrecord⟩ := hs.memory
    rcases step_store hs h with ⟨-, hst⟩ | ⟨-, hst⟩
    · exact ⟨record, hst.trans hrecord⟩
    · rw [hst, hrecord]
      exact persist_memory _ _
  -- A reply takes its request out of flight and sends nothing.
  have hland {α : Type} (read : Bytes → Except Json.Fault α) (n : Nat) (f : Flight) (reply : Reply) :
      ∀ g ∈ t.flights.eraseIdx n, g.request ∈ (t.land read n f reply).client.sent := by
    intro g hg
    rw [sent_land]
    exact hs.sent g (List.mem_of_mem_eraseIdx hg)
  have hlaunch (endpoint : String) (o : RequestOptions) (waiter : Waiter) :
      ∀ g ∈ (t.launch endpoint o waiter).flights, g.request ∈ (t.launch endpoint o waiter).client.sent := by
    intro g hg
    rw [sent_launch]
    rcases List.mem_append.1 hg with hg | hg
    · exact List.mem_append_left _ (hs.sent g hg)
    · obtain rfl := List.mem_singleton.1 hg
      exact List.mem_append_right _ (List.mem_singleton_self _)
  have hold : ∀ r ∈ t.answers, Answered (as ++ [a]) r := fun r hr => (hs.answered r hr).append _
  cases h with
  | send endpoint o => exact ⟨hmemory, hlaunch _ _ _, hold⟩
  | beginLogin credentials => exact ⟨hmemory, hlaunch _ _ _, hold⟩
  | complete read reply _ _ => exact ⟨hmemory, hland _ _ _ _, hold⟩
  | refuseLogin _ _ _ => exact ⟨hmemory, hland _ _ _ _, hold⟩
  | @answerLogin _ n f reply r _ _ hr =>
    refine ⟨hmemory, hland _ _ _ _, ?_⟩
    intro r' hr'
    rcases List.mem_append.1 hr' with hr' | hr'
    · exact hold r' hr'
    · obtain rfl := List.mem_singleton.1 hr'
      obtain ⟨status, body, rfl, hsuccess, hread⟩ := classify_eq_ok hr
      exact ⟨n, status, body, by simp, hsuccess, hread⟩
  | endLogin _ _ => exact ⟨hmemory, hs.sent, fun r hr => hold r (List.mem_of_mem_eraseIdx hr)⟩
  | dropLogin _ _ => exact ⟨hmemory, hs.sent, fun r hr => hold r (List.mem_of_mem_eraseIdx hr)⟩
  | write s => exact ⟨hmemory, hs.sent, hold⟩
  | logout => exact ⟨hmemory, hs.sent, hold⟩

theorem Run.sound {base : String} {record : Option String} {as : List Action} {t : Traffic}
    (h : Run (start base record) as t) : Sound as t := by
  induction h with
  | nil => exact sound_start base record
  | snoc _ hstep ih => exact ih.step hstep

/-! ## Requests that were sent -/

/-- A step sends at most the request that its action says, built from the session of that moment. -/
theorem step_sent {t u : Traffic} {a : Action} (h : Step t a u) :
    u.client.sent = t.client.sent ++
      (a.sends?.map fun p => buildRequest t.client.base t.session p.1 p.2).toList := by
  cases h with
  | send endpoint o => rfl
  | beginLogin credentials => exact sent_launch _ _ _ _
  | complete read reply _ _ => exact (sent_land _ _ _ _ _).trans (List.append_nil _).symm
  | refuseLogin _ _ _ => exact (sent_land _ _ _ _ _).trans (List.append_nil _).symm
  | @answerLogin _ n f reply _ _ _ _ => exact (sent_land readAnswer n f reply t).trans (List.append_nil _).symm
  | endLogin _ _ => exact (List.append_nil _).symm
  | dropLogin _ _ => exact (List.append_nil _).symm
  | write s => exact (List.append_nil _).symm
  | logout => exact (List.append_nil _).symm

/-- Every request that was sent in a run was sent by one step of it, from the session of that moment. -/
theorem Run.sent {t u : Traffic} {as : List Action} (h : Run t as u) {i : Nat} {r : Request}
    (hi : t.client.sent.length ≤ i) (hr : u.client.sent[i]? = some r) :
    ∃ as₁ a as₂ v w endpoint o, as = as₁ ++ a :: as₂ ∧ Run t as₁ v ∧ Step v a w ∧ Run w as₂ u ∧
      a.sends? = some (endpoint, o) ∧ v.client.sent.length = i ∧
      r = buildRequest v.client.base v.session endpoint o := by
  induction h with
  | nil => rw [List.getElem?_eq_none hi] at hr; cases hr
  | @snoc as u' v' a hrun hstep ih =>
    have hsent := step_sent hstep
    by_cases hlt : i < u'.client.sent.length
    · -- an earlier step sent it
      rw [hsent, List.getElem?_append_left hlt] at hr
      obtain ⟨as₁, b, as₂, v, w, endpoint, o, rfl, h₁, hb, h₂, hrest⟩ := ih hr
      exact ⟨as₁, b, as₂ ++ [a], v, w, endpoint, o, by simp, h₁, hb, h₂.snoc hstep, hrest⟩
    · -- the last step sent it
      have hge : u'.client.sent.length ≤ i := Nat.le_of_not_lt hlt
      rw [hsent, List.getElem?_append_right hge] at hr
      cases hsends : a.sends? with
      | none => rw [hsends] at hr; cases hr
      | some p =>
        rw [hsends, Option.map_some, Option.toList_some] at hr
        obtain ⟨hzero, rfl⟩ : i - u'.client.sent.length = 0 ∧ _ = r := by
          simpa [List.getElem?_singleton] using hr
        exact ⟨as, a, [], u', v', p.1, p.2, rfl, hrun, hstep, .nil, hsends, by omega, rfl⟩

/-! ## After a 401 -/

/-- Nobody is logged in, and of the requests sent after the first `n` none carries a credential. -/
structure LoggedOut (n : Nat) (t : Traffic) : Prop where
  session : t.session = .empty
  storage : t.storage = .memory none {}
  sent : ∀ r ∈ t.client.sent.drop n, r.headers.values authorization = []

/-- Completion with status 401 logs out. -/
theorem loggedOut_of_unauthorized {as : List Action} {t u : Traffic} {n : Nat} {body : List UInt8} (hs : Sound as t)
    (h : Step t (.complete n (.response unauthorized body)) u) : LoggedOut t.client.sent.length u := by
  obtain ⟨record, hrecord⟩ := hs.memory
  have hland {α : Type} (read : Bytes → Except Json.Fault α) (f : Flight) :
      (t.land read n f (.response unauthorized body)).session = .empty ∧
        (t.land read n f (.response unauthorized body)).storage = .memory none {} := by
    obtain ⟨hsession, hstorage⟩ := store_land read n f (.response unauthorized body) t
    refine ⟨hsession, ?_⟩
    rw [hstorage, hrecord]
    exact persist_empty_memory record
  have hsent : u.client.sent.drop t.client.sent.length = [] := by
    rw [step_sent h]
    exact List.drop_eq_nil_of_le (by simp [Action.sends?])
  cases h with
  | complete read _ _ _ => exact ⟨(hland read _).1, (hland read _).2, by simp [hsent]⟩
  | refuseLogin _ _ _ => exact ⟨(hland _ _).1, (hland _ _).2, by simp [hsent]⟩
  | answerLogin _ _ hr => cases hr

/-- Who is logged out stays so, until a session is written or a login ends. -/
theorem LoggedOut.step {as : List Action} {n : Nat} {t u : Traffic} {a : Action} (hs : Sound as t)
    (ho : LoggedOut n t) (ha : a.mayLogIn = false) (h : Step t a u) : LoggedOut n u := by
  have hstore : u.session = .empty ∧ u.storage = .memory none {} := by
    rcases step_store hs h with ⟨hsession, hstorage⟩ | ⟨hr, hstorage⟩
    · exact ⟨hsession.trans ho.session, hstorage.trans ho.storage⟩
    · have hempty : u.session = .empty := by
        cases a with
        | logout => exact hr
        | complete _ _ => exact hr.1
        | write _ | endLogin _ _ => cases ha
        | _ => exact hr.elim
      rw [hstorage, hempty, ho.storage]
      exact ⟨rfl, persist_empty_memory none⟩
  refine ⟨hstore.1, hstore.2, ?_⟩
  intro r hr
  rw [step_sent h, List.drop_append] at hr
  rcases List.mem_append.1 hr with hr | hr
  · exact ho.sent r hr
  · obtain ⟨p, -, rfl⟩ := Option.map_eq_some_iff.1 (Option.mem_toList.1 (List.mem_of_mem_drop hr))
    rw [ho.session]
    exact values_buildRequest_of_not_authenticated Session.bearer?_empty

theorem LoggedOut.run {as bs : List Action} {n : Nat} {t u : Traffic} (hs : Sound as t) (ho : LoggedOut n t)
    (hrun : Run t bs u) (hb : ∀ b ∈ bs, b.mayLogIn = false) : Sound (as ++ bs) u ∧ LoggedOut n u := by
  induction hrun with
  | nil => exact ⟨by simpa using hs, ho⟩
  | @snoc bs v w b _ hstep ih =>
    obtain ⟨hsv, hov⟩ := ih fun b' hb' => hb b' (List.mem_append_left _ hb')
    rw [← List.append_assoc]
    exact ⟨hsv.step hstep, hov.step hsv (hb b (by simp)) hstep⟩

/-! ## The protocol -/

/-- What the request `r` to an endpoint carries for the session `s`: at the login endpoint nothing; elsewhere the
    token of the session, if it has one and a header can hold it. -/
def Carries (s : Session) (endpoint : String) (r : Request) : Prop :=
  (isLoginEndpoint endpoint = true → r.headers.values authorization = []) ∧
  (isLoginEndpoint endpoint = false →
    (r.headers.values authorization ≠ [] ↔
      ∃ token, s.token = some token ∧ token ≠ "" ∧ isHeaderValue token = true) ∧
    ∀ token, s.token = some token → token ≠ "" → isHeaderValue token = true →
      r.headers.values authorization = ["Bearer " ++ token])

theorem carries_buildRequest (base : String) (s : Session) (endpoint : String) (o : RequestOptions) :
    Carries s endpoint (buildRequest base s endpoint o) :=
  ⟨values_buildRequest_login, fun h =>
    ⟨values_buildRequest_ne_nil_iff h, fun _ ht hne hv => values_buildRequest_some h ht hne hv⟩⟩

/-- The credential protocol, for every order of steps. -/
theorem credential_protocol {base : String} {record : Option String} {as : List Action} {t : Traffic}
    (h : Run (start base record) as t) :
    (∀ a u, Step t a u →
      u.session = t.session ∧ u.storage = t.storage ∨ Replaces as u.session a) ∧
    (∀ n body u bs v, Step t (.complete n (.response unauthorized body)) u → Run u bs v →
      (∀ b ∈ bs, b.mayLogIn = false) →
      v.session = .empty ∧ v.storage.record? = none ∧
        ∀ r ∈ v.client.sent.drop t.client.sent.length, r.headers.values authorization = []) ∧
    (∀ f ∈ t.flights, f.request ∈ t.client.sent) ∧
    (∀ i r, t.client.sent[i]? = some r →
      ∃ as₁ a as₂ u v endpoint o, as = as₁ ++ a :: as₂ ∧ Run (start base record) as₁ u ∧ Step u a v ∧ Run v as₂ t ∧
        a.sends? = some (endpoint, o) ∧ u.client.sent.length = i ∧ Carries u.session endpoint r) := by
  refine ⟨?_, ?_, h.sound.sent, ?_⟩
  · intro a u hstep
    rcases step_store h.sound hstep with hsame | ⟨hr, -⟩
    · exact .inl hsame
    · exact .inr hr
  · intro n body u bs v hstep hrun hb
    obtain ⟨-, hout⟩ := (loggedOut_of_unauthorized h.sound hstep).run (h.sound.step hstep) hrun hb
    refine ⟨hout.session, ?_, hout.sent⟩
    rw [hout.storage]
    rfl
  · intro i r hr
    obtain ⟨as₁, a, as₂, u, v, endpoint, o, has, h₁, hstep, h₂, hsends, hlen, rfl⟩ := h.sent (Nat.zero_le i) hr
    exact ⟨as₁, a, as₂, u, v, endpoint, o, has, h₁, hstep, h₂, hsends, hlen, carries_buildRequest _ _ _ _⟩

/-- A request that was sent with one credential is refused after another was written: the later one is gone as well,
    and the next request goes out without any. -/
theorem credential_protocol_late_rejection :
    ∃ t u v,
      Run (start "http://localhost/api/v1" none)
        [.write ⟨some "a", none, none⟩, .send "/jobs" {}, .write ⟨some "b", none, none⟩] t ∧
      t.session = ⟨some "b", none, none⟩ ∧ Step t (.complete 0 (.response unauthorized [])) u ∧
      Run u [.send "/stats" {}] v ∧ (∀ b ∈ [Action.send "/stats" {}], b.mayLogIn = false) ∧
      v.session = .empty ∧ v.storage.record? = none ∧
        ∀ r ∈ v.client.sent.drop t.client.sent.length, r.headers.values authorization = [] := by
  let t₁ : Traffic :=
    { start "http://localhost/api/v1" none with
      client := (start "http://localhost/api/v1" none).client.write ⟨some "a", none, none⟩ }
  let t₂ := t₁.launch "/jobs" {} .caller
  let t : Traffic := { t₂ with client := t₂.client.write ⟨some "b", none, none⟩ }
  have hrun : Run (start "http://localhost/api/v1" none)
      [.write ⟨some "a", none, none⟩, .send "/jobs" {}, .write ⟨some "b", none, none⟩] t :=
    ((Run.nil.snoc (.write _ _)).snoc (.send t₁ "/jobs" {})).snoc (.write t₂ _)
  have hflight : t.flights[0]? = some ⟨"/jobs", (t₁.client.build "/jobs" {}).1, .caller⟩ := rfl
  have hstep := Step.complete Value.ofBytes (.response unauthorized []) hflight rfl
  have hlast (u : Traffic) : Run u [.send "/stats" {}] (u.launch "/stats" {} .caller) :=
    Run.nil.snoc (.send u "/stats" {})
  have hb : ∀ b ∈ [Action.send "/stats" {}], b.mayLogIn = false := by simp [Action.mayLogIn]
  exact ⟨t, _, _, hrun, rfl, hstep, hlast _, hb, (credential_protocol hrun).2.1 0 [] _ _ _ hstep (hlast _) hb⟩

end Traffic

end ClusterPanel
