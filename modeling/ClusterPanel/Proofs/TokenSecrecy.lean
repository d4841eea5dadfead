import ClusterPanel.Proofs.CommandParts
import ClusterPanel.Proofs.TwinObservers

/- Where the token goes. Two clients over the records of twins, that is of sessions that differ in their token alone,
   cannot be told apart by what comes of any sequence of operations on them (`token_secret`): not by results and
   failures, by what commands and programs that run on the same files show and say, by what is reported, or by the
   requests but for their credentials. What is read, written and recorded are sessions that are twins.

   An operation is blind if it gives the same result on twins and leaves twins (`Client.Blind`). All that is made of
   requests is blind because one request is (`blind_request`). -/
namespace ClusterPanel

open Files Http Json Text Time
open List (Forall₂)

/-! ## Clients -/

/-- Twin sessions in the stores, the same replies to come, and the same requests sent but for their credentials. -/
structure Client.Twins (c c' : Client) : Prop where
  base : c.base = c'.base
  store : c.store.Twins c'.store
  replies : c.replies = c'.replies
  sent : c.sent.map Request.redacted = c'.sent.map Request.redacted
  written : Forall₂ Session.Twins c.written c'.written

/-- What is done with a client without telling twins apart: it gives the same result and leaves twins. -/
def Client.Blind {α : Type} (f : Client → α × Client) : Prop :=
  ∀ c c', Client.Twins c c' → (f c).1 = (f c').1 ∧ (f c).2.Twins (f c').2

namespace Client

/-- The common result of what is done with twins, and the clients that it leaves. -/
theorem Blind.result {α : Type} {f : Client → α × Client} (hf : Blind f) {c c' : Client} (h : c.Twins c') :
    ∃ a d d', f c = (a, d) ∧ f c' = (a, d') ∧ d.Twins d' := by
  obtain ⟨hresult, htwins⟩ := hf c c' h
  exact ⟨(f c).1, (f c).2, (f c').2, rfl, Prod.ext hresult.symm rfl, htwins⟩

theorem twins_create {s s' : Storage} (h : s.Twins s') (base : String) (replies : List Reply) :
    (create base s replies).Twins (create base s' replies) :=
  ⟨rfl, SessionStore.twins_ofStorage h, rfl, rfl, .nil⟩

variable {c c' : Client} {α : Type}

namespace Twins

theorem write (h : c.Twins c') {s s' : Session} (hs : s.Twins s') : (c.write s).Twins (c'.write s') :=
  ⟨h.base, h.store.write hs, h.replies, h.sent, List.rel_append h.written (.cons hs .nil)⟩

theorem report (h : c.Twins c') (ds : List Diagnostic) : (c.report ds).Twins (c'.report ds) :=
  ⟨h.base, ⟨h.store.current, h.store.storage, congrArg (· ++ ds) h.store.log⟩, h.replies, h.sent, h.written⟩

theorem build (h : c.Twins c') (endpoint : String) (o : RequestOptions) :
    (c.build endpoint o).1.redacted = (c'.build endpoint o).1.redacted ∧
      (c.build endpoint o).2.Twins (c'.build endpoint o).2 := by
  unfold Client.build
  dsimp only
  rw [h.base, h.store.current.unusableCredential endpoint]
  exact ⟨h.store.current.buildRequest _ _ _, h.report _⟩

theorem send (h : c.Twins c') (endpoint : String) (o : RequestOptions) :
    (c.send endpoint o).Twins (c'.send endpoint o) := by
  obtain ⟨hrequest, htwins⟩ := h.build endpoint o
  refine ⟨htwins.base, htwins.store, htwins.replies, ?_, htwins.written⟩
  unfold Client.send
  dsimp only
  rw [List.map_append, List.map_append, htwins.sent, List.map_singleton, List.map_singleton, hrequest]

theorem describe (h : c.Twins c') : c.describe = c'.describe := by
  unfold Client.describe
  rw [h.base]

theorem settle (h : c.Twins c') (reply : Reply) : (c.settle reply).Twins (c'.settle reply) := by
  unfold Client.settle
  split
  · exact h.write (.same _)
  · exact h

end Twins

theorem blind_receive : Blind receive := by
  intro c c' h
  unfold receive
  rw [h.replies]
  cases c'.replies with
  | nil => exact ⟨rfl, h⟩
  | cons r rest => exact ⟨rfl, h.base, h.store, rfl, h.sent, h.written⟩

/-- One request: what comes of it depends on the reply alone. -/
theorem blind_request (read : Bytes → Except Json.Fault α) (endpoint : String) (o : RequestOptions) :
    Blind (request read endpoint o) := by
  intro c c' h
  obtain ⟨hreply, htwins⟩ := blind_receive _ _ (h.send endpoint o)
  unfold request complete
  dsimp only
  rw [hreply]
  exact ⟨rfl, (htwins.settle _).report _⟩

theorem blind_login (credentials : LoginRequest) (now : Instant) : Blind (login credentials now) := by
  intro c c' h
  obtain ⟨answer, d, d', hd, hd', htwins⟩ := (blind_request (readAll LoginResponse.shape.read) loginEndpoint
    (.post credentials.toValue)).result h
  unfold login authenticate
  rw [hd, hd']
  cases answer with
  | error f => exact ⟨rfl, htwins⟩
  | ok response =>
    dsimp only
    cases Session.ofLogin response now with
    | none => exact ⟨rfl, htwins⟩
    | some session => exact ⟨rfl, htwins.write (.same session)⟩

theorem blind_submit (payload : Payload) : Blind (submit payload) := by
  intro c c' h
  unfold submit
  cases payload with
  | error cause => exact ⟨rfl, h⟩
  | ok v => exact blind_request _ _ _ c c' h

end Client

/-! ## Commands -/

/-- Consoles of twins, with the same written so far. -/
structure Console.Twins (t t' : Console) : Prop where
  client : t.client.Twins t'.client
  output : t.output = t'.output

namespace CommandM

variable {α β : Type} {f : Format} {clock : Clock}

/-- A part of a command that does not tell twins apart: the same comes of it, and it leaves twins. -/
def Blind (m : CommandM α) : Prop :=
  ∀ t t', Console.Twins t t' → (m.start t).1 = (m.start t').1 ∧ (m.start t).2.Twins (m.start t').2

theorem Blind.bind {m : CommandM α} {k : α → CommandM β} (hm : m.Blind) (hk : ∀ x, (k x).Blind) :
    (m >>= k).Blind := by
  intro t t' h
  obtain ⟨hresult, htwins⟩ := hm t t' h
  rcases hs : m.start t with ⟨r, s⟩
  rcases hs' : m.start t' with ⟨r', s'⟩
  rw [hs, hs'] at hresult htwins
  obtain rfl : r = r' := hresult
  cases r with
  | error halt =>
    rw [start_bind_error hs, start_bind_error hs']
    exact ⟨rfl, htwins⟩
  | ok x =>
    rw [start_bind_ok hs, start_bind_ok hs']
    exact hk x s s' htwins

theorem blind_throw (halt : Halt) : (throw halt : CommandM α).Blind := fun _ _ h => ⟨rfl, h⟩

theorem blind_ofExcept (r : Except CommandFault α) : (ofExcept r).Blind := by
  intro t t' h
  cases r <;> exact ⟨rfl, h⟩

theorem blind_withClient {g : Client → α × Client} (hg : Client.Blind g) : (withClient g).Blind := by
  intro t t' h
  obtain ⟨hresult, htwins⟩ := hg _ _ h.client
  rw [start_withClient, start_withClient, hresult]
  exact ⟨rfl, htwins, h.output⟩

theorem blind_call {g : Client → Except Failure α × Client} (hg : Client.Blind g) : (call g).Blind :=
  (blind_withClient hg).bind fun _ => blind_ofExcept _

theorem blind_present (f : Format) (s : Shown) : (present f s).Blind := by
  intro t t' h
  rw [start_present, start_present, h.output]
  exact ⟨rfl, h.client, rfl⟩

theorem blind_ask {g : Client → Except Failure α × Client} (hg : Client.Blind g) (show_ : α → Shown) :
    (ask f show_ g).Blind :=
  (blind_call hg).bind fun _ => blind_present f _

theorem blind_withId {k : String → CommandM Shown} (hk : ∀ id, (k id).Blind) (noun id : String) :
    (withId noun id k).Blind :=
  (blind_ofExcept _).bind hk

theorem blind_login (username password : String) : (login f clock username password).Blind := by
  unfold login
  split
  · exact blind_throw _
  · refine (blind_call (Client.blind_login _ _)).bind ?_
    intro opened
    cases opened with
    | none => exact blind_throw .crashed
    | some s => exact blind_present f _

theorem blind_logout : (logout f).Blind := by
  intro t t' h
  have hlogout : Client.Blind fun c => ((), c.logout) := fun _ _ h => ⟨rfl, h.write (.same _)⟩
  unfold logout
  rw [start_get_bind, start_get_bind, h.client.store.current.isAuthenticated]
  exact ((blind_withClient hlogout).bind fun _ => blind_present f _) t t' h

theorem blind_whoami : (whoami f clock).Blind := by
  intro t t' h
  unfold whoami
  rw [start_get_bind, start_get_bind, h.client.store.current.shown clock]
  exact blind_present f _ t t' h

/-- A job submission is read of no record; so a file that holds one is refused whatever the token in it. -/
theorem readSubmission_twins {t t' : Tree} (h : Tree.Alike TwinContents t t') (file : String) :
    readSubmission t file = readSubmission t' file := by
  have hread := readText_twins h (.ofText file)
  unfold readSubmission
  generalize t.readText (.ofText file) = r at hread ⊢
  generalize t'.readText (.ofText file) = r' at hread ⊢
  cases hread with
  | error e => rfl
  | ok h =>
    cases h with
    | same => rfl
    | records _ hj hj' => simp only [Except.mapError, bind, Except.bind, hj, hj']

theorem blind_submit (file : String) : (submit f clock file).Blind := by
  intro t t' h
  unfold submit
  rw [start_get_bind, start_get_bind, readSubmission_twins h.client.store.storage.tree file]
  exact ((blind_ofExcept _).bind fun s => blind_ask (Client.blind_submit _) _) t t' h

/-- No command tells twins apart. -/
theorem blind_perform (f : Format) (clock : Clock) (cmd : Command) : (cmd.perform f clock).Blind := by
  have hask {α : Type} (read : Bytes → Except Json.Fault α) (endpoint : String) (show_ : α → Shown) :
      (ask f show_ (Client.request read endpoint {})).Blind := blind_ask (Client.blind_request _ _ _) _
  cases cmd with
  | login username password => exact blind_login username password
  | logout => exact blind_logout
  | whoami => exact blind_whoami
  | submitJob file => exact blind_submit file
  | getJob id | jobStatus id | jobEvents id | getInstance id | getNode id | nodeHealth id =>
    exact blind_withId (fun _ => hask _ _ _) _ _
  | listJobs _ | listInstances | listNodes | statistics => exact hask _ _ _

end CommandM

/-- A run of a command on twins ends in the same way, writes the same, and leaves twins. -/
theorem Client.Twins.run {c c' : Client} (h : c.Twins c') (f : Format) (clock : Clock) (cmd : Command) :
    (c.run f clock cmd).ending = (c'.run f clock cmd).ending ∧
      (c.run f clock cmd).output = (c'.run f clock cmd).output ∧
      (c.run f clock cmd).client.Twins (c'.run f clock cmd).client := by
  obtain ⟨hresult, htwins⟩ := CommandM.blind_perform f clock cmd ⟨c, ""⟩ ⟨c', ""⟩ ⟨h, rfl⟩
  exact ⟨congrArg Ending.of hresult, htwins.output, htwins.client⟩

/-! ## Programs -/

/-- The same world, but for the records of twins among its files. -/
structure World.Twins (w w' : World) : Prop where
  environment : w.environment = w'.environment
  tree : Tree.Alike TwinContents w.tree w'.tree
  replies : w.replies = w'.replies
  clock : w.clock = w'.clock

namespace World.Twins

variable {w w' : World}

theorem ofConfig {t t' : Tree} (h : Tree.Alike TwinContents t t') (config : Config) (replies : List Reply) :
    Ended Client.Twins (Client.ofConfig config t replies) (Client.ofConfig config t' replies) := by
  -- Where the record is depends on what lies where, not on what stands there.
  have hfile : config.sessionFile t = config.sessionFile t' := by
    unfold Config.sessionFile
    cases config.sessionPath with
    | none => rfl
    | some path =>
      dsimp only
      rw [h.isDirectory]
  unfold Client.ofConfig
  rw [hfile]
  cases config.validate with
  | error e => exact .error e
  | ok _ =>
    simp only [bind, Except.bind]
    cases config.sessionFile t' with
    | error e => exact .error e
    | ok path => exact .ok (Client.twins_create (.file _ h) _ _)

/-- A run of a program ends in the same way and writes the same, and its clients are twins, if it makes any. -/
theorem run (h : w.Twins w') (i : Invocation) :
    (i.run w).ending = (i.run w').ending ∧ (i.run w).output = (i.run w').output ∧
      Option.Rel Client.Twins (i.run w).client (i.run w').client := by
  have hclient := ofConfig h.tree (i.config w.environment) w.replies
  unfold Invocation.run
  rw [← h.environment, ← h.replies, ← h.clock]
  generalize Client.ofConfig _ w.tree _ = r at hclient ⊢
  generalize Client.ofConfig _ w'.tree _ = r' at hclient ⊢
  cases hclient with
  | error e => exact ⟨rfl, rfl, .none⟩
  | ok hclient =>
    obtain ⟨hending, houtput, htwins⟩ := hclient.run i.format w.clock i.command
    exact ⟨hending, houtput, .some htwins⟩

/-- What a program shows and says is the same, and so are its status and the files that it leaves, but for records. -/
theorem runProgram (h : w.Twins w') (args : List String) :
    (runProgram w args).status = (runProgram w' args).status ∧
      (runProgram w args).output = (runProgram w' args).output ∧
      (runProgram w args).errors = (runProgram w' args).errors ∧
      Tree.Alike TwinContents (runProgram w args).tree (runProgram w' args).tree := by
  unfold ClusterPanel.runProgram
  rw [← h.environment]
  cases Invocation.ofArguments w.environment args with
  | error fault => cases fault <;> exact ⟨rfl, rfl, rfl, h.tree⟩
  | ok i =>
    obtain ⟨hending, houtput, hclients⟩ := h.run i
    -- A program that makes no client leaves the files as they are.
    have htree : Tree.Alike TwinContents (((i.run w).client.map fun c => c.store.storage.tree).getD w.tree)
        (((i.run w').client.map fun c => c.store.storage.tree).getD w'.tree) := by
      generalize (i.run w).client = made at hclients ⊢
      generalize (i.run w').client = made' at hclients ⊢
      cases hclients with
      | none => exact h.tree
      | some hclient => exact hclient.store.storage.tree
    dsimp only
    rw [hending, houtput]
    cases (i.run w').ending <;> exact ⟨rfl, rfl, rfl, htree⟩

end World.Twins

/-! ## Operations -/

/-- The client that a program makes to run its command, as the command leaves it. -/
def World.client? (w : World) (args : List String) : Option Client :=
  match Invocation.ofArguments w.environment args with
  | .ok i => (i.run w).client
  | .error _ => none

/-- The same place of a record, among other files. A memory lies among none. -/
def Storage.withTree (t : Tree) : Storage → Storage
  | .memory record failures => .memory record failures
  | .file path _ => .file path t

/-- What is done with a client: a call, a command, or a program that runs on the same files. -/
inductive Operation : Type 1 where
  | login (credentials : LoginRequest) (now : Instant)
  | authenticate (credentials : LoginRequest)
  | get (r : Resource)
  | jobEvents (id : String)
  | submit (payload : Payload)
  | request {α : Type} (read : Bytes → Except Json.Fault α) (endpoint : String) (o : RequestOptions)
  | build (endpoint : String) (o : RequestOptions)
  | read
  | write (session : Session)
  | logout
  | reopen
  | command (f : Format) (clock : Clock) (order : Command)
  | program (e : Environment) (replies : List Reply) (clock : Clock) (args : List String)

/-- What comes of an operation. A program also sends requests and reports of its own. -/
inductive Outcome : Type 1 where
  | nothing
  | answer {α : Type} (result : Except Failure α)
  | request (r : Request)
  | session (s : Session)
  | ran (e : Ending) (output : String)
  | exit (status : Nat) (output : String) (errors : Option String) (sent : List Request) (log : List Diagnostic)

namespace Operation

def perform (c : Client) : Operation → Outcome × Client
  | login credentials now => let r := c.login credentials now; (.answer r.1, r.2)
  | authenticate credentials => let r := c.authenticate credentials; (.answer r.1, r.2)
  | get resource => let r := c.get resource; (.answer r.1, r.2)
  | jobEvents id => let r := c.jobEvents id; (.answer r.1, r.2)
  | submit payload => let r := c.submit payload; (.answer r.1, r.2)
  | request reader endpoint o => let r := c.request reader endpoint o; (.answer r.1, r.2)
  | build endpoint o => let r := c.build endpoint o; (.request r.1, r.2)
  | read => (.session c.store.current, c)
  | write session => (.nothing, c.write session)
  | logout => (.nothing, c.logout)
  | reopen => (.nothing, { c with store := c.store.reopen })
  | command f clock order => let r := c.run f clock order; (.ran r.ending r.output, r.client)
  | program e replies clock args =>
    let w : World := { environment := e, tree := c.store.storage.tree, replies, clock }
    let r := runProgram w args
    let made := w.client? args
    (.exit r.status r.output r.errors ((made.map Client.sent).getD []) ((made.map fun d => d.store.log).getD []),
      { c with store := { c.store with storage := c.store.storage.withTree r.tree } })

/-- Performs operations one after the other. -/
def performAll (c : Client) : List Operation → List Outcome × Client
  | [] => ([], c)
  | op :: ops =>
    let r := op.perform c
    let rs := performAll r.2 ops
    (r.1 :: rs.1, rs.2)

/-- The same operation, but for a session that is written, which may be a twin. -/
inductive Twins : Operation → Operation → Prop
  | same (op : Operation) : Twins op op
  | write {s s' : Session} (h : s.Twins s') : Twins (.write s) (.write s')

end Operation

/-- The same outcome, but for sessions, which may be twins, and for the credentials of requests. -/
inductive Outcome.Twins : Outcome → Outcome → Prop
  | same (x : Outcome) : Twins x x
  | request {r r' : Request} (h : r.redacted = r'.redacted) : Twins (.request r) (.request r')
  | session {s s' : Session} (h : s.Twins s') : Twins (.session s) (.session s')
  | exit (status : Nat) (output : String) (errors : Option String) {sent sent' : List Request} (log : List Diagnostic)
      (h : sent.map Request.redacted = sent'.map Request.redacted) :
      Twins (.exit status output errors sent log) (.exit status output errors sent' log)

variable {c c' : Client}

theorem World.Twins.client {w w' : World} (h : w.Twins w') (args : List String) :
    Option.Rel Client.Twins (w.client? args) (w'.client? args) := by
  unfold World.client?
  rw [← h.environment]
  cases Invocation.ofArguments w.environment args with
  | error e => exact .none
  | ok i => exact (h.run i).2.2

theorem Storage.Twins.withTree {s s' : Storage} (h : s.Twins s') {t t' : Tree} (ht : Tree.Alike TwinContents t t') :
    (s.withTree t).Twins (s'.withTree t') := by
  cases h with
  | memory failures h => exact .memory failures h
  | file path _ => exact .file path ht

/-- What comes of blind operations on twins. -/
theorem Client.Blind.answer {α : Type} {f : Client → Except Failure α × Client} (hf : Blind f) (h : c.Twins c') :
    (Outcome.answer (f c).1).Twins (.answer (f c').1) ∧ (f c).2.Twins (f c').2 := by
  obtain ⟨hresult, htwins⟩ := hf c c' h
  rw [hresult]
  exact ⟨.same _, htwins⟩

theorem Operation.program_twins (h : c.Twins c') (e : Environment) (replies : List Reply) (clock : Clock)
    (args : List String) :
    ((program e replies clock args).perform c).1.Twins ((program e replies clock args).perform c').1 ∧
      ((program e replies clock args).perform c).2.Twins ((program e replies clock args).perform c').2 := by
  -- The program finds the record that the client's store wrote last.
  have hw : World.Twins { environment := e, tree := c.store.storage.tree, replies, clock }
      { environment := e, tree := c'.store.storage.tree, replies, clock } := ⟨rfl, h.store.storage.tree, rfl, rfl⟩
  obtain ⟨hstatus, houtput, herrors, htree⟩ := hw.runProgram args
  have hmade := hw.client args
  unfold Operation.perform
  dsimp only
  rw [hstatus, houtput, herrors]
  refine ⟨?_, h.base, ⟨h.store.current, h.store.storage.withTree htree, h.store.log⟩, h.replies, h.sent, h.written⟩
  generalize World.client? _ args = made at hmade ⊢
  generalize World.client? _ args = made' at hmade ⊢
  cases hmade with
  | none => exact .same _
  | some hmade =>
    simp only [Option.map_some, Option.getD_some]
    rw [hmade.store.log]
    exact .exit _ _ _ _ hmade.sent

/-- One operation: what comes of it is the same but for sessions and credentials, and it leaves twins. -/
theorem Operation.perform_twins (h : c.Twins c') {op op' : Operation} (hop : op.Twins op') :
    (op.perform c).1.Twins (op'.perform c').1 ∧ (op.perform c).2.Twins (op'.perform c').2 := by
  cases hop with
  | write hs => exact ⟨.same _, h.write hs⟩
  | same =>
    cases op with
    | login credentials now => exact (Client.blind_login credentials now).answer h
    | authenticate credentials => exact (Client.blind_request _ _ _).answer h
    | get r => exact (Client.blind_request _ _ _).answer h
    | jobEvents id => exact (Client.blind_request _ _ _).answer h
    | submit payload => exact (Client.blind_submit payload).answer h
    | request reader endpoint o => exact (Client.blind_request reader endpoint o).answer h
    | build endpoint o => exact ⟨.request (h.build endpoint o).1, (h.build endpoint o).2⟩
    | read => exact ⟨.session h.store.current, h⟩
    | write session => exact ⟨.same _, h.write (.same session)⟩
    | logout => exact ⟨.same _, h.write (.same .empty)⟩
    | reopen => exact ⟨.same _, h.base, h.store.reopen, h.replies, h.sent, h.written⟩
    | command f clock order =>
      obtain ⟨hending, houtput, htwins⟩ := h.run f clock order
      unfold Operation.perform
      dsimp only
      rw [hending, houtput]
      exact ⟨.same _, htwins⟩
    | program e replies clock args => exact program_twins h e replies clock args

/-- A run: by one operation after the other. -/
theorem Operation.performAll_twins (h : c.Twins c') {ops ops' : List Operation}
    (hops : Forall₂ Operation.Twins ops ops') :
    Forall₂ Outcome.Twins (performAll c ops).1 (performAll c' ops').1 ∧
      (performAll c ops).2.Twins (performAll c' ops').2 := by
  induction hops generalizing c c' with
  | nil => exact ⟨.nil, h⟩
  | cons hop _ ih =>
    obtain ⟨houtcome, htwins⟩ := perform_twins h hop
    obtain ⟨houtcomes, htwins'⟩ := ih htwins
    exact ⟨.cons houtcome houtcomes, htwins'⟩

/-- Let two clients start over the records of twins, that is of sessions that differ in their token at most, and let the
    same be done with both, but for twins that may be written. Then the same comes of every operation, the same is
    reported, the client and its session say the same of themselves, and the same requests are sent but for their
    credentials. The sessions that are read and written are twins, and so are the records.

    It is the same with two stores over such records and with those who observe them: they are called alike, with
    sessions that are twins, and what is reported and what the stores say of themselves is the same. -/
theorem token_secret {s s' : Storage} (hs : s.Twins s') :
    (∀ base replies ops ops', Forall₂ Operation.Twins ops ops' →
      let r := Operation.performAll (.create base s replies) ops
      let r' := Operation.performAll (.create base s' replies) ops'
      Forall₂ Outcome.Twins r.1 r'.1 ∧ r.2.store.log = r'.2.store.log ∧
        r.2.describe = r'.2.describe ∧ r.2.store.current.describe = r'.2.store.current.describe ∧
        r.2.sent.map Request.redacted = r'.2.sent.map Request.redacted ∧
        Forall₂ Session.Twins r.2.written r'.2.written ∧ r.2.store.storage.Twins r'.2.store.storage) ∧
    (∀ commands commands', Forall₂ StoreCommand.Twins commands commands' →
      let m := commands.foldl (fun m c => m.execute c) (Observation.ofStorage s)
      let m' := commands'.foldl (fun m c => m.execute c) (Observation.ofStorage s')
      Forall₂ Call.Twins m.calls m'.calls ∧ m.store.log = m'.store.log ∧ m.describe = m'.describe) := by
  constructor
  · intro base replies ops ops' hops
    obtain ⟨houtcomes, htwins⟩ := Operation.performAll_twins (Client.twins_create hs base replies) hops
    exact ⟨houtcomes, htwins.store.log, htwins.describe, htwins.store.current.describe, htwins.sent, htwins.written,
      htwins.store.storage⟩
  · intro commands commands' hcommands
    have htwins := (Observation.twins_ofStorage hs).foldl_execute hcommands
    exact ⟨htwins.calls, htwins.store.log, htwins.describe⟩

/-- Two records in memory: the requests carry different credentials, and are the same without them. And so are those of
    two clients whose records are files. -/
theorem token_secret_stored :
    let session (token : String) : Session := { token := some token, username := some "ada" }
    let memory (token : String) : Storage := .memory (some (session token).toText) {}
    let file (token : String) : Storage :=
      .file (.ofText "/auth.json") (Tree.put {} ["auth.json"] (.file (bytesOf (session token).toText) ownerMode))
    let ops : List Operation := [.command .table ⟨.unset, 0⟩ .whoami, .get .nodes]
    let run (s : Storage) := Operation.performAll (.create "http://panel" s []) ops
    ((run (memory "alpha")).2.sent ≠ (run (memory "omega")).2.sent ∧
      (run (memory "alpha")).2.sent.map Request.redacted = (run (memory "omega")).2.sent.map Request.redacted) ∧
    (run (file "alpha")).2.sent.map Request.redacted = (run (file "omega")).2.sent.map Request.redacted := by
  intro session memory file ops run
  have hsession : (session "alpha").Twins (session "omega") :=
    .tokens ⟨by decide, by decide⟩ ⟨by decide, by decide⟩ fun i hi => by cases hi
  have hops : Forall₂ Operation.Twins ops ops := List.forall₂_same.2 fun op _ => .same op
  have hmemory : (memory "alpha").Twins (memory "omega") := Storage.twins_memory hsession {}
  have hfile : (file "alpha").Twins (file "omega") := Storage.twins_file hsession {} _ _ _
  obtain ⟨-, -, -, -, hsent, -⟩ := (token_secret hmemory).1 "http://panel" [] ops ops hops
  obtain ⟨-, -, -, -, hsent', -⟩ := (token_secret hfile).1 "http://panel" [] ops ops hops
  exact ⟨⟨by decide +kernel, hsent⟩, hsent'⟩

end ClusterPanel
