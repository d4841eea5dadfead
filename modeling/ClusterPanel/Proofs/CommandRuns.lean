import ClusterPanel.Proofs.CommandParts
import ClusterPanel.Proofs.OneRequest
import ClusterPanel.Proofs.ServingFiles

/- What a run of a command does. A run ends in one of a few ways (`RunsTo`), and each is said once: the arguments are
   refused and nothing happens; a local command looks at the session or clears it; or one request is sent, and what
   follows hangs on the reply alone (`Asked`). That every run of every command ends so is `runsTo_run`, which goes
   through the commands; what is sent, what is said of the credential and what becomes of the session is then read off
   the ways, not the commands. What is written is what is shown, since no part of a command writes anything before
   (`CommandM.output_runOn`). All of it together is `command_run`. -/
namespace ClusterPanel

open Http Json Text Time

/-! ## How a run ends -/

namespace CommandFault

/-- The arguments of a command are refused: one of them is blank, or the file that is to be submitted cannot be read or
    is no submission. -/
def isRefusal : CommandFault → Bool
  | .invalidArgument _ => true
  | .io _ => true
  | .api _ => false
  | .config _ => false

theorem isUnauthorized_of_isRefusal {fault : CommandFault} (h : fault.isRefusal = true) :
    fault.isUnauthorized = false := by
  cases fault with
  | api f => cases h
  | _ => rfl

end CommandFault

namespace Ending

def isRefused : Ending → Bool
  | .failed fault => fault.isRefusal
  | .shown _ => false
  | .crashed => false

def isUnauthorized : Ending → Bool
  | .failed fault => fault.isUnauthorized
  | .shown _ => false
  | .crashed => false

end Ending

/-! ## What a command asks -/

namespace Command

/-- A command that needs no backend. -/
def isLocal : Command → Bool
  | .logout => true
  | .whoami => true
  | _ => false

/-- The arguments of a command cannot be used: the user or the identifier is blank, or the file has no submission of a
    job with a name. -/
def Unusable (t : Files.Tree) : Command → Prop
  | .login username _ => isBlankText username = true
  | .getJob id | .jobStatus id | .jobEvents id | .getInstance id | .getNode id | .nodeHealth id => isBlankText id = true
  | .submitJob file => ∀ raw s, t.readText (.ofText file) = .ok raw → JobSubmission.ofBytes (bytesOf raw) = .ok s →
      isBlankText s.jobName = true
  | _ => False

/-- A command that sends a request: one of the backend, with arguments that can be used. -/
def Asks (t : Files.Tree) (cmd : Command) : Prop := cmd.isLocal = false ∧ ¬ cmd.Unusable t

end Command

theorem requireId_ok {noun id id' : String} (h : requireId noun id = .ok id') : isBlankText id = false := by
  unfold requireId at h
  split at h
  · cases h
  · next hblank => exact Bool.eq_false_iff.2 hblank

theorem requireId_error {noun id : String} {fault : CommandFault} (h : requireId noun id = .error fault) :
    isBlankText id = true ∧ fault.isRefusal = true := by
  unfold requireId at h
  split at h
  · next hblank =>
    cases h
    exact ⟨hblank, rfl⟩
  · cases h

/-- A submission is read, or the command that was to submit it cannot be used. -/
theorem readSubmission_spec (t : Files.Tree) (file : String) :
    (∃ s, readSubmission t file = .ok s ∧ ¬ (Command.submitJob file).Unusable t) ∨
    ∃ fault, readSubmission t file = .error fault ∧ (Command.submitJob file).Unusable t ∧ fault.isRefusal = true := by
  unfold readSubmission Command.Unusable
  cases hraw : t.readText (.ofText file) with
  | error e =>
    refine .inr ⟨.io e, rfl, ?_, rfl⟩
    intro raw s hraw' _
    rw [hraw] at hraw'
    cases hraw'
  | ok raw =>
    have htext : (Except.ok raw : Except Files.Fault String).mapError CommandFault.io = .ok raw := rfl
    cases hread : JobSubmission.ofBytes (bytesOf raw) with
    | error e =>
      refine .inr ⟨.invalidArgument (file ++ ": not a job submission: " ++ e.message (bytesOf raw)), ?_, ?_, rfl⟩
      · simp only [htext, bind, Except.bind, hread]
        rfl
      · intro raw' s hraw' hs
        rw [hraw] at hraw'
        cases hraw'
        rw [hread] at hs
        cases hs
    | ok s =>
      cases hname : isBlankText s.jobName with
      | true =>
        refine .inr ⟨.invalidArgument (file ++ ": job_name is required"), ?_, ?_, rfl⟩
        · simp only [htext, bind, Except.bind, hread, hname, if_true]
          rfl
        · intro raw' s' hraw' hs
          rw [hraw] at hraw'
          cases hraw'
          rw [hread] at hs
          cases hs
          exact hname
      | false =>
        refine .inl ⟨s, ?_, ?_⟩
        · simp only [htext, bind, Except.bind, hread, hname, Bool.false_eq_true, if_false]
          rfl
        · intro hunusable
          rw [hunusable raw s hraw hread] at hname
          cases hname

namespace Client

/-! ## What a run can come to -/

/-- The ways in which a run of a command ends, each with what the client is then. -/
inductive RunsTo (clock : Clock) (c : Client) : Command → Ending → Client → Prop
  | refused {cmd : Command} {fault : CommandFault} : cmd.isLocal = false → cmd.Unusable c.store.storage.tree →
      fault.isRefusal = true → RunsTo clock c cmd (.failed fault) c
  | loggedOut (s : Shown) : RunsTo clock c .logout (.shown s) c.logout
  | looked (s : Shown) : RunsTo clock c .whoami (.shown s) c
  | failed {cmd : Command} {α : Type} {read : Bytes → Except Json.Fault α} {f : Failure} {c' : Client} :
      cmd.Asks c.store.storage.tree → Asked c c' → classify read c.receive.1 = .error f →
      RunsTo clock c cmd (.failed (.api f)) c'
  | answered {cmd : Command} {α : Type} {read : Bytes → Except Json.Fault α} {x : α} {c' : Client} (s : Shown) :
      cmd.Asks c.store.storage.tree → (∀ username password, cmd ≠ .login username password) → Asked c c' →
      classify read c.receive.1 = .ok x → RunsTo clock c cmd (.shown s) c'
  | loggedIn {username password : String} {answer : LoginResponse} {session : Session} {c' : Client} (s : Shown) :
      (Command.login username password).Asks c.store.storage.tree → Asked c c' →
      classify (readAll LoginResponse.shape.read) c.receive.1 = .ok answer →
      Session.ofLogin answer clock.now = some session →
      RunsTo clock c (.login username password) (.shown s) (c'.write session)
  | crashed {username password : String} {answer : LoginResponse} {c' : Client} :
      (Command.login username password).Asks c.store.storage.tree → Asked c c' →
      classify (readAll LoginResponse.shape.read) c.receive.1 = .ok answer →
      Session.ofLogin answer clock.now = none → RunsTo clock c (.login username password) .crashed c'

section Runs

variable {f : Format} {clock : Clock} {c : Client} {cmd : Command}

/-- A call whose result is shown. -/
theorem runsTo_ask {α : Type} {read : Bytes → Except Json.Fault α} {endpoint : String} {o : RequestOptions}
    (show_ : α → Shown) (ha : cmd.Asks c.store.storage.tree)
    (hlogin : ∀ username password, cmd ≠ .login username password) :
    let r := (CommandM.ask f show_ (request read endpoint o)).runOn c
    RunsTo clock c cmd r.ending r.client := by
  obtain ⟨c', hrequest, hasked⟩ := request_spec read endpoint o c
  cases hresult : classify read c.receive.1 with
  | error e =>
    rw [hresult] at hrequest
    rw [CommandM.runOn_ask_error hrequest]
    exact .failed ha hasked hresult
  | ok x =>
    rw [hresult] at hrequest
    rw [CommandM.runOn_ask_ok hrequest]
    exact .answered _ ha hlogin hasked hresult

/-- A command on an identifier, which must not be blank. -/
theorem runsTo_withId {α : Type} {read : Bytes → Except Json.Fault α} {noun id : String} {endpoint : String → String}
    {o : RequestOptions} (show_ : α → Shown) (hl : cmd.isLocal = false)
    (hid : cmd.Unusable c.store.storage.tree ↔ isBlankText id = true)
    (hlogin : ∀ username password, cmd ≠ .login username password) :
    let r := (CommandM.withId noun id fun id => .ask f show_ (request read (endpoint id) o)).runOn c
    RunsTo clock c cmd r.ending r.client := by
  intro r
  cases hrequire : requireId noun id with
  | error fault =>
    obtain ⟨hblank, hrefusal⟩ := requireId_error hrequire
    have hr : r = ⟨.failed fault, c, ""⟩ := CommandM.runOn_withId_error hrequire _ c
    rw [hr]
    exact .refused hl (hid.2 hblank) hrefusal
  | ok id' =>
    have hnot : ¬ isBlankText id = true := Bool.eq_false_iff.1 (requireId_ok hrequire)
    have hr : r = (CommandM.ask f show_ (request read (endpoint (trimText id)) o)).runOn c :=
      congrArg (·.runOn c) (CommandM.withId_of_not_blank hnot _)
    rw [hr]
    exact runsTo_ask show_ ⟨hl, fun hunusable => hnot (hid.1 hunusable)⟩ hlogin

theorem runsTo_login (username password : String) :
    let r := (CommandM.login f clock username password).runOn c
    RunsTo clock c (.login username password) r.ending r.client := by
  cases hname : isBlankText username with
  | true =>
    rw [CommandM.runOn_login_blank hname]
    exact .refused rfl hname rfl
  | false =>
    have ha : (Command.login username password).Asks c.store.storage.tree := ⟨rfl, Bool.eq_false_iff.1 hname⟩
    obtain ⟨c', hasked, hfailed, hanswered⟩ := login_spec ⟨username, password⟩ clock.now c
    cases hresult : classify (readAll LoginResponse.shape.read) c.receive.1 with
    | error e =>
      rw [CommandM.runOn_login_error hname (hfailed e hresult)]
      exact .failed ha hasked hresult
    | ok answer =>
      obtain ⟨hnone, hsome⟩ := hanswered answer hresult
      cases hopened : Session.ofLogin answer clock.now with
      | none =>
        rw [CommandM.runOn_login_none hname (hnone hopened)]
        exact .crashed ha hasked hresult hopened
      | some session =>
        rw [CommandM.runOn_login_some hname (hsome session hopened)]
        exact .loggedIn _ ha hasked hresult hopened

theorem runsTo_submit (file : String) :
    let r := (CommandM.submit f clock file).runOn c
    RunsTo clock c (.submitJob file) r.ending r.client := by
  rcases readSubmission_spec c.store.storage.tree file with ⟨s, hs, husable⟩ | ⟨fault, hfault, hunusable, hrefusal⟩
  · rw [CommandM.runOn_submit_ok hs]
    exact runsTo_ask _ ⟨rfl, husable⟩ fun _ _ h => by cases h
  · rw [CommandM.runOn_submit_error hfault]
    exact .refused rfl hunusable hrefusal

/-- Every run of a command ends in one of these ways. -/
theorem runsTo_run (f : Format) (clock : Clock) (c : Client) (cmd : Command) :
    RunsTo clock c cmd (c.run f clock cmd).ending (c.run f clock cmd).client := by
  cases cmd with
  | login username password => exact runsTo_login username password
  | logout => exact .loggedOut _
  | whoami => exact .looked _
  | submitJob file => exact runsTo_submit file
  | getJob id | jobStatus id | jobEvents id | getInstance id | getNode id | nodeHealth id =>
    exact runsTo_withId _ rfl Iff.rfl fun _ _ h => by cases h
  | listJobs _ | listInstances | listNodes | statistics =>
    exact runsTo_ask _ ⟨rfl, fun h => h⟩ fun _ _ h => by cases h

/-! ## All or nothing -/

/-- A reply that takes the session away: it came to a command that sent a request, and has status 401. -/
def Rejected (c : Client) (cmd : Command) : Prop :=
  cmd.Asks c.store.storage.tree ∧ ∃ body, c.receive.1 = .response unauthorized body

theorem rejected_iff (ha : cmd.Asks c.store.storage.tree) : Rejected c cmd ↔ rejects c.receive.1 = true := by
  constructor
  · rintro ⟨-, body, hbody⟩
    rw [hbody]
    rfl
  · intro hr
    exact ⟨ha, Traffic.rejects_eq_true hr⟩

variable {e : Ending} {c' : Client}

/-- What a run sends: nothing if the command needs no backend or its arguments cannot be used, and else one request. -/
theorem RunsTo.sent (h : RunsTo clock c cmd e c') :
    (¬ cmd.Asks c.store.storage.tree → c'.sent = c.sent ∧ c'.replies = c.replies) ∧
    (cmd.Asks c.store.storage.tree → c'.replies = c.replies.tail ∧
      ∃ endpoint o, c'.sent = c.sent ++ [buildRequest c.base c.store.current endpoint o]) := by
  cases h with
  | refused _ hunusable _ => exact ⟨fun _ => ⟨rfl, rfl⟩, fun ha => absurd hunusable ha.2⟩
  | loggedOut _ | looked _ => exact ⟨fun _ => ⟨rfl, rfl⟩, fun ha => absurd ha.1 (by decide)⟩
  | failed ha hasked _ | answered _ ha _ hasked _ | loggedIn _ ha hasked _ _ | crashed ha hasked _ _ =>
    exact ⟨fun hnot => absurd ha hnot, fun _ => ⟨hasked.replies, hasked.sent⟩⟩

/-- A command refuses its arguments exactly when they cannot be used, and leaves everything as it is. -/
theorem RunsTo.refused_iff (h : RunsTo clock c cmd e c') :
    (e.isRefused = true ↔ cmd.Unusable c.store.storage.tree) ∧ (e.isRefused = true → c' = c) := by
  cases h with
  | refused _ hunusable hrefusal => exact ⟨iff_of_true hrefusal hunusable, fun _ => rfl⟩
  | loggedOut _ | looked _ => exact ⟨iff_of_false Bool.false_ne_true fun h => h, fun h => by cases h⟩
  | failed ha _ _ | answered _ ha _ _ _ | loggedIn _ ha _ _ _ | crashed ha _ _ _ =>
    exact ⟨iff_of_false Bool.false_ne_true ha.2, fun h => by cases h⟩

/-- A run fails for want of a credential exactly when the reply says so. -/
theorem RunsTo.unauthorized_iff (h : RunsTo clock c cmd e c') : e.isUnauthorized = true ↔ Rejected c cmd := by
  cases h with
  | refused _ hunusable hrefusal =>
    refine iff_of_false ?_ fun hr => absurd hunusable hr.1.2
    exact Bool.eq_false_iff.1 (CommandFault.isUnauthorized_of_isRefusal hrefusal)
  | loggedOut _ | looked _ => exact iff_of_false Bool.false_ne_true fun hr => absurd hr.1.1 (by decide)
  | failed ha _ hf =>
    rw [rejected_iff ha, ← isUnauthorized_of_classify hf]
    rfl
  | answered _ ha _ _ hx | loggedIn _ ha _ hx _ | crashed ha _ hx _ =>
    rw [rejected_iff ha, rejects_of_classify hx]
    exact iff_of_false Bool.false_ne_true Bool.false_ne_true

/-- Something is shown of the backend only when it replied with success. -/
theorem RunsTo.success (h : RunsTo clock c cmd e c') (ha : cmd.Asks c.store.storage.tree) {s : Shown}
    (hs : e = .shown s) : ∃ status body, c.receive.1 = .response status body ∧ isSuccess status = true := by
  cases h with
  | refused _ _ _ | failed _ _ _ | crashed _ _ _ _ => cases hs
  | loggedOut _ | looked _ => exact absurd ha.1 (by decide)
  | answered _ _ _ _ hx | loggedIn _ _ _ hx _ =>
    obtain ⟨status, body, hreply, hsuccess, -⟩ := Traffic.classify_eq_ok hx
    exact ⟨status, body, hreply, hsuccess⟩

/-- A logout and a credential that is not accepted clear the session and its record. -/
theorem RunsTo.cleared (hs : c.store.storage.Serves) (h : RunsTo clock c cmd e c')
    (hc : cmd = .logout ∨ Rejected c cmd) :
    c'.store.current = .empty ∧ c'.store.storage.record? = none := by
  have hremoved : (SessionStore.persist .empty c.store.storage).1.record? = none := SessionStore.record_write hs .empty
  cases h with
  | refused hl hunusable _ =>
    rcases hc with rfl | hr
    · cases hl
    · exact absurd hunusable hr.1.2
  | loggedOut _ => exact ⟨rfl, hremoved⟩
  | looked _ =>
    rcases hc with hc | hr
    · cases hc
    · exact absurd hr.1.1 (by decide)
  | failed ha hasked _ | answered _ ha _ hasked _ | crashed ha hasked _ _ =>
    have hrejects : rejects c.receive.1 = true := by
      rcases hc with hc | hr
      · rw [hc] at ha
        exact absurd ha.1 (by decide)
      · exact (rejected_iff ha).1 hr
    rw [hasked.current, hasked.storage, if_pos hrejects, if_pos hrejects]
    exact ⟨rfl, hremoved⟩
  | loggedIn _ ha _ hx _ =>
    rcases hc with hc | hr
    · cases hc
    · rw [rejected_iff ha, rejects_of_classify hx] at hr
      cases hr

/-- A login that succeeds opens the session that the answer calls for, and records it. -/
theorem RunsTo.opened (hs : c.store.storage.Serves) (h : RunsTo clock c cmd e c') {username password : String}
    {s : Shown} (hl : cmd = .login username password) (he : e = .shown s) :
    ∃ status body answer session, c.receive.1 = .response status body ∧ isSuccess status = true ∧
      readAll LoginResponse.shape.read body = .ok answer ∧ Session.ofLogin answer clock.now = some session ∧
      c'.store.current = session ∧ c'.store.storage.record? = (SessionStore.recordOf session).map bytesOf := by
  cases h with
  | refused _ _ _ | failed _ _ _ | crashed _ _ _ _ => cases he
  | loggedOut _ | looked _ => cases hl
  | answered _ _ hno _ _ => exact absurd hl (hno _ _)
  | loggedIn _ _ hasked hx ho =>
    obtain ⟨status, body, hreply, hsuccess, hread⟩ := Traffic.classify_eq_ok hx
    refine ⟨status, body, _, _, hreply, hsuccess, hread, ho, rfl, SessionStore.record_write ?_ _⟩
    rw [hasked.storage, rejects_of_classify hx]
    exact hs

/-- Any other run leaves the session and what is stored alone. -/
theorem RunsTo.kept (h : RunsTo clock c cmd e c') (hout : cmd ≠ .logout) (hr : ¬ Rejected c cmd)
    (hin : ∀ username password s, cmd = .login username password → e ≠ .shown s) :
    c'.store.current = c.store.current ∧ c'.store.storage = c.store.storage := by
  cases h with
  | refused _ _ _ | looked _ => exact ⟨rfl, rfl⟩
  | loggedOut _ => exact absurd rfl hout
  | failed ha hasked _ | answered _ ha _ hasked _ | crashed ha hasked _ _ =>
    rw [rejected_iff ha] at hr
    rw [hasked.current, hasked.storage, if_neg hr, if_neg hr]
    exact ⟨rfl, rfl⟩
  | loggedIn _ _ _ _ _ => exact absurd rfl (hin _ _ _ rfl)

/-- Running a command is all or nothing. Over a storage that does not fail, whatever the session, the files and the
    reply are, and in both formats:

    A run that fails or crashes has written nothing. What any other writes is what it shows, and one that asked the
    backend writes something only after a reply of success.

    A command refuses its arguments exactly when they cannot be used, and then the client is as it was. A command that
    needs no backend sends nothing; any other sends one request.

    The failure says that the credential was not accepted exactly when the reply to this request has status 401.

    A logout and such a reply clear the session and its record; a login that succeeds opens the session of the answer
    and records it; and any other run leaves session and record alone. -/
theorem command_run (hs : c.store.storage.Serves) (f : Format) (clock : Clock) (cmd : Command) :
    let e := (c.run f clock cmd).ending
    let c' := (c.run f clock cmd).client
    let written := (c.run f clock cmd).output
    ((∀ fault, e = .failed fault → written = "") ∧ (e = .crashed → written = "") ∧
      (∀ s, e = .shown s → written = s.text f) ∧
      (cmd.Asks c.store.storage.tree → written ≠ "" →
        ∃ status body, c.receive.1 = .response status body ∧ isSuccess status = true)) ∧
    ((e.isRefused = true ↔ cmd.Unusable c.store.storage.tree) ∧ (e.isRefused = true → c' = c)) ∧
    ((¬ cmd.Asks c.store.storage.tree → c'.sent = c.sent ∧ c'.replies = c.replies) ∧
      (cmd.Asks c.store.storage.tree → c'.replies = c.replies.tail ∧
        ∃ endpoint o, c'.sent = c.sent ++ [buildRequest c.base c.store.current endpoint o])) ∧
    (e.isUnauthorized = true ↔ Rejected c cmd) ∧
    (cmd = .logout ∨ Rejected c cmd → c'.store.current = .empty ∧ c'.store.storage.record? = none) ∧
    (∀ username password s, cmd = .login username password → e = .shown s →
      ∃ status body answer session, c.receive.1 = .response status body ∧ isSuccess status = true ∧
        readAll LoginResponse.shape.read body = .ok answer ∧ Session.ofLogin answer clock.now = some session ∧
        c'.store.current = session ∧ c'.store.storage.record? = (SessionStore.recordOf session).map bytesOf) ∧
    (cmd ≠ .logout → ¬ Rejected c cmd → (∀ username password s, cmd = .login username password → e ≠ .shown s) →
      c'.store.current = c.store.current ∧ c'.store.storage = c.store.storage) := by
  intro e c' written
  have h : RunsTo clock c cmd e c' := runsTo_run f clock c cmd
  obtain ⟨hshown, hsilent⟩ : (∀ s, e = .shown s → written = s.text f) ∧ ((∀ s, e ≠ .shown s) → written = "") :=
    CommandM.output_runOn (CommandM.writesResult_perform f clock cmd) c
  refine ⟨⟨?_, ?_, hshown, ?_⟩, h.refused_iff, h.sent, h.unauthorized_iff, h.cleared hs, ?_, h.kept⟩
  · intro fault he
    exact hsilent fun s hs => by cases he.symm.trans hs
  · intro he
    exact hsilent fun s hs => by cases he.symm.trans hs
  · intro ha hwritten
    cases he : e with
    | shown s => exact h.success ha he
    | failed fault => exact absurd (hsilent fun s hs => by cases he.symm.trans hs) hwritten
    | crashed => exact absurd (hsilent fun s hs => by cases he.symm.trans hs) hwritten
  · intro username password s
    exact h.opened hs

/-- A job is submitted from a file, and the session is no longer accepted: the job is sent, nothing is written, and both
    the session and its file are gone. -/
theorem command_run_submit :
    let tree : Files.Tree := { entries :=
      [(["auth.json"], .file (bytesOf "\x7b\"token\":\"t\"\x7d") Files.ownerMode),
       (["job.json"], .file (bytesOf "\x7b\"job_name\":\"web\"\x7d") Files.openMode)] }
    let c := create "http://centro.test/api/v1" (.file (Files.rootPath "auth.json") tree) [.response 401 []]
    let r := c.run .table ⟨⟨0, 0⟩, 0⟩ (.submitJob "/job.json")
    c.store.storage.Serves ∧ r.ending.isUnauthorized = true ∧ r.output = "" ∧ (∃ request, r.client.sent = [request]) ∧
      r.client.store.current = .empty ∧ r.client.store.storage.record? = none := by
  intro tree c r
  have hserves : c.store.storage.Serves :=
    Files.serves_file (by decide) (by decide) (fun h => by cases h) (fun h => by cases h)
  have hfile : Files.Path.ofText "/job.json" = Files.rootPath "job.json" := by decide
  have hraw : tree.readText (Files.rootPath "job.json") = .ok "\x7b\"job_name\":\"web\"\x7d" :=
    Files.readText_rootPath (by decide) rfl
  have hname : (JobSubmission.ofBytes (bytesOf "\x7b\"job_name\":\"web\"\x7d")).toOption.map (·.jobName) =
      some "web" := by decide +kernel
  have ha : (Command.submitJob "/job.json").Asks tree := by
    refine ⟨rfl, ?_⟩
    intro hunusable
    cases hread : JobSubmission.ofBytes (bytesOf "\x7b\"job_name\":\"web\"\x7d") with
    | error e =>
      rw [hread] at hname
      cases hname
    | ok s =>
      rw [hread] at hname
      have hweb : s.jobName = "web" := Option.some.inj hname
      have hblank := hunusable _ s (hfile ▸ hraw) hread
      rw [hweb] at hblank
      exact absurd hblank (by decide)
  have hr : Rejected c (.submitJob "/job.json") := ⟨ha, [], rfl⟩
  obtain ⟨⟨hfailed, -⟩, -, ⟨-, hsent⟩, hunauthorized, hcleared, -⟩ :=
    command_run hserves .table ⟨⟨0, 0⟩, 0⟩ (.submitJob "/job.json")
  obtain ⟨-, endpoint, o, hrequest⟩ := hsent ha
  have hu : r.ending.isUnauthorized = true := hunauthorized.2 hr
  have hwritten : r.output = "" := by
    cases he : r.ending with
    | failed fault => exact hfailed fault he
    | shown _ | crashed =>
      rw [he] at hu
      cases hu
  exact ⟨hserves, hu, hwritten, ⟨_, hrequest⟩, hcleared (.inr hr)⟩

end Runs

end Client

end ClusterPanel
