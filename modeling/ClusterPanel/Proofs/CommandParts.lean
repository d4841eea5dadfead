import ClusterPanel.Program.Command

/- The parts that commands are made of, and what each comes to from any console. A command that calls the backend and
   shows the answer comes to what the call comes to (`runOn_ask_ok`, `runOn_ask_error`).

   What a command writes is the text of what it comes to, and nothing at all if it stops short (`WritesResult`). That is
   so of showing something (`writesResult_present`), and of whatever does something silent first
   (`Silent.bind_writesResult`); so it is so of every command (`writesResult_perform`). -/
namespace ClusterPanel

open Text

namespace CommandM

variable {α β : Type} {f : Format} {clock : Clock}

/-! ## What the parts come to -/

section Parts

variable {m : CommandM α} {k : α → CommandM β} {t t' : Console} {x : α} {e : Failure} {c c' : Client}
  {g : Client → Except Failure α × Client}

theorem start_bind_ok (h : m.start t = (.ok x, t')) : (m >>= k).start t = (k x).start t' := by
  unfold start at h ⊢
  rw [ExceptT.run_bind, StateT.run_bind, h]
  rfl

theorem start_bind_error {halt : Halt} (h : m.start t = (.error halt, t')) : (m >>= k).start t = (.error halt, t') := by
  unfold start at h ⊢
  rw [ExceptT.run_bind, StateT.run_bind, h]
  rfl

theorem start_get_bind (k : Console → CommandM α) (t : Console) : (get >>= k).start t = (k t).start t := rfl

theorem start_withClient (g : Client → α × Client) (t : Console) :
    (withClient g).start t = (.ok (g t.client).1, { t with client := (g t.client).2 }) := rfl

theorem start_call_ok (h : g t.client = (.ok x, c)) : (call g).start t = (.ok x, { t with client := c }) := by
  unfold call
  rw [start_bind_ok (start_withClient g t), h]
  rfl

theorem start_call_error (h : g t.client = (.error e, c)) :
    (call g).start t = (.error (.failed (.api e)), { t with client := c }) := by
  unfold call
  rw [start_bind_ok (start_withClient g t), h]
  rfl

theorem start_present (f : Format) (s : Shown) (t : Console) :
    (present f s).start t = (.ok s, { t with output := t.output ++ s.text f }) := rfl

/-- A call that succeeds is shown. -/
theorem runOn_ask_ok {show_ : α → Shown} (h : g c = (.ok x, c')) :
    (ask f show_ g).runOn c = ⟨.shown (show_ x), c', (show_ x).text f⟩ := by
  unfold runOn ask
  rw [start_bind_ok (start_call_ok h), start_present, String.empty_append]
  rfl

theorem runOn_ask_error {show_ : α → Shown} (h : g c = (.error e, c')) :
    (ask f show_ g).runOn c = ⟨.failed (.api e), c', ""⟩ := by
  unfold runOn ask
  rw [start_bind_error (start_call_error h)]
  rfl

theorem runOn_withId_error {noun id : String} {fault : CommandFault} (h : requireId noun id = .error fault)
    (k : String → CommandM Shown) (c : Client) : (withId noun id k).runOn c = ⟨.failed fault, c, ""⟩ := by
  unfold withId
  rw [h]
  rfl

theorem withId_of_not_blank {noun id : String} (h : ¬ isBlankText id = true) (k : String → CommandM Shown) :
    withId noun id k = k (trimText id) := by
  unfold withId requireId
  rw [if_neg h]
  rfl

theorem runOn_submit_error {file : String} {fault : CommandFault}
    (h : readSubmission c.store.storage.tree file = .error fault) :
    (submit f clock file).runOn c = ⟨.failed fault, c, ""⟩ := by
  unfold runOn submit
  rw [start_get_bind, h]
  rfl

theorem runOn_submit_ok {file : String} {s : JobSubmission}
    (h : readSubmission c.store.storage.tree file = .ok s) :
    (submit f clock file).runOn c = (ask f (fun v => v.shown clock) (Client.submit (.ok s.toValue))).runOn c := by
  unfold runOn submit
  rw [start_get_bind, h]
  rfl

/-- A command that is one call leaves the client that the call leaves. -/
theorem client_runOn_ask (f : Format) (show_ : α → Shown) (g : Client → Except Failure α × Client) (c : Client) :
    ((ask f show_ g).runOn c).client = (g c).2 := by
  rcases h : g c with ⟨e | x, c'⟩
  · rw [runOn_ask_error h]
  · rw [runOn_ask_ok h]

end Parts

section Login

variable {c c' : Client} {username password : String}

theorem runOn_login_blank (h : isBlankText username = true) :
    (login f clock username password).runOn c = ⟨.failed (.invalidArgument "username cannot be empty"), c, ""⟩ := by
  unfold login
  rw [if_pos h]
  rfl

theorem runOn_login_error {e : Failure} (h : isBlankText username = false)
    (hlogin : c.login ⟨username, password⟩ clock.now = (.error e, c')) :
    (login f clock username password).runOn c = ⟨.failed (.api e), c', ""⟩ := by
  unfold runOn login
  rw [if_neg (Bool.eq_false_iff.1 h), start_bind_error (start_call_error hlogin)]
  rfl

theorem runOn_login_none (h : isBlankText username = false)
    (hlogin : c.login ⟨username, password⟩ clock.now = (.ok none, c')) :
    (login f clock username password).runOn c = ⟨.crashed, c', ""⟩ := by
  unfold runOn login
  rw [if_neg (Bool.eq_false_iff.1 h), start_bind_ok (start_call_ok hlogin)]
  rfl

theorem runOn_login_some {s : Session} (h : isBlankText username = false)
    (hlogin : c.login ⟨username, password⟩ clock.now = (.ok (some s), c')) :
    (login f clock username password).runOn c =
      ⟨.shown (s.opened f clock username), c', (s.opened f clock username).text f⟩ := by
  unfold runOn login
  rw [if_neg (Bool.eq_false_iff.1 h), start_bind_ok (start_call_ok hlogin), start_present, String.empty_append]
  rfl

end Login

/-! ## What is written -/

/-- A part of a command that writes nothing, whatever comes of it. -/
def Silent (m : CommandM α) : Prop := ∀ t, (m.start t).2.output = t.output

/-- What is written is the text of what is come to, after what was written before; and nothing if a command stops
    short. -/
def WritesResult (f : Format) (m : CommandM Shown) : Prop :=
  ∀ t, (∀ s, (m.start t).1 = .ok s → (m.start t).2.output = t.output ++ s.text f) ∧
    ∀ halt, (m.start t).1 = .error halt → (m.start t).2.output = t.output

theorem silent_get : Silent (get : CommandM Console) := fun _ => rfl

theorem silent_withClient (g : Client → α × Client) : Silent (withClient g) := fun _ => rfl

theorem silent_ofExcept (r : Except CommandFault α) : Silent (ofExcept r) := by
  intro t
  cases r <;> rfl

theorem Silent.bind {m : CommandM α} {k : α → CommandM β} (hm : Silent m) (hk : ∀ x, Silent (k x)) :
    Silent (m >>= k) := by
  intro t
  have hfirst := hm t
  rcases h : m.start t with ⟨halt | x, t'⟩
  · rw [h] at hfirst
    rw [start_bind_error h]
    exact hfirst
  · rw [h] at hfirst
    rw [start_bind_ok h, hk x t']
    exact hfirst

theorem silent_call (g : Client → Except Failure α × Client) : Silent (call g) :=
  (silent_withClient g).bind fun _ => silent_ofExcept _

theorem writesResult_present (f : Format) (s : Shown) : WritesResult f (present f s) := by
  intro t
  rw [start_present]
  refine ⟨?_, ?_⟩
  · intro s' hs
    cases hs
    rfl
  · intro halt h
    cases h

theorem writesResult_throw (f : Format) (halt : Halt) : WritesResult f (throw halt) := by
  intro t
  refine ⟨?_, fun _ _ => rfl⟩
  intro s hs
  cases hs

/-- What is done in silence before a command does not count. -/
theorem Silent.bind_writesResult {m : CommandM α} {k : α → CommandM Shown} (hm : Silent m)
    (hk : ∀ x, WritesResult f (k x)) : WritesResult f (m >>= k) := by
  intro t
  have hfirst := hm t
  rcases h : m.start t with ⟨halt | x, t'⟩
  · rw [h] at hfirst
    rw [start_bind_error h]
    refine ⟨?_, fun _ _ => hfirst⟩
    intro s hs
    cases hs
  · rw [h] at hfirst
    rw [start_bind_ok h, ← hfirst]
    exact hk x t'

theorem writesResult_ask (f : Format) (show_ : α → Shown) (g : Client → Except Failure α × Client) :
    WritesResult f (ask f show_ g) :=
  (silent_call g).bind_writesResult fun _ => writesResult_present f _

theorem writesResult_withId {noun id : String} {k : String → CommandM Shown} (hk : ∀ id, WritesResult f (k id)) :
    WritesResult f (withId noun id k) :=
  (silent_ofExcept _).bind_writesResult hk

theorem writesResult_login (username password : String) : WritesResult f (login f clock username password) := by
  unfold login
  split
  · exact writesResult_throw f _
  · refine (silent_call _).bind_writesResult ?_
    intro opened
    cases opened with
    | none => exact writesResult_throw f .crashed
    | some s => exact writesResult_present f _

theorem writesResult_logout : WritesResult f (logout f) :=
  silent_get.bind_writesResult fun _ => (silent_withClient _).bind_writesResult fun _ => writesResult_present f _

theorem writesResult_whoami : WritesResult f (whoami f clock) :=
  silent_get.bind_writesResult fun _ => writesResult_present f _

theorem writesResult_submit (file : String) : WritesResult f (submit f clock file) :=
  silent_get.bind_writesResult fun _ => (silent_ofExcept _).bind_writesResult fun _ => writesResult_ask f _ _

/-- Every command writes what it comes to, and nothing if it stops short. -/
theorem writesResult_perform (f : Format) (clock : Clock) (cmd : Command) : WritesResult f (cmd.perform f clock) := by
  cases cmd with
  | login username password => exact writesResult_login username password
  | logout => exact writesResult_logout
  | whoami => exact writesResult_whoami
  | submitJob file => exact writesResult_submit file
  | getJob id | jobStatus id | jobEvents id | getInstance id | getNode id | nodeHealth id =>
    exact writesResult_withId fun _ => writesResult_ask f _ _
  | listJobs _ | listInstances | listNodes | statistics => exact writesResult_ask f _ _

/-- What is written is the text of what is shown, and nothing if nothing is. -/
theorem output_runOn {m : CommandM Shown} (h : m.WritesResult f) (c : Client) :
    (∀ s, (m.runOn c).ending = .shown s → (m.runOn c).output = s.text f) ∧
      ((∀ s, (m.runOn c).ending ≠ .shown s) → (m.runOn c).output = "") := by
  obtain ⟨hshown, hstopped⟩ := h ⟨c, ""⟩
  unfold runOn
  dsimp only
  rcases hm : (m.start ⟨c, ""⟩).1 with halt | s
  · refine ⟨?_, fun _ => hstopped halt hm⟩
    intro s hs
    cases halt <;> cases hs
  · refine ⟨?_, fun hne => absurd rfl (hne s)⟩
    intro s' hs
    cases hs
    rw [hshown s hm, String.empty_append]

end CommandM

end ClusterPanel
