import ClusterPanel.Proofs.LastHeard

/- What nobody sees of a storage that refuses to save or to remove. Put the storage and the reports aside, and what is
   left of a machine after a step is decided by what was left of it before (`seen_step`): the current session, the
   observers and their order, and the calls that were made but for whether a record was there. So the run over a memory
   that refuses goes step by step as the one over a memory that does not (`Run.together`).

   What the refusals do is said beside that (`Run.recorded`): a write that is refused leaves the record and is reported
   once, any other write replaces the record and is not reported, and no other step touches either. -/
namespace ClusterPanel

/-- Why a memory refuses what a session asks for: to be saved, or to have the record removed. -/
def Failures.refusal (f : Failures) (session : Session) : Option String :=
  if session.isAuthenticated then f.save else f.remove

/-- A call, but for whether a record was there. -/
def Call.unrecorded (c : Call) : Call := { c with recorded := false }

namespace SessionStore

variable {f : Failures} {session : Session} {record : Option String} {reason : String}

theorem persist_refused (h : f.refusal session = some reason) :
    persist session (.memory record f) = (.memory record f, some ⟨reason⟩) := by
  unfold Failures.refusal at h
  unfold persist
  split at h
  · next ha => simp only [if_pos ha, Storage.save, h]
  · next ha => simp only [if_neg ha, Storage.remove, h]

/-- The load of a memory does not depend on what it refuses besides. -/
theorem rehydrate_memory (h : f.load = none) : rehydrate (.memory record f) = rehydrate (.memory record {}) := by
  unfold rehydrate
  simp only [Storage.load, h]

theorem persist_accepted (h : f.refusal session = none) :
    persist session (.memory record f) = (.memory (recordOf session) f, none) := by
  unfold Failures.refusal at h
  unfold persist recordOf
  split at h
  · next ha => simp only [if_pos ha, Storage.save, h]
  · next ha => simp only [if_neg ha, Storage.remove, h]

end SessionStore

namespace Observation

variable {p : StoreCommand → Prop} {m₀ m₀' m m' u : Observation} {es : List Event} {session : Session}

/-! ## What is seen of a machine -/

/-- A machine, but for its storage and what was reported. -/
def seen (m : Observation) : Observation :=
  { m with store := { current := m.store.current, storage := .memory none {} }, calls := m.calls.map Call.unrecorded }

@[simp] theorem seen_seen : m.seen.seen = m.seen := by simp [seen, Call.unrecorded]

section Seen

variable {k : Nat} {n : Option Nat} {name : String} {script : Script}

@[simp] theorem seen_call : (m.call k n session).seen = m.seen.call k n session := by
  have hsame : m.seen.observers[k]? = m.observers[k]? := rfl
  unfold call
  rw [hsame]
  cases m.observers[k]? with
  | none => rfl
  | some o => simp [seen, Call.unrecorded, Storage.record?]

@[simp] theorem seen_detach : (m.detach name).seen = m.seen.detach name := by
  have hsame : m.seen.subscription? name = m.subscription? name := rfl
  unfold detach
  rw [hsame]
  cases m.subscription? name <;> rfl

@[simp] theorem seen_hold : (m.hold name k).seen = m.seen.hold name k := by
  unfold hold
  rw [← seen_detach]
  rfl

@[simp] theorem seen_subscribe : (m.subscribe name script).seen = m.seen.subscribe name script := seen_call

/-- The storage that is put aside takes no part in what else a write does. -/
theorem seen_write : (m.write session).seen = (m.seen.write session).seen := by
  simp [seen, write, SessionStore.write, Call.unrecorded]

end Seen

/-- What is to be done, what is begun next and what may come up are seen. -/
theorem tasks_of_seen (h : m.seen = m'.seen) : m.tasks = m'.tasks := by
  have htasks : m.seen.tasks = m'.seen.tasks := by rw [h]
  exact htasks

theorem events_of_seen (h : m.seen = m'.seen) : m.events = m'.events := by
  have hevents : m.seen.events = m'.seen.events := by rw [h]
  exact hevents

theorem Confined.of_seen {q : StoreCommand → Bool} (h : m.seen = m'.seen) (hc : Confined q m) : Confined q m' := by
  have hobservers : m.seen.observers = m'.seen.observers := by rw [h]
  exact ⟨tasks_of_seen h ▸ hc.tasks, hobservers ▸ hc.observers⟩

/-- What is seen of a machine decides what is seen after a step, unless the store is opened again. -/
theorem seen_step (hc : Confined goesOn m) : m.step.seen = m.seen.step.seen := by
  have hsame : m.seen.tasks = m.tasks := rfl
  have hwith (ts : List Task) : { m.seen with tasks := ts } = seen { m with tasks := ts } := rfl
  unfold step
  rw [hsame]
  rcases ht : m.tasks with _ | ⟨task, rest⟩
  · exact seen_seen.symm
  cases task with
  | perform cs =>
    rcases cs with _ | ⟨c, cs⟩
    · exact seen_seen.symm
    cases c with
    | read => exact seen_seen.symm
    | count => exact seen_seen.symm
    | describe => exact seen_seen.symm
    | write session => exact seen_write
    | logout => exact seen_write
    | invalidate => exact seen_write
    | reopen => cases (hc.next ht).1
    | subscribe name script => simp only [perform, hwith, seen_subscribe, seen_seen]
    | detach name => simp only [perform, hwith, seen_detach, seen_seen]
  | notify n session ks =>
    rcases ks with _ | ⟨k, ks⟩
    · exact seen_seen.symm
    · simp only [hwith, seen_call, seen_seen]
  | file name k => simp only [hwith, seen_hold, seen_seen]

/-! ## Two machines side by side -/

/-- Two runs that are the same: the same commands are begun in both at the same time, and the same is begun on the
    way. -/
inductive Together (p : StoreCommand → Prop) (m₀ m₀' : Observation) : List Event → Observation → Observation → Prop
  | start : Together p m₀ m₀' [] m₀ m₀'
  | command {es : List Event} {m m' : Observation} {c : StoreCommand} (h : Together p m₀ m₀' es m m')
      (hq : m.tasks = []) (hq' : m'.tasks = []) (hc : p c) :
      Together p m₀ m₀' es (m.push (.perform [c])) (m'.push (.perform [c]))
  | step {es : List Event} {m m' : Observation} (h : Together p m₀ m₀' es m m') (hq : m.tasks ≠ [])
      (hq' : m'.tasks ≠ []) (he : m'.events = m.events) : Together p m₀ m₀' (es ++ m.events) m.step m'.step

theorem Together.run (h : Together p m₀ m₀' es m m') : Run p m₀' es m' := by
  induction h with
  | start => exact .start
  | command h hq hq' hc ih => exact ih.command hq' hc
  | step h hq hq' he ih => exact he ▸ ih.step hq'

/-- The run of a machine is the run of any other of which the same is seen at the start, and the same is seen of both
    ever after. -/
theorem Run.together (h₀ : m₀.seen = m₀'.seen) (hc : Confined goesOn m₀) (hp : ∀ c, p c → Use c) (h : Run p m₀ es m) :
    ∃ m', Together p m₀ m₀' es m m' ∧ m.seen = m'.seen := by
  induction h with
  | start => exact ⟨m₀', .start, h₀⟩
  | command h hq hcommand ih =>
    obtain ⟨m', htogether, hseen⟩ := ih
    exact ⟨_, htogether.command hq (tasks_of_seen hseen ▸ hq) hcommand, congrArg (push _) hseen⟩
  | step h hq ih =>
    obtain ⟨m', htogether, hseen⟩ := ih
    have hconfined := h.confined hc hp
    refine ⟨_, htogether.step hq (tasks_of_seen hseen ▸ hq) (events_of_seen hseen).symm, ?_⟩
    rw [seen_step hconfined, hseen, ← seen_step (hconfined.of_seen hseen)]

/-! ## Records and reports -/

/-- A write that is begun is a write to the store. -/
theorem store_step_of_write (h : Event.write session ∈ m.events) : m.step.store = m.store.write session := by
  obtain ⟨-, c, hnext, hw⟩ := events_of_write_mem h
  obtain ⟨cs, rest, ht⟩ := tasks_of_next hnext
  rw [step_write ht hw]
  rfl

/-- A step that begins no write leaves the store as it is. -/
theorem store_step_of_no_write (hc : Confined goesOn m) (h : ∀ session, Event.write session ∉ m.events) :
    m.step.store = m.store := by
  by_cases hq : m.tasks = []
  · rw [step, hq]
  · exact store_happens hc h (happens hq)

/-- What there is to report of what was begun. -/
def reports (f : Failures) : Event → List Diagnostic
  | .write session => SessionStore.unsaved ((f.refusal session).map StorageFault.mk)
  | .detach _ => []

/-- The storage is a memory that goes on to refuse what it refused, and each refusal was reported, in order. -/
structure Recorded (f : Failures) (log : List Diagnostic) (es : List Event) (m : Observation) : Prop where
  storage : ∃ record, m.store.storage = .memory record f
  log : m.store.log = log ++ es.flatMap (reports f)

variable {f : Failures} {log : List Diagnostic}

theorem reports_of_no_write (h : ∀ session, Event.write session ∉ es) : es.flatMap (reports f) = [] := by
  refine List.flatMap_eq_nil_iff.2 fun e he => ?_
  cases e with
  | write session => exact absurd he (h session)
  | detach k => rfl

theorem Recorded.step (h : Recorded f log es m) (hc : Confined goesOn m) :
    Recorded f log (es ++ m.events) m.step := by
  obtain ⟨⟨record, hstorage⟩, hlog⟩ := h
  by_cases hw : ∃ session, Event.write session ∈ m.events
  · obtain ⟨session, hw⟩ := hw
    obtain ⟨hevents, -⟩ := events_of_write_mem hw
    rw [hevents]
    have hpersist : ∃ record', SessionStore.persist session m.store.storage =
        (.memory record' f, (f.refusal session).map StorageFault.mk) := by
      rw [hstorage]
      cases hr : f.refusal session with
      | none => exact ⟨_, SessionStore.persist_accepted hr⟩
      | some reason => exact ⟨record, SessionStore.persist_refused hr⟩
    obtain ⟨record', hpersist⟩ := hpersist
    constructor
    · rw [store_step_of_write hw, SessionStore.write, hpersist]
      exact ⟨record', rfl⟩
    · rw [store_step_of_write hw, SessionStore.write, hpersist, hlog, List.flatMap_append, ← List.append_assoc]
      simp [reports]
  · have hno : ∀ session, Event.write session ∉ m.events := fun session hs => hw ⟨session, hs⟩
    rw [← List.append_nil es] at hlog
    refine ⟨⟨record, ?_⟩, ?_⟩
    · rw [store_step_of_no_write hc hno, hstorage]
    · rw [store_step_of_no_write hc hno, hlog, List.append_nil, List.flatMap_append, reports_of_no_write hno,
        List.append_nil]

theorem Run.recorded {record : Option String} (h : Run Use (.ofStorage (.memory record f)) es m) :
    Recorded f (SessionStore.rehydrate (.memory record f)).2 es m := by
  induction h with
  | start => exact ⟨⟨record, rfl⟩, (List.append_nil _).symm⟩
  | command h hq hc ih => exact ⟨ih.storage, ih.log⟩
  | step h hq ih => exact ih.step (h.confined (confined_ofStorage _) fun _ hc => hc)

/-- Take any run over a memory that may refuse to save, or to remove, or both, and the same run over a memory with the
    same record that refuses nothing. Wherever the run has come to, the current session is the same in both, the same
    observers are attached, and the same calls were made, in the same order and with the same sessions; only the first
    store has reported anything since it was opened, and it has reported each write that was refused, in order.

    If the next step begins a write and this is refused, the record stays and one warning is added, which names the
    reason. A write that is not refused replaces the record and adds none, and a step that is no write changes neither
    the session nor the record nor the reports. -/
theorem storage_failures_unseen {record : Option String} (hf : f.load = none)
    (h : Run Use (.ofStorage (.memory record f)) es m) :
    (∃ m', Together Use (.ofStorage (.memory record f)) (.ofStorage (.memory record {})) es m m' ∧
      m.store.current = m'.store.current ∧ m.attached = m'.attached ∧ m.tasks = m'.tasks ∧
      m.calls.map Call.unrecorded = m'.calls.map Call.unrecorded ∧
      m'.store.log = (SessionStore.rehydrate (.memory record {})).2) ∧
    m.store.log = (SessionStore.rehydrate (.memory record {})).2 ++ es.flatMap (reports f) ∧
    (∀ session, Event.write session ∈ m.events →
      (∀ reason, f.refusal session = some reason →
        m.step.store.storage.record? = m.store.storage.record? ∧
        ∃ d, m.step.store.log = m.store.log ++ [d] ∧ d.severity = .warning ∧
          d.message = "failed to persist session" ∧ d.details = [("error", StorageFault.message ⟨reason⟩)]) ∧
      (f.refusal session = none →
        m.step.store.storage.record? = (SessionStore.recordOf session).map Text.bytesOf ∧
        m.step.store.log = m.store.log)) ∧
    ((∀ session, Event.write session ∉ m.events) → m.step.store = m.store) := by
  have hp : ∀ c, Use c → Use c := fun _ hc => hc
  have hopened := @SessionStore.rehydrate_memory f record hf
  obtain ⟨⟨old, hstorage⟩, hlog⟩ := h.recorded
  refine ⟨?_, hopened ▸ hlog, ?_, fun hno => store_step_of_no_write (h.confined (confined_ofStorage _) hp) hno⟩
  · have hstart : (ofStorage (.memory record f)).seen = (ofStorage (.memory record {})).seen := by
      simp only [ofStorage, seen, SessionStore.ofStorage, hopened]
    obtain ⟨m', htogether, hseen⟩ := h.together hstart (confined_ofStorage _) hp
    have hcurrent : m.seen.store.current = m'.seen.store.current := by rw [hseen]
    have hattached : m.seen.attached = m'.seen.attached := by rw [hseen]
    have hcalls : m.seen.calls = m'.seen.calls := by rw [hseen]
    -- A memory that refuses nothing has nothing to report.
    have hquiet : es.flatMap (reports {}) = [] := by
      refine List.flatMap_eq_nil_iff.2 fun e _ => ?_
      cases e with
      | write session => simp [reports, Failures.refusal, SessionStore.unsaved]
      | detach k => rfl
    have hlog' := htogether.run.recorded.log
    rw [hquiet, List.append_nil] at hlog'
    exact ⟨m', htogether, hcurrent, hattached, tasks_of_seen hseen, hcalls, hlog'⟩
  · intro session hw
    rw [store_step_of_write hw, SessionStore.write, hstorage]
    constructor
    · intro reason hreason
      rw [SessionStore.persist_refused hreason]
      exact ⟨rfl, _, rfl, rfl, rfl, rfl⟩
    · intro hnone
      rw [SessionStore.persist_accepted hnone]
      exact ⟨rfl, List.append_nil _⟩

/-- A memory that refuses to save, and an observer that logs out when it is called for a write: the write is refused
    and the logout in it is not, so there is one warning, and the observer is called as it is over a memory that refuses
    nothing. -/
theorem storage_failures_unseen_nested :
    let session : Session := { token := some "secret" }
    let watch := StoreCommand.subscribe "watcher" [(2, .logout)]
    let start := ofStorage (.memory none { save := some "disk full" })
    let watched := (start.push (.perform [watch])).steps 4
    let after := (watched.push (.perform [.write session])).steps 9
    after.store.log = [.unsavedSession "session storage io error: disk full"] ∧
      ∃ es m', Together Use start (ofStorage (.memory none {})) es after m' ∧ m'.tasks = [] ∧ m'.store.log = [] ∧
        m'.calls.map (fun c => (c.number, c.session)) = [(1, .empty), (2, session), (3, .empty)] := by
  intro session watch start watched after
  have h₀ : Run Use start [] start := .start
  obtain ⟨_, h₁⟩ := (h₀.command (c := watch) rfl rfl).steps 4
  obtain ⟨_, h₂⟩ := (h₁.command (c := .write session) rfl rfl).steps 9
  have hdone : after.tasks = [] := List.isEmpty_iff.1 (by decide +kernel)
  have hheard : after.calls.map (fun c => (c.number, c.session)) = [(1, .empty), (2, session), (3, .empty)] := by
    decide +kernel
  obtain ⟨⟨m', htogether, -, -, htasks, hcalls, hlog⟩, -⟩ := storage_failures_unseen rfl h₂
  refine ⟨by decide +kernel, _, m', htogether, htasks.symm.trans hdone, hlog, ?_⟩
  have hsame : (m'.calls.map Call.unrecorded).map (fun c => (c.number, c.session)) =
      (after.calls.map Call.unrecorded).map (fun c => (c.number, c.session)) := by rw [hcalls]
  rw [List.map_map, List.map_map] at hsame
  exact hsame.trans hheard

end Observation

end ClusterPanel
