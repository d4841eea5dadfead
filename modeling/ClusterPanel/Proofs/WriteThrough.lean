import ClusterPanel.Proofs.ObservedRuns
import ClusterPanel.Proofs.RecordStorage

/- Session and record while observers use the store. Over a storage whose calls do not fail, the current session is
   in every state of every run the one of the write that was begun last, however deep the notifications are nested
   that are still under way, and from the first write on the record is the one that goes with it (`Coherent`). A
   write replaces both in one step, before any observer is called, and no other step touches either; so the end of a
   nested notification puts nothing back. What observers see when they are called is the same (`write_through`). -/
namespace ClusterPanel

open Text

/-! ## Storages whose calls do not fail -/

/-- What replaces a record. -/
inductive StorageCall where
  | save (record : String)
  | remove

namespace Storage

/-- Makes a call. -/
def serve (c : StorageCall) (s : Storage) : Storage × Option StorageFault :=
  match c with
  | .save record => s.save record
  | .remove => s.remove

/-- No call fails, whatever calls were made before. -/
def Reliable (s : Storage) : Prop :=
  ∀ (cs : List StorageCall) (c : StorageCall), ((cs.foldl (fun s c => (s.serve c).1) s).serve c).2 = none

theorem Reliable.serve {s : Storage} (h : s.Reliable) (c : StorageCall) :
    (s.serve c).2 = none ∧ (s.serve c).1.Reliable := ⟨h [] c, fun cs => h (c :: cs)⟩

/-- A storage that does the next thing that is asked of it, whatever that is. -/
def Serves (s : Storage) : Prop := ∀ c, (s.serve c).2 = none

theorem Reliable.serves {s : Storage} (h : s.Reliable) : s.Serves := fun c => (h.serve c).1

/-- A memory that is not set to fail does not. -/
theorem reliable_memory (record : Option String) : (memory record {}).Reliable := by
  intro cs c
  -- Calls change the record of a memory and nothing else.
  have hmemory : ∃ old, cs.foldl (fun s c => (s.serve c).1) (memory record {}) = memory old {} := by
    induction cs generalizing record with
    | nil => exact ⟨record, rfl⟩
    | cons c cs ih =>
      cases c with
      | save record' => exact ih (some record')
      | remove => exact ih none
  obtain ⟨old, hold⟩ := hmemory
  rw [hold]
  cases c <;> rfl

end Storage

namespace SessionStore

theorem persist_eq_serve (session : Session) (s : Storage) : ∃ c, persist session s = s.serve c := by
  unfold persist
  split
  · exact ⟨.save session.toText, rfl⟩
  · exact ⟨.remove, rfl⟩

/-- After a write a storage that served holds the record of the session that was written, and can be read as before. -/
theorem holds_write {store : SessionStore} (h : store.storage.Serves) (session : Session) :
    (store.write session).storage.Holds (recordOf session) ∧
      (store.storage.Readable → (store.write session).storage.Readable) := by
  obtain ⟨c, hc⟩ := persist_eq_serve session store.storage
  have hok := h c
  rw [← hc] at hok
  exact holds_persist (Prod.ext rfl hok)

theorem record_write {store : SessionStore} (h : store.storage.Serves) (session : Session) :
    (store.write session).storage.record? = (recordOf session).map bytesOf := (holds_write h session).1.record

/-- A write to a storage whose calls do not fail replaces the session and its record. -/
theorem write_reliable {store : SessionStore} (h : store.storage.Reliable) (session : Session) :
    (store.write session).storage.record? = (recordOf session).map bytesOf ∧
      (store.write session).storage.Reliable := by
  obtain ⟨c, hc⟩ := persist_eq_serve session store.storage
  have hreliable := (h.serve c).2
  rw [← hc] at hreliable
  exact ⟨record_write h.serves session, hreliable⟩

end SessionStore

namespace Observation

/-! ## The session that was written last -/

/-- The session of the last write that was begun, or the given one if there was none. -/
def latest (session : Session) (es : List Event) : Session :=
  es.foldl (fun s e => match e with | .write s' => s' | .detach _ => s) session

theorem latest_append (session : Session) (es es' : List Event) :
    latest session (es ++ es') = latest (latest session es) es' := List.foldl_append

theorem latest_leaves (session : Session) (name : String) (m : Observation) :
    latest session (m.leaves name) = session := by
  unfold leaves
  cases m.subscription? name <;> rfl

theorem write_notMem_leaves {session : Session} {name : String} {m : Observation} :
    Event.write session ∉ m.leaves name := by
  unfold leaves
  cases m.subscription? name <;> simp

/-- The store goes on: it is not opened again. -/
def goesOn : StoreCommand → Bool
  | .reopen => false
  | _ => true

/-- Any use of one store, also by observers. -/
def Use (c : StoreCommand) : Prop := c.all goesOn = true

/-- The store has the session that was written last, and from the first write on its record. -/
structure Coherent (session : Session) (es : List Event) (m : Observation) : Prop where
  reliable : m.store.storage.Reliable
  current : m.store.current = latest session es
  record : (∃ s, Event.write s ∈ es) → m.store.storage.record? = (SessionStore.recordOf m.store.current).map bytesOf

variable {session : Session} {es es' : List Event} {m u : Observation}

/-- A step that leaves the store as it is and begins no write. -/
theorem Coherent.same (h : Coherent session es m) (hu : u.store = m.store) (hlatest : ∀ s, latest s es' = s)
    (hw : ∀ s, Event.write s ∉ es') : Coherent session (es ++ es') u := by
  refine ⟨hu ▸ h.reliable, ?_, ?_⟩
  · rw [hu, latest_append, hlatest]
    exact h.current
  · rintro ⟨s, hs⟩
    rw [hu]
    rcases List.mem_append.1 hs with hs | hs
    · exact h.record ⟨s, hs⟩
    · exact absurd hs (hw s)

theorem Coherent.happens (h : Coherent session es m) (hc : Confined goesOn m) (hu : Happens m es' u) :
    Coherent session (es ++ es') u := by
  cases hu with
  | performed ht => exact h.same rfl (fun _ => rfl) (by simp)
  | looked ht hc => exact h.same rfl (fun _ => rfl) (by simp)
  | wrote ht hw =>
    obtain ⟨hrecord, hreliable⟩ := SessionStore.write_reliable h.reliable _
    exact ⟨hreliable, by rw [latest_append]; rfl, fun _ => hrecord⟩
  | reopened ht => cases (hc.next ht).1
  | subscribed ht => exact h.same (by simp [subscribe]) (fun _ => rfl) (by simp)
  | detached ht => exact h.same (by simp) (fun s => latest_leaves s _ m) fun _ => write_notMem_leaves
  | notified ht => exact h.same rfl (fun _ => rfl) (by simp)
  | called ht => exact h.same (by simp) (fun _ => rfl) (by simp)
  | filed ht => exact h.same (by simp [hold]) (fun s => latest_leaves s _ m) fun _ => write_notMem_leaves

theorem Run.coherent {s : Storage} (hs : s.Reliable) (h : Run Use (.ofStorage s) es m) :
    Coherent (SessionStore.ofStorage s).current es m := by
  induction h with
  | start => exact ⟨hs, rfl, fun ⟨_, hnone⟩ => absurd hnone List.not_mem_nil⟩
  | command h hq hc ih => exact ⟨ih.reliable, ih.current, ih.record⟩
  | step h hq ih => exact ih.happens (h.confined (confined_ofStorage s) fun _ hc => hc) (happens hq)

/-! ## What observers see -/

/-- What an observer sees when it is called is the store as it is then. -/
def Sees (m : Observation) (c : Call) : Prop :=
  c.current = m.store.current ∧ c.recorded = m.store.storage.record?.isSome

theorem calls_call (k : Nat) (n : Option Nat) (session : Session) (m : Observation) :
    ∃ cs, (m.call k n session).calls = m.calls ++ cs ∧ ∀ c ∈ cs, Sees m c := by
  cases ho : m.observers[k]? with
  | none =>
    refine ⟨[], ?_, fun c hc => absurd hc List.not_mem_nil⟩
    rw [call, ho, List.append_nil]
  | some o =>
    rw [call_eq ho]
    refine ⟨[callOf k o n session m], rfl, ?_⟩
    intro c hc
    cases List.mem_singleton.1 hc
    exact ⟨rfl, rfl⟩

theorem calls_happens (hu : Happens m es u) : ∃ cs, u.calls = m.calls ++ cs ∧ ∀ c ∈ cs, Sees m c := by
  have hsame : ∃ cs, m.calls = m.calls ++ cs ∧ ∀ c ∈ cs, Sees m c :=
    ⟨[], (List.append_nil _).symm, fun c hc => absurd hc List.not_mem_nil⟩
  cases hu with
  | subscribed ht => exact calls_call _ _ _ _
  | called ht => exact calls_call _ _ _ _
  | detached ht => rw [calls_detach]; exact hsame
  | filed ht => simp only [hold, calls_detach]; exact hsame
  | _ => exact hsame

/-- In every state of every run, also in the midst of nested notifications, the current session is the one of the
    write that was begun last; once there was a write, a record is stored exactly when that session is logged in, and
    it is the text of that session. The observers that are called next see both. -/
theorem write_through {s : Storage} (hs : s.Reliable) (h : Run Use (.ofStorage s) es m) :
    m.store.current = latest (SessionStore.ofStorage s).current es ∧
      ((∃ session, Event.write session ∈ es) →
        m.store.storage.record? =
          if m.store.current.isAuthenticated then some (bytesOf m.store.current.toText) else none) ∧
      ∃ cs, m.step.calls = m.calls ++ cs ∧ ∀ c ∈ cs,
        c.current = latest (SessionStore.ofStorage s).current es ∧
          ((∃ session, Event.write session ∈ es) → c.recorded = c.current.isAuthenticated) := by
  obtain ⟨-, hcurrent, hrecord⟩ := h.coherent hs
  have hstored : (∃ session, Event.write session ∈ es) → m.store.storage.record? =
      if m.store.current.isAuthenticated then some (bytesOf m.store.current.toText) else none := by
    intro hw
    rw [hrecord hw, SessionStore.recordOf]
    split <;> rfl
  refine ⟨hcurrent, hstored, ?_⟩
  by_cases hq : m.tasks = []
  · refine ⟨[], ?_, fun c hc => absurd hc List.not_mem_nil⟩
    rw [step, hq, List.append_nil]
  · obtain ⟨cs, hcs, hsees⟩ := calls_happens (happens hq)
    refine ⟨cs, hcs, ?_⟩
    intro c hc
    obtain ⟨hseen, hrecorded⟩ := hsees c hc
    refine ⟨hseen.trans hcurrent, ?_⟩
    intro hw
    rw [hrecorded, hseen, hstored hw]
    cases m.store.current.isAuthenticated <;> rfl

/-- An observer that writes in its second call: in the midst of the outer write the store has the session of the inner
    one, which is stored, and this is what the observer sees in its third call. -/
theorem write_through_nested :
    let outer : Session := { token := some "outer" }
    let inner : Session := { token := some "inner" }
    let start := ofStorage (.memory (some "no record") {})
    let watch := StoreCommand.subscribe "watcher" [(2, .write inner)]
    let watched := (start.push (.perform [watch])).step.step.step.step
    let within := (watched.push (.perform [.write outer])).step.step.step
    within.store.current = inner ∧ within.store.storage.record? = some (bytesOf inner.toText) ∧
      within.step.calls.map (fun c => (c.number, c.current, c.recorded)) =
        [(1, .empty, true), (2, outer, true), (3, inner, true)] := by
  intro outer inner start watch watched within
  have h₀ : Run Use start [] start := .start
  have h₁ : Run Use start [] watched := (h₀.command (c := watch) rfl rfl).next.next.next.next
  have h₂ : Run Use start [.write outer, .write inner] within := (h₁.command (c := .write outer) rfl rfl).next.next.next
  obtain ⟨hcurrent, hrecord, -⟩ := write_through (Storage.reliable_memory _) h₂
  have hinner : within.store.current = inner := hcurrent
  have hstored := hrecord ⟨inner, List.mem_cons_of_mem _ List.mem_cons_self⟩
  rw [hinner] at hstored
  exact ⟨hinner, hstored, rfl⟩

end Observation

end ClusterPanel
