import ClusterPanel.Proofs.ObserverHistories
import ClusterPanel.Proofs.WriteThrough

/- What each observer heard last. When nothing is left to do, an observer that is still attached has heard the current
   session last, with one exception: if the last write began while a notification that was under way had still to
   call the observer, the observer hears of the last write first and of the older one afterwards. From the last write
   on, what an observer was told and what it is still to be told no longer change (`Tells`), so what it hears last is
   what was owed to it last when that write began (`last_heard`). It takes an observer that writes, and another one
   behind it (`observer_left_behind`). -/
namespace ClusterPanel.Observation

variable {p : StoreCommand → Prop} {m₀ m₁ m u : Observation} {es es₀ es₁ : List Event} {k : Nat} {session : Session}

/-- The sessions that an observer is still to be called with, in order. -/
def pending (k : Nat) (m : Observation) : List Session := m.toCome (callsTo k)

theorem pending_of_done (h : m.tasks = []) : m.pending k = [] := by rw [pending, toCome, h, List.flatMap_nil]

/-- Nobody owes a call to an observer that is not there yet. -/
theorem pending_of_unknown (hp : Placed m) (hk : m.observers.length ≤ k) : m.history k = [] ∧ m.pending k = [] :=
  untold hp fun _ _ _ hj _ => if_neg (Nat.ne_of_lt (Nat.lt_of_lt_of_le hj hk))

/-! ## The last write -/

/-- A step that begins a write begins nothing else. -/
theorem events_of_write_mem (h : Event.write session ∈ m.events) :
    m.events = [.write session] ∧ ∃ c, m.next? = some c ∧ c.written? = some session := by
  unfold events at *
  split at h
  · exact absurd h write_notMem_leaves
  · next c cs rest _ ht =>
    obtain ⟨s, hs, heq⟩ := List.mem_map.1 h
    cases heq
    have hw := Option.mem_toList.1 hs
    exact ⟨by rw [hw]; rfl, c, next_of_tasks ht, hw⟩
  · exact absurd h write_notMem_leaves
  · exact absurd h List.not_mem_nil

theorem write_mem_events {c : StoreCommand} (hc : m.next? = some c) (hw : c.written? = some session) :
    Event.write session ∈ m.events := by
  obtain ⟨cs, rest, ht⟩ := tasks_of_next hc
  unfold events
  rw [ht]
  cases c <;> cases hw <;> exact List.mem_singleton_self _

/-- The last write of a run begins in the state `m₁`. -/
structure LastWrite (p : StoreCommand → Prop) (m₀ : Observation) (es₀ : List Event) (m₁ : Observation)
    (session : Session) (es₁ : List Event) (m : Observation) : Prop where
  before : Run p m₀ es₀ m₁
  begins : m₁.events = [.write session]
  since : Run p m₁.step es₁ m
  last : ∀ s, Event.write s ∉ es₁

/-- Every run in which something is written has a last write. -/
theorem Run.lastWrite (h : Run p m₀ es m) :
    (∀ s, Event.write s ∉ es) ∨
      ∃ es₀ m₁ session es₁, es = es₀ ++ .write session :: es₁ ∧ LastWrite p m₀ es₀ m₁ session es₁ m := by
  induction h with
  | start => exact .inl fun s => List.not_mem_nil
  | command h hq hc ih =>
    rcases ih with hnone | ⟨es₀, m₁, session, es₁, rfl, hw⟩
    · exact .inl hnone
    · exact .inr ⟨es₀, m₁, session, es₁, rfl, hw.before, hw.begins, hw.since.command hq hc, hw.last⟩
  | @step es m h hq ih =>
    by_cases hm : ∃ s, Event.write s ∈ m.events
    · -- The step itself begins the last write.
      obtain ⟨s, hs⟩ := hm
      obtain ⟨hevents, -⟩ := events_of_write_mem hs
      rw [hevents]
      exact .inr ⟨es, m, s, [], rfl, h, hevents, .start, fun s => List.not_mem_nil⟩
    · have hstep : ∀ s, Event.write s ∉ m.events := fun s hs => hm ⟨s, hs⟩
      rcases ih with hnone | ⟨es₀, m₁, session, es₁, rfl, hw⟩
      · exact .inl fun s hs => (List.mem_append.1 hs).elim (hnone s) (hstep s)
      · refine .inr ⟨es₀, m₁, session, es₁ ++ m.events, by simp, hw.before, hw.begins, hw.since.step hq, ?_⟩
        exact fun s hs => (List.mem_append.1 hs).elim (hw.last s) (hstep s)

/-! ## Since the last write -/

/-- The store has a session, and what each observer that is attached was told and is still to be told is the given
    list; for one that is yet to subscribe this is the session alone. -/
structure Tells (session : Session) (story : Nat → List Session) (m : Observation) : Prop where
  current : m.store.current = session
  told : ∀ k ∈ m.attached, m.history k ++ m.pending k = story k
  fresh : ∀ k, m.observers.length ≤ k → story k = [session]

/-- A step that is no write leaves the store as it is. -/
theorem store_happens (hc : Confined goesOn m) (hw : ∀ s, Event.write s ∉ es) (hu : Happens m es u) :
    u.store = m.store := by
  cases hu with
  | wrote ht hs => exact absurd (List.mem_singleton_self _) (hw _)
  | reopened ht => cases (hc.next ht).1
  | subscribed ht => simp [subscribe]
  | detached ht => simp
  | called ht => simp
  | filed ht => simp [hold]
  | _ => rfl

/-- Only a subscription brings a new observer, and brings one. -/
theorem subscribes_of_length_lt (hu : Happens m es u) (hk : m.observers.length ≤ k) (hku : k < u.observers.length) :
    k = m.observers.length ∧ ∃ name script, m.next? = some (.subscribe name script) := by
  cases hu with
  | @subscribed name script cs rest ht =>
    simp only [subscribe, length_observers_call, List.length_append, List.length_singleton] at hku
    exact ⟨by omega, name, script, next_of_tasks ht⟩
  | detached ht => simp at hku; omega
  | called ht => simp at hku; omega
  | filed ht => simp [hold] at hku; omega
  | _ => exact absurd hku (Nat.not_lt.2 hk)

theorem Tells.step {story : Nat → List Session} (h : Tells session story m) (hp : Placed m) (hc : Confined goesOn m)
    (hq : m.tasks ≠ []) (hw : ∀ s, Event.write s ∉ m.events) : Tells session story m.step := by
  have hu := happens hq
  have hbalance := fun k => balance (f := callsTo k) hp hu
  refine ⟨by rw [store_happens hc hw hu, h.current], ?_, fun k hk => h.fresh k (Nat.le_trans (observers_happens hu) hk)⟩
  intro k hk
  refine (hbalance k).trans ?_
  rcases Nat.lt_or_ge k m.observers.length with hlt | hge
  · -- One who was there before is told nothing that was not already to come.
    have hgo : ∀ cs rest, m.tasks ≠ .perform (.reopen :: cs) :: rest := fun cs rest ht => by cases (hc.next ht).1
    have hattached := ((attached_happens hlt hgo hu).1 hk).1
    have hnext : ∀ c, m.next? = some c → c.written? = none := by
      intro c hc
      cases hwritten : c.written? with
      | none => rfl
      | some s => exact absurd (write_mem_events hc hwritten) (hw s)
    rw [begun_callsTo hlt hnext, List.nil_append]
    exact h.told k hattached
  · -- One who subscribes is told the current session.
    obtain ⟨rfl, name, script, hnext⟩ := subscribes_of_length_lt hu hge ((hp.happens hu).attached k hk)
    obtain ⟨hhistory, hpending⟩ := pending_of_unknown hp (Nat.le_refl m.observers.length)
    unfold history at hhistory
    unfold pending at hpending
    rw [begun_subscribe hnext, hhistory, hpending, List.append_nil, List.nil_append, h.current,
      h.fresh _ (Nat.le_refl _)]
    exact if_pos rfl

theorem Run.tells {story : Nat → List Session} (h₀ : Tells session story m₀) (hp : Placed m₀)
    (hc : Confined goesOn m₀) (hu : ∀ c, p c → Use c) (hw : ∀ s, Event.write s ∉ es) (h : Run p m₀ es m) :
    Tells session story m := by
  induction h with
  | start => exact h₀
  | command h hq hcommand ih =>
    have ih := ih hw
    exact ⟨ih.current, ih.told, ih.fresh⟩
  | step h hq ih =>
    have ih := ih fun s hs => hw s (List.mem_append_left _ hs)
    exact ih.step (h.placed hp) (h.confined hc hu) hq fun s hs => hw s (List.mem_append_right _ hs)

/-- When a write begins, those who are attached are told its session before all that is still owed to them. -/
theorem tells_write {c : StoreCommand} (hp : Placed m) (hc : m.next? = some c) (hw : c.written? = some session) :
    Tells session
      (fun k => if k < m.observers.length then m.history k ++ session :: m.pending k else [session]) m.step := by
  obtain ⟨cs, rest, ht⟩ := tasks_of_next hc
  have hbalance := fun k => balance (f := callsTo k) hp (happens (tasks_ne_nil hc))
  have hstep := step_write ht hw
  refine ⟨by rw [hstep]; rfl, ?_, ?_⟩
  · intro k hk
    have hattached : k ∈ m.attached := by rwa [hstep] at hk
    have hbegun := begun_write (f := callsTo k) hc hw
    rw [flatMap_attached hp, if_pos hattached] at hbegun
    rw [if_pos (hp.attached k hattached)]
    refine (hbalance k).trans ?_
    rw [hbegun]
    rfl
  · intro k hk
    rw [hstep] at hk
    exact if_neg (Nat.not_lt.2 hk)

/-- Before anything is written the observers are told the session that the store was opened with. -/
theorem tells_ofStorage (s : Storage) :
    Tells (SessionStore.ofStorage s).current (fun _ => [(SessionStore.ofStorage s).current]) (.ofStorage s) where
  current := rfl
  told _ hk := absurd hk List.not_mem_nil
  fresh _ _ := rfl

/-! ## What was heard last -/

/-- What was heard last when the last write of a run is done with: its session, unless something was still owed. -/
theorem LastWrite.getLast_history {s : Storage} (h : LastWrite p (.ofStorage s) es₀ m₁ session es₁ m)
    (hp : ∀ c, p c → Use c) (hdone : m.tasks = []) :
    m.store.current = session ∧ ∀ k ∈ m.attached, (m.history k).getLast? = (session :: m₁.pending k).getLast? := by
  have hplaced : Placed m₁ := h.before.placed (placed_ofStorage s)
  have hmem : Event.write session ∈ m₁.events := h.begins ▸ List.mem_singleton_self _
  obtain ⟨c, hnext, hwritten⟩ := (events_of_write_mem hmem).2
  have hu := happens (tasks_ne_nil hnext)
  have hconfined := (h.before.confined (confined_ofStorage s) hp).happens hu
  have htells := h.since.tells (tells_write hplaced hnext hwritten) (hplaced.happens hu) hconfined hp h.last
  refine ⟨htells.current, ?_⟩
  intro k hk
  have htold := htells.told k hk
  rw [pending_of_done hdone, List.append_nil] at htold
  rw [htold]
  split
  · rw [List.getLast?_append, List.getLast?_cons, Option.some_or]
  · next hlt => rw [(pending_of_unknown hplaced (Nat.not_lt.1 hlt)).2]

/-- Whenever nothing is left to do, every observer that is attached has heard the current session last, unless the
    last write began while something was still owed to it; then what was owed to it last is what it has heard last. If
    observers do not write, nothing is ever owed when a write begins. -/
theorem last_heard {s : Storage} (hp : ∀ c, p c → Use c) (h : Run p (.ofStorage s) es m) (hdone : m.tasks = []) :
    (∀ k ∈ m.attached, (m.history k).getLast? = some m.store.current ∨
      ∃ es₀ m₁ es₁, es = es₀ ++ .write m.store.current :: es₁ ∧
        LastWrite p (.ofStorage s) es₀ m₁ m.store.current es₁ m ∧
        m₁.pending k ≠ [] ∧ (m.history k).getLast? = (m₁.pending k).getLast?) ∧
    ((∀ c, p c → Hushed c) → ∀ k ∈ m.attached, (m.history k).getLast? = some m.store.current) := by
  rcases h.lastWrite with hnone | ⟨es₀, m₁, session, es₁, rfl, hw⟩
  · -- Nothing was written, so everyone was called once, for the subscription.
    have htells := h.tells (tells_ofStorage s) (placed_ofStorage s) (confined_ofStorage s) hp hnone
    have hlast : ∀ k ∈ m.attached, (m.history k).getLast? = some m.store.current := by
      intro k hk
      have htold := htells.told k hk
      rw [pending_of_done hdone, List.append_nil] at htold
      rw [htold, htells.current]
      rfl
    exact ⟨fun k hk => .inl (hlast k hk), fun _ => hlast⟩
  · obtain ⟨rfl, hlast⟩ := hw.getLast_history hp hdone
    constructor
    · intro k hk
      by_cases hpending : m₁.pending k = []
      · refine .inl ?_
        rw [hlast k hk, hpending]
        rfl
      · refine .inr ⟨es₀, m₁, es₁, rfl, hw, hpending, ?_⟩
        rw [hlast k hk]
        exact List.getLast?_cons_of_ne_nil hpending
    · intro hhushed k hk
      have hmem : Event.write m.store.current ∈ m₁.events := hw.begins ▸ List.mem_singleton_self _
      obtain ⟨c, hnext, hwritten⟩ := (events_of_write_mem hmem).2
      obtain ⟨cs, rest, ht⟩ := tasks_of_next hnext
      have hquiet : Quiet m₁ := hw.before.quiet hhushed (quiet_of_confined (confined_ofStorage s))
      obtain ⟨rfl, rfl⟩ := hquiet.tasks_of_write ht hwritten
      have hpending : m₁.pending k = [] := by simp [pending, toCome, ht, Task.toCome]
      rw [hlast k hk, hpending]
      rfl

/-- Two observers, of which the second leaves when it hears of the write: the first one has heard of it last. -/
theorem last_heard_leaving :
    let session : Session := { token := some "secret" }
    let first := StoreCommand.subscribe "first" []
    let second := StoreCommand.subscribe "second" [(2, .detach "second")]
    let watched := ((((ofStorage (.memory none {})).push (.perform [first])).steps 4).push (.perform [second])).steps 4
    ∃ m, m = (watched.push (.perform [.write session])).steps 8 ∧ m.attached = [0] ∧
      (m.history 0).getLast? = some session := by
  intro session first second watched
  have h₀ : Run (fun c => Use c ∧ Hushed c) (ofStorage (.memory none {})) [] _ := .start
  obtain ⟨_, h₁⟩ := (h₀.command (c := first) rfl ⟨rfl, rfl⟩).steps 4
  obtain ⟨_, h₂⟩ := (h₁.command (c := second) rfl ⟨rfl, rfl⟩).steps 4
  obtain ⟨_, h₃⟩ := (h₂.command (c := .write session) rfl ⟨rfl, trivial⟩).steps 8
  obtain ⟨m, hm⟩ : ∃ m, m = (watched.push (.perform [.write session])).steps 8 := ⟨_, rfl⟩
  have hdone : m.tasks = [] := List.isEmpty_iff.1 (by rw [hm]; decide +kernel)
  have hattached : m.attached = [0] := by rw [hm]; decide +kernel
  have hcurrent : m.store.current = session := by rw [hm]; decide +kernel
  have h : Run (fun c => Use c ∧ Hushed c) (ofStorage (.memory none {})) _ m := hm ▸ h₃
  have hlast := (last_heard (fun _ h => h.1) h hdone).2 (fun _ h => h.2) 0 (hattached ▸ List.mem_singleton_self 0)
  exact ⟨m, hm, hattached, hcurrent ▸ hlast⟩

/-- The first observer logs out when it is called for a write, in the midst of that notification: nothing is left to
    do, the store is logged out, and the second observer was called with the written session last. -/
theorem observer_left_behind :
    let session : Session := { token := some "secret" }
    let first := StoreCommand.subscribe "first" [(2, .logout)]
    let second := StoreCommand.subscribe "second" []
    let start := ofStorage (.memory none {})
    let watched := (((start.push (.perform [first])).steps 4).push (.perform [second])).steps 4
    let after := (watched.push (.perform [.write session])).steps 13
    (∃ es, Run Use start es after) ∧ after.tasks = [] ∧ 1 ∈ after.attached ∧ after.store.current = .empty ∧
      after.history 1 = [.empty, .empty, session] := by
  intro session first second start watched after
  have h₀ : Run Use start [] start := .start
  obtain ⟨_, h₁⟩ := (h₀.command (c := first) rfl rfl).steps 4
  obtain ⟨_, h₂⟩ := (h₁.command (c := second) rfl rfl).steps 4
  obtain ⟨_, h₃⟩ := (h₂.command (c := .write session) rfl rfl).steps 13
  have hdone : after.tasks = [] := List.isEmpty_iff.1 (by decide +kernel)
  exact ⟨⟨_, h₃⟩, hdone, by decide +kernel, by decide +kernel, by decide +kernel⟩

end ClusterPanel.Observation
