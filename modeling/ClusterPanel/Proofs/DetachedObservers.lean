import ClusterPanel.Proofs.LastHeard
import Mathlib.Data.List.Nodup

/- What becomes of an observer that is detached. A subscription that is held under a name, or is still to be filed,
   is the subscription of an observer that is attached, and no observer has two of them (`Kept`); so to drop one takes
   exactly one observer away. No notification that begins later calls that observer, and no step begins anything for
   it (`Detached.begun`). But the notifications that are under way go on as they began: each has taken down whom to
   call, and a detachment strikes nobody off. So the observer is called with what was still to come for it when it was
   detached, and never again after that (`detached_observer`); where nothing was to come it is silent. Two observers
   are enough to see one called that is no longer attached (`called_when_detached`). -/
namespace ClusterPanel.Observation

variable {p : StoreCommand → Prop} {m₀ m₁ m u : Observation} {es es₀ : List Event} {k : Nat} {name : String}

/-! ## Subscriptions -/

/-- Whose subscription a task files. -/
def Task.filed : Task → List Nat
  | .file _ k => [k]
  | _ => []

/-- The observers whose subscriptions are held or are still to be filed. -/
def subscriptions (m : Observation) : List Nat := m.held.map (·.2) ++ m.tasks.flatMap Task.filed

/-- No observer has two subscriptions, and those that have one are attached. -/
structure Kept (m : Observation) : Prop where
  distinct : m.subscriptions.Nodup
  attached : ∀ k ∈ m.subscriptions, k ∈ m.attached

theorem kept_ofStorage (s : Storage) : Kept (.ofStorage s) :=
  ⟨.nil, fun _ hk => absurd hk List.not_mem_nil⟩

theorem Kept.same (h : Kept m) (hs : u.subscriptions = m.subscriptions) (ha : u.attached = m.attached) : Kept u :=
  ⟨hs ▸ h.distinct, by rw [hs, ha]; exact h.attached⟩

@[simp] theorem subscriptions_call {n : Option Nat} {session : Session} :
    (m.call k n session).subscriptions = m.subscriptions := by
  unfold call
  split <;> rfl

theorem held_of_subscription (h : m.subscription? name = some k) : (name, k) ∈ m.held := by
  obtain ⟨⟨name', k'⟩, hfind, rfl⟩ := Option.map_eq_some_iff.1 h
  obtain rfl : name' = name := by simpa using List.find?_some hfind
  exact List.mem_of_find?_eq_some hfind

/-- What is held under other names belongs to others. -/
theorem notMem_of_dropped {held : List (String × Nat)} (hd : (held.map (·.2)).Nodup) (h : (name, k) ∈ held) :
    k ∉ (held.filter (·.1 ≠ name)).map (·.2) := by
  intro hk
  obtain ⟨e, hmem, hek⟩ := List.mem_map.1 hk
  obtain ⟨hheld, hname⟩ := List.mem_filter.1 hmem
  obtain rfl : e = (name, k) := List.inj_on_of_nodup_map hd hheld h hek
  exact absurd rfl (of_decide_eq_true hname)

theorem Kept.detach (h : Kept m) : Kept (m.detach name) := by
  unfold Observation.detach
  cases hs : m.subscription? name with
  | none => exact h
  | some k =>
    have hheld := held_of_subscription hs
    obtain ⟨hdistinct, -, hdisjoint⟩ := List.nodup_append.1 h.distinct
    have hsub : ((m.held.filter (·.1 ≠ name)).map (·.2) ++ m.tasks.flatMap Task.filed).Sublist m.subscriptions :=
      (List.filter_sublist.map _).append (List.Sublist.refl _)
    refine ⟨hsub.nodup h.distinct, ?_⟩
    intro j hj
    refine List.mem_filter.2 ⟨h.attached j (hsub.subset hj), ?_⟩
    -- The observer that is taken away has no other subscription, neither held nor to be filed.
    rcases List.mem_append.1 hj with hj | hj
    · exact decide_eq_true fun hjk => notMem_of_dropped hdistinct hheld (hjk ▸ hj)
    · exact decide_eq_true fun hjk => hdisjoint k (List.mem_map.2 ⟨_, hheld, rfl⟩) j hj hjk.symm

theorem held_detach : (m.detach name).held = m.held.filter fun e => m.subscription? name = none ∨ e.1 ≠ name := by
  unfold Observation.detach
  cases m.subscription? name with
  | none => exact (List.filter_eq_self.2 fun _ _ => by simp).symm
  | some k => simp

/-- A subscription that is filed was to be filed before. -/
theorem subscriptions_hold {rest : List Task} (ht : m.tasks = .file name k :: rest) :
    (hold name k { m with tasks := rest }).subscriptions = (m.detach name).subscriptions := by
  have hheld : (Observation.detach name { m with tasks := rest }).held = (m.detach name).held := by
    rw [held_detach, held_detach]
    rfl
  simp [subscriptions, hold, hheld, ht, Task.filed]

theorem attached_hold {rest : List Task} :
    (hold name k { m with tasks := rest }).attached = (m.detach name).attached := by
  unfold hold
  rw [attached_detach, attached_detach]
  rfl

theorem Kept.happens (h : Kept m) (hp : Placed m) (hc : Confined goesOn m) (hu : Happens m es u) : Kept u := by
  cases hu with
  | performed ht => exact h.same (by simp [subscriptions, ht, Task.filed]) rfl
  | looked ht hc => exact h.same (by simp [subscriptions, ht, Task.filed]) rfl
  | wrote ht hw => exact h.same (by simp [subscriptions, write, ht, Task.filed]) rfl
  | reopened ht => cases (hc.next ht).1
  | @subscribed name script cs rest ht =>
    -- The new observer was not attached, so it had no subscription.
    have hnew : m.observers.length ∉ m.subscriptions :=
      fun hmem => Nat.lt_irrefl _ (hp.attached _ (h.attached _ hmem))
    have hperm : (subscribe name script { m with tasks := .perform cs :: rest }).subscriptions.Perm
        (m.observers.length :: m.subscriptions) := by
      rw [subscribe, subscriptions_call]
      simp [subscriptions, ht, Task.filed]
    have hattached : (subscribe name script { m with tasks := .perform cs :: rest }).attached =
        m.attached ++ [m.observers.length] := by
      simp [subscribe]
    refine ⟨hperm.nodup_iff.2 (List.nodup_cons.2 ⟨hnew, h.distinct⟩), ?_⟩
    intro j hj
    rw [hattached]
    rcases List.mem_cons.1 (hperm.mem_iff.1 hj) with rfl | hj
    · exact List.mem_append_right _ (List.mem_singleton_self _)
    · exact List.mem_append_left _ (h.attached j hj)
  | @detached name cs rest ht =>
    have hbefore : Kept { m with tasks := .perform cs :: rest } :=
      h.same (by simp [subscriptions, ht, Task.filed]) rfl
    exact hbefore.detach
  | notified ht => exact h.same (by simp [subscriptions, ht, Task.filed]) rfl
  | called ht => exact h.same (subscriptions_call.trans (by simp [subscriptions, ht, Task.filed])) attached_call
  | @filed name k rest ht => exact h.detach.same (subscriptions_hold ht) attached_hold

theorem Run.kept {s : Storage} (h : Run Use (.ofStorage s) es m) : Kept m := by
  induction h with
  | start => exact kept_ofStorage s
  | command h hq hc ih => exact ih.same (by simp [subscriptions, push, Task.filed]) rfl
  | step h hq ih =>
    have hconfined := h.confined (confined_ofStorage s) fun _ hc => hc
    exact ih.happens (h.placed (placed_ofStorage s)) hconfined (Observation.happens hq)

/-! ## The step that detaches -/

theorem mem_leaves : Event.detach k ∈ m.leaves name ↔ m.subscription? name = some k := by
  simp [leaves, Option.mem_toList]

theorem tasks_ne_nil_of_event {e : Event} (h : e ∈ m.events) : m.tasks ≠ [] := by
  intro hnone
  rw [events, hnone] at h
  exact absurd h List.not_mem_nil

/-- An observer is taken away, and nothing else changes of what is told to whom. -/
structure TakesAway (k : Nat) (m u : Observation) : Prop where
  held : k ∈ m.subscriptions
  attached : u.attached = m.attached.filter (· ≠ k)
  store : u.store = m.store
  observers : u.observers = m.observers
  calls : u.calls = m.calls
  toCome : ∀ {α : Type} (f : Option Nat → Nat → Session → List α), u.toCome f = m.toCome f

theorem TakesAway.detach (h : m.subscription? name = some k) : TakesAway k m (m.detach name) where
  held := List.mem_append_left _ (List.mem_map.2 ⟨_, held_of_subscription h, rfl⟩)
  attached := by
    rw [attached_detach]
    refine List.filter_congr fun j _ => ?_
    simp [mem_leaves, h, eq_comm]
  store := store_detach
  observers := observers_detach
  calls := calls_detach
  toCome _ := toCome_detach

/-- It takes the drop of a subscription to detach an observer, and this is all that the step does. -/
theorem takesAway_of_detach (hu : Happens m es u) (h : Event.detach k ∈ es) : TakesAway k m u := by
  cases hu with
  | @detached name cs rest ht =>
    have hs : m.subscription? name = some k := mem_leaves.1 h
    obtain ⟨hheld, hattached, hstore, hobservers, hcalls, htoCome⟩ :=
      TakesAway.detach (m := { m with tasks := .perform cs :: rest }) hs
    exact ⟨by simpa [subscriptions, ht, Task.filed] using hheld, hattached, hstore, hobservers, hcalls,
      fun f => (htoCome f).trans (by simp [Observation.toCome, ht, Task.toCome])⟩
  | @filed name j rest ht =>
    have hs : m.subscription? name = some k := mem_leaves.1 h
    obtain ⟨hheld, hattached, hstore, hobservers, hcalls, htoCome⟩ := TakesAway.detach hs
    exact ⟨hheld, attached_hold.trans hattached, by simp [hold], by simp [hold], by simp [hold],
      fun f => by simp [Observation.toCome, hold, ht, Task.toCome]⟩
  | _ => simp at h

/-- One who stands in a list once is taken away from it. -/
theorem length_filter_ne {ks : List Nat} (h : ks.Nodup) (hk : k ∈ ks) : (ks.filter (· ≠ k)).length + 1 = ks.length := by
  have herase : ks.filter (· ≠ k) = ks.erase k := by
    rw [h.erase_eq_filter]
    exact List.filter_congr fun j _ => by simp [bne, BEq.beq]
  rw [herase, List.length_erase_of_mem hk]
  exact Nat.sub_add_cancel (List.length_pos_of_mem hk)

/-! ## After the detachment -/

/-- An observer that was there at the start is attached until it is detached. -/
theorem Run.attached_iff (hc : Confined goesOn m₀) (hp : ∀ c, p c → Use c) (hk : k < m₀.observers.length)
    (h : Run p m₀ es m) : k ∈ m.attached ↔ k ∈ m₀.attached ∧ Event.detach k ∉ es := by
  induction h with
  | start => simp
  | command h hq hp ih => exact ih
  | step h hq ih =>
    have hconfined := h.confined hc hp
    rw [attached_happens (Nat.lt_of_lt_of_le hk h.observers) (fun _ _ ht => by cases (hconfined.next ht).1)
      (happens hq), ih, List.mem_append, not_or, and_assoc]

/-- An observer that has subscribed and is no longer attached, in the use of one store. -/
structure Detached (k : Nat) (m : Observation) : Prop where
  placed : Placed m
  confined : Confined goesOn m
  known : k < m.observers.length
  gone : k ∉ m.attached

theorem TakesAway.detached (h : TakesAway k m u) (hp : Placed u) (hc : Confined goesOn u)
    (hk : k < m.observers.length) : Detached k u where
  placed := hp
  confined := hc
  known := by rwa [h.observers]
  gone := by simp [h.attached]

theorem Run.detached (h₀ : Detached k m₀) (hp : ∀ c, p c → Use c) (h : Run p m₀ es m) : Detached k m where
  placed := h.placed h₀.placed
  confined := h.confined h₀.confined hp
  known := Nat.lt_of_lt_of_le h₀.known h.observers
  gone hk := h₀.gone ((h.attached_iff h₀.confined hp h₀.known).1 hk).1

/-- Nothing is begun for an observer that is detached. -/
theorem Detached.begun {α : Type} {f : Option Nat → Nat → Session → List α} (hf : ∀ i j s, j ≠ k → f i j s = [])
    (h : Detached k m) : m.begun f = [] := by
  unfold Observation.begun
  split
  · rfl
  · exact hf _ _ _ (Nat.ne_of_gt h.known)
  · refine List.flatMap_eq_nil_iff.2 fun s _ => List.flatMap_eq_nil_iff.2 fun j hj => hf _ _ _ ?_
    rintro rfl
    exact h.gone hj

/-- What an observer that is detached was told and is still to be told no longer changes. -/
theorem Run.balance_of_detached {α : Type} {f : Option Nat → Nat → Session → List α}
    (hf : ∀ i j s, j ≠ k → f i j s = []) (h₀ : Detached k m₀) (hp : ∀ c, p c → Use c) (h : Run p m₀ es m) :
    m.told f ++ m.toCome f = m₀.told f ++ m₀.toCome f := by
  induction h with
  | start => rfl
  | command h hq hc ih => exact ih
  | step h hq ih =>
    have hdetached := h.detached h₀ hp
    rw [balance hdetached.placed (happens hq), hdetached.begun hf, List.nil_append, ih]

/-- Calls that were made stay as they are. -/
theorem Run.calls (h : Run p m₀ es m) : ∃ later, m.calls = m₀.calls ++ later := by
  induction h with
  | start => exact ⟨[], (List.append_nil _).symm⟩
  | command h hq hc ih => exact ih
  | step h hq ih =>
    obtain ⟨later, hlater⟩ := ih
    obtain ⟨cs, hcs, -⟩ := calls_happens (happens hq)
    exact ⟨later ++ cs, by rw [hcs, hlater, List.append_assoc]⟩

/-- The calls of one observer, each with its notification and its session. -/
def ofObserver (k : Nat) (i : Option Nat) (j : Nat) (s : Session) : List (Option Nat × Session) :=
  if j = k then [(i, s)] else []

/-- What is still to be told to an observer is told by the notifications that have it ahead. -/
theorem notify_of_toCome {i : Option Nat} {session : Session} (h : (i, session) ∈ m.toCome (ofObserver k)) :
    ∃ n ks, i = some n ∧ Task.notify n session ks ∈ m.tasks ∧ k ∈ ks := by
  obtain ⟨t, ht, hmem⟩ := List.mem_flatMap.1 h
  cases t with
  | notify n s ks =>
    obtain ⟨j, hj, hcall⟩ := List.mem_flatMap.1 hmem
    unfold ofObserver at hcall
    split at hcall
    · next hjk =>
      cases List.mem_singleton.1 hcall
      exact ⟨n, ks, rfl, ht, hjk ▸ hj⟩
    · exact absurd hcall List.not_mem_nil
  | perform cs => exact absurd hmem List.not_mem_nil
  | file name j => exact absurd hmem List.not_mem_nil

/-- Whatever an observer that is detached is called with was to come when it was detached. -/
theorem Run.later_of_detached (h₀ : Detached k m₀) (hp : ∀ c, p c → Use c) (h : Run p m₀ es m) :
    ∃ later, m.calls = m₀.calls ++ later ∧
      ∀ c ∈ later, c.observer = k → (c.notification, c.session) ∈ m₀.toCome (ofObserver k) := by
  obtain ⟨later, hlater⟩ := h.calls
  refine ⟨later, hlater, ?_⟩
  intro c hc hck
  -- What was told before stands on both sides of the balance.
  have hbalance := h.balance_of_detached (f := ofObserver k) (fun _ _ _ hj => if_neg hj) h₀ hp
  rw [told, hlater, List.flatMap_append, List.append_assoc, told] at hbalance
  rw [← List.append_cancel_left hbalance]
  refine List.mem_append_left _ (List.mem_flatMap.2 ⟨c, hc, ?_⟩)
  rw [ofObserver, if_pos hck]
  exact List.mem_singleton_self _

/-- Wherever a run has come to, let the next step detach an observer, by dropping its subscription, and let the run go
    on from there.

    The observer was attached; the observers that are attached are now those that were, in their order, without it, so
    they are one fewer. The step calls nobody, leaves the session, the record and all that observers have yet to do as
    they are, and owes everyone the calls that it owed before; any other observer stays attached until a detachment
    of its own.

    The observer is never attached again. Whoever calls it is a notification that was under way when it was detached,
    had it ahead, and calls it with the session that it had; when nothing is left to do the observer was called with
    all that was owed to it then, and with nothing else. If nothing was owed to it, it is never called again. -/
theorem detached_observer {s : Storage} {m₂ : Observation} (h₀ : Run Use (.ofStorage s) es₀ m₁)
    (hd : Event.detach k ∈ m₁.events) (h : Run Use m₁.step es m₂) :
    (k ∈ m₁.attached ∧ m₁.step.attached = m₁.attached.filter (· ≠ k) ∧
      m₁.step.attached.length + 1 = m₁.attached.length) ∧
    (m₁.step.calls = m₁.calls ∧ m₁.step.store = m₁.store ∧ m₁.step.observers = m₁.observers ∧
      ∀ j, m₁.step.pending j = m₁.pending j) ∧
    (∀ j ∈ m₁.attached, j ≠ k → (j ∈ m₂.attached ↔ Event.detach j ∉ es)) ∧
    k ∉ m₂.attached ∧
    ∃ later, m₂.calls = m₁.calls ++ later ∧
      (∀ c ∈ later, c.observer = k →
        ∃ n ks, c.notification = some n ∧ Task.notify n c.session ks ∈ m₁.tasks ∧ k ∈ ks) ∧
      m₂.history k ++ m₂.pending k = m₁.history k ++ m₁.pending k ∧
      (m₂.tasks = [] → m₂.history k = m₁.history k ++ m₁.pending k) ∧
      (m₁.pending k = [] → ∀ c ∈ later, c.observer ≠ k) := by
  have hp : ∀ c, Use c → Use c := fun _ hc => hc
  have hu : Happens m₁ m₁.events m₁.step := happens (tasks_ne_nil_of_event hd)
  have hplaced := h₀.placed (placed_ofStorage s)
  have htaken := takesAway_of_detach hu hd
  have hk : k ∈ m₁.attached := h₀.kept.attached k htaken.held
  have hdetached := htaken.detached (hplaced.happens hu) ((h₀.confined (confined_ofStorage s) hp).happens hu)
    (hplaced.attached k hk)
  have hone : m₁.step.attached.length + 1 = m₁.attached.length := by
    rw [htaken.attached]
    exact length_filter_ne (hplaced.ordered.imp Nat.ne_of_lt) hk
  refine ⟨⟨hk, htaken.attached, hone⟩,
    ⟨htaken.calls, htaken.store, htaken.observers, fun j => htaken.toCome _⟩, ?_, (h.detached hdetached hp).gone, ?_⟩
  · intro j hj hjk
    have hthere : j ∈ m₁.step.attached := by
      rw [htaken.attached]
      exact List.mem_filter.2 ⟨hj, decide_eq_true hjk⟩
    rw [h.attached_iff hdetached.confined hp (hdetached.placed.attached j hthere), and_iff_right hthere]
  · obtain ⟨later, hlater, hcome⟩ := h.later_of_detached hdetached hp
    rw [htaken.calls] at hlater
    rw [htaken.toCome] at hcome
    have hhistory : m₂.history k ++ m₂.pending k = m₁.history k ++ m₁.pending k := by
      refine (h.balance_of_detached (fun _ _ _ hj => if_neg hj) hdetached hp).trans ?_
      rw [told, htaken.calls, htaken.toCome]
      rfl
    refine ⟨later, hlater, fun c hc hck => notify_of_toCome (hcome c hc hck), hhistory, ?_, ?_⟩
    · intro hdone
      rwa [pending_of_done hdone, List.append_nil] at hhistory
    · intro hnone c hc hck
      obtain ⟨n, ks, -, ht, hmem⟩ := notify_of_toCome (hcome c hc hck)
      have hpending : c.session ∈ m₁.pending k :=
        List.mem_flatMap.2 ⟨_, ht, List.mem_flatMap.2 ⟨k, hmem, by simp [callsTo]⟩⟩
      rw [hnone] at hpending
      exact absurd hpending List.not_mem_nil

/-- Two observers, of which the second is detached before a session is written: it is not called for the write. -/
theorem detached_observer_between :
    let session : Session := { token := some "secret" }
    let first := StoreCommand.subscribe "first" []
    let second := StoreCommand.subscribe "second" []
    let start := ofStorage (.memory none {})
    let watched := (((start.push (.perform [first])).steps 4).push (.perform [second])).steps 4
    let before := watched.push (.perform [.detach "second"])
    let after := (before.step.step.push (.perform [.write session])).steps 5
    before.events = [.detach 1] ∧ before.step.attached.length + 1 = before.attached.length ∧
      (after.calls.map fun c => (c.observer, c.session)) = [(0, .empty), (1, .empty), (0, session)] ∧
      ∃ later, after.calls = before.calls ++ later ∧ ∀ c ∈ later, c.observer ≠ 1 := by
  intro session first second start watched before after
  have h₀ : Run Use start [] start := .start
  obtain ⟨_, h₁⟩ := (h₀.command (c := first) rfl rfl).steps 4
  obtain ⟨_, h₂⟩ := (h₁.command (c := second) rfl rfl).steps 4
  have h₃ := h₂.command (c := .detach "second") rfl rfl
  have h₄ : Run Use before.step [] before.step := .start
  have hdone : before.step.step.tasks = [] := List.isEmpty_iff.1 (by decide +kernel)
  obtain ⟨_, h₅⟩ := (h₄.next.command (c := .write session) hdone rfl).steps 5
  have hd : before.events = [.detach 1] := by decide +kernel
  obtain ⟨⟨-, -, hcount⟩, -, -, -, later, hlater, -, -, -, hsilent⟩ :=
    detached_observer h₃ (hd ▸ List.mem_singleton_self _) h₅
  exact ⟨hd, hcount, by decide +kernel, later, hlater, hsilent (by decide +kernel)⟩

/-- The first observer detaches the second one when it is called for a write, in the midst of that notification: the
    second one is called with the written session when it is no longer attached. -/
theorem called_when_detached :
    let session : Session := { token := some "secret" }
    let first := StoreCommand.subscribe "first" [(2, .detach "second")]
    let second := StoreCommand.subscribe "second" []
    let start := ofStorage (.memory none {})
    let watched := (((start.push (.perform [first])).steps 4).push (.perform [second])).steps 4
    let before := (watched.push (.perform [.write session])).steps 2
    let after := before.step.steps 3
    (∃ es, Run Use start es before) ∧ Event.detach 1 ∈ before.events ∧ (∃ es, Run Use before.step es after) ∧
      1 ∉ before.step.attached ∧ (after.calls.drop before.calls.length).map (·.observer) = [1] := by
  intro session first second start watched before after
  have h₀ : Run Use start [] start := .start
  obtain ⟨_, h₁⟩ := (h₀.command (c := first) rfl rfl).steps 4
  obtain ⟨_, h₂⟩ := (h₁.command (c := second) rfl rfl).steps 4
  obtain ⟨_, h₃⟩ := (h₂.command (c := .write session) rfl rfl).steps 2
  have h₄ : Run Use before.step [] before.step := .start
  obtain ⟨_, h₅⟩ := h₄.steps 3
  exact ⟨⟨_, h₃⟩, by decide +kernel, ⟨_, h₅⟩, by decide +kernel, by decide +kernel⟩

end ClusterPanel.Observation
