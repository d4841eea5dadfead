import ClusterPanel.Proofs.ObservedRuns

/- Who is told what. Whatever one gathers from the calls of observers, what the calls that were made have told and
   what those that are still to be made will tell change by what a step begins, and by nothing else (`balance`): a
   write begins to tell its session to all that are attached, a subscription tells its observer the current one.

   For the calls of one notification this says that those it made and those it still owes are one call for each
   observer that was attached when it began, in the order of their subscriptions and all with its session (`Owes`);
   nested writes, subscriptions and detachments leave that sum as it is. For the calls at subscriptions it says that
   everyone is called for the subscription once (`Run.greeted`). -/
namespace ClusterPanel.Observation

variable {m u : Observation} {es : List Event} {n k : Nat} {session : Session}

/-! ## Numbers of observers and of notifications -/

/-- Observers are numbered as they subscribe and notifications as they begin; those that are attached stand in the
    order of their subscriptions. -/
structure Placed (m : Observation) : Prop where
  ordered : m.attached.Pairwise (· < ·)
  attached : ∀ k ∈ m.attached, k < m.observers.length
  tasks : ∀ n s ks, Task.notify n s ks ∈ m.tasks → n < m.writes ∧ ∀ k ∈ ks, k < m.observers.length
  calls : ∀ c ∈ m.calls, c.observer < m.observers.length ∧ ∀ n, c.notification = some n → n < m.writes

theorem placed_ofStorage (s : Storage) : Placed (.ofStorage s) where
  ordered := .nil
  attached _ hk := absurd hk List.not_mem_nil
  tasks _ _ _ ht := absurd ht List.not_mem_nil
  calls _ hc := absurd hc List.not_mem_nil

/-- Notifications that go on with fewer observers, or not at all. -/
theorem Placed.replace {ts : List Task} (h : Placed m)
    (hts : ∀ n s ks, Task.notify n s ks ∈ ts → ∃ ks', Task.notify n s ks' ∈ m.tasks ∧ ∀ k ∈ ks, k ∈ ks') :
    Placed { m with tasks := ts } := by
  refine ⟨h.ordered, h.attached, ?_, h.calls⟩
  intro n s ks ht
  obtain ⟨ks', ht', hks⟩ := hts n s ks ht
  obtain ⟨hn, hk⟩ := h.tasks n s ks' ht'
  exact ⟨hn, fun k hmem => hk k (hks k hmem)⟩

theorem Placed.call {n : Option Nat} (h : Placed m) (hn : ∀ i, n = some i → i < m.writes) :
    Placed (m.call k n session) := by
  cases ho : m.observers[k]? with
  | none =>
    rw [Observation.call, ho]
    exact h
  | some o =>
    obtain ⟨hk, -⟩ := List.getElem?_eq_some_iff.1 ho
    rw [call_eq ho]
    refine ⟨h.ordered, ?_, ?_, ?_⟩ <;> simp only [List.length_set]
    · exact h.attached
    · intro i s ks ht
      rcases List.mem_cons.1 ht with ht | ht
      · cases ht
      · exact h.tasks i s ks ht
    · intro c hc
      rcases List.mem_append.1 hc with hc | hc
      · exact h.calls c hc
      · cases List.mem_singleton.1 hc
        exact ⟨hk, hn⟩

theorem Placed.detach {name : String} (h : Placed m) : Placed (m.detach name) := by
  refine ⟨?_, ?_, ?_, ?_⟩ <;> simp only [attached_detach, observers_detach, tasks_detach, calls_detach, writes_detach]
  · exact h.ordered.filter _
  · exact fun k hk => h.attached k (List.mem_filter.1 hk).1
  · exact h.tasks
  · exact h.calls

/-- A step to the tasks behind the first one, and to others that notify nobody. -/
theorem Placed.pop {t : Task} {rest : List Task} (ts : List Task) (h : Placed m) (ht : m.tasks = t :: rest)
    (hts : ∀ n s ks, Task.notify n s ks ∉ ts) : Placed { m with tasks := ts ++ rest } := by
  apply h.replace
  intro n s ks hmem
  rcases List.mem_append.1 hmem with hmem | hmem
  · exact absurd hmem (hts n s ks)
  · exact ⟨ks, by rw [ht]; exact List.mem_cons_of_mem _ hmem, fun _ hk => hk⟩

theorem Placed.happens (h : Placed m) (hu : Happens m es u) : Placed u := by
  cases hu with
  | performed ht => exact h.pop [] ht (by simp)
  | looked ht hc => exact h.pop [.perform _] ht (by simp)
  | notified ht => exact h.pop [] ht (by simp)
  | @wrote c cs rest s ht hw =>
    have h' := h.pop [.perform cs] ht (by simp)
    refine ⟨h'.ordered, h'.attached, ?_, ?_⟩
    · intro i s ks hmem
      rcases List.mem_cons.1 hmem with hmem | hmem
      · cases hmem
        exact ⟨Nat.lt_succ_self _, h.attached⟩
      · obtain ⟨hi, hks⟩ := h'.tasks i s ks hmem
        exact ⟨Nat.lt_succ_of_lt hi, hks⟩
    · intro c hc
      obtain ⟨hk, hn⟩ := h'.calls c hc
      exact ⟨hk, fun i hi => Nat.lt_succ_of_lt (hn i hi)⟩
  | @reopened cs rest ht =>
    have h' := h.pop [.perform cs] ht (by simp)
    exact ⟨.nil, fun _ hk => absurd hk List.not_mem_nil, h'.tasks, h'.calls⟩
  | @subscribed name script cs rest ht =>
    have h' := h.pop [.perform cs] ht (by simp)
    apply Placed.call
    · -- The new observer has the greatest number so far.
      refine ⟨?_, ?_, ?_, ?_⟩ <;> simp only [List.length_append, List.length_singleton]
      · refine List.pairwise_append.2 ⟨h.ordered, List.pairwise_singleton _ _, ?_⟩
        intro i hi j hj
        cases List.mem_singleton.1 hj
        exact h.attached i hi
      · intro i hi
        rcases List.mem_append.1 hi with hi | hi
        · exact Nat.lt_succ_of_lt (h.attached i hi)
        · cases List.mem_singleton.1 hi
          exact Nat.lt_succ_self _
      · intro i s ks hmem
        rcases List.mem_cons.1 hmem with hmem | hmem
        · cases hmem
        · obtain ⟨hi, hks⟩ := h'.tasks i s ks hmem
          exact ⟨hi, fun k hk => Nat.lt_succ_of_lt (hks k hk)⟩
      · intro c hc
        obtain ⟨hk, hn⟩ := h'.calls c hc
        exact ⟨Nat.lt_succ_of_lt hk, hn⟩
    · intro i hi
      cases hi
  | detached ht => exact (h.pop [.perform _] ht (by simp)).detach
  | called ht =>
    obtain ⟨hn, hks⟩ := h.tasks _ _ _ (by rw [ht]; exact List.mem_cons_self)
    apply Placed.call
    · apply h.replace
      intro i s ks hmem
      rw [ht]
      rcases List.mem_cons.1 hmem with hmem | hmem
      · cases hmem
        exact ⟨_, List.mem_cons_self, fun k hk => List.mem_cons_of_mem _ hk⟩
      · exact ⟨ks, List.mem_cons_of_mem _ hmem, fun _ hk => hk⟩
    · intro i hi
      cases hi
      exact hn
  | filed ht =>
    have h' := h.pop [] ht (by simp)
    exact ⟨h'.detach.ordered, h'.detach.attached, h'.detach.tasks, h'.detach.calls⟩

theorem Placed.push {c : StoreCommand} (h : Placed m) : Placed (m.push (.perform [c])) := by
  apply h.replace
  intro i s ks hmem
  rcases List.mem_cons.1 hmem with hmem | hmem
  · cases hmem
  · exact ⟨ks, hmem, fun _ hk => hk⟩

theorem Run.placed {p : StoreCommand → Prop} {m₀ : Observation} (h₀ : Placed m₀) (h : Run p m₀ es m) : Placed m := by
  induction h with
  | start => exact h₀
  | command h hq hc ih => exact ih.push
  | step h hq ih => exact ih.happens (Observation.happens hq)

/-! ## Calls that were made and calls that are to come -/

section Balance

variable {α : Type} (f : Option Nat → Nat → Session → List α)

/-- What was told so far, where `f` says what the call of an observer with a session tells for a notification, or
    for none. -/
def told (m : Observation) : List α := m.calls.flatMap fun c => f c.notification c.observer c.session

/-- What a task has still to tell. -/
def Task.toCome : Task → List α
  | .notify n s ks => ks.flatMap fun k => f (some n) k s
  | _ => []

/-- What is still to be told. -/
def toCome (m : Observation) : List α := m.tasks.flatMap (Task.toCome f)

/-- What the next step begins to tell: a subscription to its observer, a write to all that are attached. -/
def begun (m : Observation) : List α :=
  match m.next? with
  | none => []
  | some (.subscribe _ _) => f none m.observers.length m.store.current
  | some c => c.written?.toList.flatMap fun s => m.attached.flatMap fun k => f (some m.writes) k s

variable {f}

theorem told_call {i : Option Nat} (hk : k < m.observers.length) :
    (m.call k i session).told f = m.told f ++ f i k session := by
  rw [call_eq (List.getElem?_eq_getElem hk)]
  unfold told
  rw [List.flatMap_append, List.flatMap_singleton]
  rfl

theorem toCome_call {i : Option Nat} : (m.call k i session).toCome f = m.toCome f := by
  unfold call
  split
  · rfl
  · exact List.nil_append _

theorem told_detach {name : String} : (m.detach name).told f = m.told f := by rw [told, calls_detach, told]

theorem toCome_detach {name : String} : (m.detach name).toCome f = m.toCome f := by rw [toCome, tasks_detach, toCome]

theorem begun_write {c : StoreCommand} (hc : m.next? = some c) (hw : c.written? = some session) :
    m.begun f = m.attached.flatMap fun k => f (some m.writes) k session := by
  unfold begun
  rw [hc]
  cases c <;> cases hw <;> exact List.append_nil _

theorem begun_subscribe {name : String} {script : Script} (hc : m.next? = some (.subscribe name script)) :
    m.begun f = f none m.observers.length m.store.current := by
  unfold begun
  rw [hc]

theorem next_of_tasks {c : StoreCommand} {cs : List StoreCommand} {rest : List Task}
    (ht : m.tasks = .perform (c :: cs) :: rest) : m.next? = some c := by
  rw [next?, ht]

theorem tasks_of_next {c : StoreCommand} (h : m.next? = some c) : ∃ cs rest, m.tasks = .perform (c :: cs) :: rest := by
  unfold next? at h
  split at h
  · next cs rest ht =>
    cases h
    exact ⟨cs, rest, ht⟩
  · cases h

theorem tasks_ne_nil {c : StoreCommand} (h : m.next? = some c) : m.tasks ≠ [] := by
  obtain ⟨cs, rest, ht⟩ := tasks_of_next h
  rw [ht]
  exact List.cons_ne_nil _ _

/-- What was told and what is to come change by what a step begins, and by nothing else: a call that is made is no
    longer to come. -/
theorem balance (hp : Placed m) (hu : Happens m es u) :
    u.told f ++ u.toCome f = m.told f ++ (m.begun f ++ m.toCome f) := by
  -- A call moves what it tells from the front of what is to come to the end of what was told.
  cases hu with
  | performed ht => simp [told, toCome, begun, next?, ht, Task.toCome]
  | looked ht hc =>
    rcases hc with rfl | rfl | rfl <;> simp [told, toCome, begun, next?, ht, Task.toCome, StoreCommand.written?]
  | wrote ht hw =>
    rw [begun_write (next_of_tasks ht) hw]
    simp [told, toCome, write, ht, Task.toCome]
  | reopened ht => simp [told, toCome, begun, next?, ht, Task.toCome, StoreCommand.written?]
  | subscribed ht =>
    unfold subscribe
    rw [told_call (by simp), toCome_call]
    simp [told, toCome, begun, next?, ht, Task.toCome]
  | detached ht =>
    rw [told_detach, toCome_detach]
    simp [told, toCome, begun, next?, ht, Task.toCome, StoreCommand.written?]
  | notified ht => simp [told, toCome, begun, next?, ht, Task.toCome]
  | @called i k s ks rest ht =>
    obtain ⟨-, hks⟩ := hp.tasks i s (k :: ks) (by rw [ht]; exact List.mem_cons_self)
    have hk : k < m.observers.length := hks k List.mem_cons_self
    rw [told_call (by exact hk), toCome_call]
    simp [told, toCome, begun, next?, ht, Task.toCome]
  | filed ht =>
    change (detach _ _).told f ++ (detach _ _).toCome f = _
    rw [told_detach, toCome_detach]
    simp [told, toCome, begun, next?, ht, Task.toCome]

/-- Nothing was told or is to come for observers and notifications that there are none of yet. -/
theorem untold (hp : Placed m)
    (hf : ∀ i k s, k < m.observers.length → (∀ n, i = some n → n < m.writes) → f i k s = []) :
    m.told f = [] ∧ m.toCome f = [] := by
  constructor
  · refine List.flatMap_eq_nil_iff.2 fun c hc => ?_
    obtain ⟨hk, hn⟩ := hp.calls c hc
    exact hf _ _ _ hk hn
  · refine List.flatMap_eq_nil_iff.2 fun t ht => ?_
    cases t with
    | notify n s ks =>
      obtain ⟨hn, hks⟩ := hp.tasks n s ks ht
      refine List.flatMap_eq_nil_iff.2 fun k hk => hf _ _ _ (hks k hk) ?_
      intro i hi
      cases hi
      exact hn
    | perform cs => rfl
    | file name k => rfl

end Balance

/-! ## What a notification calls -/

/-- The calls of one notification, each with its observer and its session. -/
def ofNotification (n : Nat) (i : Option Nat) (k : Nat) (s : Session) : List (Nat × Session) :=
  if i = some n then [(k, s)] else []

/-- The calls that were made for a notification. -/
def made (n : Nat) (m : Observation) : List (Nat × Session) := m.told (ofNotification n)

/-- The calls that are still to be made for a notification. -/
def owed (n : Nat) (m : Observation) : List (Nat × Session) := m.toCome (ofNotification n)

/-- The calls that a notification made and those that it owes are one call for each of the given observers. -/
structure Owes (n : Nat) (session : Session) (ks : List Nat) (m : Observation) : Prop where
  placed : Placed m
  begun : n < m.writes
  balance : m.made n ++ m.owed n = ks.map (·, session)

variable {ks : List Nat}

theorem writes_happens (hu : Happens m es u) : m.writes ≤ u.writes := by
  cases hu with
  | wrote ht hw => exact Nat.le_succ _
  | subscribed ht => simp [subscribe]
  | detached ht => simp
  | called ht => simp
  | filed ht => simp [hold]
  | _ => exact Nat.le_refl _

/-- Nothing is begun for a notification that has begun: every other one has a number of its own. -/
theorem begun_ofNotification (hn : n < m.writes) : m.begun (ofNotification n) = [] := by
  have hwrite : ∀ k s, ofNotification n (some m.writes) k s = [] := by
    intro k s
    refine if_neg ?_
    intro h
    cases h
    exact Nat.lt_irrefl _ hn
  unfold begun
  split
  · rfl
  · rfl
  · simp only [hwrite]
    simp

theorem Owes.happens (h : Owes n session ks m) (hu : Happens m es u) : Owes n session ks u where
  placed := h.placed.happens hu
  begun := Nat.lt_of_lt_of_le h.begun (writes_happens hu)
  balance := by
    have hbalance := Observation.balance (f := ofNotification n) h.placed hu
    rw [begun_ofNotification h.begun, List.nil_append] at hbalance
    exact hbalance.trans h.balance

theorem step_write {c : StoreCommand} {cs : List StoreCommand} {rest : List Task}
    (ht : m.tasks = .perform (c :: cs) :: rest) (hw : c.written? = some session) :
    m.step = write session { m with tasks := .perform cs :: rest } := by
  rw [step, ht]
  cases c <;> cases hw <;> rfl

/-- A notification has made no call yet when it begins, and owes one to everyone who is attached. -/
theorem owes_step {c : StoreCommand} (hp : Placed m) (hc : m.next? = some c) (hw : c.written? = some session) :
    Owes m.writes session m.attached m.step := by
  obtain ⟨cs, rest, ht⟩ := tasks_of_next hc
  have hu := happens (tasks_ne_nil hc)
  refine ⟨hp.happens hu, ?_, ?_⟩
  · rw [step_write ht hw]
    exact Nat.lt_succ_self _
  · obtain ⟨htold, hcome⟩ : m.told (ofNotification m.writes) = [] ∧ m.toCome (ofNotification m.writes) = [] := by
      refine untold hp fun i k s _ hi => if_neg ?_
      intro hn
      exact Nat.lt_irrefl _ (hi _ hn)
    have hbalance := balance (f := ofNotification m.writes) hp hu
    rw [htold, hcome, begun_write hc hw, List.nil_append, List.append_nil] at hbalance
    refine hbalance.trans ?_
    rw [List.map_eq_flatMap]
    simp only [ofNotification, if_true]

theorem Run.owes {p : StoreCommand → Prop} {m₀ : Observation} (h₀ : Owes n session ks m₀) (h : Run p m₀ es m) :
    Owes n session ks m := by
  induction h with
  | start => exact h₀
  | command h hq hc ih => exact ⟨ih.placed.push, ih.begun, ih.balance⟩
  | step h hq ih => exact ih.happens (Observation.happens hq)

/-- A notification calls none but those whom it owed a call when it began, and with its session alone. -/
theorem Owes.mem {c : Call} (h : Owes n session ks m) (hc : c ∈ m.calls) (hn : c.notification = some n) :
    c.observer ∈ ks ∧ c.session = session := by
  have hmade : (c.observer, c.session) ∈ m.made n := by
    refine List.mem_flatMap.2 ⟨c, hc, ?_⟩
    rw [ofNotification, if_pos hn]
    exact List.mem_singleton.2 rfl
  have hmem : (c.observer, c.session) ∈ ks.map (·, session) := by
    rw [← h.balance]
    exact List.mem_append_left _ hmade
  obtain ⟨k, hk, heq⟩ := List.mem_map.1 hmem
  cases heq
  exact ⟨hk, rfl⟩

/-- A notification is over. -/
def Returned (n : Nat) (m : Observation) : Prop := ∀ s ks, Task.notify n s ks ∉ m.tasks

theorem owed_of_returned (h : Returned n m) : m.owed n = [] := by
  refine List.flatMap_eq_nil_iff.2 fun t ht => ?_
  cases t with
  | notify i s ks =>
    refine List.flatMap_eq_nil_iff.2 fun k _ => if_neg ?_
    intro hi
    cases hi
    exact h s ks ht
  | perform cs => rfl
  | file name k => rfl

/-! ## What a subscription calls -/

/-- The call of one observer for its subscription. -/
def greeting (k : Nat) (i : Option Nat) (j : Nat) (s : Session) : List Session := if i = none ∧ j = k then [s] else []

/-- The sessions that an observer was called with for its subscription. -/
def greeted (k : Nat) (m : Observation) : List Session := m.told (greeting k)

theorem observers_happens (hu : Happens m es u) : m.observers.length ≤ u.observers.length := by
  cases hu with
  | subscribed ht => simp [subscribe]
  | detached ht => simp
  | called ht => simp
  | filed ht => simp [hold]
  | _ => exact Nat.le_refl _

theorem Run.observers {p : StoreCommand → Prop} {m₀ : Observation} (h : Run p m₀ es m) :
    m₀.observers.length ≤ m.observers.length := by
  induction h with
  | start => exact Nat.le_refl _
  | command h hq hc ih => exact ih
  | step h hq ih => exact Nat.le_trans ih (observers_happens (Observation.happens hq))

/-- No notification greets anyone. -/
theorem toCome_greeting : m.toCome (greeting k) = [] := by
  refine List.flatMap_eq_nil_iff.2 fun t _ => ?_
  cases t with
  | notify i s ks => exact List.flatMap_eq_nil_iff.2 fun j _ => if_neg fun h => by cases h.1
  | perform cs => rfl
  | file name j => rfl

/-- One who has subscribed is not called for a subscription again. -/
theorem greeted_happens (hp : Placed m) (hk : k < m.observers.length) (hu : Happens m es u) :
    u.greeted k = m.greeted k := by
  have hbegun : m.begun (greeting k) = [] := by
    unfold begun
    split
    · rfl
    · exact if_neg fun h => Nat.ne_of_gt hk h.2
    · simp [greeting]
  have hbalance := balance (f := greeting k) hp hu
  rwa [toCome_greeting, toCome_greeting, hbegun, List.append_nil, List.append_nil, List.append_nil] at hbalance

/-- A subscription calls its observer with the current session, which it was not called with before. -/
theorem greeted_step {name : String} {script : Script} (hp : Placed m)
    (hc : m.next? = some (.subscribe name script)) :
    m.step.greeted m.observers.length = [m.store.current] := by
  obtain ⟨htold, -⟩ : m.told (greeting m.observers.length) = [] ∧ _ :=
    untold hp fun i j s hj _ => if_neg fun h => Nat.ne_of_lt hj h.2
  have hbalance := balance (f := greeting m.observers.length) hp (happens (tasks_ne_nil hc))
  rw [toCome_greeting, toCome_greeting, htold, begun_subscribe hc, List.append_nil, List.append_nil,
    List.nil_append] at hbalance
  exact hbalance.trans (if_pos ⟨rfl, rfl⟩)

theorem Run.greeted {p : StoreCommand → Prop} {m₀ : Observation} (h₀ : Placed m₀) (hk : k < m₀.observers.length)
    (h : Run p m₀ es m) : m.greeted k = m₀.greeted k := by
  induction h with
  | start => rfl
  | command h hq hc ih => exact ih
  | step h hq ih =>
    have hk' := Nat.lt_of_lt_of_le hk h.observers
    exact (greeted_happens (h.placed h₀) hk' (Observation.happens hq)).trans ih

end ClusterPanel.Observation
