import ClusterPanel.Proofs.Notifications

/- What an observer hears in all. If no observer writes, a write begins only when nothing else is under way, so the
   notifications come one after the other. The sessions that an observer was called with, and those that it is still
   owed, are then the one at its subscription and all that were written since, until it was detached (`Hears`). With
   what a single notification does and what a subscription does this is `notifications_complete`. -/
namespace ClusterPanel.Observation

variable {m u : Observation} {es es' : List Event} {n k : Nat} {session : Session}

/-! ## Observers that do not write -/

/-- Neither writes nor opens the store again. -/
def silent : StoreCommand → Bool
  | .write _ => false
  | .logout => false
  | .invalidate => false
  | .reopen => false
  | _ => true

theorem all_silent_of_written {c : StoreCommand} (hw : c.written? = some session) : c.all silent = false := by
  cases c with
  | write s => rfl
  | logout => rfl
  | invalidate => rfl
  | _ => cases hw

/-- A use of one store whose observers do not write. -/
def Hushed : StoreCommand → Prop
  | .reopen => False
  | .subscribe _ script => allOfScript silent script = true
  | _ => True

/-- Writes come from outside alone: what is to be done is a command that was just begun, or nothing in it writes. -/
structure Quiet (m : Observation) : Prop where
  observers : ∀ o ∈ m.observers, allOfScript silent o.script = true
  tasks : Confined silent m ∨ ∃ c, Hushed c ∧ m.tasks = [.perform [c]]

theorem quiet_of_confined (h : Confined silent m) : Quiet m := ⟨h.observers, .inl h⟩

/-- A step does nothing but what was to come up, so nothing is left that writes. -/
theorem Quiet.happens (h : Quiet m) (hu : Happens m es u) : Confined silent u := by
  obtain ⟨hobservers, hconfined | ⟨c, hc, htasks⟩⟩ := h
  · exact hconfined.happens hu
  -- Only the one command that was just begun is left, and after it nothing is.
  have hbase : Confined silent { m with tasks := [.perform []] } := by
    refine ⟨?_, hobservers⟩
    intro cs hcs c hmem
    cases List.mem_singleton.1 hcs
    cases hmem
  cases hu with
  | performed ht => rw [htasks] at ht; cases ht
  | looked ht hc => rw [htasks] at ht; cases ht; exact hbase
  | wrote ht hw => rw [htasks] at ht; cases ht; exact hbase.write
  | reopened ht => rw [htasks] at ht; cases ht; cases hc
  | subscribed ht => rw [htasks] at ht; cases ht; exact hbase.subscribe hc
  | detached ht => rw [htasks] at ht; cases ht; exact hbase.detach
  | notified ht => rw [htasks] at ht; cases ht
  | called ht => rw [htasks] at ht; cases ht
  | filed ht => rw [htasks] at ht; cases ht

theorem Run.quiet {p : StoreCommand → Prop} {m₀ : Observation} (hp : ∀ c, p c → Hushed c) (h₀ : Quiet m₀)
    (h : Run p m₀ es m) : Quiet m := by
  induction h with
  | start => exact h₀
  | command h hq hc ih => exact ⟨ih.observers, .inr ⟨_, hp _ hc, by rw [push, hq]⟩⟩
  | step h hq ih => exact quiet_of_confined (ih.happens (Observation.happens hq))

/-- Where observers do not write, a write begins when nothing else is to be done. -/
theorem Quiet.tasks_of_write {c : StoreCommand} {cs : List StoreCommand} {rest : List Task} (h : Quiet m)
    (ht : m.tasks = .perform (c :: cs) :: rest) (hw : c.written? = some session) : cs = [] ∧ rest = [] := by
  obtain ⟨-, hconfined | ⟨d, -, htasks⟩⟩ := h
  · have hsilent := (hconfined.next ht).1
    rw [all_silent_of_written hw] at hsilent
    cases hsilent
  · rw [htasks] at ht
    cases ht
    exact ⟨rfl, rfl⟩

theorem Quiet.ne_reopen {cs : List StoreCommand} {rest : List Task} (h : Quiet m) :
    m.tasks ≠ .perform (.reopen :: cs) :: rest := by
  intro ht
  obtain ⟨-, hconfined | ⟨d, hd, htasks⟩⟩ := h
  · cases (hconfined.next ht).1
  · rw [htasks] at ht
    cases ht
    cases hd

/-! ## What an observer hears -/

/-- The calls of one observer, whatever for. -/
def callsTo (k : Nat) (_ : Option Nat) (j : Nat) (s : Session) : List Session := if j = k then [s] else []

/-- The sessions that an observer was called with, in order. -/
def history (k : Nat) (m : Observation) : List Session := m.told (callsTo k)

/-- The sessions that were written while an observer was attached, in order. -/
def heard (k : Nat) : List Event → List Session
  | [] => []
  | .write s :: es => s :: heard k es
  | .detach j :: es => if j = k then [] else heard k es

theorem heard_append (k : Nat) (es es' : List Event) :
    heard k (es ++ es') = heard k es ++ if Event.detach k ∈ es then [] else heard k es' := by
  induction es with
  | nil => simp [heard]
  | cons e es ih =>
    cases e with
    | write s => simp [heard, ih]
    | detach j =>
      by_cases hj : j = k
      · simp [heard, hj]
      · simp [heard, hj, ih, Ne.symm hj]

theorem heard_leaves (k : Nat) (name : String) (m : Observation) : heard k (m.leaves name) = [] := by
  unfold leaves
  cases m.subscription? name with
  | none => rfl
  | some j =>
    change (if j = k then [] else []) = []
    split <;> rfl

theorem heard_append_of_nil (h : heard k es' = []) : heard k (es ++ es') = heard k es := by
  rw [heard_append, h]
  simp

/-- One that is attached is called once in a notification that begins, and nobody else is. -/
theorem flatMap_attached (hp : Placed m) (k n : Nat) (s : Session) :
    (m.attached.flatMap fun j => callsTo k (some n) j s) = if k ∈ m.attached then [s] else [] := by
  have hnodup : m.attached.Nodup := hp.ordered.imp Nat.ne_of_lt
  generalize m.attached = ks at hnodup ⊢
  induction ks with
  | nil => rfl
  | cons j ks ih =>
    obtain ⟨hj, hks⟩ := List.nodup_cons.1 hnodup
    rw [List.flatMap_cons, ih hks]
    by_cases hjk : j = k
    · subst hjk
      simp [callsTo, hj]
    · simp [callsTo, hjk, Ne.symm hjk]

/-- The sessions that an observer was called with, and those that it is still to be called with, are the one at its
    subscription and all that were written while it was attached. -/
structure Hears (k : Nat) (session : Session) (es : List Event) (m : Observation) : Prop where
  known : k < m.observers.length
  attached : k ∈ m.attached ↔ Event.detach k ∉ es
  balance : m.history k ++ m.toCome (callsTo k) = session :: heard k es

/-- Whoever has subscribed stays attached until a detachment names him. -/
theorem attached_happens (hk : k < m.observers.length)
    (hgo : ∀ cs rest, m.tasks ≠ .perform (.reopen :: cs) :: rest) (hu : Happens m es u) :
    k ∈ u.attached ↔ k ∈ m.attached ∧ Event.detach k ∉ es := by
  cases hu with
  | wrote ht hw => simp [write]
  | reopened ht => exact absurd ht (hgo _ _)
  | subscribed ht => simp [subscribe, Nat.ne_of_lt hk]
  | detached ht =>
    rw [attached_detach, List.mem_filter, decide_eq_true_iff]
    exact Iff.rfl
  | filed ht =>
    change k ∈ (detach _ _).attached ↔ _
    rw [attached_detach, List.mem_filter, decide_eq_true_iff]
    exact Iff.rfl
  | _ => simp

/-- A step that is no write begins nothing for those who have subscribed. -/
theorem begun_callsTo (hk : k < m.observers.length) (hw : ∀ c, m.next? = some c → c.written? = none) :
    m.begun (callsTo k) = [] := by
  unfold begun
  split
  · rfl
  · exact if_neg (Nat.ne_of_gt hk)
  · next c _ hc =>
    rw [hw c hc]
    rfl

theorem Hears.happens (h : Hears k session es m) (hp : Placed m) (hquiet : Quiet m) (hu : Happens m es' u) :
    Hears k session (es ++ es') u := by
  have hbalance := Observation.balance (f := callsTo k) hp hu
  refine ⟨Nat.lt_of_lt_of_le h.known (observers_happens hu), ?_, ?_⟩
  · rw [attached_happens h.known (fun _ _ => hquiet.ne_reopen) hu, h.attached, List.mem_append, not_or]
  · -- A step that is no write leaves the sum as it is, and a write adds its session if one is attached.
    have hsame : (∀ c, m.next? = some c → c.written? = none) → heard k es' = [] →
        u.history k ++ u.toCome (callsTo k) = session :: heard k (es ++ es') := by
      intro hw hes
      rw [begun_callsTo h.known hw, List.nil_append] at hbalance
      rw [heard_append_of_nil hes]
      exact hbalance.trans h.balance
    cases hu with
    | performed ht => exact hsame (by simp [next?, ht]) rfl
    | looked ht hc => exact hsame (by rcases hc with rfl | rfl | rfl <;> simp [next?, ht, StoreCommand.written?]) rfl
    | wrote ht hw =>
      -- No notification is under way, so nothing older is still to come.
      obtain ⟨rfl, rfl⟩ := hquiet.tasks_of_write ht hw
      have hnone : m.toCome (callsTo k) = [] := by simp [toCome, ht, Task.toCome]
      have htold := h.balance
      rw [hnone, List.append_nil] at htold
      rw [begun_write (next_of_tasks ht) hw, flatMap_attached hp, hnone, List.append_nil] at hbalance
      rw [heard_append, ← List.cons_append, ← htold]
      refine hbalance.trans ?_
      by_cases hk : k ∈ m.attached
      · rw [if_pos hk, if_neg (h.attached.1 hk)]
        rfl
      · rw [if_neg hk, if_pos (Decidable.not_not.1 fun hd => hk (h.attached.2 hd))]
        rfl
    | reopened ht => exact absurd ht hquiet.ne_reopen
    | subscribed ht => exact hsame (by simp [next?, ht, StoreCommand.written?]) rfl
    | detached ht => exact hsame (by simp [next?, ht, StoreCommand.written?]) (heard_leaves k _ m)
    | notified ht => exact hsame (by simp [next?, ht]) rfl
    | called ht => exact hsame (by simp [next?, ht]) rfl
    | filed ht => exact hsame (by simp [next?, ht]) (heard_leaves k _ m)

theorem Run.hears {p : StoreCommand → Prop} {m₀ : Observation} (hp : ∀ c, p c → Hushed c) (hplaced : Placed m₀)
    (hquiet : Quiet m₀) (h₀ : Hears k session [] m₀) (h : Run p m₀ es m) : Hears k session es m := by
  induction h with
  | start => exact h₀
  | command h hq hc ih => exact ⟨ih.known, ih.attached, ih.balance⟩
  | step h hq ih => exact ih.happens (h.placed hplaced) (h.quiet hp hquiet) (Observation.happens hq)

theorem step_subscribe {name : String} {script : Script} {cs : List StoreCommand} {rest : List Task}
    (ht : m.tasks = .perform (.subscribe name script :: cs) :: rest) :
    m.step = subscribe name script { m with tasks := .perform cs :: rest } := by
  rw [step, ht]
  rfl

/-- An observer that subscribes was not called before, nor is it to be called by any notification that is under way. -/
theorem hears_step {name : String} {script : Script} (hp : Placed m)
    (hc : m.next? = some (.subscribe name script)) : Hears m.observers.length m.store.current [] m.step := by
  obtain ⟨cs, rest, ht⟩ := tasks_of_next hc
  obtain ⟨htold, hcome⟩ : m.told (callsTo m.observers.length) = [] ∧ m.toCome (callsTo m.observers.length) = [] :=
    untold hp fun i j s hj _ => if_neg (Nat.ne_of_lt hj)
  have hbalance := balance (f := callsTo m.observers.length) hp (happens (tasks_ne_nil hc))
  rw [htold, hcome, begun_subscribe hc, List.nil_append, List.append_nil] at hbalance
  refine ⟨?_, ?_, hbalance.trans (if_pos rfl)⟩
  · rw [step_subscribe ht]
    simp [subscribe]
  · rw [step_subscribe ht]
    simp [subscribe]

/-! ## The whole of it -/

/-- Wherever a run has come to, let the next step begin a write or a subscription, and let the run go on from there.

    The calls that the write made and those that it owes are one call with its session for each observer that was
    attached when it began, in the order of their subscriptions, and it calls nobody else; when it is over it made them
    all. Whoever subscribes in the meantime has a number that none of them has.

    The subscription calls its observer at once with the session that is current then, and never again; and if
    observers do not write, then whenever nothing is left to do the observer was called with this session and with all
    that were written since while it was attached, in order and with nothing else. -/
theorem notifications_complete {p : StoreCommand → Prop} {s : Storage} {es₀ : List Event} {m₁ m₂ : Observation}
    (h₀ : Run p (.ofStorage s) es₀ m₁) (h : Run p m₁.step es m₂) :
    (∀ c session, m₁.next? = some c → c.written? = some session →
      m₁.attached.Pairwise (· < ·) ∧ (∀ k ∈ m₁.attached, k < m₂.observers.length) ∧
      m₂.made m₁.writes ++ m₂.owed m₁.writes = m₁.attached.map (·, session) ∧
      (∀ call ∈ m₂.calls, call.notification = some m₁.writes →
        call.observer ∈ m₁.attached ∧ call.session = session) ∧
      (Returned m₁.writes m₂ → m₂.made m₁.writes = m₁.attached.map (·, session))) ∧
    (∀ name script, m₁.next? = some (.subscribe name script) →
      m₁.step.attached = m₁.attached ++ [m₁.observers.length] ∧
      m₁.step.greeted m₁.observers.length = [m₁.store.current] ∧
      m₂.greeted m₁.observers.length = [m₁.store.current] ∧
      ((∀ c, p c → Hushed c) → m₂.tasks = [] →
        m₂.history m₁.observers.length = m₁.store.current :: heard m₁.observers.length es)) := by
  have hplaced : Placed m₁ := h₀.placed (placed_ofStorage s)
  constructor
  · intro c session hc hw
    have hstart := owes_step hplaced hc hw
    have howes := h.owes hstart
    refine ⟨hplaced.ordered, ?_, howes.balance, fun call hcall hn => howes.mem hcall hn, ?_⟩
    · intro k hk
      have hrun : Run p m₁ _ m₁.step := Run.start.next
      exact Nat.lt_of_lt_of_le (hplaced.attached k hk) (Nat.le_trans hrun.observers h.observers)
    · intro hreturned
      have hbalance := howes.balance
      rwa [owed_of_returned hreturned, List.append_nil] at hbalance
  · intro name script hc
    obtain ⟨cs, rest, ht⟩ := tasks_of_next hc
    have hq : m₁.tasks ≠ [] := tasks_ne_nil hc
    have hgreeted := greeted_step hplaced hc
    have hstart := hears_step hplaced hc
    have hplaced' := hplaced.happens (happens hq)
    refine ⟨?_, hgreeted, ?_, ?_⟩
    · rw [step_subscribe ht, subscribe, attached_call]
    · rw [h.greeted hplaced' hstart.known, hgreeted]
    · intro hp hdone
      have hquiet : Quiet m₁ := h₀.quiet hp (quiet_of_confined (confined_ofStorage s))
      have hquiet' : Quiet m₁.step := quiet_of_confined (hquiet.happens (happens hq))
      have hbalance := (h.hears hp hplaced' hquiet' hstart).balance
      have hnone : m₂.toCome (callsTo m₁.observers.length) = [] := by rw [toCome, hdone, List.flatMap_nil]
      rwa [hnone, List.append_nil] at hbalance

/-- The first observer subscribes another one and writes when it is called: the outer notification calls the two that
    were there when it began, with the outer session, although one of them was called with the inner one before. -/
theorem notifications_complete_nested :
    let outer : Session := { token := some "outer" }
    let inner : Session := { token := some "inner" }
    let first := StoreCommand.subscribe "first" [(2, .subscribe "late" []), (2, .write inner)]
    let second := StoreCommand.subscribe "second" []
    let start := ofStorage (.memory none {})
    let watched := (((start.push (.perform [first])).steps 4).push (.perform [second])).steps 4
    let before := watched.push (.perform [.write outer])
    let after := before.step.steps 18
    after.made 0 = [(0, outer), (1, outer)] ∧
      (after.calls.filter (·.notification ≠ none)).map (fun c => (c.observer, c.session)) =
        [(0, outer), (0, inner), (1, inner), (2, inner), (1, outer)] := by
  intro outer inner first second start watched before after
  have h₀ : Run (fun _ => True) start [] start := .start
  obtain ⟨_, h₁⟩ := (h₀.command (c := first) rfl trivial).steps 4
  obtain ⟨_, h₂⟩ := (h₁.command (c := second) rfl trivial).steps 4
  have h₃ := h₂.command (c := .write outer) rfl trivial
  have h₄ : Run (fun _ => True) before.step [] before.step := .start
  obtain ⟨_, h₅⟩ := h₄.steps 18
  have hdone : after.tasks = [] := List.isEmpty_iff.1 (by decide +kernel)
  have hreturned : Returned 0 after := fun s ks h => by rw [hdone] at h; cases h
  have hattached : before.attached = [0, 1] := by decide +kernel
  have hwrites : before.writes = 0 := by decide +kernel
  have hnext : before.next? = some (.write outer) := rfl
  obtain ⟨-, -, -, -, hmade⟩ := (notifications_complete h₃ h₅).1 (.write outer) outer hnext rfl
  rw [hwrites, hattached] at hmade
  exact ⟨hmade hreturned, by decide +kernel⟩

end ClusterPanel.Observation
