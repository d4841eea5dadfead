import ClusterPanel.Session.Observation

/- Runs of a store under observation, one small step at a time. `Run p m₀ es m` says that the machine gets from `m₀`
   to `m` by performing commands of which `p` holds, each begun when nothing else was left to do, and that `es` is
   what was begun on the way: the writes, and the detachments of observers. A run may stop anywhere, also in the
   midst of a notification within a notification; what is executed to its end is a run (`Run.execute`).

   Everything that a step can do is said once (`happens`); all that is proved of runs goes by cases on it. -/
namespace ClusterPanel

/-- The session that a command writes. -/
def StoreCommand.written? : StoreCommand → Option Session
  | .write session => some session
  | .logout => some .empty
  | .invalidate => some .empty
  | _ => none

mutual

/-- Something holds of a command and of all that the script in it has for an observer to do. -/
def StoreCommand.all (p : StoreCommand → Bool) : StoreCommand → Bool
  | .subscribe name script => p (.subscribe name script) && allOfScript p script
  | c => p c

/-- Something holds of all commands of a script. -/
def allOfScript (p : StoreCommand → Bool) : List (Nat × StoreCommand) → Bool
  | [] => true
  | (_, c) :: r => c.all p && allOfScript p r

end

theorem allOfScript_iff {p : StoreCommand → Bool} {script : Script} :
    allOfScript p script = true ↔ ∀ e ∈ script, e.2.all p = true := by
  induction script with
  | nil => simp [allOfScript]
  | cons e r ih => simp [allOfScript, ih]

namespace Observation

/-- What a step can begin. -/
inductive Event where
  | write (session : Session)
  | detach (observer : Nat)
deriving DecidableEq

/-- Whom it detaches to drop the subscription that is held under a name. -/
def leaves (name : String) (m : Observation) : List Event := (m.subscription? name).toList.map .detach

/-- What the next step begins. -/
def events (m : Observation) : List Event :=
  match m.tasks with
  | .perform (.detach name :: _) :: _ => m.leaves name
  | .perform (c :: _) :: _ => c.written?.toList.map .write
  | .file name _ :: _ => m.leaves name
  | _ => []

/-- The command that the next step performs. -/
def next? (m : Observation) : Option StoreCommand :=
  match m.tasks with
  | .perform (c :: _) :: _ => some c
  | _ => none

/-- A run, and what was begun in it. -/
inductive Run (p : StoreCommand → Prop) (m₀ : Observation) : List Event → Observation → Prop
  | start : Run p m₀ [] m₀
  | command {es : List Event} {m : Observation} {c : StoreCommand} (h : Run p m₀ es m) (hq : m.tasks = [])
      (hc : p c) : Run p m₀ es (m.push (.perform [c]))
  | step {es : List Event} {m : Observation} (h : Run p m₀ es m) (hq : m.tasks ≠ []) :
      Run p m₀ (es ++ m.events) m.step

variable {p : StoreCommand → Prop} {m₀ m : Observation} {es : List Event}

/-- Where nothing is left to do, a step leaves everything as it is. -/
theorem Run.next (h : Run p m₀ es m) : Run p m₀ (es ++ m.events) m.step := by
  by_cases hq : m.tasks = []
  · -- With nothing to do there is nothing to begin.
    have hevents : m.events = [] := by rw [events, hq]
    have hstep : m.step = m := by rw [Observation.step, hq]
    rwa [hevents, hstep, List.append_nil]
  · exact h.step hq

/-- So many steps. -/
def steps : Nat → Observation → Observation
  | 0, m => m
  | n + 1, m => steps n m.step

theorem Run.steps (n : Nat) (h : Run p m₀ es m) : ∃ es', Run p m₀ (es ++ es') (m.steps n) := by
  induction n generalizing es m with
  | zero => exact ⟨[], by rwa [List.append_nil]⟩
  | succ n ih =>
    obtain ⟨es', h'⟩ := ih h.next
    exact ⟨m.events ++ es', by rwa [← List.append_assoc]⟩

/-- What is done until nothing is left to do. -/
theorem Run.run (h : Run p m₀ es m) : ∃ es', Run p m₀ (es ++ es') m.run := by
  induction m using Observation.run.induct generalizing es with
  | case1 m hq =>
    rw [Observation.run, dif_pos hq]
    exact ⟨[], by rwa [List.append_nil]⟩
  | case2 m hq ih =>
    rw [Observation.run, dif_neg hq]
    obtain ⟨es', h'⟩ := ih (h.step hq)
    exact ⟨m.events ++ es', by rwa [← List.append_assoc]⟩

/-- What is done comes to its end. -/
theorem tasks_run (m : Observation) : m.run.tasks = [] := by
  induction m using Observation.run.induct with
  | case1 m hq => rwa [Observation.run, dif_pos hq]
  | case2 m hq ih => rwa [Observation.run, dif_neg hq]

/-- A command that is executed, with all that comes of it. -/
theorem Run.execute {c : StoreCommand} (h : Run p m₀ es m) (hq : m.tasks = []) (hc : p c) :
    (∃ es', Run p m₀ (es ++ es') (m.execute c)) ∧ (m.execute c).tasks = [] :=
  ⟨(h.command hq hc).run, tasks_run _⟩

/-! ## What a step can do -/

/-- The cases of a step, with what is begun in each. -/
inductive Happens (m : Observation) : List Event → Observation → Prop
  | performed {rest : List Task} (h : m.tasks = .perform [] :: rest) : Happens m [] { m with tasks := rest }
  | looked {c : StoreCommand} {cs : List StoreCommand} {rest : List Task}
      (h : m.tasks = .perform (c :: cs) :: rest) (hc : c = .read ∨ c = .count ∨ c = .describe) :
      Happens m [] { m with tasks := .perform cs :: rest }
  | wrote {c : StoreCommand} {cs : List StoreCommand} {rest : List Task} {session : Session}
      (h : m.tasks = .perform (c :: cs) :: rest) (hc : c.written? = some session) :
      Happens m [.write session] (write session { m with tasks := .perform cs :: rest })
  | reopened {cs : List StoreCommand} {rest : List Task} (h : m.tasks = .perform (.reopen :: cs) :: rest) :
      Happens m [] { m with store := m.store.reopen, attached := [], tasks := .perform cs :: rest }
  | subscribed {name : String} {script : Script} {cs : List StoreCommand} {rest : List Task}
      (h : m.tasks = .perform (.subscribe name script :: cs) :: rest) :
      Happens m [] (subscribe name script { m with tasks := .perform cs :: rest })
  | detached {name : String} {cs : List StoreCommand} {rest : List Task}
      (h : m.tasks = .perform (.detach name :: cs) :: rest) :
      Happens m (m.leaves name) (detach name { m with tasks := .perform cs :: rest })
  | notified {n : Nat} {session : Session} {rest : List Task} (h : m.tasks = .notify n session [] :: rest) :
      Happens m [] { m with tasks := rest }
  | called {n k : Nat} {session : Session} {ks : List Nat} {rest : List Task}
      (h : m.tasks = .notify n session (k :: ks) :: rest) :
      Happens m [] (call k (some n) session { m with tasks := .notify n session ks :: rest })
  | filed {name : String} {k : Nat} {rest : List Task} (h : m.tasks = .file name k :: rest) :
      Happens m (m.leaves name) (hold name k { m with tasks := rest })

theorem happens (h : m.tasks ≠ []) : Happens m m.events m.step := by
  unfold events step
  rcases ht : m.tasks with _ | ⟨task, rest⟩
  · exact absurd ht h
  -- The cases are those of the first task, and within it those of its first command.
  cases task with
  | perform cs =>
    rcases cs with _ | ⟨c, cs⟩
    · exact .performed ht
    cases c with
    | read => exact .looked ht (.inl rfl)
    | count => exact .looked ht (.inr (.inl rfl))
    | describe => exact .looked ht (.inr (.inr rfl))
    | write session => exact .wrote ht rfl
    | logout => exact .wrote ht rfl
    | invalidate => exact .wrote ht rfl
    | reopen => exact .reopened ht
    | subscribe name script => exact .subscribed ht
    | detach name => exact .detached ht
  | notify n session ks =>
    rcases ks with _ | ⟨k, ks⟩
    · exact .notified ht
    · exact .called ht
  | file name k => exact .filed ht

/-! ## What a call and a detachment leave as it was -/

section Fields

variable {name : String} {k : Nat} {n : Option Nat} {session : Session}

@[simp] theorem store_detach : (m.detach name).store = m.store := by
  unfold detach
  split <;> rfl

@[simp] theorem observers_detach : (m.detach name).observers = m.observers := by
  unfold detach
  split <;> rfl

@[simp] theorem calls_detach : (m.detach name).calls = m.calls := by
  unfold detach
  split <;> rfl

@[simp] theorem writes_detach : (m.detach name).writes = m.writes := by
  unfold detach
  split <;> rfl

@[simp] theorem tasks_detach : (m.detach name).tasks = m.tasks := by
  unfold detach
  split <;> rfl

/-- A detachment takes away whom it names, and keeps the order of the others. -/
theorem attached_detach : (m.detach name).attached = m.attached.filter fun k => Event.detach k ∉ m.leaves name := by
  unfold detach leaves
  cases m.subscription? name with
  | none => exact (List.filter_eq_self.2 fun _ _ => by simp).symm
  | some k =>
    simp only [Option.toList_some, List.map_cons, List.map_nil, List.mem_singleton, Event.detach.injEq]

@[simp] theorem store_call : (m.call k n session).store = m.store := by
  unfold call
  split <;> rfl

@[simp] theorem attached_call : (m.call k n session).attached = m.attached := by
  unfold call
  split <;> rfl

@[simp] theorem writes_call : (m.call k n session).writes = m.writes := by
  unfold call
  split <;> rfl

/-- A call as it is recorded. -/
def callOf (k : Nat) (o : Observer) (n : Option Nat) (session : Session) (m : Observation) : Call where
  observer := k
  name := o.name
  number := o.calls + 1
  session := session
  notification := n
  current := m.store.current
  recorded := m.store.storage.record?.isSome

/-- A call of one who is there: it is recorded, and what the script has for it is to be done next. -/
theorem call_eq {o : Observer} (h : m.observers[k]? = some o) :
    m.call k n session =
      { m with
        observers := m.observers.set k (Observer.called o)
        calls := m.calls ++ [callOf k o n session m]
        tasks := .perform (due (o.calls + 1) o.script) :: m.tasks } := by
  rw [call, h]
  rfl

@[simp] theorem length_observers_call : (m.call k n session).observers.length = m.observers.length := by
  unfold call
  split
  · rfl
  · exact List.length_set

end Fields

/-! ## What may come up -/

/-- Something holds of all that may come up: of the commands that are to be performed, and of the scripts. -/
structure Confined (p : StoreCommand → Bool) (m : Observation) : Prop where
  tasks : ∀ cs, Task.perform cs ∈ m.tasks → ∀ c ∈ cs, c.all p = true
  observers : ∀ o ∈ m.observers, allOfScript p o.script = true

variable {q : StoreCommand → Bool}

/-- Nothing comes up but what was to come up before. -/
theorem Confined.call {k : Nat} {n : Option Nat} {session : Session} (h : Confined q m) :
    Confined q (m.call k n session) := by
  cases ho : m.observers[k]? with
  | none =>
    rw [Observation.call, ho]
    exact h
  | some o =>
    -- What is due now and what stays in the script are both parts of the script.
    have hscript := allOfScript_iff.1 (h.observers o (List.mem_of_getElem? ho))
    rw [call_eq ho]
    constructor
    · intro cs hcs c hc
      rcases List.mem_cons.1 hcs with hcs | hcs
      · cases hcs
        obtain ⟨e, he, rfl⟩ := List.mem_map.1 hc
        exact hscript e (List.mem_filter.1 he).1
      · exact h.tasks cs hcs c hc
    · intro o' ho'
      rcases List.mem_or_eq_of_mem_set ho' with ho' | rfl
      · exact h.observers o' ho'
      · exact allOfScript_iff.2 fun e he => hscript e (List.mem_filter.1 he).1

theorem Confined.next {c : StoreCommand} {cs : List StoreCommand} {rest : List Task} (h : Confined q m)
    (ht : m.tasks = .perform (c :: cs) :: rest) :
    c.all q = true ∧ Confined q { m with tasks := .perform cs :: rest } := by
  have hcs : ∀ d ∈ c :: cs, d.all q = true := h.tasks (c :: cs) (by rw [ht]; exact List.mem_cons_self)
  refine ⟨hcs c List.mem_cons_self, ?_, h.observers⟩
  intro ds hds d hd
  rcases List.mem_cons.1 hds with hds | hds
  · cases hds
    exact hcs d (List.mem_cons_of_mem _ hd)
  · exact h.tasks ds (by rw [ht]; exact List.mem_cons_of_mem _ hds) d hd

/-- A step that puts a task without commands in the stead of the first one, or none. -/
theorem Confined.replace {t : Task} {rest : List Task} (ts : List Task) (h : Confined q m) (ht : m.tasks = t :: rest)
    (hts : ∀ cs, Task.perform cs ∉ ts) : Confined q { m with tasks := ts ++ rest } := by
  refine ⟨?_, h.observers⟩
  intro cs hcs
  rcases List.mem_append.1 hcs with hcs | hcs
  · exact absurd hcs (hts cs)
  · exact h.tasks cs (by rw [ht]; exact List.mem_cons_of_mem _ hcs)

theorem Confined.write {session : Session} (h : Confined q m) : Confined q (m.write session) := by
  refine ⟨?_, h.observers⟩
  intro cs hcs
  rcases List.mem_cons.1 hcs with hcs | hcs
  · cases hcs
  · exact h.tasks cs hcs

theorem Confined.subscribe {name : String} {script : Script} (h : Confined q m) (hs : allOfScript q script = true) :
    Confined q (m.subscribe name script) := by
  apply Confined.call
  constructor
  · intro cs hcs
    rcases List.mem_cons.1 hcs with hcs | hcs
    · cases hcs
    · exact h.tasks cs hcs
  · intro o ho
    rcases List.mem_append.1 ho with ho | ho
    · exact h.observers o ho
    · cases List.mem_singleton.1 ho
      exact hs

theorem Confined.detach {name : String} (h : Confined q m) : Confined q (m.detach name) :=
  ⟨by rw [tasks_detach]; exact h.tasks, by rw [observers_detach]; exact h.observers⟩

theorem Confined.hold {name : String} {k : Nat} (h : Confined q m) : Confined q (m.hold name k) :=
  ⟨h.detach.tasks, h.detach.observers⟩

/-- Nothing comes up in a step but what was to come up before. -/
theorem Confined.happens {u : Observation} (h : Confined q m) (hu : Happens m es u) : Confined q u := by
  cases hu with
  | performed ht => exact h.replace [] ht (by simp)
  | looked ht hc => exact (h.next ht).2
  | wrote ht hc => exact (h.next ht).2.write
  | reopened ht =>
    obtain ⟨-, h'⟩ := h.next ht
    exact ⟨h'.tasks, h'.observers⟩
  | subscribed ht =>
    obtain ⟨hall, h'⟩ := h.next ht
    simp only [StoreCommand.all, Bool.and_eq_true] at hall
    exact h'.subscribe hall.2
  | detached ht => exact (h.next ht).2.detach
  | notified ht => exact h.replace [] ht (by simp)
  | called ht => exact (h.replace [.notify _ _ _] ht (by simp)).call
  | filed ht => exact (h.replace [] ht (by simp)).hold

/-- What holds of all commands that are begun holds of all that ever come up. -/
theorem Run.confined (h₀ : Confined q m₀) (hp : ∀ c, p c → c.all q = true) (h : Run p m₀ es m) : Confined q m := by
  induction h with
  | start => exact h₀
  | command h hq hc ih =>
    refine ⟨?_, ih.observers⟩
    intro cs hcs
    rcases List.mem_cons.1 hcs with hcs | hcs
    · cases hcs
      intro d hd
      cases List.mem_singleton.1 hd
      exact hp _ hc
    · exact ih.tasks cs hcs
  | step h hq ih => exact ih.happens (happens hq)

theorem confined_ofStorage (s : Storage) : Confined q (.ofStorage s) :=
  ⟨fun _ hcs => absurd hcs List.not_mem_nil, fun _ ho => absurd ho List.not_mem_nil⟩

end Observation

end ClusterPanel
