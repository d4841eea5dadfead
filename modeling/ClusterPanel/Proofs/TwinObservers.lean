import ClusterPanel.Proofs.TwinSessions
import ClusterPanel.Session.Observation
import Mathlib.Data.List.Forall2

/- Stores of twins under observation. Two machines that have twin sessions in their stores, in the notifications that
   are still to be made and in what their observers are still to write take every step alike (`Observation.Twins.step`):
   the same observers are called, at the same time and in the same order, with sessions that are twins; and so does all
   that comes of a command (`Observation.Twins.execute`). What the store says of itself, its observers counted, is the
   same at any time (`Observation.Twins.describe`). -/
namespace ClusterPanel

open List (Forall₂)

/-! ## Commands -/

mutual

/-- The same command, but for sessions that are written, here or by an observer, which may be twins. -/
inductive StoreCommand.Twins : StoreCommand → StoreCommand → Prop
  | same (c : StoreCommand) : StoreCommand.Twins c c
  | write {s s' : Session} (h : s.Twins s') : StoreCommand.Twins (.write s) (.write s')
  | subscribe (name : String) {script script' : List (Nat × StoreCommand)} (h : Script.Twins script script') :
      StoreCommand.Twins (.subscribe name script) (.subscribe name script')

/-- Twin commands, each due in the same call. -/
inductive Script.Twins : List (Nat × StoreCommand) → List (Nat × StoreCommand) → Prop
  | nil : Script.Twins [] []
  | cons (number : Nat) {c c' : StoreCommand} {r r' : List (Nat × StoreCommand)} (h : StoreCommand.Twins c c')
      (hr : Script.Twins r r') : Script.Twins ((number, c) :: r) ((number, c') :: r')

end

theorem Script.Twins.refl (script : Script) : Script.Twins script script := by
  induction script with
  | nil => exact .nil
  | cons e r ih => exact .cons e.1 (.same e.2) ih

namespace Observation

theorem due_twins {script script' : Script} (h : Script.Twins script script') (n : Nat) :
    Forall₂ StoreCommand.Twins (due n script) (due n script') := by
  induction script generalizing script' with
  | nil =>
    cases h
    exact .nil
  | cons e r ih =>
    cases h with
    | cons number hc hr =>
      have ih := ih hr
      unfold due at ih ⊢
      rw [List.filter_cons, List.filter_cons]
      dsimp only
      split
      · exact .cons hc ih
      · exact ih

theorem filter_twins {script script' : Script} (h : Script.Twins script script') (n : Nat) :
    Script.Twins (script.filter (·.1 ≠ n)) (script'.filter (·.1 ≠ n)) := by
  induction script generalizing script' with
  | nil =>
    cases h
    exact .nil
  | cons e r ih =>
    cases h with
    | cons number hc hr =>
      rw [List.filter_cons, List.filter_cons]
      dsimp only
      split
      · exact .cons number hc (ih hr)
      · exact ih hr

end Observation

/-! ## Lists -/

section Lists

variable {α β : Type} {R : α → β → Prop} {xs : List α} {ys : List β}

theorem getElem?_of_forall₂ (h : Forall₂ R xs ys) (k : Nat) : Option.Rel R xs[k]? ys[k]? := by
  induction h generalizing k with
  | nil => exact .none
  | cons h _ ih =>
    cases k with
    | zero => exact .some h
    | succ k => exact ih k

theorem set_of_forall₂ (h : Forall₂ R xs ys) {x : α} {y : β} (hxy : R x y) (k : Nat) :
    Forall₂ R (xs.set k x) (ys.set k y) := by
  induction h generalizing k with
  | nil => exact .nil
  | cons h hs ih =>
    cases k with
    | zero => exact .cons hxy hs
    | succ k => exact .cons h (ih k)

end Lists

/-! ## Machines -/

structure Observer.Twins (o o' : Observer) : Prop where
  name : o.name = o'.name
  script : Script.Twins o.script o'.script
  calls : o.calls = o'.calls

/-- The same call, but for the sessions that are handed over and read, which are twins. -/
structure Call.Twins (c c' : Call) : Prop where
  observer : c.observer = c'.observer
  name : c.name = c'.name
  number : c.number = c'.number
  session : c.session.Twins c'.session
  notification : c.notification = c'.notification
  current : c.current.Twins c'.current
  recorded : c.recorded = c'.recorded

inductive Task.Twins : Task → Task → Prop
  | perform {cs cs' : List StoreCommand} (h : Forall₂ StoreCommand.Twins cs cs') : Twins (.perform cs) (.perform cs')
  | notify (n : Nat) {s s' : Session} (h : s.Twins s') (ks : List Nat) : Twins (.notify n s ks) (.notify n s' ks)
  | file (name : String) (k : Nat) : Twins (.file name k) (.file name k)

namespace Observation

structure Twins (m m' : Observation) : Prop where
  store : m.store.Twins m'.store
  observers : Forall₂ Observer.Twins m.observers m'.observers
  attached : m.attached = m'.attached
  held : m.held = m'.held
  calls : Forall₂ Call.Twins m.calls m'.calls
  writes : m.writes = m'.writes
  tasks : Forall₂ Task.Twins m.tasks m'.tasks

theorem twins_ofStorage {s s' : Storage} (h : s.Twins s') : (ofStorage s).Twins (ofStorage s') :=
  ⟨SessionStore.twins_ofStorage h, .nil, rfl, rfl, .nil, rfl, .nil⟩

variable {m m' : Observation}

namespace Twins

/-- What the store says of itself tells no token. -/
theorem describe (h : m.Twins m') : m.describe = m'.describe := by
  unfold Observation.describe
  rw [h.store.current.describe, h.attached]

theorem tasks_nil (h : m.Twins m') : m.tasks = [] ↔ m'.tasks = [] := by
  rw [← List.length_eq_zero_iff, ← List.length_eq_zero_iff, h.tasks.length_eq]

/-- The rest of the work in the stead of all of it. -/
theorem replace (h : m.Twins m') {ts ts' : List Task} (ht : Forall₂ Task.Twins ts ts') :
    Twins { m with tasks := ts } { m' with tasks := ts' } :=
  ⟨h.store, h.observers, h.attached, h.held, h.calls, h.writes, ht⟩

theorem call (h : m.Twins m') (k : Nat) (n : Option Nat) {s s' : Session} (hs : s.Twins s') :
    (m.call k n s).Twins (m'.call k n s') := by
  have hobserver := getElem?_of_forall₂ h.observers k
  unfold Observation.call
  generalize m.observers[k]? = o at hobserver ⊢
  generalize m'.observers[k]? = o' at hobserver ⊢
  cases hobserver with
  | none => exact h
  | @some o o' ho =>
    have hcalled : Observer.Twins (Observer.called o) (Observer.called o') := by
      unfold Observer.called
      rw [ho.calls]
      exact ⟨ho.name, filter_twins ho.script _, rfl⟩
    have hdue := due_twins ho.script (o.calls + 1)
    rw [ho.calls] at hdue
    refine ⟨h.store, set_of_forall₂ h.observers hcalled k, h.attached, h.held, ?_, h.writes, ?_⟩
    · -- What is recorded of the call: twins are handed over and read, and a record is there for both or for neither.
      refine List.rel_append h.calls (.cons ⟨rfl, ho.name, ?_, hs, rfl, h.store.current, h.store.storage.record⟩ .nil)
      exact congrArg (· + 1) ho.calls
    · dsimp only
      rw [ho.calls]
      exact .cons (.perform hdue) h.tasks

theorem detach (h : m.Twins m') (name : String) : (m.detach name).Twins (m'.detach name) := by
  have hsubscription : m.subscription? name = m'.subscription? name := by rw [subscription?, subscription?, h.held]
  unfold Observation.detach
  rw [hsubscription, h.attached, h.held]
  cases m'.subscription? name with
  | none => exact ⟨h.store, h.observers, h.attached, h.held, h.calls, h.writes, h.tasks⟩
  | some k => exact ⟨h.store, h.observers, rfl, rfl, h.calls, h.writes, h.tasks⟩

theorem hold (h : m.Twins m') (name : String) (k : Nat) : (m.hold name k).Twins (m'.hold name k) := by
  have hdetach := h.detach name
  unfold Observation.hold
  refine ⟨hdetach.store, hdetach.observers, hdetach.attached, ?_, hdetach.calls, hdetach.writes, hdetach.tasks⟩
  dsimp only
  rw [hdetach.held]

theorem write (h : m.Twins m') {s s' : Session} (hs : s.Twins s') : (m.write s).Twins (m'.write s') := by
  refine ⟨h.store.write hs, h.observers, h.attached, h.held, h.calls, congrArg (· + 1) h.writes, ?_⟩
  unfold Observation.write
  dsimp only
  rw [h.writes, h.attached]
  exact .cons (.notify _ hs _) h.tasks

theorem subscribe (h : m.Twins m') (name : String) {script script' : Script} (hs : Script.Twins script script') :
    (m.subscribe name script).Twins (m'.subscribe name script') := by
  have hnew : Observer.Twins { name := name, script := script } { name := name, script := script' } := ⟨rfl, hs, rfl⟩
  have hattached : m.attached ++ [m'.observers.length] = m'.attached ++ [m'.observers.length] := by rw [h.attached]
  -- The new observer is there, and what it is to be filed under is to be done, when it is called.
  have hbefore : Twins
      { m with observers := m.observers ++ [{ name := name, script := script }],
               attached := m.attached ++ [m'.observers.length],
               tasks := .file name m'.observers.length :: m.tasks }
      { m' with observers := m'.observers ++ [{ name := name, script := script' }],
                attached := m'.attached ++ [m'.observers.length],
                tasks := .file name m'.observers.length :: m'.tasks } :=
    ⟨h.store, List.rel_append h.observers (.cons hnew .nil), hattached, h.held, h.calls, h.writes,
      .cons (.file _ _) h.tasks⟩
  unfold Observation.subscribe
  dsimp only
  rw [h.observers.length_eq]
  exact hbefore.call _ none h.store.current

theorem perform (h : m.Twins m') {c c' : StoreCommand} (hc : c.Twins c') : (m.perform c).Twins (m'.perform c') := by
  cases hc with
  | same =>
    cases c with
    | read | count | describe => exact h
    | write s => exact h.write (.same s)
    | logout | invalidate => exact h.write (.same .empty)
    | reopen => exact ⟨h.store.reopen, h.observers, rfl, h.held, h.calls, h.writes, h.tasks⟩
    | subscribe name script => exact h.subscribe name (.refl script)
    | detach name => exact h.detach name
  | write hs => exact h.write hs
  | subscribe name hs => exact h.subscribe name hs

theorem step (h : m.Twins m') : m.step.Twins m'.step := by
  have htasks := h.tasks
  unfold Observation.step
  generalize ht : m.tasks = ts at htasks ⊢
  generalize ht' : m'.tasks = ts' at htasks ⊢
  cases htasks with
  | nil => exact h
  | cons htask hrest =>
    cases htask with
    | perform hcs =>
      cases hcs with
      | nil => exact h.replace hrest
      | cons hc hcs => exact (h.replace (.cons (.perform hcs) hrest)).perform hc
    | notify n hs ks =>
      cases ks with
      | nil => exact h.replace hrest
      | cons k ks => exact (h.replace (.cons (.notify n hs ks) hrest)).call k (some n) hs
    | file name k => exact (h.replace hrest).hold name k

/-- The two end after the same number of steps, since work is left to both or to neither. -/
theorem run (h : m.Twins m') : m.run.Twins m'.run := by
  induction m using Observation.run.induct generalizing m' with
  | case1 m hq =>
    rw [Observation.run, dif_pos hq, Observation.run, dif_pos (h.tasks_nil.1 hq)]
    exact h
  | case2 m hq ih =>
    have hm : m.run = m.step.run := by rw [Observation.run, dif_neg hq]
    have hm' : m'.run = m'.step.run := by rw [Observation.run, dif_neg fun hq' => hq (h.tasks_nil.2 hq')]
    rw [hm, hm']
    exact ih h.step

/-- All that comes of a command. -/
theorem execute (h : m.Twins m') {c c' : StoreCommand} (hc : c.Twins c') : (m.execute c).Twins (m'.execute c') :=
  (h.replace (.cons (.perform (.cons hc .nil)) h.tasks)).run

/-- All that comes of commands that are performed one after the other. -/
theorem foldl_execute (h : m.Twins m') {cs cs' : List StoreCommand} (hcs : Forall₂ StoreCommand.Twins cs cs') :
    (cs.foldl (fun m c => m.execute c) m).Twins (cs'.foldl (fun m c => m.execute c) m') :=
  List.rel_foldl (fun _ _ h _ _ hc => h.execute hc) h hcs

end Twins

end Observation

end ClusterPanel
