import ClusterPanel.Number.Total
import ClusterPanel.Session.Store

/- A store under observation. An observer is called with the current session when it subscribes, and with the
   written session after every write, and it may use the store itself while it is called; so notifications nest.
   The machine below keeps what is still to be done on a stack and takes one small step at a time: it performs a
   command, or makes the next call of a notification, or files a subscription. A notification calls the observers
   that were attached when it began, in the order of their subscriptions.

   What an observer does is a finite script, and no entry of it is used twice. So the work that is left shrinks
   (`Observation.work_step`), and every run comes to its end (`Observation.run`). -/
namespace ClusterPanel

/-- What is done with a store. The script of an observer says what it does in which of its calls, counted from one. -/
inductive StoreCommand where
  | read
  | count
  | describe
  | write (session : Session)
  | logout
  | invalidate
  | reopen
  | subscribe (name : String) (script : List (Nat × StoreCommand))
  | detach (name : String)
deriving Inhabited

/-- What an observer does, each at the number of its call. -/
abbrev Script := List (Nat × StoreCommand)

mutual

/-- The number of commands in a command. -/
def StoreCommand.size : StoreCommand → Nat
  | .subscribe _ script => 1 + sizeOfScript script
  | _ => 1

/-- The number of commands in a script. -/
def sizeOfScript : List (Nat × StoreCommand) → Nat
  | [] => 0
  | (_, c) :: r => c.size + sizeOfScript r

end

/-- One who is told about the session: the calls so far, and what is left of the script. -/
structure Observer where
  name : String
  script : Script
  calls : Nat := 0

/-- One call of an observer: which one it is, with which session, and for which write; the call at a subscription
    belongs to none. `current` and `recorded` are what the observer can see of the store meanwhile. -/
structure Call where
  observer : Nat
  name : String
  number : Nat
  session : Session
  notification : Option Nat
  current : Session
  recorded : Bool
deriving Repr

/-- What is still to be done. Observers are named by the order of their subscriptions, notifications by the order of
    their writes. -/
inductive Task where
  | perform (commands : List StoreCommand)
  | notify (notification : Nat) (session : Session) (observers : List Nat)
  | file (name : String) (observer : Nat)

/-- A store, all observers it ever had, those that are attached, the subscriptions that are held by name, the calls
    that were made, the number of writes, and what is still to be done. -/
structure Observation where
  store : SessionStore
  observers : List Observer := []
  attached : List Nat := []
  held : List (String × Nat) := []
  calls : List Call := []
  writes : Nat := 0
  tasks : List Task := []

namespace Observation

/-- A store that nobody observes yet. -/
def ofStorage (s : Storage) : Observation := { store := .ofStorage s }

/-- The subscription that is held under a name. -/
def subscription? (name : String) (m : Observation) : Option Nat := (m.held.find? (·.1 = name)).map (·.2)

/-- Drops the subscription that is held under a name: its observer is no longer attached. -/
def detach (name : String) (m : Observation) : Observation :=
  match m.subscription? name with
  | none => m
  | some k => { m with attached := m.attached.filter (· ≠ k), held := m.held.filter (·.1 ≠ name) }

/-- Holds a subscription under a name, in the stead of the one that was held under it. -/
def hold (name : String) (k : Nat) (m : Observation) : Observation :=
  let m := m.detach name
  { m with held := m.held ++ [(name, k)] }

/-- Puts a task before all others. -/
def push (t : Task) (m : Observation) : Observation := { m with tasks := t :: m.tasks }

/-- The commands of a script for the call of a number. -/
def due (number : Nat) (script : Script) : List StoreCommand := (script.filter (·.1 = number)).map (·.2)

def Observer.called (o : Observer) : Observer :=
  { o with calls := o.calls + 1, script := o.script.filter (·.1 ≠ o.calls + 1) }

def call (k : Nat) (notification : Option Nat) (session : Session) (m : Observation) : Observation :=
  match m.observers[k]? with
  | none => m
  | some o =>
    { m with
      observers := m.observers.set k (Observer.called o)
      calls := m.calls ++
        [{ observer := k, name := o.name, number := o.calls + 1, session, notification,
           current := m.store.current, recorded := m.store.storage.record?.isSome }]
      tasks := .perform (due (o.calls + 1) o.script) :: m.tasks }

/-- Writes a session; the notification is still to be made. -/
def write (session : Session) (m : Observation) : Observation :=
  { m with store := m.store.write session, writes := m.writes + 1,
           tasks := .notify m.writes session m.attached :: m.tasks }

/-- Attaches an observer and calls it; the subscription is still to be filed. -/
def subscribe (name : String) (script : Script) (m : Observation) : Observation :=
  let k := m.observers.length
  call k none m.store.current
    { m with observers := m.observers ++ [{ name, script }], attached := m.attached ++ [k],
             tasks := .file name k :: m.tasks }

/-- Performs a command, as far as it goes before other tasks. -/
def perform (c : StoreCommand) (m : Observation) : Observation :=
  match c with
  | .read => m
  | .count => m
  | .describe => m
  | .write session => m.write session
  | .logout => m.write .empty
  | .invalidate => m.write .empty
  | .reopen => { m with store := m.store.reopen, attached := [] }
  | .subscribe name script => m.subscribe name script
  | .detach name => m.detach name

/-- Does the next bit of the first task. -/
def step (m : Observation) : Observation :=
  match m.tasks with
  | [] => m
  | .perform [] :: rest => { m with tasks := rest }
  | .perform (c :: cs) :: rest => perform c { m with tasks := .perform cs :: rest }
  | .notify _ _ [] :: rest => { m with tasks := rest }
  | .notify n s (k :: ks) :: rest => call k (some n) s { m with tasks := .notify n s ks :: rest }
  | .file name k :: rest => hold name k { m with tasks := rest }

/-! ## The work that is left -/

/-- The number of commands in a list. -/
def sizeOfCommands (cs : List StoreCommand) : Nat := total (cs.map StoreCommand.size)

def Task.commands : Task → Nat
  | .perform cs => sizeOfCommands cs
  | _ => 0

/-- The steps of a task, commands not counted. -/
def Task.steps : Task → Nat
  | .perform _ => 1
  | .notify _ _ ks => 1 + 2 * ks.length
  | .file _ _ => 1

/-- The commands that are still to be performed or may still come up in a script. -/
def commandsLeft (m : Observation) : Nat :=
  total (m.tasks.map Task.commands) + total (m.observers.map fun o => sizeOfScript o.script)

/-- The steps of the tasks, commands not counted. -/
def stepsLeft (m : Observation) : Nat := total (m.tasks.map Task.steps)

/-- The work that is left: first the commands, then the steps of the tasks. -/
def work (m : Observation) : Nat × Nat := (m.commandsLeft, m.stepsLeft)

/-- Less work. -/
def Less (a b : Nat × Nat) : Prop := a.1 < b.1 ∨ a.1 ≤ b.1 ∧ a.2 < b.2

theorem size_pos (c : StoreCommand) : 0 < c.size := by
  cases c <;> simp only [StoreCommand.size] <;> omega

theorem sizeOfScript_filter (n : Nat) (script : Script) :
    sizeOfScript (script.filter (·.1 ≠ n)) + sizeOfCommands (due n script) = sizeOfScript script := by
  induction script with
  | nil => rfl
  | cons e r ih =>
    obtain ⟨i, c⟩ := e
    by_cases h : i = n <;> simp_all [due, sizeOfScript, sizeOfCommands] <;> omega

theorem total_set {α : Type} (f : α → Nat) {xs : List α} {k : Nat} {x y : α} (h : xs[k]? = some x) :
    total ((xs.set k y).map f) + f x = total (xs.map f) + f y := by
  induction xs generalizing k with
  | nil => simp at h
  | cons a r ih =>
    cases k with
    | zero => simp_all; omega
    | succ k =>
      have := ih (k := k) (by simpa using h)
      simp only [List.set_cons_succ, List.map_cons, total_cons]
      omega

/-- A call brings up commands that leave the script; it takes one step more. -/
theorem work_call (k : Nat) (n : Option Nat) (s : Session) (m : Observation) :
    (m.call k n s).commandsLeft = m.commandsLeft ∧ (m.call k n s).stepsLeft ≤ m.stepsLeft + 1 := by
  unfold call
  split
  · simp
  · next o h =>
    have e := total_set (fun o : Observer => sizeOfScript o.script) (y := Observer.called o) h
    have f := sizeOfScript_filter (o.calls + 1) o.script
    simp only [commandsLeft, stepsLeft, List.map_cons, total_cons, Task.commands, Task.steps, Observer.called] at *
    omega

theorem work_detach (name : String) (m : Observation) :
    (m.detach name).commandsLeft = m.commandsLeft ∧ (m.detach name).stepsLeft = m.stepsLeft := by
  unfold detach
  split <;> simp [commandsLeft, stepsLeft]

/-- Performing a command brings up fewer commands than were in it. -/
theorem work_perform (c : StoreCommand) (m : Observation) : (m.perform c).commandsLeft < m.commandsLeft + c.size := by
  have hp := size_pos c
  cases c with
  | subscribe name script =>
    simp only [perform, subscribe, (work_call _ _ _ _).1]
    simp [commandsLeft, Task.commands, StoreCommand.size]
    omega
  | detach name => simp only [perform, (work_detach name m).1]; omega
  | _ =>
    simp [perform, write, commandsLeft, Task.commands] at hp ⊢
    omega

/-- While there are tasks, a step leaves less work. -/
theorem work_step {m : Observation} (h : m.tasks ≠ []) : Less m.step.work m.work := by
  unfold step
  split
  · next e => exact absurd e h
  · next rest e => right; simp [work, commandsLeft, stepsLeft, e, Task.commands, Task.steps, sizeOfCommands]
  · next c cs rest e =>
    left
    have := work_perform c { m with tasks := .perform cs :: rest }
    simp [work, commandsLeft, e, Task.commands, sizeOfCommands] at this ⊢
    omega
  · next rest e => right; simp [work, commandsLeft, stepsLeft, e, Task.commands, Task.steps]
  · next n s k ks rest e =>
    right
    have := work_call k (some n) s { m with tasks := .notify n s ks :: rest }
    simp [work, commandsLeft, stepsLeft, e, Task.commands, Task.steps] at this ⊢
    omega
  · next name k rest e =>
    right
    have := work_detach name { m with tasks := rest }
    simp [work, hold, commandsLeft, stepsLeft, e, Task.commands, Task.steps] at this ⊢
    omega

theorem lex_of_less {a b : Nat × Nat} (h : Less a b) : Prod.Lex (· < ·) (· < ·) a b := by
  obtain ⟨a₁, a₂⟩ := a
  obtain ⟨b₁, b₂⟩ := b
  simp only [Less] at h
  rcases Nat.lt_or_ge a₁ b₁ with h₁ | h₁
  · exact .left _ _ h₁
  · have : a₁ = b₁ := by omega
    subst this
    exact .right _ (by omega)

/-- Takes steps until nothing is left to do. -/
def run (m : Observation) : Observation :=
  if _h : m.tasks = [] then m else run m.step
termination_by m.work
decreasing_by exact lex_of_less (work_step ‹_›)

/-- Performs a command and all that comes of it. -/
def execute (c : StoreCommand) (m : Observation) : Observation := (m.push (.perform [c])).run

def describe (m : Observation) : String :=
  "SessionStore \x7b current: " ++ m.store.current.describe ++ ", observers: " ++
    String.ofList (Text.numeral m.attached.length) ++ ", .. \x7d"

end Observation

end ClusterPanel
