import ClusterPanel.Proofs.RecordStorage

/- Two trees that differ in what stands in their files, and not in what lies where. `Alike R t t'` says that at every
   place the two have nothing, or a directory, or files of the same permissions whose contents are related by `R`. No
   operation looks at a content, so it ends on both in the same way and leaves trees that are alike again (`Agree`).
   This is shown once for each way in which operations are put together, and then goes for all that are made of them:
   saving and removing a record agree on trees that are alike (`agree_saveRecord`, `agree_removeRecord`). -/
namespace ClusterPanel

open Text

/-- Both fail in the same way, or both succeed with values that are related. -/
inductive Ended {ε α β : Type} (R : α → β → Prop) : Except ε α → Except ε β → Prop
  | error (e : ε) : Ended R (.error e) (.error e)
  | ok {a : α} {b : β} (h : R a b) : Ended R (.ok a) (.ok b)

namespace Files

variable {α β : Type} {R : List UInt8 → List UInt8 → Prop}

/-- What lies at one place of two trees: nothing, or directories, or files of the same permissions whose contents are
    related. -/
inductive Paired (R : List UInt8 → List UInt8 → Prop) (e e' : Option Entry) : Prop
  | nothing (h : e = none) (h' : e' = none)
  | file {content content' : List UInt8} {mode : Nat} (h : e = some (.file content mode))
      (h' : e' = some (.file content' mode)) (hc : R content content')
  | directory (h : e = some .directory) (h' : e' = some .directory)

namespace Tree

/-- The same lies at every place, but for what stands in files. -/
structure Alike (R : List UInt8 → List UInt8 → Prop) (t t' : Tree) : Prop where
  start : t.workingDirectory = t'.workingDirectory
  entry : ∀ q, Paired R (t.find? q) (t'.find? q)

variable {t t' : Tree}

theorem Alike.refl (hR : ∀ c, R c c) (t : Tree) : Alike R t t := by
  refine ⟨rfl, ?_⟩
  intro q
  rcases hf : t.find? q with _ | ⟨content, mode⟩ | _
  · exact .nothing rfl rfl
  · exact .file rfl rfl (hR content)
  · exact .directory rfl rfl

theorem Alike.put (h : Alike R t t') {e e' : Entry} (he : Paired R (some e) (some e')) (q : Place) :
    Alike R (t.put q e) (t'.put q e') := by
  refine ⟨h.start, ?_⟩
  intro r
  by_cases hr : r = q
  · subst hr
    by_cases hnil : r = []
    · -- The root is a directory whatever is put there.
      subst hnil
      exact .directory rfl rfl
    · rw [find?_put_self hnil, find?_put_self hnil]
      exact he
  · rw [find?_put_ne hr, find?_put_ne hr]
    exact h.entry r

theorem Alike.erase (h : Alike R t t') (q : Place) : Alike R (t.erase q) (t'.erase q) := by
  refine ⟨h.start, ?_⟩
  intro r
  by_cases hr : r = q
  · subst hr
    by_cases hnil : r = []
    · subst hnil
      exact .directory rfl rfl
    · rw [find?_erase_self hnil, find?_erase_self hnil]
      exact .nothing rfl rfl
  · rw [find?_erase_ne hr, find?_erase_ne hr]
    exact h.entry r

/-! ## Looking -/

theorem Alike.enter (h : Alike R t t') : t.enter = t'.enter := by
  funext dir step
  unfold Tree.enter
  rcases h.entry (dir ++ [step]) with ⟨h₁, h₂⟩ | ⟨h₁, h₂, -⟩ | ⟨h₁, h₂⟩ <;> rw [h₁, h₂]

/-- Paths lead to the same places. -/
theorem Alike.locate (h : Alike R t t') (p : Path) : t.locate p = t'.locate p := by
  unfold Tree.locate
  rw [h.start, h.enter]

theorem Alike.isDirectory (h : Alike R t t') (p : Path) : t.isDirectory p = t'.isDirectory p := by
  unfold Tree.isDirectory
  rw [h.locate p]
  split
  · rfl
  · rfl
  · next q _ =>
    rcases h.entry q with ⟨h₁, h₂⟩ | ⟨h₁, h₂, -⟩ | ⟨h₁, h₂⟩
    · rw [h₁, h₂]
    · rw [h₁, h₂]
      rfl
    · rw [h₁, h₂]

theorem Alike.read (h : Alike R t t') (p : Path) : Ended R (t.read p) (t'.read p) := by
  unfold Tree.read
  rw [h.locate p]
  rcases t'.locate p with e | q | q
  · exact .error e
  · simp only [bind, Except.bind]
    rcases h.entry q with ⟨h₁, h₂⟩ | ⟨h₁, h₂, hc⟩ | ⟨h₁, h₂⟩ <;> rw [h₁, h₂]
    · exact .error _
    · dsimp only
      split
      · exact .error _
      · exact .ok hc
    · exact .error _
  · exact .error _

end Tree

/-! ## Operations -/

/-- An operation ends on trees that are alike in the same way and leaves such trees. -/
def Agree (R : List UInt8 → List UInt8 → Prop) (x x' : Action α) : Prop :=
  ∀ t t', Tree.Alike R t t' →
    (x.run.run t).1 = (x'.run.run t').1 ∧ Tree.Alike R (x.run.run t).2 (x'.run.run t').2

namespace Agree

/-- The common end of an operation, and the trees it leaves. -/
theorem result {x x' : Action α} (hx : Agree R x x') {t t' : Tree} (h : Tree.Alike R t t') :
    ∃ out u u', x.run.run t = (out, u) ∧ x'.run.run t' = (out, u') ∧ Tree.Alike R u u' := by
  obtain ⟨hout, htree⟩ := hx t t' h
  exact ⟨(x.run.run t).1, (x.run.run t).2, (x'.run.run t').2, rfl, Prod.ext hout.symm rfl, htree⟩

theorem pure' (a : α) : Agree R (pure a : Action α) (pure a) := fun _ _ h => ⟨rfl, h⟩

theorem throw' (e : Fault) : Agree R (throw e : Action α) (throw e) := fun _ _ h => ⟨rfl, h⟩

theorem bind' {x x' : Action α} {f f' : α → Action β} (hx : Agree R x x') (hf : ∀ a, Agree R (f a) (f' a)) :
    Agree R (x >>= f) (x' >>= f') := by
  intro t t' h
  obtain ⟨out, u, u', hu, hu', htree⟩ := hx.result h
  rw [run_bind, run_bind, hu, hu']
  cases out with
  | error e => exact ⟨rfl, htree⟩
  | ok a => exact hf a u u' htree

theorem tryCatch' {x x' : Action α} {f f' : Fault → Action α} (hx : Agree R x x') (hf : ∀ e, Agree R (f e) (f' e)) :
    Agree R (tryCatch x f) (tryCatch x' f') := by
  intro t t' h
  obtain ⟨out, u, u', hu, hu', htree⟩ := hx.result h
  rw [run_tryCatch, run_tryCatch, hu, hu']
  cases out with
  | error e => exact hf e u u' htree
  | ok a => exact ⟨rfl, htree⟩

/-- What is looked up has to be the same in both trees. -/
theorem look {f : Tree → Except Fault α} (hf : ∀ t t', Tree.Alike R t t' → f t = f t') :
    Agree R (Action.look f) (Action.look f) := by
  intro t t' h
  rw [run_look, run_look]
  exact ⟨hf t t' h, h⟩

/-- What is done with a tree that was looked at may depend on it. -/
theorem get_bind {f f' : Tree → Action α} (hf : ∀ t t', Tree.Alike R t t' → Agree R (f t) (f' t')) :
    Agree R (get >>= f) (get >>= f') := by
  intro t t' h
  rw [run_get_bind, run_get_bind]
  exact hf t t' h t t' h

theorem modify' {g g' : Tree → Tree} (hg : ∀ t t', Tree.Alike R t t' → Tree.Alike R (g t) (g' t')) :
    Agree R (modify g : Action Unit) (modify g') := fun t t' h => ⟨rfl, hg t t' h⟩

end Agree

/-- A choice between operations that is made by something the two trees have in common. -/
theorem Agree.ite' {c : Prop} [Decidable c] {x x' y y' : Action α} (hx : Agree R x x') (hy : Agree R y y') :
    Agree R (if c then x else y) (if c then x' else y') := by
  split
  · exact hx
  · exact hy

/-- An operation that begins by looking where a path leads. -/
theorem Agree.locate_bind {p : Path} {f f' : Tree.Target → Action α} (hf : ∀ target, Agree R (f target) (f' target)) :
    Agree R (Action.look (·.locate p) >>= f) (Action.look (·.locate p) >>= f') :=
  .bind' (.look fun _ _ h => h.locate p) hf

section Operations

variable {p p' : Path} {content content' : List UInt8}

theorem agree_makeDirectory : Agree R (makeDirectory p) (makeDirectory p) := by
  refine .locate_bind fun target => ?_
  cases target with
  | unnamed q => exact .throw' _
  | name q =>
    refine .get_bind fun t t' h => ?_
    rcases h.entry q with ⟨h₁, h₂⟩ | ⟨h₁, h₂, -⟩ | ⟨h₁, h₂⟩ <;> simp only [h₁, h₂]
    · exact .modify' fun _ _ h => h.put (.directory rfl rfl) q
    · exact .throw' _
    · exact .throw' _

theorem agree_ensureDirectory : Agree R (ensureDirectory p) (ensureDirectory p) := by
  refine .tryCatch' agree_makeDirectory fun e => ?_
  refine .get_bind fun t t' h => ?_
  rw [h.isDirectory p]
  exact .ite' (.pure' _) (.throw' _)

theorem agree_makeDirectoriesFrom (absolute : Bool) (parts : List String) :
    Agree R (makeDirectoriesFrom absolute parts) (makeDirectoriesFrom absolute parts) := by
  induction parts with
  | nil => exact .pure' _
  | cons s above ih =>
    -- The directories above are made only if this one cannot be made without them, and then it is tried again.
    unfold makeDirectoriesFrom
    refine .tryCatch' agree_ensureDirectory fun e => ?_
    exact .ite' (.bind' ih fun _ => agree_ensureDirectory) (.throw' _)

theorem agree_write (hc : R content content') : Agree R (write p content) (write p content') := by
  refine .locate_bind fun target => ?_
  cases target with
  | unnamed q => exact .throw' _
  | name q =>
    refine .ite' (.throw' _) (.get_bind fun t t' h => ?_)
    rcases h.entry q with ⟨h₁, h₂⟩ | ⟨h₁, h₂, -⟩ | ⟨h₁, h₂⟩ <;> simp only [h₁, h₂]
    · exact .modify' fun _ _ h => h.put (.file rfl rfl hc) q
    · exact .modify' fun _ _ h => h.put (.file rfl rfl hc) q
    · exact .throw' _

theorem agree_setMode (mode : Nat) : Agree R (setMode p mode) (setMode p mode) := by
  refine .locate_bind fun target => ?_
  cases target with
  | unnamed q => exact .throw' _
  | name q =>
    refine .get_bind fun t t' h => ?_
    rcases h.entry q with ⟨h₁, h₂⟩ | ⟨h₁, h₂, hc⟩ | ⟨h₁, h₂⟩ <;> simp only [h₁, h₂]
    · exact .throw' _
    · exact .modify' fun _ _ h => h.put (.file rfl rfl hc) q
    · exact .throw' _

theorem agree_moveFile : Agree R (moveFile p p') (moveFile p p') := by
  refine .locate_bind fun source => .locate_bind fun target => ?_
  rcases source with q | q <;> rcases target with q' | q'
  case name.name =>
    refine .get_bind fun t t' h => ?_
    rcases h.entry q with ⟨h₁, h₂⟩ | ⟨h₁, h₂, hc⟩ | ⟨h₁, h₂⟩ <;> simp only [h₁, h₂]
    · exact .throw' _
    · refine .ite' (.throw' _) (.get_bind fun t t' h => ?_)
      rcases h.entry q' with ⟨h₁, h₂⟩ | ⟨h₁, h₂, -⟩ | ⟨h₁, h₂⟩ <;> simp only [h₁, h₂]
      · exact .modify' fun _ _ h => (h.erase q).put (.file rfl rfl hc) q'
      · exact .modify' fun _ _ h => (h.erase q).put (.file rfl rfl hc) q'
      · exact .throw' _
    · exact .throw' _
  all_goals exact .throw' _

theorem agree_removeFile : Agree R (removeFile p) (removeFile p) := by
  refine .locate_bind fun target => ?_
  cases target with
  | unnamed q => exact .throw' _
  | name q =>
    refine .get_bind fun t t' h => ?_
    rcases h.entry q with ⟨h₁, h₂⟩ | ⟨h₁, h₂, -⟩ | ⟨h₁, h₂⟩ <;> simp only [h₁, h₂]
    · exact .throw' _
    · exact .ite' (.throw' _) (.modify' fun _ _ h => h.erase q)
    · exact .throw' _

end Operations

end Files

open Files

variable {R : List UInt8 → List UInt8 → Prop} {p : Path}

/-! ## Records -/

theorem agree_saveRecord {record record' : String} (hc : R (bytesOf record) (bytesOf record')) :
    Agree R (saveRecord p record) (saveRecord p record') := by
  unfold saveRecord
  -- The record goes to a file beside the old one, which it then replaces.
  have hreplace : ∀ q, Agree R (do write q (bytesOf record); setMode q ownerMode; moveFile q p : Action Unit)
      (do write q (bytesOf record'); setMode q ownerMode; moveFile q p : Action Unit) :=
    fun q => .bind' (agree_write hc) fun _ => .bind' (agree_setMode _) fun _ => agree_moveFile
  cases p.parent? with
  | none => exact hreplace _
  | some above => exact .bind' (agree_makeDirectoriesFrom _ _) fun _ => hreplace _

theorem agree_removeRecord : Agree R (removeRecord p) (removeRecord p) :=
  .tryCatch' agree_removeFile fun _ => .ite' (.pure' _) (.throw' _)

end ClusterPanel
