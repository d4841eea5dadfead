import ClusterPanel.Session.Store

/- What a storage holds after its record was replaced. A call that succeeds does what it says, in a memory and in a
   file alike: a record that was saved is the one that is held (`holds_save`), and after a removal there is none
   (`holds_remove`). For a file this is true of every tree and every path: the places that a path leads through are
   directories, the steps of saving and removing put no file in the place of a directory and take none away, so the
   path leads to the same place before and after (`locate_of_keeps`). -/
namespace ClusterPanel

open Text

namespace Files

namespace Tree

/-! ## What lies where -/

theorem find?_put_self {t : Tree} {q : Place} {e : Entry} (h : q ≠ []) : (t.put q e).find? q = some e := by
  have hno : (t.entries.filter (·.1 ≠ q)).find? (·.1 = q) = none := by
    rw [List.find?_eq_none]
    intro p hp
    simpa using (List.mem_filter.1 hp).2
  simp only [find?, if_neg h, put, erase, List.find?_append, hno]
  simp

theorem find?_erase_self {t : Tree} {q : Place} (h : q ≠ []) : (t.erase q).find? q = none := by
  simp [find?, h, erase]

theorem find?_erase_ne {t : Tree} {q r : Place} (h : r ≠ q) : (t.erase q).find? r = t.find? r := by
  unfold find? erase
  split
  · rfl
  · congr 1
    rw [List.find?_filter]
    congr 1
    funext p
    by_cases hp : p.1 = r
    · simp [hp, h]
    · simp [hp]

theorem find?_put_ne {t : Tree} {q r : Place} {e : Entry} (h : r ≠ q) : (t.put q e).find? r = t.find? r := by
  have hput : (t.put q e).find? r = (t.erase q).find? r := by
    simp [find?, put, erase, List.find?_append, Ne.symm h]
  rw [hput, find?_erase_ne h]

/-- The directories of a tree are directories of another one as well, and relative paths start from the same one. -/
structure Keeps (t u : Tree) : Prop where
  start : u.workingDirectory = t.workingDirectory
  directory : ∀ q, t.find? q = some .directory → u.find? q = some .directory

theorem Keeps.refl (t : Tree) : Keeps t t := ⟨rfl, fun _ h => h⟩

theorem Keeps.trans {t u v : Tree} (h : Keeps t u) (h' : Keeps u v) : Keeps t v :=
  ⟨h'.start.trans h.start, fun q hq => h'.directory q (h.directory q hq)⟩

theorem not_directory {t : Tree} {q : Place} {content : List UInt8} {mode : Nat}
    (h : t.find? q = some (.file content mode)) : t.find? q ≠ some .directory := by
  rw [h]
  exact fun hd => by cases hd

/-- Putting an entry where no directory lies takes no directory away. -/
theorem keeps_put {t : Tree} {q : Place} (e : Entry) (h : t.find? q ≠ some .directory) : Keeps t (t.put q e) := by
  refine ⟨rfl, ?_⟩
  intro r hr
  have hne : r ≠ q := fun hrq => h (hrq ▸ hr)
  rw [find?_put_ne hne]
  exact hr

theorem keeps_erase {t : Tree} {q : Place} (h : t.find? q ≠ some .directory) : Keeps t (t.erase q) := by
  refine ⟨rfl, ?_⟩
  intro r hr
  have hne : r ≠ q := fun hrq => h (hrq ▸ hr)
  rw [find?_erase_ne hne]
  exact hr

theorem keeps_move {t : Tree} {q r : Place} (e : Entry) (hq : t.find? q ≠ some .directory)
    (hr : t.find? r ≠ some .directory) : Keeps t ((t.erase q).put r e) := by
  apply (keeps_erase hq).trans
  apply keeps_put
  by_cases hqr : r = q
  · -- Nothing lies at the place that was left, and the root was never left.
    subst hqr
    by_cases hnil : r = []
    · exact absurd (by simp [find?, hnil]) hr
    · simp [find?_erase_self hnil]
  · rwa [find?_erase_ne hqr]

theorem enter_of_keeps {t u : Tree} (h : Keeps t u) {dir q : Place} {step : String} (he : t.enter dir step = .ok q) :
    u.enter dir step = .ok q := by
  unfold enter at he ⊢
  split
  · next hs => rwa [if_pos hs] at he
  · next hs =>
    rw [if_neg hs] at he
    split
    · next hs' => rwa [if_pos hs'] at he
    · next hs' =>
      rw [if_neg hs'] at he
      split
      · next hl => rw [if_pos hl] at he; cases he
      · next hl =>
        rw [if_neg hl] at he
        cases hf : t.find? (dir ++ [step]) with
        | none => simp [hf] at he
        | some e =>
          cases e with
          | file c m => simp [hf] at he
          | directory => simpa [h.directory _ hf, hf] using he

theorem foldlM_enter_of_keeps {t u : Tree} (h : Keeps t u) {steps : List String} {dir q : Place}
    (he : steps.foldlM t.enter dir = .ok q) : steps.foldlM u.enter dir = .ok q := by
  induction steps generalizing dir with
  | nil => exact he
  | cons s steps ih =>
    rw [List.foldlM_cons] at he ⊢
    cases hs : t.enter dir s with
    | error e => rw [hs] at he; cases he
    | ok d =>
      rw [hs] at he
      rw [enter_of_keeps h hs]
      exact ih he

/-- A path leads to the same place while no directory is taken away. -/
theorem locate_of_keeps {t u : Tree} (h : Keeps t u) {p : Path} {x : Target} (hl : t.locate p = .ok x) :
    u.locate p = .ok x := by
  unfold locate at hl ⊢
  rw [h.start]
  split
  · next hn => rwa [if_pos hn] at hl
  · next hn =>
    rw [if_neg hn] at hl
    split
    · next hlong => rwa [if_pos hlong] at hl
    · next hlong =>
      rw [if_neg hlong] at hl
      cases hlast : p.steps.getLast? with
      | none => simpa only [hlast] using hl
      | some last =>
        -- The last step is not entered, so only the directories above it matter.
        simp only [hlast] at hl ⊢
        cases hdir : p.steps.dropLast.foldlM t.enter (if p.absolute = true then [] else t.workingDirectory) with
        | error e => rw [hdir] at hl; cases hl
        | ok dir =>
          rw [hdir] at hl
          rw [foldlM_enter_of_keeps h hdir]
          exact hl

/-- A place that a name was said for is not the root. -/
theorem locate_name_ne_nil {t : Tree} {p : Path} {q : Place} (h : t.locate p = .ok (.name q)) : q ≠ [] := by
  unfold locate at h
  split at h
  · cases h
  · split at h
    · cases h
    · cases hlast : p.steps.getLast? with
      | none =>
        simp only [hlast] at h
        split at h <;> cases h
      | some last =>
        simp only [hlast] at h
        cases hdir : p.steps.dropLast.foldlM t.enter (if p.absolute = true then [] else t.workingDirectory) with
        | error e => rw [hdir] at h; cases h
        | ok dir =>
          rw [hdir] at h
          simp only [bind, Except.bind] at h
          split at h
          · cases h
          · split at h
            · cases h
            · split at h
              · cases h
              · cases h
                exact List.append_ne_nil_of_right_ne_nil _ (List.cons_ne_nil _ _)

end Tree

/-! ## What operations do -/

section Actions

variable {α β : Type}

theorem run_bind (x : Action α) (f : α → Action β) (t : Tree) :
    (x >>= f).run.run t =
      match x.run.run t with
      | (.ok a, u) => (f a).run.run u
      | (.error e, u) => (.error e, u) := by
  rw [ExceptT.run_bind, StateT.run_bind]
  rcases x.run.run t with ⟨r, u⟩
  cases r <;> rfl

theorem run_tryCatch (x : Action α) (f : Fault → Action α) (t : Tree) :
    (tryCatch x f).run.run t =
      match x.run.run t with
      | (.ok a, u) => (.ok a, u)
      | (.error e, u) => (f e).run.run u := by
  rw [ExceptT.run_tryCatch, StateT.run_bind]
  rcases x.run.run t with ⟨r, u⟩
  cases r <;> rfl

theorem run_get_bind (f : Tree → Action α) (t : Tree) : (get >>= f).run.run t = (f t).run.run t := rfl

theorem run_look (f : Tree → Except Fault α) (t : Tree) : (Action.look f).run.run t = (f t, t) := by
  rw [Action.look, run_get_bind]
  cases f t <;> rfl

/-- An operation that begins by looking where a path leads. -/
theorem run_locate_bind (p : Path) (f : Tree.Target → Action α) (t : Tree) :
    (Action.look (·.locate p) >>= f).run.run t =
      match t.locate p with
      | .ok target => (f target).run.run t
      | .error e => (.error e, t) := by
  rw [run_bind, run_look]
  cases t.locate p <;> rfl

theorem run_write (p : Path) (content : List UInt8) (t : Tree) :
    (write p content).run.run t =
      match t.locate p with
      | .error e => (.error e, t)
      | .ok (.unnamed _) => (.error .isDirectory, t)
      | .ok (.name q) =>
        if p.closed then (.error .isDirectory, t)
        else
          match t.find? q with
          | some .directory => (.error .isDirectory, t)
          | some (.file _ mode) => (.ok (), t.put q (.file content mode))
          | none => (.ok (), t.put q (.file content openMode)) := by
  rw [write, run_locate_bind]
  rcases t.locate p with e | q | q
  · rfl
  · cases p.closed with
    | true => rfl
    | false =>
      simp only [Bool.false_eq_true, if_false]
      rw [run_get_bind]
      rcases t.find? q with _ | _ | _ <;> rfl
  · rfl

theorem run_setMode (p : Path) (mode : Nat) (t : Tree) :
    (setMode p mode).run.run t =
      match t.locate p with
      | .error e => (.error e, t)
      | .ok (.unnamed _) => (.error .isDirectory, t)
      | .ok (.name q) =>
        match t.find? q with
        | none => (.error .notFound, t)
        | some .directory => (.error .isDirectory, t)
        | some (.file content _) => (.ok (), t.put q (.file content mode)) := by
  rw [setMode, run_locate_bind]
  rcases t.locate p with e | q | q
  · rfl
  · simp only
    rw [run_get_bind]
    rcases t.find? q with _ | _ | _ <;> rfl
  · rfl

theorem run_moveFile (p p' : Path) (t : Tree) :
    (moveFile p p').run.run t =
      match t.locate p, t.locate p' with
      | .error e, _ => (.error e, t)
      | .ok _, .error e => (.error e, t)
      | .ok (.name q), .ok (.name q') =>
        match t.find? q with
        | none => (.error .notFound, t)
        | some .directory => (.error .isDirectory, t)
        | some f =>
          if p'.closed then (.error .notDirectory, t)
          else if t.find? q' = some .directory then (.error .isDirectory, t)
          else (.ok (), (t.erase q).put q' f)
      | _, _ => (.error .busy, t) := by
  rw [moveFile, run_locate_bind]
  rcases t.locate p with e | target
  · rfl
  · simp only
    rw [run_locate_bind]
    rcases t.locate p' with e | target'
    · rfl
    · rcases target with q | q <;> rcases target' with q' | q'
      · simp only
        rw [run_get_bind]
        rcases t.find? q with _ | _ | _
        · rfl
        · cases p'.closed with
          | true => rfl
          | false =>
            simp only [Bool.false_eq_true, if_false]
            rw [run_get_bind]
            split <;> rfl
        · rfl
      all_goals rfl

theorem run_removeFile (p : Path) (t : Tree) :
    (removeFile p).run.run t =
      match t.locate p with
      | .error e => (.error e, t)
      | .ok (.unnamed _) => (.error .isDirectory, t)
      | .ok (.name q) =>
        match t.find? q with
        | none => (.error .notFound, t)
        | some .directory => (.error .isDirectory, t)
        | some (.file _ _) => if p.closed then (.error .notDirectory, t) else (.ok (), t.erase q) := by
  rw [removeFile, run_locate_bind]
  rcases t.locate p with e | q | q
  · rfl
  · simp only
    rw [run_get_bind]
    rcases t.find? q with _ | _ | _
    · rfl
    · cases p.closed <;> rfl
    · rfl
  · rfl

/-! ## What operations did that succeeded -/

variable {t u : Tree} {p p' : Path} {content : List UInt8} {mode : Nat}

theorem write_ok (h : (write p content).run.run t = (.ok (), u)) :
    ∃ q mode, t.locate p = .ok (.name q) ∧ t.find? q ≠ some .directory ∧ u = t.put q (.file content mode) := by
  rw [run_write] at h
  rcases hl : t.locate p with e | q | q <;> simp only [hl] at h
  · cases h
  · split at h
    · cases h
    · rcases hf : t.find? q with _ | ⟨_, mode⟩ | _ <;> simp only [hf] at h <;> cases h
      · exact ⟨q, openMode, rfl, by simp [hf], rfl⟩
      · exact ⟨q, mode, rfl, by simp [hf], rfl⟩
  · cases h

theorem setMode_ok (h : (setMode p mode).run.run t = (.ok (), u)) :
    ∃ q content old, t.locate p = .ok (.name q) ∧ t.find? q = some (.file content old) ∧
      u = t.put q (.file content mode) := by
  rw [run_setMode] at h
  rcases hl : t.locate p with e | q | q <;> simp only [hl] at h
  · cases h
  · rcases hf : t.find? q with _ | ⟨content, old⟩ | _ <;> simp only [hf] at h <;> cases h
    exact ⟨q, content, old, rfl, hf, rfl⟩
  · cases h

theorem moveFile_ok (h : (moveFile p p').run.run t = (.ok (), u)) :
    ∃ q q' content mode, t.locate p = .ok (.name q) ∧ t.locate p' = .ok (.name q') ∧
      t.find? q = some (.file content mode) ∧ p'.closed = false ∧ t.find? q' ≠ some .directory ∧
      u = (t.erase q).put q' (.file content mode) := by
  rw [run_moveFile] at h
  rcases hl : t.locate p with e | q | q <;> rcases hl' : t.locate p' with e' | q' | q' <;> simp only [hl, hl'] at h
  case ok.name.ok.name =>
    rcases hf : t.find? q with _ | ⟨content, mode⟩ | _ <;> simp only [hf] at h
    · cases h
    · split at h
      · cases h
      · next hc =>
        split at h
        · cases h
        · next hd =>
          cases h
          exact ⟨q, q', content, mode, rfl, rfl, hf, Bool.eq_false_iff.2 hc, hd, rfl⟩
    · cases h
  all_goals cases h

theorem removeFile_erases (h : (removeFile p).run.run t = (.ok (), u)) :
    ∃ q content mode, t.locate p = .ok (.name q) ∧ t.find? q = some (.file content mode) ∧ u = t.erase q := by
  rw [run_removeFile] at h
  rcases hl : t.locate p with e | q | q <;> simp only [hl] at h
  · cases h
  · rcases hf : t.find? q with _ | ⟨content, mode⟩ | _ <;> simp only [hf] at h
    · cases h
    · split at h <;> cases h
      exact ⟨q, content, mode, rfl, hf, rfl⟩
    · cases h
  · cases h

/-- After a file was removed there is none to read. -/
theorem removeFile_ok (h : (removeFile p).run.run t = (.ok (), u)) : u.read p = .error .notFound := by
  obtain ⟨q, content, mode, hl, hf, rfl⟩ := removeFile_erases h
  have hkeep : Tree.Keeps t (t.erase q) := Tree.keeps_erase (Tree.not_directory hf)
  unfold Tree.read
  rw [Tree.locate_of_keeps hkeep hl]
  simp only [bind, Except.bind, Tree.find?_erase_self (Tree.locate_name_ne_nil hl)]
  rfl

/-- A file that is not found when it is to be removed is not found when it is read either. -/
theorem removeFile_notFound (h : (removeFile p).run.run t = (.error .notFound, u)) :
    u = t ∧ t.read p = .error .notFound := by
  rw [run_removeFile] at h
  unfold Tree.read
  rcases hl : t.locate p with e | q | q <;> simp only [hl] at h
  · cases h
    exact ⟨rfl, rfl⟩
  · rcases hf : t.find? q with _ | ⟨content, mode⟩ | _ <;> simp only [hf] at h
    · cases h
      refine ⟨rfl, ?_⟩
      simp only [bind, Except.bind, hf]
      rfl
    · split at h <;> cases h
    · cases h
  · cases h

end Actions

end Files

open Files

/-! ## Records in files -/

/-- Part of a sequence of operations that succeeded. -/
theorem bind_ok {α β : Type} {x : Action α} {f : α → Action β} {b : β} {t u : Tree}
    (h : (x >>= f).run.run t = (.ok b, u)) :
    ∃ a t', x.run.run t = (.ok a, t') ∧ (f a).run.run t' = (.ok b, u) := by
  rw [run_bind] at h
  rcases hx : x.run.run t with ⟨r, t'⟩
  rw [hx] at h
  cases r with
  | error e => cases h
  | ok a => exact ⟨a, t', rfl, h⟩

/-- A file that was written beside its place and moved there lies there and no longer beside it, with the permissions
    that were asked for. Everything else is as it was. -/
theorem replaced_ok {p p' : Path} {content : List UInt8} {mode : Nat} {t u : Tree}
    (h : (do write p' content; setMode p' mode; moveFile p' p : Action Unit).run.run t = (.ok (), u)) :
    ∃ q r, t.locate p' = .ok (.name q) ∧ u.locate p = .ok (.name r) ∧ p.closed = false ∧ Tree.Keeps t u ∧
      u.find? r = some (.file content mode) ∧ (q ≠ r → u.find? q = none) ∧
      ∀ s, s ≠ q → s ≠ r → u.find? s = t.find? s := by
  obtain ⟨_, t₁, hw, h⟩ := bind_ok h
  obtain ⟨_, t₂, hs, hm⟩ := bind_ok h
  -- The path of the new file leads to one place before and after each step.
  obtain ⟨q, mode₁, hq, hdir, rfl⟩ := write_ok hw
  have hne : q ≠ [] := Tree.locate_name_ne_nil hq
  have hkeep₁ := Tree.keeps_put (.file content mode₁) hdir
  have hput₁ := Tree.find?_put_self (t := t) (e := .file content mode₁) hne
  -- The permissions go to the file that was just written, at the same place.
  obtain ⟨q', content', old, hq', hf, rfl⟩ := setMode_ok hs
  rw [Tree.locate_of_keeps hkeep₁ hq] at hq'
  cases hq'
  rw [hput₁] at hf
  cases hf
  have hkeep₂ := Tree.keeps_put (.file content mode) (Tree.not_directory hput₁)
  have hput₂ := Tree.find?_put_self (t := t.put q (.file content mode₁)) (e := .file content mode) hne
  -- So does the move, and where it leads to is where the record is read.
  obtain ⟨q', r, content', mode', hq', hr, hf, hclosed, hrdir, rfl⟩ := moveFile_ok hm
  rw [Tree.locate_of_keeps (hkeep₁.trans hkeep₂) hq] at hq'
  cases hq'
  rw [hput₂] at hf
  cases hf
  have hkeep₃ := Tree.keeps_move (.file content mode) (Tree.not_directory hput₂) hrdir
  refine ⟨q, r, hq, Tree.locate_of_keeps hkeep₃ hr, hclosed, hkeep₁.trans (hkeep₂.trans hkeep₃),
    Tree.find?_put_self (Tree.locate_name_ne_nil hr), ?_, ?_⟩
  · intro hqr
    rw [Tree.find?_put_ne hqr, Tree.find?_erase_self hne]
  · intro s hsq hsr
    rw [Tree.find?_put_ne hsr, Tree.find?_erase_ne hsq, Tree.find?_put_ne hsq, Tree.find?_put_ne hsq]

/-- A file that was replaced has the new content. -/
theorem read_replaced {p p' : Path} {content : List UInt8} {mode : Nat} {t u : Tree}
    (h : (do write p' content; setMode p' mode; moveFile p' p : Action Unit).run.run t = (.ok (), u)) :
    u.read p = .ok content := by
  obtain ⟨q, r, -, hr, hclosed, -, hf, -, -⟩ := replaced_ok h
  unfold Tree.read
  rw [hr]
  simp only [bind, Except.bind, hf, hclosed]
  rfl

/-- A record that was saved is what is read from its file. -/
theorem read_saveRecord {p : Path} {record : String} {t u : Tree}
    (h : (saveRecord p record).run.run t = (.ok (), u)) : u.read p = .ok (bytesOf record) := by
  unfold saveRecord at h
  split at h
  · exact read_replaced h
  · obtain ⟨_, t', -, h⟩ := bind_ok h
    exact read_replaced h

/-- After a record was removed there is none to read, also if there was none before. -/
theorem read_removeRecord {p : Path} {t u : Tree} (h : (removeRecord p).run.run t = (.ok (), u)) :
    u.read p = .error .notFound := by
  rw [removeRecord, run_tryCatch] at h
  rcases hr : (removeFile p).run.run t with ⟨e | _, t'⟩ <;> simp only [hr] at h
  · split at h
    · next he =>
      -- That there was no file is no failure, and then there is none to read.
      cases h
      subst he
      obtain ⟨rfl, hread⟩ := removeFile_notFound hr
      exact hread
    · cases h
  · cases h
    exact removeFile_ok hr

/-! ## Storages -/

namespace Storage

/-- A storage that is not set to refuse being read. A file may be unreadable all the same. -/
def Readable : Storage → Prop
  | memory _ failures => failures.load = none
  | file _ _ => True

/-- A record, or that there is none, is what a storage has and what is loaded from it unless it refuses. -/
structure Holds (s : Storage) (r : Option String) : Prop where
  record : s.record? = r.map bytesOf
  load : s.Readable → s.load = .ok r

theorem holds_memory (record : Option String) (failures : Failures) : (memory record failures).Holds record where
  record := rfl
  load hr := by
    have hload : failures.load = none := hr
    simp only [Storage.load, hload]

theorem holds_file {p : Path} {t : Tree} {record : String} (h : t.read p = .ok (bytesOf record)) :
    (file p t).Holds (some record) where
  record := by simp only [record?, h, Except.toOption, Option.map_some]
  load _ := by
    simp only [Storage.load, loadRecord, Tree.readText, h, bind, Except.bind, textOf?_bytesOf]
    rfl

theorem holds_no_file {p : Path} {t : Tree} (h : t.read p = .error .notFound) : (file p t).Holds none where
  record := by simp only [record?, h, Except.toOption, Option.map_none]
  load _ := by
    simp only [Storage.load, loadRecord, Tree.readText, h, bind, Except.bind]
    rfl

variable {s s' : Storage} {record : String}

/-- What an operation on a file left when it did not fail. -/
theorem ofAction_ok {p : Path} {r : Except Files.Fault Unit × Tree} (h : ofAction p r = (s', none)) :
    ∃ t, r = (.ok (), t) ∧ s' = .file p t := by
  rcases r with ⟨_ | _, t⟩
  · cases h
  · cases h
    exact ⟨t, rfl, rfl⟩

/-- A record that was saved is the one that a storage holds, and it can be read if it could be before. -/
theorem holds_save (h : s.save record = (s', none)) : s'.Holds (some record) ∧ (s.Readable → s'.Readable) := by
  cases s with
  | memory old failures =>
    simp only [save] at h
    split at h
    · cases h
    · cases h
      exact ⟨holds_memory _ _, id⟩
  | file p t =>
    obtain ⟨u, hu, rfl⟩ := ofAction_ok h
    exact ⟨holds_file (read_saveRecord hu), id⟩

/-- After the record was removed a storage holds none. -/
theorem holds_remove (h : s.remove = (s', none)) : s'.Holds none ∧ (s.Readable → s'.Readable) := by
  cases s with
  | memory old failures =>
    simp only [remove] at h
    split at h
    · cases h
    · cases h
      exact ⟨holds_memory _ _, id⟩
  | file p t =>
    obtain ⟨u, hu, rfl⟩ := ofAction_ok h
    exact ⟨holds_no_file (read_removeRecord hu), id⟩

end Storage

/-! ## Records of sessions -/

namespace SessionStore

/-- The record that goes with a session. -/
def recordOf (session : Session) : Option String := if session.isAuthenticated then some session.toText else none

variable {s s' : Storage} {session : Session}

/-- A session that was persisted left the record that goes with it. -/
theorem holds_persist (h : persist session s = (s', none)) :
    s'.Holds (recordOf session) ∧ (s.Readable → s'.Readable) := by
  unfold persist at h
  unfold recordOf
  split at h
  · next ha =>
    rw [if_pos ha]
    exact Storage.holds_save h
  · next ha =>
    rw [if_neg ha]
    exact Storage.holds_remove h

end SessionStore

end ClusterPanel
