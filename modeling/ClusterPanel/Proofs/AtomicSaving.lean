import ClusterPanel.Proofs.GroundedTrees
import ClusterPanel.Proofs.ServingFiles

/- Saving and removing a record in a file, whether or not it succeeds (`file_storage_atomic`). Saving makes directories,
   writes a new file beside the old one, closes it to others and moves it over the old one. The old file is in nobody's
   way until the move, so where a step fails it is what it was, and the file beside it alone can have changed. The steps
   are followed by what lies where: directories that were made are no files (`Grows.file?_eq`), and a file that is
   written beside another one is at another place (`replaced_error`, `read_beside`). -/
namespace ClusterPanel

open Text

namespace Files

/-! ## Files of two trees -/

namespace Tree

/-- Two trees have the same files, except perhaps at some places. -/
def SameFilesBut (places : List Place) (t u : Tree) : Prop := ∀ q, q ∉ places → u.file? q = t.file? q

variable {t u v : Tree} {dir q : Place} {places : List Place}

theorem Grows.file?_eq (h : Grows dir t u) (q : Place) : u.file? q = t.file? q := by
  cases hf : t.find? q with
  | some e => exact file?_congr (hf ▸ h.old q e hf)
  | none =>
    unfold file?
    rcases h.new q hf with hu | ⟨hu, -⟩ <;> rw [hu, hf]

theorem Grows.placeOf_eq (h : Grows dir t u) (p : Path) : u.placeOf p = t.placeOf p := by
  unfold placeOf
  rw [h.start_eq]

theorem Grows.sameFiles (h : Grows dir t u) : SameFilesBut [] t u := fun q _ => h.file?_eq q

theorem SameFilesBut.trans (h : SameFilesBut [] t u) (h' : SameFilesBut places u v) : SameFilesBut places t v :=
  fun q hq => (h' q hq).trans (h q List.not_mem_nil)

theorem SameFilesBut.refl (places : List Place) (t : Tree) : SameFilesBut places t t := fun _ _ => rfl

theorem SameFilesBut.mono (h : SameFilesBut [] t u) (places : List Place) : SameFilesBut places t u :=
  fun q _ => h q List.not_mem_nil

end Tree

/-! ## What operations did that failed -/

section Failures

open Files.Tree

variable {t u : Tree} {p p' : Path} {content : List UInt8} {mode : Nat} {e : Fault}

theorem write_error (h : (write p content).run.run t = (.error e, u)) : u = t := by
  rw [run_write] at h
  rcases hl : t.locate p with e' | q | q <;> simp only [hl] at h
  · cases h
    rfl
  · split at h
    · cases h
      rfl
    · rcases hf : t.find? q with _ | _ | _ <;> simp only [hf] at h <;> cases h
      rfl
  · cases h
    rfl

theorem setMode_error (h : (setMode p mode).run.run t = (.error e, u)) : u = t := by
  rw [run_setMode] at h
  rcases hl : t.locate p with e' | q | q <;> simp only [hl] at h
  · cases h
    rfl
  · rcases hf : t.find? q with _ | _ | _ <;> simp only [hf] at h <;> cases h <;> rfl
  · cases h
    rfl

theorem moveFile_error (h : (moveFile p p').run.run t = (.error e, u)) : u = t := by
  rw [run_moveFile] at h
  rcases hl : t.locate p with e₁ | q | q <;> rcases hl' : t.locate p' with e₂ | q' | q' <;> simp only [hl, hl'] at h
  case ok.name.ok.name =>
    rcases hf : t.find? q with _ | _ | _ <;> simp only [hf] at h
    · cases h
      rfl
    · split at h
      · cases h
        rfl
      · split at h <;> cases h
        rfl
    · cases h
      rfl
  all_goals
    cases h
    rfl

theorem removeFile_error (h : (removeFile p).run.run t = (.error e, u)) : u = t := by
  rw [run_removeFile] at h
  rcases hl : t.locate p with e' | q | q <;> simp only [hl] at h
  · cases h
    rfl
  · rcases hf : t.find? q with _ | _ | _ <;> simp only [hf] at h
    · cases h
      rfl
    · split at h <;> cases h
      rfl
    · cases h
      rfl
  · cases h
    rfl

/-- Part of a sequence of operations that failed. -/
theorem bind_error {α β : Type} {x : Action α} {f : α → Action β} (h : (x >>= f).run.run t = (.error e, u)) :
    x.run.run t = (.error e, u) ∨ ∃ a t', x.run.run t = (.ok a, t') ∧ (f a).run.run t' = (.error e, u) := by
  rw [run_bind] at h
  rcases hx : x.run.run t with ⟨e' | a, t'⟩ <;> rw [hx] at h
  · cases h
    exact .inl rfl
  · exact .inr ⟨a, t', rfl, h⟩

/-- Where a file could not be replaced nothing was done, or there is a new file beside it. -/
theorem replaced_error
    (h : (do write p' content; setMode p' mode; moveFile p' p : Action Unit).run.run t = (.error e, u)) :
    u = t ∨ ∃ q, t.locate p' = .ok (.name q) ∧ Keeps t u ∧ ∀ s, s ≠ q → u.find? s = t.find? s := by
  rcases bind_error h with hw | ⟨_, t₁, hw, h⟩
  · exact .inl (write_error hw)
  obtain ⟨q, mode₁, hq, hdir, rfl⟩ := write_ok hw
  have hkeep₁ := keeps_put (.file content mode₁) hdir
  have hput₁ := find?_put_self (t := t) (e := .file content mode₁) (locate_name_ne_nil hq)
  refine .inr ⟨q, hq, ?_⟩
  rcases bind_error h with hs | ⟨_, t₂, hs, hm⟩
  · rw [setMode_error hs]
    exact ⟨hkeep₁, fun s hs => find?_put_ne hs⟩
  · obtain ⟨q', content', old, hq', -, rfl⟩ := setMode_ok hs
    rw [locate_of_keeps hkeep₁ hq] at hq'
    cases hq'
    rw [moveFile_error hm]
    refine ⟨hkeep₁.trans (keeps_put _ (not_directory hput₁)), ?_⟩
    intro s hs
    rw [find?_put_ne hs, find?_put_ne hs]

end Failures

/-! ## A file and the one beside it -/

section Beside

open Files.Tree

variable {t u : Tree} {absolute : Bool} {above : List String} {name : String}

/-- What a path of names leads to, in a grounded tree and in one that has all its directories. -/
theorem locate_named_kept {x : Target} (h : Keeps t u) (ht : t.IsGrounded) (habove : ∀ s ∈ above, IsName s)
    (hname : IsName name) (hl : u.locate (.named absolute above name) = .ok x) :
    x = .name (t.placeOf (.named absolute above name)) := by
  have hstart : u.find? (u.start absolute) = some .directory := by
    rw [h.start_eq]
    exact h.directory _ (ht.find?_start absolute)
  obtain ⟨hx, -, -⟩ := locate_named_ok hstart habove hname hl
  rwa [h.start_eq] at hx

/-- A new file beside a file changes nothing about what is read from it. -/
theorem read_beside {x : Target} (h : Keeps t u) (ht : t.IsGrounded) (habove : ∀ s ∈ above, IsName s)
    (hname : IsName name) (htmp : t.locate (.named absolute above (name ++ ".tmp")) = .ok x)
    (hsame : ∀ s, s ≠ t.placeOf (.named absolute above (name ++ ".tmp")) → u.find? s = t.find? s) :
    u.read (.named absolute above name) = t.read (.named absolute above name) := by
  have hstart := ht.find?_start absolute
  obtain ⟨-, hwalk, -⟩ := locate_named_ok hstart habove (isName_append_tmp name) htmp
  -- Both paths go through the same directories, which are there.
  have hlocate : u.locate (.named absolute above name) = t.locate (.named absolute above name) := by
    rw [locate_named hname, locate_named hname, h.start_eq, foldlM_enter_of_keeps h hwalk, hwalk]
  unfold Tree.read
  rw [hlocate]
  cases hl : t.locate (.named absolute above name) with
  | error e => rfl
  | ok x =>
    obtain rfl := (locate_named_ok hstart habove hname hl).1
    have hfind := hsame _ (placeOf_named_tmp_ne t absolute above name).symm
    rw [placeOf_named] at hfind
    simp only [bind, Except.bind, hfind]

end Beside

end Files

open Files Files.Tree

/-! ## Saving and removing -/

variable {t u : Tree} {p : Path} {record : String} {e : Fault}

/-- A file that was saved is closed to others and nothing is left beside it; other files are as they were. -/
theorem saveRecord_ok (ht : t.IsGrounded) (hp : p.IsPlain) (h : (saveRecord p record).run.run t = (.ok (), u)) :
    u.mode? p = some ownerMode ∧ u.find? (t.placeOf p.temporary) = none ∧
      SameFilesBut [t.placeOf p, t.placeOf p.temporary] t u := by
  obtain ⟨above, name, hp, habove, hname⟩ := hp.eq_named
  rw [hp, saveRecord_named habove hname] at h
  obtain ⟨_, t', hmade, h⟩ := bind_ok h
  have hgrows := grows_makeDirectories ht p.absolute habove
  rw [hmade] at hgrows
  obtain ⟨q, r, hq, hr, -, hkeep, hf, hgone, hsame⟩ := replaced_ok h
  -- Both paths lead where they would have led from the start.
  have hq' := locate_named_kept (.refl _) hgrows.grounded habove (isName_append_tmp name) hq
  have hr' := locate_named_kept hkeep hgrows.grounded habove hname hr
  rw [hgrows.placeOf_eq] at hq' hr'
  cases hq'
  cases hr'
  rw [hp, Path.temporary_named habove hname]
  refine ⟨?_, hgone (placeOf_named_tmp_ne t _ above name), ?_⟩
  · unfold mode?
    simp only [hr, hf]
  · apply (hgrows.sameFiles).trans
    intro s hs
    rw [List.mem_cons, List.mem_singleton, not_or] at hs
    exact file?_congr (hsame s hs.2 hs.1)

/-- Where saving failed the file is what it was, and so are all files but the one beside it. -/
theorem saveRecord_error (ht : t.IsGrounded) (hp : p.IsPlain) (h : (saveRecord p record).run.run t = (.error e, u)) :
    (p.Fits → u.read p = t.read p) ∧ SameFilesBut [t.placeOf p.temporary] t u := by
  obtain ⟨above, name, hp, habove, hname⟩ := hp.eq_named
  rw [hp, saveRecord_named habove hname] at h
  have hgrows := grows_makeDirectories ht p.absolute habove
  have hread {v : Tree} (hv : Grows (t.start p.absolute ++ above) t v) (hfits : p.Fits) : v.read p = t.read p := by
    rw [hp] at hfits ⊢
    exact read_of_grows hv ht habove hname (fun s hs => hfits s (List.mem_append_left _ hs))
      (hfits name List.mem_concat_self)
  rcases bind_error h with hmade | ⟨_, t', hmade, h⟩ <;> rw [hmade] at hgrows
  · exact ⟨hread hgrows, hgrows.sameFiles.mono _⟩
  rcases replaced_error h with rfl | ⟨q, hq, hkeep, hsame⟩
  · exact ⟨hread hgrows, hgrows.sameFiles.mono _⟩
  · cases locate_named_kept (.refl _) hgrows.grounded habove (isName_append_tmp name) hq
    constructor
    · intro hfits
      rw [← hread hgrows hfits, hp]
      exact read_beside hkeep hgrows.grounded habove hname hq hsame
    · rw [hp, Path.temporary_named habove hname, ← hgrows.placeOf_eq]
      apply (hgrows.sameFiles).trans
      intro s hs
      exact file?_congr (hsame s (List.ne_of_not_mem_cons hs))

/-- A file that is not found when it is read is not found when it is to be removed. -/
theorem removeFile_of_read (h : t.read p = .error .notFound) :
    (removeFile p).run.run t = (.error .notFound, t) := by
  unfold Tree.read at h
  rw [run_removeFile]
  rcases hl : t.locate p with e | q | q <;> simp only [hl, bind, Except.bind] at h
  · cases h
    rfl
  · rcases hf : t.find? q with _ | _ | _ <;> simp only [hf] at h
    · simp only [hf]
    · split at h <;> cases h
    · cases h
  · cases h

/-- Removing takes nothing but the file away, and again it takes nothing away. -/
theorem removeRecord_ok (ht : t.IsGrounded) (hp : p.IsPlain) (h : (removeRecord p).run.run t = (.ok (), u)) :
    SameFilesBut [t.placeOf p] t u ∧ (removeRecord p).run.run u = (.ok (), u) := by
  constructor
  · rw [removeRecord, run_tryCatch] at h
    rcases hr : (removeFile p).run.run t with ⟨e | _, t'⟩ <;> simp only [hr] at h
    · obtain rfl := removeFile_error hr
      split at h <;> cases h
      exact SameFilesBut.refl _ _
    · cases h
      obtain ⟨above, name, hp, habove, hname⟩ := hp.eq_named
      obtain ⟨q, content, mode, hl, -, rfl⟩ := removeFile_erases hr
      rw [hp] at hl ⊢
      cases locate_named_kept (.refl t) ht habove hname hl
      intro s hs
      exact file?_congr (find?_erase_ne (List.ne_of_not_mem_cons hs))
  · rw [removeRecord, run_tryCatch, removeFile_of_read (read_removeRecord h)]
    rfl

theorem removeRecord_error (h : (removeRecord p).run.run t = (.error e, u)) : u = t := by
  rw [removeRecord, run_tryCatch] at h
  rcases hr : (removeFile p).run.run t with ⟨e' | _, t'⟩ <;> simp only [hr] at h
  · obtain rfl := removeFile_error hr
    split at h <;> cases h
    rfl
  · cases h

namespace Storage

/-- What an operation on a file left when it failed. -/
theorem ofAction_error {r : Except Files.Fault Unit × Tree} {s' : Storage} {fault : StorageFault}
    (h : ofAction p r = (s', some fault)) : ∃ e t, r = (.error e, t) ∧ s' = .file p t := by
  rcases r with ⟨e | _, t⟩
  · cases h
    exact ⟨e, t, rfl, rfl⟩
  · cases h

theorem load_congr (h : u.read p = t.read p) : (file p u).load = (file p t).load := by
  simp only [load, loadRecord, Tree.readText, h]

end Storage

/-- A file storage at a plain path saves and removes as a whole or not at all.

    A record that was saved is loaded. Its file is closed to others, nothing is left beside it, and other files are as
    they were. If a record could not be saved, what is loaded is the same as before, unless a name of the path is too
    long for any file; and but for the file beside it all files are as they were.

    After a record was removed there is none to load, other files are as they were, and there is nothing left to do for
    removing it again. If it could not be removed, nothing has changed. -/
theorem file_storage_atomic (t : Tree) (ht : t.IsGrounded) (p : Path) (hp : p.IsPlain) (record : String) :
    (∀ s', (Storage.file p t).save record = (s', none) →
      s'.load = .ok (some record) ∧ s'.tree.mode? p = some ownerMode ∧
        s'.tree.find? (t.placeOf p.temporary) = none ∧
        SameFilesBut [t.placeOf p, t.placeOf p.temporary] t s'.tree) ∧
    (∀ s' fault, (Storage.file p t).save record = (s', some fault) →
      (p.Fits → s'.load = (Storage.file p t).load) ∧ SameFilesBut [t.placeOf p.temporary] t s'.tree) ∧
    (∀ s', (Storage.file p t).remove = (s', none) →
      s'.load = .ok none ∧ SameFilesBut [t.placeOf p] t s'.tree ∧ s'.remove = (s', none)) ∧
    ∀ s' fault, (Storage.file p t).remove = (s', some fault) → s' = .file p t := by
  refine ⟨?_, ?_, ?_, ?_⟩
  · intro s' h
    have hload := (Storage.holds_save h).1.load
    obtain ⟨u, hu, rfl⟩ := Storage.ofAction_ok h
    exact ⟨hload trivial, saveRecord_ok ht hp hu⟩
  · intro s' fault h
    obtain ⟨e, u, hu, rfl⟩ := Storage.ofAction_error h
    obtain ⟨hread, hfiles⟩ := saveRecord_error ht hp hu
    exact ⟨fun hfits => Storage.load_congr (hread hfits), hfiles⟩
  · intro s' h
    have hload := (Storage.holds_remove h).1.load
    obtain ⟨u, hu, rfl⟩ := Storage.ofAction_ok h
    obtain ⟨hfiles, hagain⟩ := removeRecord_ok ht hp hu
    refine ⟨hload trivial, hfiles, ?_⟩
    show Storage.ofAction p ((removeRecord p).run.run u) = _
    rw [hagain]
    rfl
  · intro s' fault h
    obtain ⟨e, u, hu, rfl⟩ := Storage.ofAction_error h
    rw [removeRecord_error hu]

/-- A home directory with notes and nothing else. -/
def home : Tree where
  workingDirectory := ["home"]
  entries := [(["home"], .directory), (["home", "notes.txt"], .file (bytesOf "milk") openMode)]

/-- A record in the root, with a directory where another one would be written first. -/
def crowdedRoot : Tree where
  entries := [(["auth.json"], .file (bytesOf "old") ownerMode), (["auth.json.tmp"], .directory)]

theorem isGrounded_home : home.IsGrounded := ⟨by decide, by decide⟩

theorem isGrounded_crowdedRoot : crowdedRoot.IsGrounded := ⟨by decide, by decide⟩

/-- There can be any file in a directory that is still to be made in the home. -/
theorem admits_home {p : Path} (hnames : ∀ s ∈ p.steps, IsFileName s) (hshort : p.text.utf8ByteSize < pathLimit)
    (habove : home.start p.absolute ++ p.steps.dropLast = ["home", "centro"])
    (hplace : home.find? (home.placeOf p) ≠ some .directory) : home.Admits p where
  names := hnames
  short := hshort
  above q hq := by
    have hcentro : ["home", "centro"] = [] ++ ["home"] ++ ["centro"] := rfl
    rw [habove, hcentro] at hq
    rcases List.prefix_concat_iff.1 hq with rfl | hq
    · rfl
    rcases List.prefix_concat_iff.1 hq with rfl | hq
    · rfl
    · rw [List.prefix_nil.1 hq]
      rfl
  place := hplace

/-- In the home a directory is made for the record, and the notes stay. In the root the record cannot be saved, and the
    old one stays until it is removed. -/
theorem file_storage_atomic_homes :
    let p : Path := { steps := ["centro", "auth.json"] }
    let saved := (Storage.file p home).save "new"
    let unsaved := (Storage.file (rootPath "auth.json") crowdedRoot).save "new"
    let removed := (Storage.file (rootPath "auth.json") crowdedRoot).remove
    saved.2 = none ∧ saved.1.load = .ok (some "new") ∧ saved.1.tree.mode? p = some ownerMode ∧
      saved.1.tree.file? ["home", "notes.txt"] = home.file? ["home", "notes.txt"] ∧
    unsaved.2 = some ⟨"Is a directory (os error 21)"⟩ ∧ unsaved.1.load = .ok (some "old") ∧
    removed.2 = none ∧ removed.1.load = .ok none := by
  intro p saved unsaved removed
  have hp : p.IsPlain := ⟨by decide, by decide, rfl⟩
  have hroot : (rootPath "auth.json").IsPlain := ⟨by decide, by decide, rfl⟩
  have hsaved : saved.2 = none :=
    serves_of_admits hp (admits_home (by decide) (by decide +kernel) rfl (by decide))
      (admits_home (by decide) (by decide +kernel) rfl (by decide)) (.save "new")
  have hl : crowdedRoot.locate (rootPath "auth.json") = .ok (.name ["auth.json"]) := locate_rootPath (by decide)
  have hl' : crowdedRoot.locate (rootPath ("auth.json" ++ ".tmp")) = .ok (.name ["auth.json" ++ ".tmp"]) :=
    locate_rootPath (by decide)
  have hunsaved : unsaved.2 = some ⟨"Is a directory (os error 21)"⟩ := by
    have hnone : ∀ s ∈ ([] : List String), IsName s := List.forall_mem_nil _
    have hmade : (makeDirectoriesFrom true []).run.run crowdedRoot = (.ok (), crowdedRoot) := rfl
    show (Storage.ofAction _ ((saveRecord (.named true [] "auth.json") "new").run.run crowdedRoot)).2 = _
    rw [saveRecord_named hnone (by decide), List.reverse_nil, run_bind, hmade]
    dsimp only
    rw [run_bind, run_write, ← rootPath_eq, hl']
    rfl
  have hremoved : removed.2 = none := by
    obtain ⟨u, hrun⟩ := run_removeRecord_file hl rfl (by decide)
    show (Storage.ofAction _ ((removeRecord (rootPath "auth.json")).run.run crowdedRoot)).2 = none
    rw [hrun]
    rfl
  have hold : (Storage.file (rootPath "auth.json") crowdedRoot).load = .ok (some "old") := by
    have hread : crowdedRoot.readText (rootPath "auth.json") = .ok "old" := readText_rootPath (by decide) rfl
    simp only [Storage.load, loadRecord, hread]
    rfl
  obtain ⟨hsave, -⟩ := file_storage_atomic home isGrounded_home p hp "new"
  obtain ⟨hload, hmode, -, hfiles⟩ := hsave saved.1 (Prod.ext rfl hsaved)
  obtain ⟨-, hfailed, hgone, -⟩ := file_storage_atomic crowdedRoot isGrounded_crowdedRoot _ hroot "new"
  refine ⟨hsaved, hload, hmode, hfiles _ (by decide), hunsaved, ?_, hremoved, ?_⟩
  · rw [(hfailed unsaved.1 _ (Prod.ext rfl hunsaved)).1 (by decide +kernel), hold]
  · exact (hgone removed.1 (Prod.ext rfl hremoved)).1

end ClusterPanel
