import ClusterPanel.Proofs.PlainPaths
import ClusterPanel.Proofs.WriteThrough

/- Files that serve as storage (`Storage.Serves`): each call on them does what it is asked. A session file can be
   written and removed if there can be a file at its path and one beside it (`serves_of_admits`), that is, if no file
   lies where a directory is needed and no directory where a file is (`Tree.Admits`). The directories that are missing
   can be made then (`makeDirectoriesFrom_clear`). In the root none is missing, so the way to a file there is the
   shortest (`serves_file`). -/
namespace ClusterPanel

open Text

namespace Files

variable {t : Tree}

/-! ## Operations that succeed -/

section Steps

variable {p p' : Path} {q q' : Place} {content : List UInt8} {old : Nat}

/-- A place that is no directory can be written to. -/
theorem run_write_file (content : List UInt8) (hl : t.locate p = .ok (.name q)) (hc : p.closed = false)
    (hd : t.find? q ≠ some .directory) :
    ∃ mode, (write p content).run.run t = (.ok (), t.put q (.file content mode)) := by
  rw [run_write, hl]
  dsimp only
  rw [hc, if_neg Bool.false_ne_true]
  cases hf : t.find? q with
  | none => exact ⟨openMode, rfl⟩
  | some e =>
    cases e with
    | directory => exact absurd hf hd
    | file content mode => exact ⟨mode, rfl⟩

theorem run_setMode_file (mode : Nat) (hl : t.locate p = .ok (.name q)) (hf : t.find? q = some (.file content old)) :
    (setMode p mode).run.run t = (.ok (), t.put q (.file content mode)) := by
  rw [run_setMode, hl]
  dsimp only
  rw [hf]

theorem run_moveFile_file (hl : t.locate p = .ok (.name q)) (hl' : t.locate p' = .ok (.name q'))
    (hc : p'.closed = false) (hf : t.find? q = some (.file content old)) (hd : t.find? q' ≠ some .directory) :
    ∃ u, (moveFile p p').run.run t = (.ok (), u) := by
  rw [run_moveFile, hl, hl']
  dsimp only
  rw [hf]
  dsimp only
  rw [hc, if_neg Bool.false_ne_true, if_neg hd]
  exact ⟨_, rfl⟩

/-- A file can be written beside its place and moved there, if neither place is a directory. -/
theorem run_replaced (content : List UInt8) (mode : Nat) (hl : t.locate p' = .ok (.name q'))
    (hl' : t.locate p = .ok (.name q)) (hne : q ≠ q') (hc : p'.closed = false) (hc' : p.closed = false)
    (hd : t.find? q' ≠ some .directory) (hd' : t.find? q ≠ some .directory) :
    ∃ u, (do write p' content; setMode p' mode; moveFile p' p : Action Unit).run.run t = (.ok (), u) := by
  have hnil : q' ≠ [] := Tree.locate_name_ne_nil hl
  obtain ⟨first, hwrite⟩ := run_write_file content hl hc hd
  -- The new file lies beside the old one when its permissions are set and when it is moved.
  have hput := Tree.find?_put_self (t := t) (e := .file content first) hnil
  have hkeep := Tree.keeps_put (.file content first) hd
  have hmode := run_setMode_file mode (Tree.locate_of_keeps hkeep hl) hput
  have hput' := Tree.find?_put_self (t := t.put q' (.file content first)) (e := .file content mode) hnil
  have hkeep' := hkeep.trans (Tree.keeps_put (.file content mode) (Tree.not_directory hput))
  have hother : ((t.put q' (.file content first)).put q' (.file content mode)).find? q ≠ some .directory := by
    rwa [Tree.find?_put_ne hne, Tree.find?_put_ne hne]
  obtain ⟨u, hmove⟩ := run_moveFile_file (Tree.locate_of_keeps hkeep' hl) (Tree.locate_of_keeps hkeep' hl') hc' hput'
    hother
  refine ⟨u, ?_⟩
  rw [run_bind, hwrite]
  dsimp only
  rw [run_bind, hmode]
  dsimp only
  exact hmove

/-- A file can be removed if it is no directory, and where there is none that is no failure. -/
theorem run_removeRecord_file (hl : t.locate p = .ok (.name q)) (hc : p.closed = false)
    (hd : t.find? q ≠ some .directory) : ∃ u, (removeRecord p).run.run t = (.ok (), u) := by
  rw [removeRecord, run_tryCatch, run_removeFile, hl]
  dsimp only
  cases hf : t.find? q with
  | none => exact ⟨t, rfl⟩
  | some e =>
    cases e with
    | directory => exact absurd hf hd
    | file content mode =>
      rw [hc]
      exact ⟨_, rfl⟩

end Steps

/-! ## Clear ways -/

variable {absolute : Bool} {above steps : List String} {name : String} {dir : Place}

/-- A name that a file may have. -/
def IsFileName (name : String) : Prop :=
  name.toList.contains '\x00' = false ∧ name ≠ "." ∧ name ≠ ".." ∧ name.utf8ByteSize ≤ nameLimit

instance (name : String) : Decidable (IsFileName name) := inferInstanceAs (Decidable (_ ∧ _))

theorem IsFileName.isName (h : IsFileName name) : IsName name := ⟨h.2.1, h.2.2.1⟩

theorem IsFileName.contains (h : IsFileName name) : name.contains '\x00' = false := by
  rw [String.contains_char_eq, ← h.1, List.contains_eq_mem]

/-- A directory has no longer path than what lies in it. -/
theorem size_text_le (absolute : Bool) (steps : List String) (name : String) :
    ({ absolute, steps } : Path).text.utf8ByteSize ≤
      ({ absolute, steps := steps ++ [name] } : Path).text.utf8ByteSize := by
  simp only [Path.text, Bool.false_and, Bool.false_eq_true, if_false, String.append_empty, String.utf8ByteSize_append]
  by_cases hnil : steps = []
  · rw [hnil, String.intercalate_nil]
    exact Nat.add_le_add_left (Nat.zero_le _) _
  · rw [String.intercalate_append_of_ne_nil hnil (List.cons_ne_nil _ _), String.utf8ByteSize_append,
      String.utf8ByteSize_append]
    omega

namespace Tree

/-- A way on which no file lies leads to its end, or something is missing on it. -/
theorem foldlM_enter_clear (hs : ∀ s ∈ steps, IsFileName s) (hway : ∀ q, q <+: dir ++ steps → t.file? q = none) :
    steps.foldlM t.enter dir = .ok (dir ++ steps) ∨ steps.foldlM t.enter dir = .error .notFound := by
  induction steps generalizing dir with
  | nil =>
    rw [List.append_nil]
    exact .inl rfl
  | cons s steps ih =>
    have hname := hs s List.mem_cons_self
    have hbelow : dir ++ s :: steps = dir ++ [s] ++ steps := by rw [List.append_assoc, List.singleton_append]
    have hnext := hway (dir ++ [s]) (by rw [hbelow]; exact List.prefix_append _ _)
    rw [List.foldlM_cons, enter_name hname.isName, if_neg (Nat.not_lt.2 hname.2.2.2)]
    unfold file? at hnext
    rcases hf : t.find? (dir ++ [s]) with _ | ⟨content, mode⟩ | _ <;> simp only [hf] at hnext
    · exact .inr rfl
    · cases hnext
    · rw [hbelow] at hway ⊢
      exact ih (fun s h => hs s (List.mem_cons_of_mem _ h)) hway

/-- Where the names are names of files, a plain path leads where its directories lead, and there to its last name. -/
theorem locate_clear (habove : ∀ s ∈ above, IsFileName s) (hname : IsFileName name)
    (hshort : (Path.named absolute above name).text.utf8ByteSize < pathLimit) (t : Tree) :
    t.locate (.named absolute above name) =
      (above.foldlM t.enter (t.start absolute)).map fun dir => .name (dir ++ [name]) := by
  have hnul : (above ++ [name]).any (·.contains '\x00') = false := by
    rw [List.any_eq_false]
    intro s hs
    rcases List.mem_append.1 hs with hs | hs
    · rw [(habove s hs).contains]
      exact Bool.false_ne_true
    · rw [List.mem_singleton.1 hs, hname.contains]
      exact Bool.false_ne_true
  rw [locate_named hname.isName, hnul, if_neg Bool.false_ne_true, if_neg (Nat.not_le.2 hshort)]
  cases above.foldlM t.enter (t.start absolute) with
  | error e => rfl
  | ok dir => exact if_neg (Nat.not_lt.2 hname.2.2.2)

end Tree

open Files.Tree

/-- A directory can be made where no file lies. -/
theorem ensureDirectory_clear {p : Path} (hl : t.locate p = .ok (.name dir)) (hfile : t.file? dir = none) :
    ∃ u, (ensureDirectory p).run.run t = (.ok (), u) ∧ Keeps t u ∧
      u.find? dir = some .directory ∧ ∀ r, r ≠ dir → u.find? r = t.find? r := by
  rw [ensureDirectory, run_tryCatch, run_makeDirectory, hl]
  unfold file? at hfile
  rcases hf : t.find? dir with _ | ⟨content, mode⟩ | _ <;> simp only [hf] at hfile ⊢
  · have hempty : t.find? dir ≠ some .directory := by
      rw [hf]
      exact (Option.some_ne_none _).symm
    exact ⟨_, rfl, keeps_put _ hempty, find?_put_self (locate_name_ne_nil hl), fun r hr => find?_put_ne hr⟩
  · cases hfile
  · refine ⟨t, ?_, .refl t, hf, fun _ _ => rfl⟩
    have hdir : t.isDirectory p = true := by
      unfold isDirectory
      rw [hl]
      exact beq_iff_eq.2 hf
    rw [run_get_bind, hdir]
    rfl

/-- A directory for which one above is missing cannot be made. -/
theorem ensureDirectory_missing {p : Path} (hl : t.locate p = .error .notFound) :
    (ensureDirectory p).run.run t = (.error .notFound, t) := by
  have hdir : t.isDirectory p = false := by
    unfold isDirectory
    rw [hl]
  rw [ensureDirectory, run_tryCatch, run_makeDirectory, hl]
  dsimp only
  rw [run_get_bind, hdir]
  rfl

/-- A way is there, and nothing but its directories was put into the tree. -/
structure Paved (start : Place) (steps : List String) (t u : Tree) : Prop where
  keeps : Keeps t u
  way : steps.foldlM u.enter start = .ok (start ++ steps)
  same : ∀ r, ¬ r <+: start ++ steps → u.find? r = t.find? r

/-- At the end of a way that is there the next directory can be made, if it is no file. -/
theorem Paved.next {u : Tree} (h : Paved (t.start absolute) above t u) (habove : ∀ s ∈ above, IsFileName s)
    (hname : IsFileName name) (hshort : (Path.named absolute above name).text.utf8ByteSize < pathLimit)
    (hfile : t.file? (t.start absolute ++ above ++ [name]) = none) :
    ∃ v, (ensureDirectory (.named absolute above name)).run.run u = (.ok (), v) ∧
      Paved (t.start absolute) (above ++ [name]) t v := by
  rw [← file?_congr (h.same _ (not_prefix_of_concat _ _))] at hfile
  have hl := locate_clear habove hname hshort u
  rw [h.keeps.start_eq, h.way] at hl
  obtain ⟨v, hrun, hkeep, hdir, hsame⟩ := ensureDirectory_clear hl hfile
  refine ⟨v, hrun, h.keeps.trans hkeep, ?_, ?_⟩
  · rw [List.foldlM_append, foldlM_enter_of_keeps hkeep h.way, ← List.append_assoc]
    show [name].foldlM v.enter _ = _
    rw [List.foldlM_cons, enter_name hname.isName, if_neg (Nat.not_lt.2 hname.2.2.2), hdir]
    rfl
  · intro r hr
    rw [← List.append_assoc] at hr
    have hne : r ≠ t.start absolute ++ above ++ [name] := fun he => hr (he ▸ List.prefix_refl _)
    rw [hsame r hne]
    exact h.same r fun hway => hr (hway.trans (List.prefix_append _ _))

/-- Directories can be made along a way on which no file lies, and nothing else is changed. -/
theorem makeDirectoriesFrom_clear (hs : ∀ s ∈ steps, IsFileName s)
    (hshort : ({ absolute, steps := steps.reverse } : Path).text.utf8ByteSize < pathLimit)
    (hway : ∀ q, q <+: t.start absolute ++ steps.reverse → t.file? q = none) :
    ∃ u, (makeDirectoriesFrom absolute steps).run.run t = (.ok (), u) ∧
      Paved (t.start absolute) steps.reverse t u := by
  induction steps with
  | nil =>
    refine ⟨t, rfl, .refl t, ?_, fun _ _ => rfl⟩
    rw [List.reverse_nil, List.append_nil]
    rfl
  | cons s above ih =>
    have hname : IsFileName s := hs s List.mem_cons_self
    have habove : ∀ s ∈ above, IsFileName s := fun s h => hs s (List.mem_cons_of_mem _ h)
    have hrev : ∀ s ∈ above.reverse, IsFileName s := fun s h => habove s (List.mem_reverse.1 h)
    rw [List.reverse_cons] at hshort hway ⊢
    have hup : t.start absolute ++ above.reverse <+: t.start absolute ++ (above.reverse ++ [s]) := by
      rw [← List.append_assoc]
      exact List.prefix_append _ _
    have hfile : t.file? (t.start absolute ++ above.reverse ++ [s]) = none := by
      rw [List.append_assoc]
      exact hway _ (List.prefix_refl _)
    show ∃ u, (tryCatch (ensureDirectory (.named absolute above.reverse s)) _ : Action Unit).run.run t = _ ∧ _
    rw [run_tryCatch]
    rcases foldlM_enter_clear hrev fun q hq => hway q (hq.trans hup) with hwalk | hwalk
    · have hthere : Paved (t.start absolute) above.reverse t t := ⟨.refl t, hwalk, fun _ _ => rfl⟩
      obtain ⟨u, hrun, hmade⟩ := hthere.next hrev hname hshort hfile
      rw [hrun]
      exact ⟨u, rfl, hmade⟩
    · -- Something is missing above: it is made first, and then this directory is tried again.
      have hl := locate_clear hrev hname hshort t
      rw [hwalk] at hl
      obtain ⟨v, hrun, habove⟩ := ih habove (Nat.lt_of_le_of_lt (size_text_le _ _ s) hshort)
        fun q hq => hway q (hq.trans hup)
      obtain ⟨u, hrun', hmade⟩ := habove.next hrev hname hshort hfile
      refine ⟨u, ?_, hmade⟩
      rw [ensureDirectory_missing hl]
      simp only [if_true]
      rw [run_bind, hrun]
      exact hrun'

/-- The same by the names from the start on. -/
theorem makeDirectories_clear (hs : ∀ s ∈ above, IsFileName s)
    (hshort : ({ absolute, steps := above } : Path).text.utf8ByteSize < pathLimit)
    (hway : ∀ q, q <+: t.start absolute ++ above → t.file? q = none) :
    ∃ u, (makeDirectoriesFrom absolute above.reverse).run.run t = (.ok (), u) ∧
      Paved (t.start absolute) above t u := by
  have hrev := List.reverse_reverse above
  rw [← hrev] at hshort hway
  obtain ⟨u, hrun, hpaved⟩ := makeDirectoriesFrom_clear (fun s h => hs s (List.mem_reverse.1 h)) hshort hway
  rw [hrev] at hpaved
  exact ⟨u, hrun, hpaved⟩

/-! ## Files that serve -/

/-- A file can be made at a plain path: its names are names of files, and in all it is not too long; no file lies where
    a directory is needed, and no directory where the file is to be. -/
structure Tree.Admits (t : Tree) (p : Path) : Prop where
  names : ∀ s ∈ p.steps, IsFileName s
  short : p.text.utf8ByteSize < pathLimit
  above : ∀ q, q <+: t.start p.absolute ++ p.steps.dropLast → t.file? q = none
  place : t.find? (t.placeOf p) ≠ some .directory

namespace Tree.Admits

theorem above_names (h : t.Admits (.named absolute above name)) : ∀ s ∈ above, IsFileName s :=
  fun s hs => h.names s (List.mem_append_left _ hs)

theorem last (h : t.Admits (.named absolute above name)) : IsFileName name := h.names name List.mem_concat_self

theorem way (h : t.Admits (.named absolute above name)) : ∀ q, q <+: t.start absolute ++ above → t.file? q = none := by
  have hdirs : (Path.named absolute above name).steps.dropLast = above := List.dropLast_concat ..
  have hway := h.above
  rwa [hdirs] at hway

/-- Where the directories are there, a path leads to its place. -/
theorem locate {u : Tree} (h : t.Admits (.named absolute above name)) (hpaved : Paved (t.start absolute) above t u) :
    u.locate (.named absolute above name) = .ok (.name (t.placeOf (.named absolute above name))) ∧
      u.find? (t.placeOf (.named absolute above name)) ≠ some .directory := by
  have hplace := h.place
  have hl := locate_clear h.above_names h.last h.short u
  rw [hpaved.keeps.start_eq, hpaved.way] at hl
  rw [placeOf_named, ← List.append_assoc] at hplace ⊢
  rw [hpaved.same _ (not_prefix_of_concat _ _)]
  exact ⟨hl, hplace⟩

end Tree.Admits

/-- A session file can be written and removed, if there can be a file at its path and one beside it. -/
theorem serves_of_admits {p : Path} (hp : p.IsPlain) (h : t.Admits p) (h' : t.Admits p.temporary) :
    (Storage.file p t).Serves := by
  obtain ⟨above, name, hp, hnames, hname⟩ := hp.eq_named
  rw [hp, Path.temporary_named hnames hname] at h'
  rw [hp] at h ⊢
  intro call
  cases call with
  | save record =>
    obtain ⟨u, hmade, hpaved⟩ := makeDirectories_clear h.above_names
      (Nat.lt_of_le_of_lt (size_text_le _ _ name) h.short) h.way
    obtain ⟨hl, hd⟩ := h.locate hpaved
    obtain ⟨hl', hd'⟩ := h'.locate hpaved
    have hne := (placeOf_named_tmp_ne t p.absolute above name).symm
    obtain ⟨v, hrun⟩ := run_replaced (bytesOf record) ownerMode hl' hl hne rfl rfl hd' hd
    show (Storage.ofAction _ ((saveRecord (.named p.absolute above name) record).run.run t)).2 = none
    rw [saveRecord_named hnames hname, run_bind, hmade]
    dsimp only
    rw [hrun]
    rfl
  | remove =>
    show (Storage.ofAction _ ((removeRecord (.named p.absolute above name)).run.run t)).2 = none
    rcases foldlM_enter_clear h.above_names h.way with hwalk | hwalk
    · obtain ⟨hl, hd⟩ := h.locate ⟨.refl t, hwalk, fun _ _ => rfl⟩
      obtain ⟨u, hrun⟩ := run_removeRecord_file hl rfl hd
      rw [hrun]
      rfl
    · have hl := locate_clear h.above_names h.last h.short t
      rw [hwalk] at hl
      rw [removeRecord, run_tryCatch, run_removeFile, hl]
      rfl

/-! ## Files in the root -/

/-- The path of a name in the root. -/
def rootPath (name : String) : Path := { absolute := true, steps := [name] }

theorem rootPath_eq (name : String) : rootPath name = .named true [] name := rfl

theorem size_text_rootPath (h : IsFileName name) : (rootPath name).text.utf8ByteSize < pathLimit := by
  have hlength : (rootPath name).text = "/" ++ name ++ "" := rfl
  have hslash : "/".utf8ByteSize = 1 := rfl
  have hlimit : pathLimit = 4096 := rfl
  have hnames : nameLimit = 255 := rfl
  have hname := h.2.2.2
  rw [hlength, String.append_empty, String.utf8ByteSize_append]
  omega

theorem locate_rootPath (h : IsFileName name) : t.locate (rootPath name) = .ok (.name [name]) := by
  have hnone : ∀ s ∈ ([] : List String), IsFileName s := List.forall_mem_nil _
  rw [rootPath_eq, locate_clear hnone h (size_text_rootPath h)]
  rfl

theorem readText_rootPath (h : IsFileName name) {text : String} {mode : Nat}
    (hfile : t.find? [name] = some (.file (bytesOf text) mode)) : t.readText (rootPath name) = .ok text := by
  have hread : t.read (rootPath name) = .ok (bytesOf text) := by
    unfold Tree.read
    rw [locate_rootPath h]
    simp only [bind, Except.bind, hfile]
    rfl
  unfold Tree.readText
  simp only [hread, bind, Except.bind, textOf?_bytesOf]
  rfl

/-- There can be a file in the root where no directory lies. -/
theorem admits_rootPath (h : IsFileName name) (hd : t.find? [name] ≠ some .directory) : t.Admits (rootPath name) where
  names s hs := List.mem_singleton.1 hs ▸ h
  short := size_text_rootPath h
  above q hq := by
    rw [List.prefix_nil.1 hq]
    rfl
  place := hd

/-- A session file in the root can always be written and removed, if neither it nor the file that is written first is a
    directory; whatever else there is does not matter. -/
theorem serves_file (h : IsFileName name) (htemporary : IsFileName (name ++ ".tmp"))
    (hfile : t.find? [name] ≠ some .directory) (hfile' : t.find? [name ++ ".tmp"] ≠ some .directory) :
    (Storage.file (rootPath name) t).Serves := by
  have hplain : (rootPath name).IsPlain := ⟨fun s hs => List.mem_singleton.1 hs ▸ h.isName, List.cons_ne_nil _ _, rfl⟩
  apply serves_of_admits hplain (admits_rootPath h hfile)
  have hnone : ∀ s ∈ ([] : List String), IsName s := List.forall_mem_nil _
  rw [rootPath_eq, Path.temporary_named hnone h.isName, ← rootPath_eq]
  exact admits_rootPath htemporary hfile'

end Files

end ClusterPanel
