import ClusterPanel.Proofs.RecordStorage

/- Plain paths: names, and nothing after the last of them. Such a path has no part that is left out when only its text
   is looked at (`Path.parts_named`), so the file that is written first and the directories that are made have plain
   paths as well (`Path.temporary_named`, `saveRecord_named`). The way over its directories decides where it leads
   (`Tree.locate_named`), and if it leads anywhere it is to the place with those names (`Tree.placeOf`,
   `Tree.locate_named_ok`). -/
namespace ClusterPanel

open Text

namespace Files

/-! ## Paths of names -/

/-- A step that leads to what has this name. -/
def IsName (s : String) : Prop := s ≠ "." ∧ s ≠ ".."

instance (s : String) : Decidable (IsName s) := inferInstanceAs (Decidable (_ ∧ _))

namespace Path

/-- The path to a name in a directory, by the names of the directories above. -/
def named (absolute : Bool) (above : List String) (name : String) : Path := { absolute, steps := above ++ [name] }

/-- A path of names, with nothing after the last of them. -/
structure IsPlain (p : Path) : Prop where
  names : ∀ s ∈ p.steps, IsName s
  last : p.steps ≠ []
  ended : p.closed = false

/-- The names of a path are short enough to be names of files. -/
def Fits (p : Path) : Prop := ∀ s ∈ p.steps, s.utf8ByteSize ≤ nameLimit

instance (p : Path) : Decidable p.Fits := inferInstanceAs (Decidable (∀ s ∈ p.steps, s.utf8ByteSize ≤ nameLimit))

variable {p : Path} {absolute : Bool} {above : List String} {name : String}

/-- The directories of a plain path and the name in the last of them. -/
theorem IsPlain.eq_named (h : p.IsPlain) :
    ∃ above name, p = named p.absolute above name ∧ (∀ s ∈ above, IsName s) ∧ IsName name := by
  refine ⟨p.steps.dropLast, p.steps.getLast h.last, ?_, fun s hs => h.names s (List.dropLast_subset _ hs),
    h.names _ (List.getLast_mem h.last)⟩
  unfold named
  rw [List.dropLast_concat_getLast h.last, ← h.ended]

/-- No name is left out of the parts of a path. -/
theorem parts_of_names (h : ∀ s ∈ p.steps, IsName s) : p.parts = p.steps := by
  unfold parts
  cases hsteps : p.steps with
  | nil => rfl
  | cons s r =>
    rw [hsteps] at h
    have hrest : r.filter (· ≠ ".") = r :=
      List.filter_eq_self.2 fun s' hs' => decide_eq_true (h s' (List.mem_cons_of_mem _ hs')).1
    dsimp only
    rw [hrest, decide_eq_false (h s List.mem_cons_self).1]
    rfl

theorem parts_named (habove : ∀ s ∈ above, IsName s) (hname : IsName name) :
    (named absolute above name).parts = above ++ [name] :=
  parts_of_names fun s hs => by
    rcases List.mem_append.1 hs with hs | hs
    · exact habove s hs
    · exact List.mem_singleton.1 hs ▸ hname

theorem parent?_named (habove : ∀ s ∈ above, IsName s) (hname : IsName name) :
    (named absolute above name).parent? = some { absolute, steps := above } := by
  unfold parent?
  rw [parts_named habove hname, List.dropLast_concat, if_neg (by simp)]
  rfl

theorem temporary_named (habove : ∀ s ∈ above, IsName s) (hname : IsName name) :
    (named absolute above name).temporary = named absolute above (name ++ ".tmp") := by
  have hname? : (named absolute above name).name? = some name := by
    unfold name?
    rw [parts_named habove hname, List.getLast?_concat, Option.filter_some_pos]
    simp [hname.1, hname.2]
  unfold temporary beside
  rw [hname?, parts_named habove hname, Option.isSome_some, if_pos rfl, List.dropLast_concat]
  rfl

end Path

theorem append_tmp_ne (name : String) : name ++ ".tmp" ≠ name := by
  intro h
  have hlength := congrArg String.length h
  rw [String.length_append] at hlength
  have htmp : ".tmp".length = 4 := rfl
  omega

theorem isName_append_tmp (name : String) : IsName (name ++ ".tmp") := by
  have htmp : ".tmp".length = 4 := rfl
  constructor <;> intro h
  · have hlength := congrArg String.length h
    have hdot : ".".length = 1 := rfl
    rw [String.length_append] at hlength
    omega
  · have hlength := congrArg String.length h
    have hdots : "..".length = 2 := rfl
    rw [String.length_append] at hlength
    omega

/-- What lies in a directory is not on the way to it. -/
theorem not_prefix_of_concat (dir : Place) (s : String) : ¬ dir ++ [s] <+: dir := by
  intro h
  have hlength := h.length_le
  rw [List.length_append, List.length_singleton] at hlength
  omega

/-! ## Where plain paths lead -/

namespace Tree

variable {t u : Tree} {dir q : Place} {steps : List String} {s : String}

theorem enter_name (hs : IsName s) (t : Tree) (dir : Place) :
    t.enter dir s =
      if nameLimit < s.utf8ByteSize then .error .nameTooLong
      else
        match t.find? (dir ++ [s]) with
        | none => .error .notFound
        | some (.file _ _) => .error .notDirectory
        | some .directory => .ok (dir ++ [s]) := by
  unfold enter
  exact (if_neg hs.1).trans (if_neg hs.2)

theorem enter_ok (hs : IsName s) (h : t.enter dir s = .ok q) : q = dir ++ [s] ∧ t.find? q = some .directory := by
  rw [enter_name hs] at h
  split at h
  · cases h
  · rcases hf : t.find? (dir ++ [s]) with _ | _ | _ <;> simp only [hf] at h <;> cases h
    exact ⟨rfl, hf⟩

/-- A way over names leads to the place that has them as its names. -/
theorem foldlM_enter_ok (hs : ∀ s ∈ steps, IsName s) (hdir : t.find? dir = some .directory)
    (h : steps.foldlM t.enter dir = .ok q) : q = dir ++ steps ∧ t.find? q = some .directory := by
  induction steps generalizing dir with
  | nil =>
    cases h
    exact ⟨(List.append_nil _).symm, hdir⟩
  | cons s steps ih =>
    rw [List.foldlM_cons] at h
    cases hfirst : t.enter dir s with
    | error e =>
      rw [hfirst] at h
      cases h
    | ok d =>
      rw [hfirst] at h
      obtain ⟨rfl, hd⟩ := enter_ok (hs s List.mem_cons_self) hfirst
      obtain ⟨rfl, hq⟩ := ih (fun s h => hs s (List.mem_cons_of_mem _ h)) hd h
      rw [List.append_assoc, List.singleton_append] at hq ⊢
      exact ⟨rfl, hq⟩

/-- The directory that a path starts from. -/
def start (t : Tree) (absolute : Bool) : Place := if absolute then [] else t.workingDirectory

theorem Keeps.start_eq (h : Keeps t u) (absolute : Bool) : u.start absolute = t.start absolute := by
  unfold Tree.start
  rw [h.start]

theorem locate_named (hname : IsName s) (t : Tree) (absolute : Bool) (above : List String) :
    t.locate (.named absolute above s) =
      if (above ++ [s]).any (·.contains '\x00') then .error .nulInName
      else if pathLimit ≤ (Path.named absolute above s).text.utf8ByteSize then .error .nameTooLong
      else
        above.foldlM t.enter (t.start absolute) >>= fun dir =>
          if nameLimit < s.utf8ByteSize then .error .nameTooLong else .ok (.name (dir ++ [s])) := by
  unfold locate
  have hlast : (Path.named absolute above s).steps.getLast? = some s := List.getLast?_concat ..
  have habove : (Path.named absolute above s).steps.dropLast = above := List.dropLast_concat ..
  simp only [hlast, habove, if_neg hname.1, if_neg hname.2]
  rfl

/-- What a path of names leads to, if it leads anywhere: a place in a directory. -/
theorem locate_named_ok {absolute : Bool} {above : List String} {x : Target}
    (hstart : t.find? (t.start absolute) = some .directory) (habove : ∀ s ∈ above, IsName s) (hname : IsName s)
    (h : t.locate (.named absolute above s) = .ok x) :
    x = .name (t.start absolute ++ (above ++ [s])) ∧
      above.foldlM t.enter (t.start absolute) = .ok (t.start absolute ++ above) ∧
      t.find? (t.start absolute ++ above) = some .directory := by
  rw [locate_named hname] at h
  split at h
  · cases h
  split at h
  · cases h
  cases hwalk : above.foldlM t.enter (t.start absolute) with
  | error e =>
    rw [hwalk] at h
    cases h
  | ok d =>
    rw [hwalk] at h
    obtain ⟨rfl, hdir⟩ := foldlM_enter_ok habove hstart hwalk
    simp only [bind, Except.bind] at h
    split at h
    · cases h
    · cases h
      rw [List.append_assoc]
      exact ⟨rfl, rfl, hdir⟩

/-- The content and the permissions of the file at a place, if a file lies there. -/
def file? (t : Tree) (q : Place) : Option (List UInt8 × Nat) :=
  match t.find? q with
  | some (.file content mode) => some (content, mode)
  | _ => none

theorem file?_congr (h : u.find? q = t.find? q) : u.file? q = t.file? q := by
  unfold file?
  rw [h]

/-- The place that a plain path leads to. -/
def placeOf (t : Tree) (p : Path) : Place := t.start p.absolute ++ p.steps

theorem placeOf_named (t : Tree) (absolute : Bool) (above : List String) (name : String) :
    t.placeOf (.named absolute above name) = t.start absolute ++ (above ++ [name]) := rfl

theorem placeOf_named_tmp_ne (t : Tree) (absolute : Bool) (above : List String) (name : String) :
    t.placeOf (.named absolute above (name ++ ".tmp")) ≠ t.placeOf (.named absolute above name) := by
  rw [placeOf_named, placeOf_named, ← List.append_assoc, ← List.append_assoc]
  intro h
  exact append_tmp_ne name (List.cons.inj (List.append_cancel_left h)).1

end Tree

/-! ## Directories and files at plain paths -/

theorem run_makeDirectory (p : Path) (t : Tree) :
    (makeDirectory p).run.run t =
      match t.locate p with
      | .error e => (.error e, t)
      | .ok (.unnamed _) => (.error .exists, t)
      | .ok (.name q) =>
        match t.find? q with
        | some _ => (.error .exists, t)
        | none => (.ok (), t.put q .directory) := by
  rw [makeDirectory, run_locate_bind]
  rcases t.locate p with e | q | q
  · rfl
  · dsimp only
    rw [run_get_bind]
    cases t.find? q <;> rfl
  · rfl

/-- Whether there was a directory already makes no difference to the tree. -/
theorem tree_ensureDirectory (p : Path) (t : Tree) :
    ((ensureDirectory p).run.run t).2 = ((makeDirectory p).run.run t).2 := by
  rw [ensureDirectory, run_tryCatch]
  rcases (makeDirectory p).run.run t with ⟨e | _, u⟩
  · dsimp only
    rw [run_get_bind]
    split <;> rfl
  · rfl

end Files

open Files

/-- The steps of saving to a plain path. -/
theorem saveRecord_named {absolute : Bool} {above : List String} {name : String} (habove : ∀ s ∈ above, IsName s)
    (hname : IsName name) (record : String) :
    saveRecord (.named absolute above name) record = (do
      makeDirectoriesFrom absolute above.reverse
      write (.named absolute above (name ++ ".tmp")) (bytesOf record)
      setMode (.named absolute above (name ++ ".tmp")) ownerMode
      moveFile (.named absolute above (name ++ ".tmp")) (.named absolute above name)) := by
  have hparts : ({ absolute, steps := above } : Path).parts = above := Path.parts_of_names habove
  unfold saveRecord
  rw [Path.parent?_named habove hname, Path.temporary_named habove hname]
  dsimp only
  rw [makeDirectories, hparts]

end ClusterPanel
