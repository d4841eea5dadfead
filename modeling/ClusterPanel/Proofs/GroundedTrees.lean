import ClusterPanel.Proofs.PlainPaths

/- Trees in which all that there is lies in a directory (`Tree.IsGrounded`), and how they grow. Directories are made
   from the top down, so a tree in which they are made, whether or not all of them could be, has what it had and
   besides directories above one place (`Grows`, `grows_makeDirectories`). Where the way to a file was not there before,
   there was no file; so what is read at the end of the way is the same before and after (`read_of_grows`). -/
namespace ClusterPanel.Files

namespace Tree

variable {t u v : Tree} {dir dir' q : Place} {steps : List String} {s : String}

/-! ## Grounded trees -/

/-- All that there is in the tree lies in a directory, and paths start from one. -/
structure IsGrounded (t : Tree) : Prop where
  start : t.find? t.workingDirectory = some .directory
  above : ∀ x ∈ t.entries, t.find? x.1.dropLast = some .directory

theorem IsGrounded.find?_start (ht : t.IsGrounded) (absolute : Bool) :
    t.find? (t.start absolute) = some .directory := by
  cases absolute with
  | true => rfl
  | false => exact ht.start

theorem IsGrounded.find?_above {e : Entry} (ht : t.IsGrounded) (h : t.find? (dir ++ [s]) = some e) :
    t.find? dir = some .directory := by
  unfold find? at h
  rw [if_neg (List.append_ne_nil_of_right_ne_nil _ (List.cons_ne_nil _ _))] at h
  obtain ⟨x, hx, -⟩ := Option.map_eq_some_iff.1 h
  have habove := ht.above x (List.mem_of_find?_eq_some hx)
  have hplace : x.1 = dir ++ [s] := by simpa using List.find?_some hx
  rwa [hplace, List.dropLast_concat] at habove

/-- Where there is nothing there is nothing below. -/
theorem IsGrounded.find?_below (ht : t.IsGrounded) (h : t.find? q = none) (r : Place) : t.find? (q ++ r) = none := by
  induction r generalizing q with
  | nil => rwa [List.append_nil]
  | cons s r ih =>
    have hnext : t.find? (q ++ [s]) = none := by
      cases hf : t.find? (q ++ [s]) with
      | none => rfl
      | some e =>
        rw [ht.find?_above hf] at h
        cases h
    have hbelow := ih hnext
    rwa [List.append_assoc, List.singleton_append] at hbelow

theorem IsGrounded.put (ht : t.IsGrounded) (hq : t.find? q ≠ some .directory)
    (hdir : t.find? q.dropLast = some .directory) (e : Entry) : (t.put q e).IsGrounded := by
  have hkeep := keeps_put e hq
  refine ⟨hkeep.directory _ ht.start, ?_⟩
  intro x hx
  apply hkeep.directory
  rcases List.mem_append.1 hx with hold | hnew
  · exact ht.above x (List.mem_filter.1 hold).1
  · rw [List.mem_singleton.1 hnew]
    exact hdir

/-! ## Growing -/

/-- A tree has what another one has, and besides directories on the way to a place. -/
structure Grows (dir : Place) (t u : Tree) : Prop where
  start : u.workingDirectory = t.workingDirectory
  old : ∀ r e, t.find? r = some e → u.find? r = some e
  new : ∀ r, t.find? r = none → u.find? r = none ∨ u.find? r = some .directory ∧ r <+: dir
  grounded : u.IsGrounded

namespace Grows

theorem refl (ht : t.IsGrounded) (dir : Place) : Grows dir t t :=
  ⟨rfl, fun _ _ h => h, fun _ h => .inl h, ht⟩

theorem trans (h : Grows dir t u) (h' : Grows dir u v) : Grows dir t v := by
  refine ⟨h'.start.trans h.start, fun r e hr => h'.old r e (h.old r e hr), ?_, h'.grounded⟩
  intro r hr
  rcases h.new r hr with hnone | ⟨hdir, hway⟩
  · exact h'.new r hnone
  · exact .inr ⟨h'.old r _ hdir, hway⟩

theorem mono (h : Grows dir t u) (hd : dir <+: dir') : Grows dir' t u :=
  ⟨h.start, h.old, fun r hr => (h.new r hr).imp_right fun ⟨hdir, hway⟩ => ⟨hdir, hway.trans hd⟩, h.grounded⟩

theorem keeps (h : Grows dir t u) : Keeps t u := ⟨h.start, fun q hq => h.old q _ hq⟩

theorem start_eq (h : Grows dir t u) (absolute : Bool) : u.start absolute = t.start absolute :=
  h.keeps.start_eq absolute

/-- Off the way everything is as it was. -/
theorem find?_eq (h : Grows dir t u) (hq : ¬ q <+: dir) : u.find? q = t.find? q := by
  cases hf : t.find? q with
  | some e => exact h.old q e hf
  | none => exact (h.new q hf).resolve_right fun ⟨_, hway⟩ => hq hway

theorem put (ht : t.IsGrounded) (hq : t.find? q = none) (hdir : t.find? q.dropLast = some .directory) :
    Grows q t (t.put q .directory) := by
  have hne : q ≠ [] := by
    rintro rfl
    cases hq
  have hempty : t.find? q ≠ some .directory := by
    rw [hq]
    exact (Option.some_ne_none _).symm
  refine ⟨rfl, ?_, ?_, ht.put hempty hdir _⟩
  · intro r e hr
    have hrq : r ≠ q := by
      rintro rfl
      rw [hq] at hr
      cases hr
    rwa [find?_put_ne hrq]
  · intro r hr
    by_cases hrq : r = q
    · subst hrq
      exact .inr ⟨find?_put_self hne, List.prefix_refl r⟩
    · rw [find?_put_ne hrq]
      exact .inl hr

/-- Where there was nothing, a way over names ends for want of a directory or leads through new ones. -/
theorem foldlM_enter_new (h : Grows dir' t u) (hs : ∀ s ∈ steps, IsName s)
    (hfits : ∀ s ∈ steps, s.utf8ByteSize ≤ nameLimit) (ht : t.IsGrounded) (hnone : t.find? dir = none) :
    steps.foldlM u.enter dir = .error .notFound ∨ steps.foldlM u.enter dir = .ok (dir ++ steps) := by
  induction steps generalizing dir with
  | nil =>
    rw [List.append_nil]
    exact .inr rfl
  | cons s steps ih =>
    have hnext : t.find? (dir ++ [s]) = none := ht.find?_below hnone [s]
    rw [List.foldlM_cons, enter_name (hs s List.mem_cons_self),
      if_neg (Nat.not_lt.2 (hfits s List.mem_cons_self))]
    rcases h.new _ hnext with hf | ⟨hf, -⟩ <;> rw [hf]
    · exact .inl rfl
    · have hrest := ih (fun s h => hs s (List.mem_cons_of_mem _ h)) (fun s h => hfits s (List.mem_cons_of_mem _ h))
        hnext
      rw [List.append_assoc, List.singleton_append] at hrest
      exact hrest

/-- A way over names that was blocked by a file still is; one that was missing is missing or new, and nothing was at
    its end. -/
theorem foldlM_enter_error {e : Fault} (h : Grows dir' t u) (hs : ∀ s ∈ steps, IsName s)
    (hfits : ∀ s ∈ steps, s.utf8ByteSize ≤ nameLimit) (ht : t.IsGrounded)
    (herror : steps.foldlM t.enter dir = .error e) :
    steps.foldlM u.enter dir = .error e ∨
      e = .notFound ∧ t.find? (dir ++ steps) = none ∧ steps.foldlM u.enter dir = .ok (dir ++ steps) := by
  induction steps generalizing dir with
  | nil => cases herror
  | cons s steps ih =>
    have hs' : ∀ s ∈ steps, IsName s := fun s h => hs s (List.mem_cons_of_mem _ h)
    have hfits' : ∀ s ∈ steps, s.utf8ByteSize ≤ nameLimit := fun s h => hfits s (List.mem_cons_of_mem _ h)
    have hbelow : dir ++ s :: steps = dir ++ [s] ++ steps := by rw [List.append_assoc, List.singleton_append]
    have hfit : ¬ nameLimit < s.utf8ByteSize := Nat.not_lt.2 (hfits s List.mem_cons_self)
    rw [List.foldlM_cons, enter_name (hs s List.mem_cons_self), if_neg hfit] at herror ⊢
    rw [hbelow]
    rcases hf : t.find? (dir ++ [s]) with _ | ⟨content, mode⟩ | _ <;> simp only [hf] at herror
    · cases herror
      rcases h.new _ hf with hu | ⟨hu, -⟩ <;> rw [hu]
      · exact .inl rfl
      · rcases h.foldlM_enter_new hs' hfits' ht hf with hlost | hled
        · exact .inl hlost
        · exact .inr ⟨rfl, ht.find?_below hf steps, hled⟩
    · cases herror
      rw [h.old _ _ hf]
      exact .inl rfl
    · rw [h.old _ _ hf]
      exact ih hs' hfits' herror

end Grows

end Tree

/-! ## Making directories -/

variable {t u : Tree} {absolute : Bool} {above : List String} {name s : String}

open Files.Tree in
theorem grows_makeDirectory (ht : t.IsGrounded) (absolute : Bool) (habove : ∀ s ∈ above, IsName s)
    (hname : IsName name) :
    Grows (t.start absolute ++ (above ++ [name])) t ((makeDirectory (.named absolute above name)).run.run t).2 := by
  rw [run_makeDirectory]
  rcases hl : t.locate (.named absolute above name) with e | q | q
  · exact .refl ht _
  · obtain ⟨hq, -, hdir⟩ := locate_named_ok (ht.find?_start absolute) habove hname hl
    cases hq
    dsimp only
    rcases hf : t.find? (t.start absolute ++ (above ++ [name])) with _ | _
    · apply Grows.put ht hf
      rwa [← List.append_assoc, List.dropLast_concat]
    · exact .refl ht _
  · exact .refl ht _

open Files.Tree in
theorem grows_ensureDirectory (ht : t.IsGrounded) (absolute : Bool) (habove : ∀ s ∈ above, IsName s)
    (hname : IsName name) :
    Grows (t.start absolute ++ (above ++ [name])) t ((ensureDirectory (.named absolute above name)).run.run t).2 := by
  rw [tree_ensureDirectory]
  exact grows_makeDirectory ht absolute habove hname

open Files.Tree in
/-- Making directories adds directories on the way and does nothing else, also where it fails. -/
theorem grows_makeDirectoriesFrom (ht : t.IsGrounded) (absolute : Bool) {steps : List String}
    (hs : ∀ s ∈ steps, IsName s) :
    Grows (t.start absolute ++ steps.reverse) t ((makeDirectoriesFrom absolute steps).run.run t).2 := by
  induction steps generalizing t with
  | nil => exact .refl ht _
  | cons s above ih =>
    have habove : ∀ s ∈ above, IsName s := fun s h => hs s (List.mem_cons_of_mem _ h)
    have hrev : ∀ s ∈ above.reverse, IsName s := fun s h => habove s (List.mem_reverse.1 h)
    have hname : IsName s := hs s List.mem_cons_self
    have hensure {v : Tree} (hv : v.IsGrounded) := grows_ensureDirectory hv absolute hrev hname
    have hfirst := hensure ht
    rw [List.reverse_cons]
    show Grows _ t ((tryCatch (ensureDirectory (.named absolute above.reverse s)) _ : Action Unit).run.run t).2
    rw [run_tryCatch]
    rcases hrun : (ensureDirectory (.named absolute above.reverse s)).run.run t with ⟨e | _, u⟩ <;> rw [hrun] at hfirst
    · dsimp only
      split
      · -- The directories above are made, and if they could be, this one is tried again.
        have hway : u.start absolute ++ above.reverse <+: t.start absolute ++ (above.reverse ++ [s]) := by
          rw [hfirst.start_eq, ← List.append_assoc]
          exact List.prefix_append _ _
        have hup := (ih hfirst.grounded habove).mono hway
        rw [run_bind]
        rcases hmade : (makeDirectoriesFrom absolute above).run.run u with ⟨e' | _, v⟩ <;> rw [hmade] at hup
        · exact hfirst.trans hup
        · have hagain := hensure hup.grounded
          rw [hup.start_eq, hfirst.start_eq] at hagain
          exact hfirst.trans (hup.trans hagain)
      · exact hfirst
    · exact hfirst

open Files.Tree in
/-- The same by the names from the start on. -/
theorem grows_makeDirectories (ht : t.IsGrounded) (absolute : Bool) (habove : ∀ s ∈ above, IsName s) :
    Grows (t.start absolute ++ above) t ((makeDirectoriesFrom absolute above.reverse).run.run t).2 := by
  have hgrows := grows_makeDirectoriesFrom ht absolute fun s h => habove s (List.mem_reverse.1 h)
  rwa [List.reverse_reverse] at hgrows

/-! ## Reading -/

open Files.Tree in
/-- Directories that were made on the way to a file change nothing about what is read from it: if the way was not
    there before, neither was the file. -/
theorem read_of_grows (h : Grows (t.start absolute ++ above) t u) (ht : t.IsGrounded)
    (habove : ∀ s ∈ above, IsName s) (hname : IsName name)
    (hfits : ∀ s ∈ above, s.utf8ByteSize ≤ nameLimit) (hfit : name.utf8ByteSize ≤ nameLimit) :
    u.read (.named absolute above name) = t.read (.named absolute above name) := by
  have hfind := h.find?_eq (not_prefix_of_concat (t.start absolute ++ above) name)
  unfold Tree.read
  rw [locate_named hname, locate_named hname, h.start_eq]
  simp only [if_neg (Nat.not_lt.2 hfit)]
  split
  · rfl
  split
  · rfl
  cases hwalk : above.foldlM t.enter (t.start absolute) with
  | ok dir =>
    obtain ⟨rfl, -⟩ := foldlM_enter_ok habove (ht.find?_start absolute) hwalk
    rw [foldlM_enter_of_keeps h.keeps hwalk]
    simp only [bind, Except.bind, hfind]
  | error e =>
    rcases h.foldlM_enter_error habove hfits ht hwalk with hlost | ⟨rfl, hnone, hled⟩
    · rw [hlost]
      rfl
    · rw [hled]
      rw [ht.find?_below hnone [name]] at hfind
      simp only [bind, Except.bind, hfind]
      rfl

end ClusterPanel.Files
