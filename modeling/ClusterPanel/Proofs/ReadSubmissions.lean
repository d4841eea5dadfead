import ClusterPanel.Proofs.Rounding
import ClusterPanel.Proofs.WireRecords

/- What is known of a submission that was read of some text, whoever wrote it. Its maps are in order, its integers fit
   into 64 bits, and its numbers of processor cores are of single precision, finite or not (`isRead_of_ofBytes`). -/
namespace ClusterPanel

open Json Number

namespace Json

/-! ## Numbers -/

variable {s r : Bytes} {n : Numeric}

/-- The numbers that are read: integers no less than the least of 64 bits, and numbers of double precision. -/
def Numeric.IsRead : Numeric → Prop
  | .int i => -0x8000000000000000 ≤ i
  | .double _ => True
  | .single _ => False

/-- If anything is read, it is a number that is read. -/
def ReadsNumeric (x : Except Fault (Numeric × Bytes)) : Prop := ∀ n r, x = .ok (n, r) → n.IsRead

theorem readsNumeric_error (f : Fault) : ReadsNumeric (.error f) := fun _ _ h => by cases h

theorem readsNumeric_double (x : Binary) (r : Bytes) : ReadsNumeric (.ok (.double x, r)) := fun _ _ h => by
  cases h
  trivial

theorem readsNumeric_scaleDouble (negative : Bool) (m : Nat) (e : Int) (s : Bytes) :
    ReadsNumeric (scaleDouble negative m e s) := by
  unfold scaleDouble
  dsimp only
  repeat' split
  all_goals first
    | exact readsNumeric_error _
    | exact readsNumeric_double _ _

theorem readsNumeric_readExponent (negative : Bool) (m : Nat) (e : Int) (s : Bytes) :
    ReadsNumeric (readExponent negative m e s) := by
  unfold readExponent
  dsimp only
  repeat' split
  all_goals first
    | exact readsNumeric_error _
    | exact readsNumeric_double _ _
    | exact readsNumeric_scaleDouble _ _ _ _

theorem readsNumeric_readDecimals (negative : Bool) (m : Nat) (e : Int) (s : Bytes) :
    ReadsNumeric (readDecimals negative m e s) := by
  unfold readDecimals readTail
  dsimp only
  repeat' split
  all_goals first
    | exact readsNumeric_error _
    | exact readsNumeric_scaleDouble _ _ _ _
    | exact readsNumeric_readExponent _ _ _ _

theorem readsNumeric_whole (negative : Bool) (m : Nat) (overflow : Bool) (dropped : Int) (s : Bytes) :
    ReadsNumeric (readNumber.whole negative m overflow dropped s) := by
  unfold readNumber.whole
  split
  · exact readsNumeric_scaleDouble _ _ _ _
  · split
    · intro n r h
      cases h
      show (-0x8000000000000000 : Int) ≤ m
      omega
    · split
      · next hm =>
        intro n r h
        cases h
        rw [Bool.and_eq_true, decide_eq_true_eq, decide_eq_true_eq] at hm
        show (-0x8000000000000000 : Int) ≤ -m
        omega
      · exact readsNumeric_double _ _

theorem readsNumeric_readNumber (negative : Bool) (s : Bytes) : ReadsNumeric (readNumber negative s) := by
  unfold readNumber
  dsimp only
  repeat' split
  all_goals first
    | exact readsNumeric_error _
    | exact readsNumeric_readDecimals _ _ _ _
    | exact readsNumeric_readExponent _ _ _ _
    | exact readsNumeric_whole _ _ _ _ _

theorem isRead_of_readNumeric {expected : String} (h : readNumeric expected s = .ok (n, r)) : n.IsRead := by
  unfold readNumeric at h
  split at h
  · cases h
  · split at h
    · exact readsNumeric_readNumber _ _ n r h
    · split at h
      · exact readsNumeric_readNumber _ _ n r h
      · exact absurd h readMismatch_ne_ok

theorem isInt64_of_readInt64 {i : Int} (h : readInt64 s = .ok (i, r)) : IsInt64 i := by
  obtain ⟨⟨n, t⟩, hnumeric, h⟩ := bind_eq_ok h
  have hread := isRead_of_readNumeric hnumeric
  cases n with
  | int j =>
    dsimp only at h
    split at h
    · next hlt =>
      cases h
      exact ⟨hread, hlt⟩
    · cases h
  | double x => cases h
  | single x => cases h

theorem fits_of_readSingle {x : Binary} (h : readSingle s = .ok (x, r)) : x.Fits Precision.single := by
  obtain ⟨⟨n, t⟩, hnumeric, h⟩ := bind_eq_ok h
  have hread := isRead_of_readNumeric hnumeric
  cases n with
  | int i =>
    cases h
    exact Precision.fits_round isFormat_single _ _ one_pos
  | double y =>
    cases h
    cases y with
    | finite negative m q => exact Precision.fits_round isFormat_single _ _ (Nat.pow_pos two_pos)
    | infinite negative => trivial
  | single y => exact absurd hread id

theorem sorted_of_readKeyed {α : Type} {read : Bytes → Except Fault (α × Bytes)} {m : Keyed α}
    (h : readKeyed read s = .ok (m, r)) : m.Sorted := by
  unfold readKeyed at h
  split at h
  · cases h
  · split at h
    · obtain ⟨p, -, h⟩ := map_eq_ok h
      cases h
      exact Keyed.sorted_ofList p.1
    · exact absurd h readMismatch_ne_ok

end Json

/-! ## Parts of submissions -/

/-- The container settings of a draft, if there are any, have their options in order. -/
def InstanceConfig.Draft.IsOrdered (d : Draft) : Prop := ∀ m ∈ d.options, m.Sorted

theorem InstanceConfig.keeps_isOrdered : ∀ f ∈ shape.fields, f.Keeps Draft.IsOrdered := by
  intro f hf
  simp only [shape, List.mem_cons, List.not_mem_nil, or_false] at hf
  rcases hf with rfl | rfl | rfl | rfl
  · exact FieldShape.keeps_of fun d s x r hd _ => hd
  · exact FieldShape.keeps_of fun d s x r hd _ => hd
  · exact FieldShape.keeps_of fun d s x r hd _ => hd
  · apply FieldShape.keeps_of
    intro d s x r _ hread m hm
    cases hm
    exact sorted_of_readKeyed hread

theorem InstanceConfig.sorted_of_read {s r : Bytes} {x : InstanceConfig} (h : shape.read s = .ok (x, r)) :
    x.options.Sorted := by
  have hstart : Draft.IsOrdered shape.start := nofun
  obtain ⟨d, hd, hfinish⟩ := finish_of_read hstart keeps_isOrdered h
  obtain ⟨image, -, hfinish⟩ := bind_eq_ok hfinish
  cases hfinish
  cases hoptions : d.options with
  | none => exact List.Pairwise.nil
  | some m => exact hd m hoptions

namespace ResourceRequest

/-- The numbers of a request for resources are such as are read. -/
structure IsRead (x : ResourceRequest) : Prop where
  memoryMb : IsInt64 x.memoryMb
  memoryReserveMb : IsInt64 x.memoryReserveMb
  cpu : x.cpu.Fits Precision.single
  cpuReserve : x.cpuReserve.Fits Precision.single

/-- The numbers of a draft, those that there are, are such as are read. -/
structure Draft.IsRead (d : Draft) : Prop where
  memoryMb : ∀ i ∈ d.memoryMb, IsInt64 i
  memoryReserveMb : ∀ i ∈ d.memoryReserveMb, IsInt64 i
  cpu : ∀ x ∈ d.cpu, x.Fits Precision.single
  cpuReserve : ∀ x ∈ d.cpuReserve, x.Fits Precision.single

theorem keeps_isRead : ∀ f ∈ shape.fields, f.Keeps Draft.IsRead := by
  intro f hf
  simp only [shape, List.mem_cons, List.not_mem_nil, or_false] at hf
  rcases hf with rfl | rfl | rfl | rfl
  · apply FieldShape.keeps_of
    intro d s i r hd hread
    exact ⟨fun j hj => by cases hj; exact isInt64_of_readInt64 hread, hd.memoryReserveMb, hd.cpu, hd.cpuReserve⟩
  · apply FieldShape.keeps_of
    intro d s i r hd hread
    exact ⟨hd.memoryMb, fun j hj => by cases hj; exact isInt64_of_readInt64 hread, hd.cpu, hd.cpuReserve⟩
  · apply FieldShape.keeps_of
    intro d s x r hd hread
    exact ⟨hd.memoryMb, hd.memoryReserveMb, fun y hy => by cases hy; exact fits_of_readSingle hread, hd.cpuReserve⟩
  · apply FieldShape.keeps_of
    intro d s x r hd hread
    exact ⟨hd.memoryMb, hd.memoryReserveMb, hd.cpu, fun y hy => by cases hy; exact fits_of_readSingle hread⟩

theorem required_eq_ok {β : Type} {name : String} {x : Option β} {y : β} (h : required name x = .ok y) :
    x = some y := by
  cases x with
  | none => cases h
  | some z => rw [Except.ok.inj h]

theorem isRead_of_read {s r : Bytes} {x : ResourceRequest} (h : shape.read s = .ok (x, r)) : x.IsRead := by
  have hstart : Draft.IsRead shape.start := ⟨nofun, nofun, nofun, nofun⟩
  obtain ⟨d, hd, hfinish⟩ := finish_of_read hstart keeps_isRead h
  obtain ⟨memoryMb, hmemory, hfinish⟩ := bind_eq_ok hfinish
  obtain ⟨cpu, hcpu, hfinish⟩ := bind_eq_ok hfinish
  cases hfinish
  refine ⟨hd.memoryMb _ (required_eq_ok hmemory), ?_, hd.cpu _ (required_eq_ok hcpu), ?_⟩
  · cases hreserve : d.memoryReserveMb with
    | none =>
      show IsInt64 0
      exact ⟨by decide, by decide⟩
    | some i => exact hd.memoryReserveMb i hreserve
  · cases hreserve : d.cpuReserve with
    | none => exact ⟨by decide, by decide, by decide⟩
    | some x => exact hd.cpuReserve x hreserve

end ResourceRequest

/-! ## Submissions -/

namespace JobSubmission

/-- A submission is such as is read: its maps are in order, and so are the numbers of what it asks for. -/
structure IsRead (x : JobSubmission) : Prop where
  ordered : x.Ordered
  resources : ∀ r ∈ x.resources, r.IsRead

/-- The parts of a draft, those that there are, are such as are read. -/
structure Draft.IsRead (d : Draft) : Prop where
  labels : ∀ m ∈ d.labels, m.Sorted
  options : ∀ c ∈ d.instanceConfig, ∀ y ∈ c, y.options.Sorted
  resources : ∀ r ∈ d.resources, ∀ y ∈ r, y.IsRead

theorem keeps_isRead : ∀ f ∈ shape.fields, f.Keeps Draft.IsRead := by
  intro f hf
  simp only [shape, List.mem_cons, List.not_mem_nil, or_false] at hf
  -- Most fields have nothing to do with the parts in question.
  have hother {β : Type} {name : String} {optional : Bool} {get : Draft → Option β} {set : Draft → β → Draft}
      {read : Bytes → Except Fault (β × Bytes)} (hset : ∀ d x, (set d x).labels = d.labels ∧
        (set d x).instanceConfig = d.instanceConfig ∧ (set d x).resources = d.resources) :
      (FieldShape.of name optional get set read).Keeps Draft.IsRead := by
    apply FieldShape.keeps_of
    intro d s x r hd _
    obtain ⟨hlabels, hconfig, hresources⟩ := hset d x
    exact ⟨hlabels ▸ hd.labels, hconfig ▸ hd.options, hresources ▸ hd.resources⟩
  rcases hf with rfl | rfl | rfl | rfl | rfl | rfl | rfl | rfl | rfl | rfl | rfl
  · exact hother fun _ _ => ⟨rfl, rfl, rfl⟩
  · exact hother fun _ _ => ⟨rfl, rfl, rfl⟩
  · exact hother fun _ _ => ⟨rfl, rfl, rfl⟩
  · exact hother fun _ _ => ⟨rfl, rfl, rfl⟩
  · apply FieldShape.keeps_of
    intro d s m r hd hread
    exact ⟨fun y hy => by cases hy; exact sorted_of_readKeyed hread, hd.options, hd.resources⟩
  · exact hother fun _ _ => ⟨rfl, rfl, rfl⟩
  · exact hother fun _ _ => ⟨rfl, rfl, rfl⟩
  · exact hother fun _ _ => ⟨rfl, rfl, rfl⟩
  · apply FieldShape.keeps_of
    intro d s c r hd hread
    refine ⟨hd.labels, ?_, hd.resources⟩
    intro x hx
    cases hx
    exact of_readOption (fun _ _ _ => InstanceConfig.sorted_of_read) hread
  · apply FieldShape.keeps_of
    intro d s x r hd hread
    refine ⟨hd.labels, hd.options, ?_⟩
    intro y hy
    cases hy
    exact of_readOption (fun _ _ _ => ResourceRequest.isRead_of_read) hread
  · exact hother fun _ _ => ⟨rfl, rfl, rfl⟩

/-- Whatever text a submission is read of, it is such as is read. -/
theorem isRead_of_ofBytes {text : Bytes} {x : JobSubmission} (h : ofBytes text = .ok x) : x.IsRead := by
  obtain ⟨⟨y, r⟩, hread, h⟩ := bind_eq_ok h
  have hstart : Draft.IsRead shape.start := ⟨nofun, nofun, nofun⟩
  obtain ⟨d, hd, hfinish⟩ := finish_of_read hstart keeps_isRead hread
  dsimp only at h
  split at h
  · cases h
    cases hfinish
    refine ⟨⟨?_, ?_⟩, ?_⟩
    · cases hlabels : d.labels with
      | none => exact List.Pairwise.nil
      | some m => exact hd.labels m hlabels
    · cases hconfig : d.instanceConfig with
      | none => exact nofun
      | some c => exact hd.options c hconfig
    · cases hresources : d.resources with
      | none => exact nofun
      | some r => exact hd.resources r hresources
  · cases h

end JobSubmission

end ClusterPanel
