/- Association lists ordered by key. Keys are ordered by code point, which is also the order of their bytes.
   `Keyed.insert` puts a value under a key in its place and replaces what stood there, so that a list built by it
   has strictly increasing keys (`Keyed.Sorted`); inserting the pairs of such a list one after the other gives it
   back (`Keyed.ofList_of_sorted`). -/
namespace ClusterPanel

/-- Pairs of a key and a value. -/
abbrev Keyed (α : Type) := List (String × α)

namespace Keyed

variable {α : Type}

/-- Whether a text stands before another: the first difference decides, and a text stands before its longer ones. -/
def precedes : List Char → List Char → Bool
  | _, [] => false
  | [], _ :: _ => true
  | a :: s, b :: t => if a.toNat = b.toNat then precedes s t else a.toNat < b.toNat

/-- The order of keys. -/
def before (a b : String) : Prop := precedes a.toList b.toList = true

instance (a b : String) : Decidable (before a b) := inferInstanceAs (Decidable (precedes a.toList b.toList = true))

def insert (k : String) (v : α) : Keyed α → Keyed α
  | [] => [(k, v)]
  | (a, x) :: r => if k = a then (k, v) :: r else if before k a then (k, v) :: (a, x) :: r else (a, x) :: insert k v r

def get? (k : String) : Keyed α → Option α
  | [] => none
  | (a, x) :: r => if k = a then some x else get? k r

/-- Strictly increasing keys. -/
def Sorted (m : Keyed α) : Prop := m.Pairwise fun p q => before p.1 q.1

/-- The pairs of a list put one after the other; of a repeated key the last value stays. -/
def ofList (ps : List (String × α)) : Keyed α := ps.foldl (fun m p => m.insert p.1 p.2) []

theorem precedes_irrefl (s : List Char) : precedes s s = false := by
  induction s with
  | nil => rfl
  | cons a s ih => simp [precedes, ih]

theorem precedes_trans {s t u : List Char} (h₁ : precedes s t = true) (h₂ : precedes t u = true) :
    precedes s u = true := by
  induction s generalizing t u with
  | nil =>
    cases u with
    | nil => cases t <;> simp [precedes] at h₂
    | cons _ _ => rfl
  | cons a s ih =>
    cases t with
    | nil => simp [precedes] at h₁
    | cons b t =>
      cases u with
      | nil => simp [precedes] at h₂
      | cons c u =>
        simp only [precedes] at h₁ h₂ ⊢
        split at h₁ <;> split at h₂
        · rw [if_pos (by omega)]
          exact ih h₁ h₂
        · have h := of_decide_eq_true h₂
          rw [if_neg (by omega)]
          exact decide_eq_true (by omega)
        · have h := of_decide_eq_true h₁
          rw [if_neg (by omega)]
          exact decide_eq_true (by omega)
        · have h := of_decide_eq_true h₁
          have h' := of_decide_eq_true h₂
          rw [if_neg (by omega)]
          exact decide_eq_true (by omega)

theorem precedes_of_not {s t : List Char} (h₁ : s ≠ t) (h₂ : precedes s t = false) : precedes t s = true := by
  induction s generalizing t with
  | nil =>
    cases t with
    | nil => exact absurd rfl h₁
    | cons b t => simp [precedes] at h₂
  | cons a s ih =>
    cases t with
    | nil => rfl
    | cons b t =>
      simp only [precedes] at h₂ ⊢
      split at h₂
      · next e =>
        have hab : a = b := Char.toNat_inj.1 e
        rw [if_pos e.symm]
        exact ih (fun hst => h₁ (by rw [hab, hst])) h₂
      · next e =>
        have h := of_decide_eq_false h₂
        rw [if_neg fun e' => e e'.symm]
        exact decide_eq_true (by omega)

theorem before_irrefl (a : String) : ¬before a a := by simp [before, precedes_irrefl]

theorem before_trans {a b c : String} (h₁ : before a b) (h₂ : before b c) : before a c := precedes_trans h₁ h₂

theorem before_of_not {a b : String} (h₁ : a ≠ b) (h₂ : ¬before a b) : before b a :=
  precedes_of_not (fun h => h₁ (String.toList_inj.1 h)) (Bool.eq_false_iff.2 h₂)

theorem mem_insert {k : String} {v : α} {m : Keyed α} {p : String × α} (h : p ∈ m.insert k v) :
    p = (k, v) ∨ p ∈ m := by
  induction m with
  | nil => simpa [insert] using h
  | cons q m ih =>
    simp only [insert] at h
    split at h
    · simp only [List.mem_cons] at h ⊢
      rcases h with h | h <;> simp [h]
    · split at h
      · simpa using h
      · simp only [List.mem_cons] at h ⊢
        rcases h with h | h
        · simp [h]
        · rcases ih h with h | h <;> simp [h]

theorem Sorted.insert {m : Keyed α} (h : m.Sorted) (k : String) (v : α) : (m.insert k v).Sorted := by
  induction m with
  | nil => simp [Keyed.insert, Sorted]
  | cons q m ih =>
    have hq := List.pairwise_cons.1 h
    simp only [Keyed.insert]
    split
    · next hk => exact List.pairwise_cons.2 ⟨fun p hp => hk ▸ hq.1 p hp, hq.2⟩
    · next hk =>
      split
      · next hb =>
        refine List.pairwise_cons.2 ⟨fun p hp => ?_, h⟩
        rcases List.mem_cons.1 hp with rfl | hp
        · exact hb
        · exact before_trans hb (hq.1 p hp)
      · next hb =>
        refine List.pairwise_cons.2 ⟨fun p hp => ?_, ih hq.2⟩
        rcases mem_insert hp with rfl | hp
        · exact before_of_not hk hb
        · exact hq.1 p hp

theorem insert_of_after {m : Keyed α} {k : String} {v : α} (h : ∀ p ∈ m, before p.1 k) :
    m.insert k v = m ++ [(k, v)] := by
  induction m with
  | nil => rfl
  | cons q m ih =>
    have hq := h q (by simp)
    have hk : k ≠ q.1 := fun e => before_irrefl k (e ▸ hq)
    have hb : ¬before k q.1 := fun e => before_irrefl k (before_trans e hq)
    simp only [insert, if_neg hk, if_neg hb, ih fun p hp => h p (by simp [hp])]
    rfl

theorem sorted_ofList (ps : List (String × α)) : (ofList ps).Sorted := by
  have : ∀ (ps : List (String × α)) (m : Keyed α), m.Sorted →
      (ps.foldl (fun m p => m.insert p.1 p.2) m).Sorted := by
    intro ps
    induction ps with
    | nil => exact fun _ h => h
    | cons p ps ih => exact fun m h => ih _ (h.insert _ _)
  exact this ps [] List.Pairwise.nil

/-- Putting pairs one after the other adds no others. -/
theorem mem_of_mem_ofList {ps : List (String × α)} {p : String × α} (h : p ∈ ofList ps) : p ∈ ps := by
  have : ∀ (ps : List (String × α)) (m : Keyed α), p ∈ ps.foldl (fun m p => m.insert p.1 p.2) m → p ∈ m ∨ p ∈ ps := by
    intro ps
    induction ps with
    | nil => exact fun _ h => .inl h
    | cons q ps ih =>
      intro m h
      rcases ih _ h with h | h
      · rcases mem_insert h with rfl | h
        · exact .inr List.mem_cons_self
        · exact .inl h
      · exact .inr (List.mem_cons_of_mem _ h)
  exact (this ps [] h).resolve_left List.not_mem_nil

/-- A list whose keys increase is the list of its own pairs. -/
theorem ofList_of_sorted {m : Keyed α} (h : m.Sorted) : ofList m = m := by
  have : ∀ (a b : Keyed α), (a ++ b).Pairwise (fun p q => before p.1 q.1) →
      b.foldl (fun m p => m.insert p.1 p.2) a = a ++ b := by
    intro a b
    induction b generalizing a with
    | nil => simp
    | cons p b ih =>
      intro h
      have hp : ∀ q ∈ a, before q.1 p.1 := fun q hq => (List.pairwise_append.1 h).2.2 q hq p (by simp)
      have e : a.insert p.1 p.2 = a ++ [p] := insert_of_after hp
      rw [List.foldl_cons, e, ih (a ++ [p]) (by simpa using h)]
      simp
  exact this [] m h

end Keyed

end ClusterPanel
