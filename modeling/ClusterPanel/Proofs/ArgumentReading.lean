import ClusterPanel.Proofs.JsonReading
import ClusterPanel.Program.Invocation

/- What variables do to the reading of a command line. They are looked at where the reading of a command ends, so a
   command whose options and whose own commands have none is read alike in every environment
   (`readCommand_of_isClosed`). Where only the outermost command has them, as the program does, a line that can be read
   without any variables is read with the values of the variables put behind the values that were given
   (`readCommand_variables`). -/
namespace ClusterPanel.Arguments

open Json

variable {e e' : Environment} {g : Grammar} {p : Progress} {args : List String} {l : Line}

/-! ## Values of variables -/

/-- The value of a variable, under the name of the option that it stands in for. -/
def underName (name : String) (value : Option String) : List (String × String) := (value.map (name, ·)).toList

/-- The variable of an option, if it is set and the option is not given. -/
def standsIn? (e : Environment) (given : List (String × String)) (a : Argument) : Option String :=
  if (valueOf? a.name given).isSome then none else a.standIn.bind e.value?

/-- Adds the variable of an option. -/
def addStandIn (e : Environment) (given more : List (String × String)) (a : Argument) :
    Except Fault (List (String × String)) :=
  match standsIn? e given a with
  | none => .ok more
  | some v => (a.kind.check v).map fun _ => more ++ [(a.name, v)]

theorem valuesOfVariables_eq (e : Environment) (g : Grammar) (given : List (String × String)) :
    valuesOfVariables e g given = g.options.foldlM (addStandIn e given) [] := by
  unfold valuesOfVariables
  congr 1
  funext more a
  unfold addStandIn standsIn?
  cases a.standIn.bind e.value? with
  | none => simp [pure, Except.pure]
  | some v =>
    by_cases h : (valueOf? a.name given).isSome = true
    · simp [h, pure, Except.pure]
    · simp [h]
      rfl

theorem addStandIn_eq_ok {given more more' : List (String × String)} {a : Argument} :
    addStandIn e given more a = .ok more' ↔
      (∀ v ∈ standsIn? e given a, a.kind.check v = .ok ()) ∧
        more' = more ++ underName a.name (standsIn? e given a) := by
  unfold addStandIn underName
  cases standsIn? e given a with
  | none => simp [eq_comm]
  | some v => cases h : a.kind.check v <;> simp [Except.map, h, eq_comm]

/-- The variables are taken if every one that stands in for an option has a value that the option takes, and what they
    add is these values. -/
theorem valuesOfVariables_eq_ok {given more : List (String × String)} :
    valuesOfVariables e g given = .ok more ↔
      (∀ a ∈ g.options, ∀ v ∈ standsIn? e given a, a.kind.check v = .ok ()) ∧
        more = g.options.flatMap fun a => underName a.name (standsIn? e given a) := by
  have hfold (options : List Argument) (acc : List (String × String)) :
      options.foldlM (addStandIn e given) acc = .ok more ↔
        (∀ a ∈ options, ∀ v ∈ standsIn? e given a, a.kind.check v = .ok ()) ∧
          more = acc ++ options.flatMap fun a => underName a.name (standsIn? e given a) := by
    induction options generalizing acc with
    | nil => simp [pure, Except.pure, eq_comm]
    | cons a options ih =>
      rw [List.foldlM_cons, List.forall_mem_cons, List.flatMap_cons, ← List.append_assoc]
      constructor
      · intro h
        obtain ⟨acc', ha, h⟩ := bind_eq_ok h
        obtain ⟨hcheck, rfl⟩ := addStandIn_eq_ok.1 ha
        obtain ⟨hrest, rfl⟩ := (ih _).1 h
        exact ⟨⟨hcheck, hrest⟩, rfl⟩
      · rintro ⟨⟨hcheck, hrest⟩, rfl⟩
        rw [addStandIn_eq_ok.2 ⟨hcheck, rfl⟩]
        exact (ih _).2 ⟨hrest, rfl⟩
  rw [valuesOfVariables_eq]
  exact hfold g.options []

/-- Where no variable is set that stands in for an option, nothing comes from variables. -/
theorem valuesOfVariables_of_unset (h : ∀ a ∈ g.options, a.standIn.bind e.value? = none)
    (given : List (String × String)) : valuesOfVariables e g given = .ok [] := by
  have hnone : ∀ a ∈ g.options, standsIn? e given a = none := by
    intro a ha
    rw [standsIn?, h a ha, ite_self]
  refine valuesOfVariables_eq_ok.2 ⟨?_, ?_⟩
  · intro a ha v hv
    rw [hnone a ha] at hv
    cases hv
  · symm
    apply List.flatMap_eq_nil_iff.2
    intro a ha
    rw [hnone a ha]
    rfl

/-! ## Commands without variables -/

/-- No option of a command, nor of the commands in it, has a variable that stands in for it. -/
inductive Grammar.IsClosed : Grammar → Prop
  | intro {g : Grammar} (options : ∀ a ∈ g.options, a.standIn = none)
      (commands : ∀ name inner, g.command? name = some inner → inner.IsClosed) : g.IsClosed

theorem Grammar.isClosed_of_forall (options : ∀ a ∈ g.options, a.standIn = none)
    (commands : ∀ c ∈ g.commands, c.2.IsClosed) : g.IsClosed := by
  refine .intro options ?_
  intro name inner h
  obtain ⟨c, hc, rfl⟩ := Option.map_eq_some_iff.1 h
  exact commands c (List.mem_of_find?_eq_some hc)

theorem finish_of_isClosed (h : g.IsClosed) (e e' : Environment) (inner : Option Line) (p : Progress) :
    finish e g inner p = finish e' g inner p := by
  obtain ⟨options, -⟩ := h
  have hvalues (e : Environment) (values : List (String × String)) : valuesOfVariables e g values = .ok [] := by
    apply valuesOfVariables_of_unset
    intro a ha
    rw [options a ha]
    rfl
  simp only [finish, hvalues]

/-- Reading a closed command does not depend on the environment. -/
theorem readCommand_of_isClosed (h : g.IsClosed) (e e' : Environment) (p : Progress) (args : List String) :
    readCommand e g p args = readCommand e' g p args := by
  induction args generalizing g p with
  | nil => exact finish_of_isClosed h e e' none p
  | cons arg rest ih =>
    unfold readCommand
    split
    · simp only [ih h]
    · split
      · split
        · rfl
        · next inner hinner =>
          have hclosed : inner.IsClosed := by
            obtain ⟨-, commands⟩ := h
            exact commands _ _ hinner
          simp only [ih hclosed, finish_of_isClosed h e e']
      · simp only [ih h]

/-! ## Variables of the outermost command -/

/-- A line that is read without variables is read with them too, unless the value of one is refused: their values stand
    behind those that were given to the outermost command. -/
theorem readCommand_variables (hc : g.commands ≠ [])
    (hclosed : ∀ name inner, g.command? name = some inner → inner.IsClosed) (h : readCommand {} g p args = .ok l) :
    ∃ given within, l.values = given ++ within ∧ ∀ e : Environment, readCommand e g p args =
      (valuesOfVariables e g given).map fun more => { l with values := given ++ more ++ within } := by
  have hunset (values : List (String × String)) : valuesOfVariables {} g values = .ok [] := by
    apply valuesOfVariables_of_unset
    intro a _
    cases a.standIn <;> rfl
  induction args generalizing p with
  | nil =>
    -- A command that has commands of its own has to be followed by one of them.
    obtain ⟨p', -, h⟩ := bind_eq_ok h
    simp only [hunset] at h
    cases hcommands : g.commands with
    | nil => exact absurd hcommands hc
    | cons c commands =>
      rw [hcommands] at h
      cases h
  | cons arg rest ih =>
    unfold readCommand at h ⊢
    split at h
    · next honly =>
      obtain ⟨p', hp, h⟩ := bind_eq_ok h
      simp only [if_pos honly, hp]
      exact ih h
    · next honly =>
      simp only [if_neg honly]
      split at h
      · next hcommand =>
        simp only [if_pos hcommand]
        split at h
        · cases h
        · next inner hinner =>
          -- The reading of the inner command is over before the variables are looked at.
          obtain ⟨l', hl, h⟩ := bind_eq_ok h
          obtain ⟨p', hp, h⟩ := bind_eq_ok h
          simp only [hunset] at h
          cases h
          refine ⟨p'.values, l'.values, by simp, ?_⟩
          intro e
          rw [readCommand_of_isClosed (hclosed _ _ hinner) e {}, hl]
          simp only [finish, hp, bind, Except.bind, Except.map]
          split <;> rfl
      · next hcommand =>
        obtain ⟨p', hp, h⟩ := bind_eq_ok h
        simp only [if_neg hcommand, hp]
        exact ih h

end ClusterPanel.Arguments
