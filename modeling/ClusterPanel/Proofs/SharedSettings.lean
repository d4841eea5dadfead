import ClusterPanel.Program.Command
import ClusterPanel.Proofs.ArgumentReading
import ClusterPanel.Proofs.RequestUrl
import ClusterPanel.Proofs.TimestampSpellings

/- One environment, read in two ways. The library takes a variable that is blank for one that is not set, and takes the
   blanks around a URL and a timeout away; the command line takes every value as it stands. A value that is not blank
   and has no blanks around it means the same to both (`Environment.IsPlain`), and then both come to the same
   configuration or refuse the environment. Any other value makes a difference, unless both refuse the environment
   anyway (`configured_eq_iff`). -/
namespace ClusterPanel

open Arguments Json Text

/-! ## Lines -/

namespace Arguments

theorem valueOf?_append (name : String) (values more : List (String × String)) :
    valueOf? name (values ++ more) = (valueOf? name values).or (valueOf? name more) := by
  unfold valueOf?
  rw [List.find?_append, Option.map_or]

theorem valueOf?_underName (name name' : String) (value : Option String) :
    valueOf? name (underName name' value) = if name' = name then value else none := by
  cases value with
  | none => simp [underName, valueOf?]
  | some v => by_cases h : name' = name <;> simp [underName, valueOf?, h]

theorem check_path {v : String} : ValueKind.path.check v = .ok () ↔ v.isEmpty = false := by
  cases h : v.isEmpty <;> simp [ValueKind.check, h]

theorem check_wholeNumber {v : String} :
    ValueKind.wholeNumber.check v = .ok () ↔ (wholeNumber? v.toList).isSome = true := by
  cases h : (wholeNumber? v.toList).isSome <;> simp [ValueKind.check, h]

end Arguments

/-! ## What the command line makes of an environment -/

namespace Environment

/-- The values of the variables are such as the options take. -/
structure Suits (e : Environment) : Prop where
  sessionFile : ∀ v ∈ e.value? sessionFileVariable, v.isEmpty = false
  timeout : ∀ v ∈ e.value? timeoutVariable, (wholeNumber? v.toList).isSome = true

/-- What an environment says of the options: the values of its variables. -/
def optionValues (e : Environment) : List (String × String) :=
  underName "url" (e.value? urlVariable) ++ underName "session-file" (e.value? sessionFileVariable) ++
    underName "timeout" (e.value? timeoutVariable)

/-- The configuration that is asked for by the variables alone, each taken as it stands. -/
def asked (e : Environment) : Config where
  baseUrl := (e.value? urlVariable).getD (Config.usual e).baseUrl
  basePath := (Config.usual e).basePath
  timeout :=
    (((e.value? timeoutVariable).bind fun v => wholeNumber? v.toList).getD ((Config.usual e).timeout / 1000)) * 1000
  sessionPath := (e.value? sessionFileVariable).or (Config.usual e).sessionPath

end Environment

/-- The options that say how the backend is reached and where the session is kept. -/
def settingNames : List String := ["url", "session-file", "timeout"]

theorem valuesOfVariables_program {e : Environment} {given more : List (String × String)}
    (h : ∀ name ∈ settingNames, valueOf? name given = none) :
    valuesOfVariables e programGrammar given = .ok more ↔ e.Suits ∧ more = e.optionValues := by
  obtain ⟨hurl, hfile, htimeout⟩ : valueOf? "url" given = none ∧ valueOf? "session-file" given = none ∧
      valueOf? "timeout" given = none := by simpa [settingNames] using h
  have hsuits : (∀ a ∈ programGrammar.options, ∀ v ∈ standsIn? e given a, a.kind.check v = .ok ()) ↔ e.Suits := by
    simp only [programGrammar, Grammar.options, globalOptions, List.forall_mem_cons, standsIn?, hurl, hfile, htimeout]
    simp only [Option.isSome_none, Bool.false_eq_true, if_false, Option.bind_some, check_path, check_wholeNumber]
    constructor
    · rintro ⟨-, hfile, htimeout, -⟩
      exact ⟨hfile, htimeout⟩
    · rintro ⟨hfile, htimeout⟩
      exact ⟨fun _ _ => rfl, hfile, htimeout, by simp⟩
  have hvalues : (programGrammar.options.flatMap fun a => underName a.name (standsIn? e given a)) = e.optionValues := by
    simp only [programGrammar, Grammar.options, globalOptions, List.flatMap_cons, List.flatMap_nil, standsIn?, hurl,
      hfile, htimeout]
    simp [Environment.optionValues, underName]
  rw [valuesOfVariables_eq_ok, hsuits, hvalues]

theorem isClosed_leaf {options positionals : List Argument} (h : ∀ a ∈ options, a.standIn = none) :
    (Grammar.command options positionals false []).IsClosed :=
  Grammar.isClosed_of_forall h (List.forall_mem_nil _)

theorem isClosed_group {commands : List (String × Grammar)} (h : ∀ c ∈ commands, c.2.IsClosed) :
    (group commands).IsClosed :=
  Grammar.isClosed_of_forall (List.forall_mem_nil _) h

/-- Variables are a matter of the options that come before the command: no command has any. -/
theorem isClosed_commands {name : String} {inner : Grammar} (h : programGrammar.command? name = some inner) :
    inner.IsClosed := by
  have hbare : bare.IsClosed := isClosed_leaf (List.forall_mem_nil _)
  have hvalue (name : String) (kind : ValueKind) : (withValue name kind).IsClosed :=
    isClosed_leaf (List.forall_mem_nil _)
  have hlogin : loginGrammar.IsClosed := isClosed_leaf (by simp)
  have hlist : listJobsGrammar.IsClosed := isClosed_leaf (by simp)
  have hjobs : jobsGrammar.IsClosed := isClosed_group (by simp [hlist, hvalue])
  have hinstances : instancesGrammar.IsClosed := isClosed_group (by simp [hbare, hvalue])
  have hnodes : nodesGrammar.IsClosed := isClosed_group (by simp [hbare, hvalue])
  have hall : ∀ c ∈ programGrammar.commands, c.2.IsClosed := by
    simp [programGrammar, Grammar.commands, hbare, hlogin, hjobs, hinstances, hnodes]
  obtain ⟨c, hc, rfl⟩ := Option.map_eq_some_iff.1 h
  exact hall c (List.mem_of_find?_eq_some hc)

/-- A command line that names a command and says nothing of the settings. -/
def RunsCommand (args : List String) : Prop :=
  ∃ l command, Arguments.read {} programGrammar args = .ok l ∧ Command.ofLine l = some command ∧
    ∀ name ∈ settingNames, valueOf? name l.values = none

/-- The configuration that a command is run with, if there is one. -/
def configured (e : Environment) (args : List String) : Option Config := do
  let i ← (Invocation.ofArguments e args).toOption
  let _ ← (i.config e).validate.toOption
  pure (i.config e)

/-- Whether a line names a command is not a matter of its values. -/
theorem isSome_ofLine {l l' : Line} (h : l.path = l'.path) :
    (Command.ofLine l).isSome = (Command.ofLine l').isSome := by
  unfold Command.ofLine
  rw [h]
  split <;> rfl

section Reading

variable {args : List String} {e : Environment}

/-- A command line that says nothing of the settings is read where the options take the values of the variables, and
    then asks for the configuration that the variables ask for. -/
theorem ofArguments_of_runsCommand (h : RunsCommand args) :
    (e.Suits → ∃ i, Invocation.ofArguments e args = .ok i ∧ i.config e = e.asked) ∧
      ∀ i, Invocation.ofArguments e args = .ok i → e.Suits := by
  obtain ⟨l, command, hread, hcommand, hnone⟩ := h
  obtain ⟨given, within, hl, hvariables⟩ :=
    readCommand_variables (by decide) (fun _ _ => isClosed_commands) hread
  rw [hl] at hnone
  have hgiven : ∀ name ∈ settingNames, valueOf? name given = none := by
    intro name hname
    have h := hnone name hname
    rw [valueOf?_append] at h
    exact (Option.or_eq_none_iff.1 h).1
  have hwithin : ∀ name ∈ settingNames, valueOf? name within = none := by
    intro name hname
    have h := hnone name hname
    rw [valueOf?_append] at h
    exact (Option.or_eq_none_iff.1 h).2
  have hvalue : ∀ name ∈ settingNames,
      valueOf? name (given ++ e.optionValues ++ within) = valueOf? name e.optionValues := by
    intro name hname
    rw [valueOf?_append, valueOf?_append, hgiven name hname, hwithin name hname, Option.none_or, Option.or_none]
  constructor
  · intro hsuits
    have hline : Arguments.read e programGrammar args = .ok { l with values := given ++ e.optionValues ++ within } := by
      rw [Arguments.read, hvariables e, (valuesOfVariables_program hgiven).2 ⟨hsuits, rfl⟩]
      rfl
    have hsome : (Command.ofLine { l with values := given ++ e.optionValues ++ within }).isSome =
        (Command.ofLine l).isSome := isSome_ofLine rfl
    rw [hcommand] at hsome
    obtain ⟨command', hcommand'⟩ := Option.isSome_iff_exists.1 hsome
    simp only [Invocation.ofArguments, hline, bind, Except.bind, hcommand']
    refine ⟨_, rfl, ?_⟩
    simp only [Invocation.config, Environment.asked]
    rw [hvalue "url" (by decide), hvalue "session-file" (by decide), hvalue "timeout" (by decide)]
    simp only [Environment.optionValues, valueOf?_append, valueOf?_underName]
    simp
  · intro i hi
    obtain ⟨l', hl', -⟩ := bind_eq_ok hi
    rw [Arguments.read, hvariables e] at hl'
    obtain ⟨more, hmore, -⟩ := map_eq_ok hl'
    exact ((valuesOfVariables_program hgiven).1 hmore).1

/-- The command line uses an environment that suits the options, if what it asks for can be used. -/
theorem configured_eq_some_iff (h : RunsCommand args) {c : Config} :
    configured e args = some c ↔ e.Suits ∧ c = e.asked ∧ c.validate = .ok () := by
  obtain ⟨hread, hsuits⟩ := ofArguments_of_runsCommand (e := e) h
  constructor
  · intro hc
    unfold configured at hc
    cases hi : Invocation.ofArguments e args with
    | error f =>
      rw [hi] at hc
      cases hc
    | ok i =>
      obtain ⟨i', hi', hasked⟩ := hread (hsuits i hi)
      obtain rfl : i = i' := by simpa [hi] using hi'
      simp only [hi, Except.toOption, Option.bind_eq_bind, Option.bind_some, hasked] at hc
      cases hv : e.asked.validate with
      | error f =>
        rw [hv] at hc
        cases hc
      | ok u =>
        rw [hv] at hc
        cases hc
        exact ⟨hsuits i hi, rfl, hv⟩
  · rintro ⟨hs, rfl, hv⟩
    obtain ⟨i, hi, hasked⟩ := hread hs
    simp only [configured, hi, Except.toOption, Option.bind_eq_bind, Option.bind_some, hasked, hv]
    rfl

end Reading

/-! ## What the library makes of an environment -/

namespace Environment

/-- The timeout that the library reads, if the variable has one. -/
def timeoutOf (e : Environment) : Except ConfigFault Nat :=
  match e.setting? timeoutVariable with
  | some raw => readTimeout raw
  | none => .ok (Config.usual e).timeout

/-- The configuration of an environment without the variables that are blank and without the blanks around a URL. -/
def cleaned (e : Environment) (timeout : Nat) : Config where
  baseUrl := ((e.setting? urlVariable).map trimText).getD (Config.usual e).baseUrl
  basePath := (Config.usual e).basePath
  timeout := timeout
  sessionPath := (e.setting? sessionFileVariable).or (Config.usual e).sessionPath

/-- The values of the variables mean the same with blanks taken away and left as they are. -/
structure IsPlain (e : Environment) : Prop where
  url : ∀ v ∈ e.value? urlVariable, isBlankText v = false ∧ trimText v = v
  timeout : ∀ v ∈ e.value? timeoutVariable, isBlankText v = false ∧ trimText v = v
  sessionFile : ∀ v ∈ e.value? sessionFileVariable, isBlankText v = false

variable {e : Environment}

theorem setting?_of_not_blank {name : String} (h : ∀ v ∈ e.value? name, isBlankText v = false) :
    e.setting? name = e.value? name := by
  unfold setting?
  cases hv : e.value? name with
  | none => rfl
  | some v => simp [h v hv]

end Environment

/-- The library uses an environment whose timeout can be read, if what is left of it can be used. -/
theorem ofEnvironment_eq_ok {e : Environment} {c : Config} :
    Config.ofEnvironment e = .ok c ↔ ∃ n, e.timeoutOf = .ok n ∧ c = e.cleaned n ∧ c.validate = .ok () := by
  have hunfold : Config.ofEnvironment e =
      e.timeoutOf >>= fun n => (e.cleaned n).validate >>= fun _ => pure (e.cleaned n) := by
    unfold Config.ofEnvironment Environment.timeoutOf Environment.cleaned
    cases e.setting? timeoutVariable <;> rfl
  rw [hunfold]
  constructor
  · intro h
    obtain ⟨n, hn, h⟩ := bind_eq_ok h
    obtain ⟨u, hv, h⟩ := bind_eq_ok h
    cases h
    exact ⟨n, hn, rfl, hv⟩
  · rintro ⟨n, hn, rfl, hv⟩
    simp only [hn, hv, bind, Except.bind]
    rfl

/-! ## Both -/

/-- A number is not blank and has no blanks in it. -/
theorem not_blank_of_wholeNumber {s : List Char} (h : (wholeNumber? s).isSome = true) :
    s ≠ [] ∧ ∀ c ∈ s, isBlank c = false := by
  have hdigits {ds : List Char} (h : ds.all isDigit = true) : ∀ c ∈ ds, isBlank c = false :=
    fun c hc => isBlank_of_isDigit (List.all_eq_true.1 h c hc)
  cases s with
  | nil => exact absurd h (by decide)
  | cons c t =>
    refine ⟨List.cons_ne_nil c t, ?_⟩
    simp only [wholeNumber?, List.head?_cons, Option.some.injEq, Option.isSome_ite, Bool.and_eq_true] at h
    by_cases hplus : c = '+'
    · rw [if_pos hplus] at h
      rw [List.forall_mem_cons]
      exact ⟨hplus ▸ by decide, hdigits h.1.2⟩
    · rw [if_neg hplus] at h
      exact hdigits h.1.2

theorem trimText_of_wholeNumber {v : String} (h : (wholeNumber? v.toList).isSome = true) :
    isBlankText v = false ∧ trimText v = v := by
  obtain ⟨hne, hblank⟩ := not_blank_of_wholeNumber h
  have htrim : trim v.toList = v.toList := by
    have hbetween : trim ([] ++ (v.toList ++ [])) = v.toList :=
      trim_between (List.forall_mem_nil _) (List.forall_mem_nil _) (fun c hc => hblank c (List.mem_of_mem_head? hc))
        (fun c hc => hblank c (List.mem_of_mem_getLast? hc)) hne
    simpa using hbetween
  constructor
  · rw [isBlankText, Bool.eq_false_iff, ne_eq, List.all_eq_true]
    intro hall
    exact hne (htrim.symm.trans (trim_eq_nil_iff.2 hall))
  · rw [trimText, htrim, String.ofList_toList]

/-- A usable configuration has a URL that is not blank, and a timeout. -/
theorem validate_ok_bounds {c : Config} (h : c.validate = .ok ()) : isBlankText c.baseUrl = false ∧ c.timeout ≠ 0 := by
  unfold Config.validate at h
  split at h
  · cases h
  · next hfault =>
    split at h
    · cases h
    · split at h
      · cases h
      · next htimeout =>
        refine ⟨?_, htimeout⟩
        unfold Config.urlFault? at hfault
        split at hfault
        · cases hfault
        · next hblank => exact Bool.eq_false_iff.2 hblank

section Both

variable {args : List String} {e : Environment}

/-- Of a plain environment the library reads the timeout that the command line does, if it is one. -/
theorem timeoutOf_eq_ok (hp : e.IsPlain) {n : Nat} :
    e.timeoutOf = .ok n ↔ e.Suits ∧ e.asked.timeout = n ∧ n ≠ 0 := by
  obtain ⟨-, htimeout, hfile⟩ := hp
  have hempty : ∀ v ∈ e.value? sessionFileVariable, v.isEmpty = false := by
    intro v hv
    rw [Bool.eq_false_iff]
    intro hempty
    rw [String.isEmpty_iff.1 hempty] at hv
    exact absurd (hfile _ hv) (by decide)
  unfold Environment.timeoutOf Environment.asked
  rw [Environment.setting?_of_not_blank fun v hv => (htimeout v hv).1]
  cases hv : e.value? timeoutVariable with
  | none =>
    have hsuits : e.Suits := ⟨hempty, by simp [hv]⟩
    have husual : (Config.usual e).timeout = 30000 := rfl
    simp only [Option.bind_none, Option.getD_none, husual, Except.ok.injEq, hsuits, true_and]
    omega
  | some v =>
    have htrim : trim v.toList = v.toList := by
      rw [← String.toList_ofList (l := trim v.toList), ← trimText, (htimeout v hv).2]
    have hsuits : e.Suits ↔ (wholeNumber? v.toList).isSome = true :=
      ⟨fun hs => hs.timeout v hv, fun h => ⟨hempty, by simpa [hv] using h⟩⟩
    rw [hsuits]
    simp only [readTimeout, htrim, Option.bind_some]
    rcases wholeNumber? v.toList with _ | _ | k
    · simp
    · simp only [Option.isSome_some, Option.getD_some, true_and, Nat.zero_mul, reduceCtorEq, false_iff, not_and]
      rintro rfl hzero
      exact hzero rfl
    · simp only [Option.isSome_some, Option.getD_some, true_and, Except.ok.injEq]
      constructor
      · rintro rfl
        exact ⟨rfl, by omega⟩
      · exact And.left

/-- Where no variable is blank or has blanks around it, what is asked for is what the library reads. -/
theorem configured_of_isPlain (h : RunsCommand args) (hp : e.IsPlain) :
    configured e args = (Config.ofEnvironment e).toOption := by
  have hcleaned (n : Nat) : e.cleaned n = { e.asked with timeout := n } := by
    have hbase : (e.value? urlVariable).map trimText = e.value? urlVariable := by
      cases hv : e.value? urlVariable with
      | none => rfl
      | some v => rw [Option.map_some, (hp.url v hv).2]
    unfold Environment.cleaned Environment.asked
    rw [Environment.setting?_of_not_blank fun v hv => (hp.url v hv).1,
      Environment.setting?_of_not_blank hp.sessionFile, hbase]
  apply Option.ext
  intro c
  have hok : (Config.ofEnvironment e).toOption = some c ↔ Config.ofEnvironment e = .ok c :=
    ⟨eq_ok_of_toOption, fun h => by rw [h]; rfl⟩
  rw [configured_eq_some_iff h, hok, ofEnvironment_eq_ok]
  constructor
  · rintro ⟨hsuits, rfl, hv⟩
    exact ⟨e.asked.timeout, (timeoutOf_eq_ok hp).2 ⟨hsuits, rfl, (validate_ok_bounds hv).2⟩, (hcleaned _).symm, hv⟩
  · rintro ⟨n, hn, rfl, hv⟩
    obtain ⟨hsuits, rfl, -⟩ := (timeoutOf_eq_ok hp).1 hn
    exact ⟨hsuits, hcleaned _, hv⟩

/-- An environment of which both make one configuration has no variable that is blank or has blanks around it. -/
theorem isPlain_of_configured (h : RunsCommand args) {c : Config} (hc : configured e args = some c)
    (hc' : Config.ofEnvironment e = .ok c) : e.IsPlain := by
  obtain ⟨hsuits, hasked, hvalid⟩ := (configured_eq_some_iff h).1 hc
  obtain ⟨n, -, hcleaned, -⟩ := ofEnvironment_eq_ok.1 hc'
  have hboth : e.asked = e.cleaned n := hasked.symm.trans hcleaned
  refine ⟨?_, fun v hv => trimText_of_wholeNumber (hsuits.timeout v hv), ?_⟩
  · intro v hv
    have hv : e.value? urlVariable = some v := hv
    have hblank : isBlankText v = false := by
      have hbase := (validate_ok_bounds hvalid).1
      rw [hasked] at hbase
      simpa [Environment.asked, hv] using hbase
    have hbase := congrArg Config.baseUrl hboth
    simp only [Environment.asked, Environment.cleaned, Environment.setting?, hv] at hbase
    exact ⟨hblank, by simpa [Option.filter, hblank, eq_comm] using hbase⟩
  · intro v hv
    have hv : e.value? sessionFileVariable = some v := hv
    have hpath := congrArg Config.sessionPath hboth
    simp only [Environment.asked, Environment.cleaned, Environment.setting?, hv] at hpath
    cases hblank : isBlankText v with
    | false => rfl
    | true =>
      -- The usual path has a slash in it, which is no blank.
      have husual : e.configDirectory.map (· ++ "/centro/auth.json") = some v := by
        simpa [Option.filter, hblank, Config.usual, Environment.sessionPath] using hpath.symm
      obtain ⟨d, -, rfl⟩ := Option.map_eq_some_iff.1 husual
      have hslash := List.all_eq_true.1 hblank '/' (by simp)
      exact absurd hslash (by decide)

/-- Command line and library make the same of an environment, which is one configuration or none, exactly when no
    variable is blank and neither the URL nor the timeout has blanks around it, or when both refuse it for something
    else. -/
theorem configured_eq_iff (h : RunsCommand args) (e : Environment) :
    configured e args = (Config.ofEnvironment e).toOption ↔
      e.IsPlain ∨ configured e args = none ∧ (Config.ofEnvironment e).toOption = none := by
  constructor
  · intro heq
    cases hc : configured e args with
    | none => exact .inr ⟨rfl, heq ▸ hc⟩
    | some c => exact .inl (isPlain_of_configured h hc (eq_ok_of_toOption (heq ▸ hc)))
  · rintro (hp | ⟨hnone, hnone'⟩)
    · exact configured_of_isPlain h hp
    · rw [hnone, hnone']

end Both

theorem runsCommand_stats : RunsCommand ["stats"] :=
  ⟨⟨["stats"], []⟩, .statistics, eq_ok_of_toOption (by decide +kernel), rfl, by decide⟩

/-- The environment of a user of a backend elsewhere. -/
theorem configured_elsewhere :
    let e : Environment := { settings := [(urlVariable, "https://centro.internal/"), (timeoutVariable, "+12")] }
    RunsCommand ["stats"] ∧ configured e ["stats"] = (Config.ofEnvironment e).toOption ∧
      configured e ["stats"] = some { baseUrl := "https://centro.internal/", timeout := 12000 } := by
  intro e
  have hplain : e.IsPlain := ⟨by decide, by decide, by decide⟩
  exact ⟨runsCommand_stats, (configured_eq_iff runsCommand_stats e).2 (.inl hplain), by decide +kernel⟩

/-- A URL that is blank is one to the command line, and none to the library. -/
theorem configured_of_blank_url :
    let e : Environment := { settings := [(urlVariable, "  ")] }
    RunsCommand ["stats"] ∧ configured e ["stats"] = none ∧ Config.ofEnvironment e = .ok (Config.usual e) :=
  ⟨runsCommand_stats, by decide +kernel, eq_ok_of_toOption (by decide +kernel)⟩

end ClusterPanel
