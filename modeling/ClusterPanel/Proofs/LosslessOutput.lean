import ClusterPanel.Proofs.CommandRuns
import ClusterPanel.Proofs.ValueReading

/- What scripts get of an answer. A command that shows an answer of the backend as it is writes it as JSON over several
   lines; read again, this is the value that the answer was, as long as its numbers are integers of 64 bits
   (`json_output`). For what was read nests as deep as it may and has its keys in order (`nests_of_ofBytes`), and what
   nests so is printed and read back (`reads_printPretty`): printing changes neither the depth nor the order. -/
namespace ClusterPanel

open Http Json Text Time

/-! ## The text of a value -/

namespace Json

variable {v : Value}

theorem nests_of_ofBytes {body : Bytes} (h : Value.ofBytes body = .ok v) : v.Nests depthLimit := by
  obtain ⟨p, hread, h⟩ := bind_eq_ok h
  split at h
  · cases h
    exact nests_of_read hread
  · cases h

/-- A value with the end of its line is the text of this value. -/
theorem ofBytes_line_pretty (hn : v.Nests depthLimit) (hw : v.IsWhole) :
    Value.ofBytes (bytesOf (line v.pretty)) = .ok v := by
  have hread := reads_printPretty hn hw 0 [0x0A] (endsNumber_lineFeed [])
  have htext : bytesOf (line v.pretty) = Utf8.encode (v.printPretty 0) ++ [0x0A] := by
    rw [bytesOf, line, Value.pretty, String.toList_append, String.toList_ofList, encode_append]
    rfl
  rw [htext, Value.ofBytes, readAll, hread]
  rfl

/-- No line feed stands at the end of a printed value. -/
theorem getLast?_printPretty (hw : v.IsWhole) (level : Nat) : (v.printPretty level).getLast? ≠ some '\n' := by
  cases v with
  | null => exact fun h => by cases h
  | bool b => cases b <;> exact fun h => by cases h
  | number n =>
    cases n with
    | int i =>
      intro h
      have hmem : '\n' ∈ integerNumeral i := List.mem_of_getLast? h
      unfold integerNumeral at hmem
      have hdigit : '\n' ∉ numeral i.natAbs := fun h => absurd (isDigit_of_mem_numeral h) (by decide)
      split at hmem
      · rcases List.mem_cons.1 hmem with h | h
        · exact absurd h (by decide)
        · exact hdigit h
      · exact hdigit hmem
    | double x => exact absurd (hw _ List.mem_cons_self) id
    | single x => exact absurd (hw _ List.mem_cons_self) id
  | string s =>
    show ('"' :: s.toList.flatMap escapeChar ++ ['"']).getLast? ≠ some '\n'
    rw [List.getLast?_concat]
    decide
  | array vs =>
    cases vs with
    | nil => exact fun h => by cases h
    | cons v vs =>
      rw [Value.printPretty, List.getLast?_concat]
      decide
  | object ms =>
    cases ms with
    | nil => exact fun h => by cases h
    | cons m ms =>
      obtain ⟨k, v⟩ := m
      rw [Value.printPretty, List.getLast?_concat]
      decide

end Json

/-! ## Answers as they are -/

/-- A command that shows the answer of the backend as it is. -/
def Command.showsAnswer : Command → Bool
  | .listJobs _ | .getJob _ | .jobStatus _ | .submitJob _ => true
  | .listInstances | .getInstance _ => true
  | .listNodes | .getNode _ | .nodeHealth _ => true
  | .statistics => true
  | .login _ _ | .logout | .whoami | .jobEvents _ => false

namespace Client

variable {c : Client} {cmd : Command}

/-- Such a command reads a value and shows it. -/
theorem run_showsAnswer (hs : cmd.showsAnswer = true) (ha : cmd.Asks c.store.storage.tree) (f : Format)
    (clock : Clock) :
    ∃ endpoint o, c.run f clock cmd =
      (CommandM.ask f (fun v => v.shown clock) (request Value.ofBytes endpoint o)).runOn c := by
  cases cmd with
  | login _ _ | logout | whoami | jobEvents _ => cases hs
  | listJobs _ | listInstances | listNodes | statistics => exact ⟨_, _, rfl⟩
  | getJob id | jobStatus id | getInstance id | getNode id | nodeHealth id =>
    exact ⟨_, _, congrArg (·.runOn c) (CommandM.withId_of_not_blank ha.2 _)⟩
  | submitJob file =>
    rcases readSubmission_spec c.store.storage.tree file with ⟨s, hread, -⟩ | ⟨fault, -, hunusable, -⟩
    · exact ⟨jobsEndpoint, .post s.toValue, CommandM.runOn_submit_ok hread⟩
    · exact absurd hunusable ha.2

/-- Scripts lose nothing. Let a command that shows an answer as it is be run with arguments that can be used, in the
    format for scripts. It writes something exactly when the backend answers with success and a body that is JSON. If
    all numbers of this value are integers of 64 bits, what it writes is JSON as well, nested no deeper than may be
    read, and the same value; and it ends with one line feed. -/
theorem json_output (hs : cmd.showsAnswer = true) (ha : cmd.Asks c.store.storage.tree) (clock : Clock) :
    let text := (c.run .json clock cmd).output
    (text ≠ "" ↔ ∃ status body v, c.receive.1 = .response status body ∧ isSuccess status = true ∧
      Value.ofBytes body = .ok v) ∧
    ∀ status body v, c.receive.1 = .response status body → isSuccess status = true → Value.ofBytes body = .ok v →
      v.IsWhole → Value.ofBytes (bytesOf text) = .ok v ∧ ∃ t, text = line t ∧ t.toList.getLast? ≠ some '\n' := by
  intro text
  obtain ⟨endpoint, o, hrun⟩ := run_showsAnswer hs ha .json clock
  obtain ⟨c', hrequest, -⟩ := request_spec Value.ofBytes endpoint o c
  -- What is written hangs on what the reply is classified as.
  have hshown {v : Value} (h : classify Value.ofBytes c.receive.1 = .ok v) : text = line v.pretty := by
    rw [h] at hrequest
    show (c.run .json clock cmd).output = _
    rw [hrun, CommandM.runOn_ask_ok hrequest]
    rfl
  have hfailed {e : Failure} (h : classify Value.ofBytes c.receive.1 = .error e) : text = "" := by
    rw [h] at hrequest
    show (c.run .json clock cmd).output = _
    rw [hrun, CommandM.runOn_ask_error hrequest]
  refine ⟨⟨?_, ?_⟩, ?_⟩
  · intro hwritten
    cases h : classify Value.ofBytes c.receive.1 with
    | error e => exact absurd (hfailed h) hwritten
    | ok v =>
      obtain ⟨status, body, hreply, hsuccess, hread⟩ := Traffic.classify_eq_ok h
      exact ⟨status, body, v, hreply, hsuccess, hread⟩
  · rintro ⟨status, body, v, hreply, hsuccess, hread⟩ hempty
    have hlength := congrArg String.length ((hshown (classify_of_success hreply hsuccess hread)).symm.trans hempty)
    simp [line] at hlength
  · intro status body v hreply hsuccess hread hw
    rw [hshown (classify_of_success hreply hsuccess hread)]
    refine ⟨ofBytes_line_pretty (nests_of_ofBytes hread) hw, v.pretty, rfl, ?_⟩
    rw [Value.pretty, String.toList_ofList]
    exact getLast?_printPretty hw 0

/-- An answer with a key twice, the greatest and the least integer, and a string that has to be escaped. -/
theorem json_output_nodes :
    let body := bytesOf
      "\x7b\"b\":1,\"a\":[18446744073709551615, -9223372036854775808, \x7b\x7d],\"b\":\"q\\\"\\n\"\x7d"
    let c := create "http://centro.test/api/v1" (.memory none {}) [.response 200 body]
    let text := (c.run .json ⟨⟨0, 0⟩, 0⟩ .listNodes).output
    ∃ v, Value.ofBytes body = .ok v ∧ v.numbers = [.int 18446744073709551615, .int (-9223372036854775808)] ∧
      text ≠ "" ∧ Value.ofBytes (bytesOf text) = .ok v := by
  intro body c text
  have hnumbers : (Value.ofBytes body).toOption.map Value.numbers =
      some [.int 18446744073709551615, .int (-9223372036854775808)] := by decide +kernel
  cases hread : Value.ofBytes body with
  | error e =>
    rw [hread] at hnumbers
    cases hnumbers
  | ok v =>
    rw [hread] at hnumbers
    have hv : v.numbers = [.int 18446744073709551615, .int (-9223372036854775808)] := Option.some.inj hnumbers
    have hw : v.IsWhole := by
      intro n hn
      rw [hv] at hn
      rcases List.mem_cons.1 hn with rfl | hn
      · exact ⟨by decide, by decide⟩
      · rw [List.mem_singleton.1 hn]
        exact ⟨by decide, by decide⟩
    have hs : Command.listNodes.showsAnswer = true := rfl
    have ha : Command.listNodes.Asks c.store.storage.tree := ⟨rfl, id⟩
    obtain ⟨hwritten, hlossless⟩ := json_output hs ha ⟨⟨0, 0⟩, 0⟩
    exact ⟨v, rfl, hv, hwritten.2 ⟨200, body, v, rfl, rfl, hread⟩, (hlossless 200 body v rfl rfl hread hw).1⟩

end Client

end ClusterPanel
