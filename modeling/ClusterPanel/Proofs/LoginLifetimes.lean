import ClusterPanel.Proofs.CommandRuns
import ClusterPanel.Proofs.WireRecords

/- The lifetimes of logins. There are two limits: how many seconds a duration may count, and the years that dates may
   have. The limit of dates comes first, so a lifetime that is no duration never ends within them
   (`not_inRange_of_endless`). A lifetime within both has an expiry, one beyond the limit of dates has none, and one
   that is no duration stops the program (`login_lifetime`): the answer to a login decides that, and it alone. -/
namespace ClusterPanel

open Http Json Text Time

/-! ## Both limits -/

namespace Time

variable {now e : Instant} {lifetime : Int}

/-- An expiry is the end of a lifetime that counts, if dates reach so far. A leap second is left by it. -/
theorem expiry_eq_some_iff : expiry lifetime now = some e ↔
    0 < lifetime ∧ e = ⟨now.seconds + lifetime, now.nanos % 1000000000⟩ ∧ e.inRange = true := by
  unfold expiry
  constructor
  · intro h
    split at h
    · next hin =>
      cases h
      rw [Bool.and_eq_true, decide_eq_true_eq] at hin
      exact ⟨hin.1, rfl, hin.2⟩
    · cases h
  · rintro ⟨hpos, rfl, hin⟩
    rw [if_pos]
    · rfl
    · rw [Bool.and_eq_true, decide_eq_true_eq]
      exact ⟨hpos, hin⟩

/-- No date is so late as the end of a lifetime that is no duration. -/
theorem not_inRange_of_endless (hnow : now.inRange = true) (h : maxLifetime < lifetime)
    (he : e.seconds = now.seconds + lifetime) : e.inRange = false := by
  have hfirst : yearStart minYear * 86400 = -8334601228800 := by decide
  have hlast : yearStart (maxYear + 1) * 86400 = 8210266876800 := by decide
  unfold maxLifetime at h
  simp only [Instant.inRange, hfirst, hlast, Bool.and_eq_true, decide_eq_true_eq] at hnow
  rw [Bool.eq_false_iff]
  simp only [Instant.inRange, hfirst, hlast, ne_eq, Bool.and_eq_true, decide_eq_true_eq]
  omega

end Time

/-! ## Sessions -/

namespace Session

variable {r : LoginResponse} {now : Instant} {s : Session}

theorem ofLogin_eq_none_iff : ofLogin r now = none ↔ maxLifetime < r.expiresIn := by
  unfold ofLogin
  split
  · next h => exact iff_of_true rfl h
  · next h => exact iff_of_false (fun hsome => by cases hsome) h

/-- A lifetime that is a duration opens a session for the user of the answer, with its token. -/
theorem ofLogin_of_le (h : r.expiresIn ≤ maxLifetime) :
    ∃ s, ofLogin r now = some s ∧ s.token = some r.token ∧ s.username = some r.username ∧
      ∀ e, s.expiresAt = some e ↔
        0 < r.expiresIn ∧ e = ⟨now.seconds + r.expiresIn, now.nanos % 1000000000⟩ ∧ e.inRange = true := by
  refine ⟨⟨some r.token, some r.username, expiry r.expiresIn now⟩, ?_, rfl, rfl, fun e => expiry_eq_some_iff⟩
  rw [ofLogin, if_neg (Int.not_lt.2 h)]

end Session

/-! ## Commands -/

namespace Client

variable {f : Format} {clock : Clock} {c : Client} {cmd : Command}

/-- The command is a login that is asked for under some name and granted, for a lifetime that is no duration. -/
def Endless (c : Client) (cmd : Command) : Prop :=
  ∃ username password status body answer, cmd = .login username password ∧ isBlankText username = false ∧
    c.receive.1 = .response status body ∧ isSuccess status = true ∧
    readAll LoginResponse.shape.read body = .ok answer ∧ maxLifetime < answer.expiresIn

theorem endless_of_crashed {c' : Client} (h : RunsTo clock c cmd .crashed c') : Endless c cmd := by
  cases h with
  | @crashed username password answer c' ha _ hresult hopened =>
    obtain ⟨status, body, hreply, hsuccess, hread⟩ := Traffic.classify_eq_ok hresult
    exact ⟨username, password, status, body, answer, rfl, Bool.eq_false_iff.2 ha.2, hreply, hsuccess, hread,
      Session.ofLogin_eq_none_iff.1 hopened⟩

theorem crashed_of_endless (h : Endless c cmd) : (c.run f clock cmd).ending = .crashed := by
  obtain ⟨username, password, status, body, answer, rfl, hname, hreply, hsuccess, hread, hendless⟩ := h
  have hopened : Session.ofLogin answer clock.now = none := Session.ofLogin_eq_none_iff.2 hendless
  obtain ⟨c', -, -, hanswered⟩ := login_spec ⟨username, password⟩ clock.now c
  have hlogin := (hanswered answer (classify_of_success hreply hsuccess hread)).1 hopened
  exact congrArg (·.ending) (CommandM.runOn_login_none hname hlogin)

/-- A run that crashes leaves the session and what is stored alone. -/
theorem kept_of_crashed {c' : Client} (h : RunsTo clock c cmd .crashed c') :
    c'.store.current = c.store.current ∧ c'.store.storage = c.store.storage := by
  obtain ⟨_, _, _, _, _, rfl, -⟩ := endless_of_crashed h
  refine h.kept (fun hlogout => by cases hlogout) ?_ fun _ _ _ _ hshown => by cases hshown
  rw [← h.unauthorized_iff]
  exact Bool.false_ne_true

/-- The lifetimes of logins, at any time within the years that dates may have.

    A lifetime that is a duration opens a session with the token and the user of the answer. It has an expiry exactly
    if the lifetime is positive and its end a date that may be: that many seconds from now, out of any leap second.

    A lifetime that is no duration opens no session, though dates do not reach to its end either.

    A command crashes exactly if it is a login whose answer has such a lifetime; session and record are then as they
    were. -/
theorem login_lifetime {now : Instant} (hnow : now.inRange = true) (r : LoginResponse) :
    (r.expiresIn ≤ maxLifetime → ∃ s, Session.ofLogin r now = some s ∧ s.token = some r.token ∧
      s.username = some r.username ∧ ∀ e, s.expiresAt = some e ↔
        0 < r.expiresIn ∧ e = ⟨now.seconds + r.expiresIn, now.nanos % 1000000000⟩ ∧ e.inRange = true) ∧
    (maxLifetime < r.expiresIn → Session.ofLogin r now = none ∧
      ∀ e : Instant, e.seconds = now.seconds + r.expiresIn → e.inRange = false) ∧
    ∀ (f : Format) (clock : Clock) (c : Client) (cmd : Command),
      ((c.run f clock cmd).ending = .crashed ↔ Endless c cmd) ∧
      ((c.run f clock cmd).ending = .crashed → (c.run f clock cmd).client.store.current = c.store.current ∧
        (c.run f clock cmd).client.store.storage = c.store.storage) := by
  refine ⟨Session.ofLogin_of_le, ?_, ?_⟩
  · intro hendless
    exact ⟨Session.ofLogin_eq_none_iff.2 hendless, fun e he => not_inRange_of_endless hnow hendless he⟩
  · intro f clock c cmd
    have hrun := runsTo_run f clock c cmd
    refine ⟨⟨fun hcrashed => ?_, crashed_of_endless⟩, fun hcrashed => ?_⟩
    · rw [hcrashed] at hrun
      exact endless_of_crashed hrun
    · rw [hcrashed] at hrun
      exact kept_of_crashed hrun

/-- An hour from the middle of a leap second is an hour from the second after it, less the half that was left. -/
theorem login_lifetime_leap :
    ∃ s, Session.ofLogin ⟨"tok", 3600, "ada"⟩ ⟨1483228799, 1500000000⟩ = some s ∧
      s.expiresAt = some ⟨1483232399, 500000000⟩ := by
  have hnow : (⟨1483228799, 1500000000⟩ : Instant).inRange = true := by decide
  obtain ⟨s, hopened, -, -, hexpiry⟩ := (login_lifetime hnow ⟨"tok", 3600, "ada"⟩).1 (by decide)
  exact ⟨s, hopened, (hexpiry _).2 ⟨by decide, by decide, by decide⟩⟩

/-- The shortest lifetime that is no duration is an integer of 64 bits, which an answer may have; the login stops the
    program. -/
theorem login_crashed :
    let answer : LoginResponse := ⟨"tok", 9223372036854776, "ada"⟩
    let clock : Clock := ⟨⟨1762948800, 0⟩, 0⟩
    let c := create "http://centro.test/api/v1" (.memory none {}) [.response 200 (bytesOf answer.toValue.compact)]
    readAll LoginResponse.shape.read (bytesOf answer.toValue.compact) = .ok answer ∧
      Session.ofLogin answer clock.now = none ∧ (c.run .table clock (.login "ada" "pw")).ending = .crashed := by
  intro answer clock c
  have hread : readAll LoginResponse.shape.read (bytesOf answer.toValue.compact) = .ok answer :=
    readAll_of_reads (LoginResponse.reads ⟨by decide, by decide⟩)
  refine ⟨hread, rfl, crashed_of_endless ?_⟩
  exact ⟨"ada", "pw", 200, _, answer, rfl, by decide +kernel, rfl, rfl, hread, by decide⟩

end Client

end ClusterPanel
