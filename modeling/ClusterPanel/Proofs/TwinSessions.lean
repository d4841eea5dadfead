import ClusterPanel.Job.Submission
import ClusterPanel.Output.Report
import ClusterPanel.Proofs.AlikeTrees
import ClusterPanel.Proofs.PassedOver
import ClusterPanel.Proofs.Restart

/- Sessions that differ in their token alone. Of twins, that is of two sessions whose tokens both go with requests and
   that have all else in common, everything that is shown is the same (`Session.Twins.shown`, `Session.Twins.describe`),
   and their requests differ in the credential alone (`Session.Twins.buildRequest`). What is stored of them is read as
   twins again, and as a job submission it says nothing, whatever the token (`twinTexts_toText`). So storages with the
   records of twins (`Storage.twins_memory`, `Storage.twins_file`) are loaded, saved and cleared alike, and the stores
   over them stay twins through every write (`SessionStore.Twins.write`). -/
namespace ClusterPanel

open Files Http Json Text Time

/-- A token that goes with requests. -/
def IsCredential (token : String) : Prop := token ≠ "" ∧ isHeaderValue token = true

/-! ## Sessions -/

/-- The same session, or two that have all but their tokens in common, both of which go with requests. -/
inductive Session.Twins : Session → Session → Prop
  | same (s : Session) : Twins s s
  | tokens {token token' : String} {username : Option String} {expiresAt : Option Instant} (h : IsCredential token)
      (h' : IsCredential token') (he : ∀ i ∈ expiresAt, i.IsHeld) :
      Twins ⟨some token, username, expiresAt⟩ ⟨some token', username, expiresAt⟩

/-- A header as it may be shown: of a credential no more than that it is there. -/
def redactedHeader (header : String × List String) : String × List String :=
  if header.1 = authorization then (header.1, header.2.map fun _ => Session.redacted) else header

/-- A request without its credential. -/
def Http.Request.redacted (r : Request) : Request := { r with headers := r.headers.map redactedHeader }

theorem isAuthenticated_of_isCredential {token : String} {username : Option String} {expiresAt : Option Instant}
    (h : IsCredential token) : Session.isAuthenticated ⟨some token, username, expiresAt⟩ = true :=
  Session.isAuthenticated_iff.2 ⟨token, rfl, h.1⟩

theorem credential?_of_isCredential {token : String} {username : Option String} {expiresAt : Option Instant}
    (h : IsCredential token) (endpoint : String) :
    credential? ⟨some token, username, expiresAt⟩ endpoint =
      if isLoginEndpoint endpoint then none else some ("Bearer " ++ token) := by
  have hb : Session.bearer? ⟨some token, username, expiresAt⟩ = some token := Session.bearer?_eq_some.2 ⟨rfl, h.1⟩
  rw [credential?, hb, Option.bind_some, bearerValue?_eq, if_pos h.2]

/-- A value that is blanked out does not matter, wherever it was inserted. -/
theorem redacted_insert (v v' : String) (m : Headers) :
    (Keyed.insert authorization [v] m).map redactedHeader = (Keyed.insert authorization [v'] m).map redactedHeader := by
  have hheader : redactedHeader (authorization, [v]) = redactedHeader (authorization, [v']) := rfl
  induction m with
  | nil => exact congrArg ([·]) hheader
  | cons p m ih =>
    simp only [Keyed.insert]
    split
    · simp only [List.map_cons, hheader]
    split
    · simp only [List.map_cons, hheader]
    · simp only [List.map_cons, ih]

namespace Session.Twins

variable {s s' : Session}

theorem isAuthenticated (h : Twins s s') : s.isAuthenticated = s'.isAuthenticated := by
  cases h with
  | same => rfl
  | tokens h h' he => rw [isAuthenticated_of_isCredential h, isAuthenticated_of_isCredential h']

theorem describe (h : Twins s s') : s.describe = s'.describe := by
  cases h <;> rfl

/-- What is shown of twins is the same. -/
theorem shown (h : Twins s s') (clock : Clock) : s.shown clock = s'.shown clock := by
  have hauth := h.isAuthenticated
  cases h with
  | same => rfl
  | tokens h h' he =>
    unfold Session.shown Session.table
    rw [hauth]
    rfl

/-- What is to be reported of the requests of twins is the same. -/
theorem unusableCredential (h : Twins s s') (endpoint : String) :
    ClusterPanel.unusableCredential s endpoint = ClusterPanel.unusableCredential s' endpoint := by
  cases h with
  | same => rfl
  | tokens h h' he =>
    unfold ClusterPanel.unusableCredential
    rw [credential?_of_isCredential h, credential?_of_isCredential h']
    cases isLoginEndpoint endpoint <;> simp

/-- The requests of twins differ in the credential alone. -/
theorem buildRequest (h : Twins s s') (base endpoint : String) (o : RequestOptions) :
    (ClusterPanel.buildRequest base s endpoint o).redacted =
      (ClusterPanel.buildRequest base s' endpoint o).redacted := by
  cases h with
  | same => rfl
  | tokens h h' he =>
    unfold ClusterPanel.buildRequest Request.redacted
    rw [credential?_of_isCredential h, credential?_of_isCredential h']
    cases isLoginEndpoint endpoint with
    | true => rfl
    | false =>
      simp only [Bool.false_eq_true, if_false, Headers.set]
      rw [redacted_insert]

end Session.Twins

/-! ## Records -/

/-- The same record, or two that are read as twins. -/
inductive TwinRecords : String → String → Prop
  | same (record : String) : TwinRecords record record
  | sessions {record record' : String} {s s' : Session} (hs : Session.ofText record = .ok s)
      (hs' : Session.ofText record' = .ok s') (h : s.Twins s') : TwinRecords record record'

/-- The same text, or twin records that are read as the same job submission. -/
inductive TwinTexts : String → String → Prop
  | same (text : String) : TwinTexts text text
  | records {record record' : String} {j : JobSubmission} (h : TwinRecords record record')
      (hj : JobSubmission.ofBytes (bytesOf record) = .ok j) (hj' : JobSubmission.ofBytes (bytesOf record') = .ok j) :
      TwinTexts record record'

/-- The same content of a file, or twin texts. -/
inductive TwinContents : List UInt8 → List UInt8 → Prop
  | same (content : List UInt8) : TwinContents content content
  | texts {text text' : String} (h : TwinTexts text text') : TwinContents (bytesOf text) (bytesOf text')

theorem TwinTexts.record {text text' : String} (h : TwinTexts text text') : TwinRecords text text' := by
  cases h with
  | same => exact .same _
  | records h hj hj' => exact h

theorem Time.isHeld_settled {i : Instant} (h : i.IsHeld) : i.settled.IsHeld := by
  refine ⟨inRange_settled h.inRange, ?_⟩
  have := h.nanos
  unfold Instant.settled
  split
  · exact h.nanos
  · dsimp only
    omega

theorem twins_settled {token token' : String} {username : Option String} {expiresAt : Option Instant}
    (h : IsCredential token) (h' : IsCredential token') (he : ∀ i ∈ expiresAt, i.IsHeld) :
    Session.Twins ⟨some token, username, expiresAt.map Instant.settled⟩
      ⟨some token', username, expiresAt.map Instant.settled⟩ := by
  refine .tokens h h' ?_
  intro i hi
  obtain ⟨j, hj, rfl⟩ := Option.map_eq_some_iff.1 hi
  exact isHeld_settled (he j hj)

theorem ofText_of_isCredential {token : String} {username : Option String} {expiresAt : Option Instant}
    (h : IsCredential token) (he : ∀ i ∈ expiresAt, i.IsHeld) :
    Session.ofText (Session.toText ⟨some token, username, expiresAt⟩) =
      .ok ⟨some token, username, expiresAt.map Instant.settled⟩ := by
  have hs : Session.IsHeld ⟨some token, username, expiresAt⟩ := he
  rw [Session.ofText_toText hs, Option.filter_some, if_pos (decide_eq_true h.1)]
  rfl

theorem skips_optionValue (x : Option String) : Skips (Session.optionValue x).print := by
  cases x with
  | none => exact skips_null
  | some s => exact skips_string s

/-- The record of a session is a job submission that says nothing: its members are those of no submission. -/
theorem submission_toText (s : Session) : JobSubmission.ofBytes (bytesOf s.toText) = .ok {} := by
  refine Session.readAll_toText (d := {}) ?_ rfl
  intro n r
  rw [Session.memberBytes, List.append_assoc, List.append_assoc, readFields_unknown rfl (skips_optionValue _),
    readFields_unknown rfl (skips_optionValue _), readFields_unknown rfl (skips_optionValue _), readFields_end]
  rfl

/-- What is stored of twins are twin records, which say nothing as job submissions. -/
theorem twinTexts_toText {s s' : Session} (h : s.Twins s') : TwinTexts s.toText s'.toText := by
  cases h with
  | same => exact .same _
  | tokens h h' he =>
    exact .records (.sessions (ofText_of_isCredential h he) (ofText_of_isCredential h' he) (twins_settled h h' he))
      (submission_toText _) (submission_toText _)

/-- Files with twin contents are read as texts in the same way. -/
theorem readText_twins {t t' : Tree} (h : Tree.Alike TwinContents t t') (p : Path) :
    Ended TwinTexts (t.readText p) (t'.readText p) := by
  have hread := h.read p
  unfold Tree.readText
  generalize t.read p = r at hread ⊢
  generalize t'.read p = r' at hread ⊢
  cases hread with
  | error e => exact .error e
  | ok hc =>
    cases hc with
    | same =>
      simp only [bind, Except.bind]
      split
      · exact .ok (.same _)
      · exact .error _
    | texts h =>
      simp only [bind, Except.bind, textOf?_bytesOf]
      exact .ok h

/-! ## Storages -/

/-- The same storage, but for records of twins. -/
inductive Storage.Twins : Storage → Storage → Prop
  | memory {record record' : Option String} (failures : Failures) (h : Option.Rel TwinRecords record record') :
      Twins (.memory record failures) (.memory record' failures)
  | file {t t' : Tree} (path : Path) (h : Tree.Alike TwinContents t t') : Twins (.file path t) (.file path t')

/-- Two memories that hold the records of twins. -/
theorem Storage.twins_memory {session session' : Session} (h : session.Twins session') (failures : Failures) :
    Twins (.memory (some session.toText) failures) (.memory (some session'.toText) failures) :=
  .memory failures (.some (twinTexts_toText h).record)

/-- The same files, but for the records of twins at one place. -/
theorem Storage.twins_file {session session' : Session} (h : session.Twins session') (t : Tree) (q : Place)
    (mode : Nat) (path : Path) :
    Twins (.file path (t.put q (.file (bytesOf session.toText) mode)))
      (.file path (t.put q (.file (bytesOf session'.toText) mode))) :=
  .file path ((Tree.Alike.refl .same t).put (.file rfl rfl (.texts (twinTexts_toText h))) q)

namespace Storage.Twins

variable {s s' : Storage}

theorem load (h : Twins s s') : Ended (Option.Rel TwinRecords) s.load s'.load := by
  cases h with
  | memory failures h =>
    simp only [Storage.load]
    cases failures.load with
    | none => exact .ok h
    | some reason => exact .error _
  | @file t t' path h =>
    have hread := readText_twins h path
    simp only [Storage.load, loadRecord]
    generalize t.readText path = r at hread ⊢
    generalize t'.readText path = r' at hread ⊢
    cases hread with
    | error e => cases e <;> first | exact .ok .none | exact .error _
    | ok h => exact .ok (.some h.record)

theorem ofAction {p : Path} {x x' : Files.Action Unit} {t t' : Tree} (hx : Agree TwinContents x x')
    (h : Tree.Alike TwinContents t t') :
    Twins (Storage.ofAction p (x.run.run t)).1 (Storage.ofAction p (x'.run.run t')).1 ∧
      (Storage.ofAction p (x.run.run t)).2 = (Storage.ofAction p (x'.run.run t')).2 := by
  obtain ⟨out, u, u', hu, hu', htree⟩ := hx.result h
  rw [hu, hu']
  cases out <;> exact ⟨.file p htree, rfl⟩

theorem save (h : Twins s s') {record record' : String} (hr : TwinTexts record record') :
    Twins (s.save record).1 (s'.save record').1 ∧ (s.save record).2 = (s'.save record').2 := by
  cases h with
  | memory failures h =>
    simp only [Storage.save]
    cases failures.save with
    | none => exact ⟨.memory failures (.some hr.record), rfl⟩
    | some reason => exact ⟨.memory failures h, rfl⟩
  | file path h => exact ofAction (agree_saveRecord (.texts hr)) h

theorem remove (h : Twins s s') : Twins s.remove.1 s'.remove.1 ∧ s.remove.2 = s'.remove.2 := by
  cases h with
  | memory failures h =>
    simp only [Storage.remove]
    cases failures.remove with
    | none => exact ⟨.memory failures .none, rfl⟩
    | some reason => exact ⟨.memory failures h, rfl⟩
  | file path h => exact ofAction agree_removeRecord h

theorem tree (h : Twins s s') : Tree.Alike TwinContents s.tree s'.tree := by
  cases h with
  | memory => exact .refl .same _
  | file path h => exact h

/-- Whether there is a record is the same. -/
theorem record (h : Twins s s') : s.record?.isSome = s'.record?.isSome := by
  cases h with
  | memory failures h => cases h <;> rfl
  | @file t t' path h =>
    have hread := h.read path
    simp only [Storage.record?]
    generalize t.read path = r at hread ⊢
    generalize t'.read path = r' at hread ⊢
    cases hread <;> rfl

end Storage.Twins

/-! ## Stores -/

/-- Twin sessions over twin storages, of which the same was reported. -/
structure SessionStore.Twins (s s' : SessionStore) : Prop where
  current : s.current.Twins s'.current
  storage : s.storage.Twins s'.storage
  log : s.log = s'.log

namespace SessionStore

theorem rehydrate_twins {s s' : Storage} (h : s.Twins s') :
    (rehydrate s).1.Twins (rehydrate s').1 ∧ (rehydrate s).2 = (rehydrate s').2 := by
  have hload := h.load
  unfold rehydrate
  generalize s.load = r at hload ⊢
  generalize s'.load = r' at hload ⊢
  cases hload with
  | error e => exact ⟨.same _, rfl⟩
  | ok h =>
    cases h with
    | none => exact ⟨.same _, rfl⟩
    | some h =>
      cases h with
      | same => exact ⟨.same _, rfl⟩
      | sessions hs hs' htwins =>
        simp only [hs, hs']
        exact ⟨htwins, trivial⟩

theorem twins_ofStorage {s s' : Storage} (h : s.Twins s') : (ofStorage s).Twins (ofStorage s') :=
  ⟨(rehydrate_twins h).1, h, (rehydrate_twins h).2⟩

variable {s s' : SessionStore} {session session' : Session}

theorem persist_twins {storage storage' : Storage} (hs : session.Twins session') (h : storage.Twins storage') :
    (persist session storage).1.Twins (persist session' storage').1 ∧
      (persist session storage).2 = (persist session' storage').2 := by
  unfold persist
  rw [hs.isAuthenticated]
  split
  · exact h.save (twinTexts_toText hs)
  · exact h.remove

/-- A write of twins leaves twins. -/
theorem Twins.write (h : s.Twins s') (hs : session.Twins session') : (s.write session).Twins (s'.write session') := by
  obtain ⟨hstorage, hfault⟩ := persist_twins hs h.storage
  refine ⟨hs, hstorage, ?_⟩
  unfold SessionStore.write
  dsimp only
  rw [h.log, hfault]

theorem Twins.reopen (h : s.Twins s') : s.reopen.Twins s'.reopen := by
  obtain ⟨hcurrent, hlog⟩ := rehydrate_twins h.storage
  refine ⟨hcurrent, h.storage, ?_⟩
  unfold SessionStore.reopen
  dsimp only
  rw [h.log, hlog]

end SessionStore

end ClusterPanel
