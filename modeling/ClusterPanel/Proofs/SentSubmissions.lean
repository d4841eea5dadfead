import ClusterPanel.Program.Command
import ClusterPanel.Proofs.DecimalReading
import ClusterPanel.Proofs.OneRequest
import ClusterPanel.Proofs.ReadSubmissions
import ClusterPanel.Proofs.RequestUrl
import ClusterPanel.Proofs.ServingFiles

/- What is sent of a submission that was read from a file. The numbers of cores are of single precision, and a number
   in the file may round to infinity there; as text that is `null`, which no number is read of. So what is sent of a
   submission can be read if and only if its numbers of cores are finite, and then the submission that is read differs
   from the one in the file in these numbers at most (`submission_sent`). -/
namespace ClusterPanel

open Json Number Text

/-! ## Resources -/

/-- An infinite number is written as `null`, of which no number is read. -/
theorem Json.refuses_infinite {x : Binary} (h : x.isInfinite = true) :
    Refuses readSingle (Value.number (.single x)).print := by
  cases x with
  | finite negative m q => cases h
  | infinite negative =>
    intro r p hread
    obtain ⟨n, hnumeric, -⟩ := bind_eq_ok hread
    change readMismatch "f32" (Utf8.encode ['n', 'u', 'l', 'l'] ++ r) = .ok n at hnumeric
    exact readMismatch_ne_ok hnumeric

namespace ResourceRequest

variable {x : ResourceRequest}

/-- The numbers of cores are finite. -/
structure IsFinite (x : ResourceRequest) : Prop where
  cpu : x.cpu.isInfinite = false
  cpuReserve : x.cpuReserve.isInfinite = false

theorem reads_cores {x : Binary} (hx : x.Fits Precision.single) (hfinite : x.isInfinite = false) :
    ∃ y : Binary, y.isInfinite = false ∧ ReadsMember readSingle (Value.number (.single x)).print y := by
  obtain ⟨y, hy, hread⟩ := exists_readSingle_singleText hx hfinite
  exact ⟨y, hy, fun r hr => hread r hr.endsNumber⟩

/-- The members before the numbers of cores. -/
def memory (x : ResourceRequest) : List (String × Value) :=
  ("memory_mb", .int x.memoryMb) :: memberUnless (x.memoryReserveMb == 0) "memory_reserve_mb" (.int x.memoryReserveMb)

/-- The draft that they leave. -/
def memoryDraft (x : ResourceRequest) : Draft :=
  if x.memoryReserveMb == 0 then { memoryMb := some x.memoryMb }
  else { memoryMb := some x.memoryMb, memoryReserveMb := some x.memoryReserveMb }

theorem toValue_eq (x : ResourceRequest) :
    x.toValue = .object (x.memory ++ ("cpu", .number (.single x.cpu)) ::
      memberUnless x.cpuReserve.isZero "cpu_reserve" (.number (.single x.cpuReserve))) := rfl

theorem fills_memory (h : x.IsRead) : Fills shape.fields shape.start x.memory x.memoryDraft := by
  have hfield : shape.fields.find? (·.name == "memory_reserve_mb") = some (.of "memory_reserve_mb" true
      Draft.memoryReserveMb (fun d i => { d with memoryReserveMb := some i }) readInt64) := rfl
  exact .field rfl rfl (reads_int64 h.memoryMb)
    (.unless (x.memoryReserveMb == 0) hfield rfl (reads_int64 h.memoryReserveMb))

theorem memoryDraft_spec (x : ResourceRequest) :
    x.memoryDraft.memoryMb = some x.memoryMb ∧ x.memoryDraft.memoryReserveMb.getD 0 = x.memoryReserveMb ∧
      x.memoryDraft.cpu = none ∧ x.memoryDraft.cpuReserve = none := by
  unfold memoryDraft
  split
  · next hzero => exact ⟨rfl, (beq_iff_eq.1 hzero).symm, rfl, rfl⟩
  · exact ⟨rfl, rfl, rfl, rfl⟩

/-- What is written of a request for finite numbers of cores is read as one that differs in these at most. -/
theorem exists_reads (h : x.IsRead) (hfinite : x.IsFinite) :
    ∃ y : ResourceRequest, y.IsFinite ∧ y.memoryMb = x.memoryMb ∧ y.memoryReserveMb = x.memoryReserveMb ∧
      Reads shape.read x.toValue.print y := by
  obtain ⟨cpu, hcpu, hreadCpu⟩ := reads_cores h.cpu hfinite.cpu
  obtain ⟨reserve, hreserve, hreadReserve⟩ := reads_cores h.cpuReserve hfinite.cpuReserve
  obtain ⟨hmemory, hmemoryReserve, hnoCpu, hnoReserve⟩ := memoryDraft_spec x
  rw [toValue_eq]
  cases hzero : x.cpuReserve.isZero with
  | true =>
    refine ⟨⟨x.memoryMb, x.memoryReserveMb, cpu, .finite false 0 Precision.single.least⟩, ⟨hcpu, rfl⟩, rfl, rfl, ?_⟩
    refine reads_record ((fills_memory h).append (.field rfl hnoCpu hreadCpu (.nil _))) ?_
    simp only [shape, required, hmemory, hmemoryReserve, hnoReserve]
    rfl
  | false =>
    refine ⟨⟨x.memoryMb, x.memoryReserveMb, cpu, reserve⟩, ⟨hcpu, hreserve⟩, rfl, rfl, ?_⟩
    refine reads_record ((fills_memory h).append
      (.field rfl hnoCpu hreadCpu (.field rfl hnoReserve hreadReserve (.nil _)))) ?_
    simp only [shape, required, hmemory, hmemoryReserve]
    rfl

/-- What is written of a request for infinitely many cores is not read. -/
theorem refuses (h : x.IsRead) (hinfinite : ¬ x.IsFinite) : Refuses shape.read x.toValue.print := by
  obtain ⟨-, -, hnoCpu, -⟩ := memoryDraft_spec x
  rw [toValue_eq]
  cases hcpu : x.cpu.isInfinite with
  | true => exact refuses_record (fills_memory h) rfl fun d => refuses_field (refuses_infinite hcpu) d
  | false =>
    obtain ⟨cpu, -, hreadCpu⟩ := reads_cores h.cpu hcpu
    cases hreserve : x.cpuReserve.isInfinite with
    | false => exact absurd ⟨hcpu, hreserve⟩ hinfinite
    | true =>
      have hzero : x.cpuReserve.isZero = false := by
        cases hx : x.cpuReserve with
        | finite negative m q =>
          rw [hx] at hreserve
          cases hreserve
        | infinite negative => rfl
      rw [hzero, List.append_cons]
      exact refuses_record ((fills_memory h).append (.field rfl hnoCpu hreadCpu (.nil _))) rfl
        fun d => refuses_field (refuses_infinite hreserve) d

end ResourceRequest

/-! ## Submissions -/

namespace JobSubmission

variable {x : JobSubmission}

/-- The numbers of cores that are asked for, if any are, are finite. -/
def IsFinite (x : JobSubmission) : Prop := ∀ r ∈ x.resources, r.IsFinite

/-- Two submissions that differ in the numbers of cores at most: both ask for resources or none does, and for the same
    memory. -/
structure SameUpToCores (x y : JobSubmission) : Prop where
  others : y = { x with resources := y.resources }
  memory : y.resources.map (fun r => (r.memoryMb, r.memoryReserveMb)) =
    x.resources.map fun r => (r.memoryMb, r.memoryReserveMb)

/-- What is written of a submission with finite numbers of cores is read as one that differs in these at most. -/
theorem exists_ofBytes (h : x.IsRead) (hfinite : x.IsFinite) :
    ∃ y : JobSubmission, ofBytes (bytesOf x.toValue.compact) = .ok y ∧ x.SameUpToCores y ∧ y.IsFinite := by
  cases hx : x.resources with
  | none => exact ⟨x, readAll_of_reads (reads h.ordered hx), ⟨rfl, rfl⟩, hfinite⟩
  | some r =>
    obtain ⟨r', hr', hmemory, hreserve, hread⟩ :=
      ResourceRequest.exists_reads (h.resources r hx) (hfinite r hx)
    have hpart : ReadsPart ResourceRequest.shape.read (x.resources.map ResourceRequest.toValue) (some r') := by
      rw [hx]
      exact .some ⟨hread, opens_object _⟩
    refine ⟨{ x with resources := some r' }, readAll_of_reads (reads_with h.ordered hpart), ⟨rfl, ?_⟩, ?_⟩
    · rw [hx, Option.map_some, Option.map_some, hmemory, hreserve]
    · intro r'' hr''
      cases hr''
      exact hr'

/-- What is written of a submission with an infinite number of cores is not read. -/
theorem ofBytes_ne_ok (h : x.IsRead) (hinfinite : ¬ x.IsFinite) (y : JobSubmission) :
    ofBytes (bytesOf x.toValue.compact) ≠ .ok y := by
  refine readAll_of_refuses ?_ y
  cases hx : x.resources with
  | none => exact absurd (fun r hr => by rw [hx] at hr; cases hr) hinfinite
  | some r =>
    have hr : ¬ r.IsFinite := by
      intro hr
      refine hinfinite fun r' hr' => ?_
      rw [hx] at hr'
      cases hr'
      exact hr
    have hrefuses := refuses_present (opens_object _) (ResourceRequest.refuses (h.resources r hx) hr)
    rw [toValue_eq, hx, List.append_assoc]
    exact refuses_record (fills_leading h.ordered) rfl fun d => refuses_field hrefuses d

/-- A submission that is taken from a file is such as is read. -/
theorem isRead_of_readSubmission {t : Files.Tree} {file : String} (h : readSubmission t file = .ok x) : x.IsRead := by
  obtain ⟨raw, -, h⟩ := bind_eq_ok h
  split at h
  · cases h
  · next s hread =>
    split at h
    · cases h
    · cases h
      exact isRead_of_ofBytes hread

end JobSubmission

/-! ## Sending -/

theorem readSubmission_of_readText {t : Files.Tree} {file raw : String} {s : JobSubmission}
    (hraw : t.readText (.ofText file) = .ok raw) (hread : JobSubmission.ofBytes (bytesOf raw) = .ok s)
    (hname : isBlankText s.jobName = false) : readSubmission t file = .ok s := by
  have htext : (Except.ok raw : Except Files.Fault String).mapError CommandFault.io = .ok raw := rfl
  unfold readSubmission
  simp only [hraw, htext, bind, Except.bind, hread, hname, Bool.false_eq_true, if_false]
  rfl

/-- A tree with one file, which holds a submission. -/
def jobFile (raw : String) : Files.Tree := { entries := [(["job.json"], .file (bytesOf raw) Files.openMode)] }

theorem readText_jobFile (raw : String) : (jobFile raw).readText (.ofText "/job.json") = .ok raw := by
  have hfile : Files.Path.ofText "/job.json" = Files.rootPath "job.json" := by decide
  rw [hfile]
  exact Files.readText_rootPath (by decide) rfl

namespace Client

variable {c : Client} {file : String} {s : JobSubmission}

theorem sent_run_submit (h : readSubmission c.store.storage.tree file = .ok s) (f : Format) (clock : Clock) :
    (c.run f clock (.submitJob file)).client.sent =
      c.sent ++ [buildRequest c.base c.store.current jobsEndpoint (.post s.toValue)] := by
  show ((CommandM.submit f clock file).runOn c).client.sent = _
  rw [CommandM.runOn_submit_ok h]
  exact sent_ask f _ _ _ _ c

/-- A submission that is taken from a file is sent to the endpoint of the jobs, and its text is all that is sent. This
    text is read as a submission again if the numbers of cores are finite: as one that differs in these numbers at most,
    and in which they are finite too. If a number of cores is infinite, the text is not read as any submission. -/
theorem submission_sent (h : readSubmission c.store.storage.tree file = .ok s) (f : Format) (clock : Clock) :
    ∃ q, (c.run f clock (.submitJob file)).client.sent = c.sent ++ [q] ∧ q.method = "POST" ∧
      q.url = urlOf c.base jobsEndpoint ∧ q.body = some s.toValue.compact ∧
      (s.IsFinite → ∃ s', JobSubmission.ofBytes (bytesOf s.toValue.compact) = .ok s' ∧
        s.SameUpToCores s' ∧ s'.IsFinite) ∧
      (¬ s.IsFinite → ∀ s', JobSubmission.ofBytes (bytesOf s.toValue.compact) ≠ .ok s') := by
  have hread := JobSubmission.isRead_of_readSubmission h
  exact ⟨_, sent_run_submit h f clock, rfl, rfl, rfl, fun hfinite => JobSubmission.exists_ofBytes hread hfinite,
    fun hinfinite => JobSubmission.ofBytes_ne_ok hread hinfinite⟩

/-- A file whose text says more than is sent: members of other names, a map in the wrong order and with a key that is
    there twice, and a fraction of a core that no binary number is. -/
theorem submission_sent_reordered :
    let raw := "\x7b\"id\":7,\"resources\":\x7b\"cpu\":0.1,\"memory_mb\":512,\"cpu_reserve\":-0.0\x7d," ++
      "\"meta\":\x7b\"b\":\"1\",\"a\":\"2\",\"b\":\"3\"\x7d,\"job_name\":\" web \"\x7d"
    let tree := jobFile raw
    let c := create "http://centro.test/api/v1" (.file (Files.rootPath "auth.json") tree) []
    let s : JobSubmission :=
      { jobName := " web ", labels := [("a", "2"), ("b", "3")],
        resources := some ⟨512, 0, .finite false 13421773 (-27), .finite true 0 (-149)⟩ }
    readSubmission tree "/job.json" = .ok s ∧
      ∃ q body s', (c.run .table ⟨⟨0, 0⟩, 0⟩ (.submitJob "/job.json")).client.sent = [q] ∧
        q.url = "http://centro.test/api/v1/jobs" ∧ q.body = some body ∧
        JobSubmission.ofBytes (bytesOf body) = .ok s' ∧ s.SameUpToCores s' ∧ s'.IsFinite := by
  intro raw tree c s
  have hread : JobSubmission.ofBytes (bytesOf raw) = .ok s := eq_ok_of_toOption (by decide +kernel)
  have hs : readSubmission tree "/job.json" = .ok s :=
    readSubmission_of_readText (readText_jobFile raw) hread (by decide)
  have hfinite : s.IsFinite := by
    intro r hr
    cases hr
    exact ⟨rfl, rfl⟩
  obtain ⟨q, hsent, -, hurl, hbody, hdecoded, -⟩ := submission_sent (c := c) hs .table ⟨⟨0, 0⟩, 0⟩
  obtain ⟨s', hs', hsame, hfinite'⟩ := hdecoded hfinite
  exact ⟨hs, q, _, s', hsent, hurl.trans (by decide), hbody, hs', hsame, hfinite'⟩

/-- More cores than single precision has numbers for: the file is taken, and what is sent of it is no submission. -/
theorem submission_of_endless_cores :
    let raw := "\x7b\"job_name\":\"web\",\"resources\":\x7b\"memory_mb\":1,\"cpu\":1e39\x7d\x7d"
    let tree := jobFile raw
    let c := create "http://centro.test/api/v1" (.file (Files.rootPath "auth.json") tree) []
    let s : JobSubmission :=
      { jobName := "web", resources := some ⟨1, 0, .infinite false, .finite false 0 (-149)⟩ }
    let body := "\x7b\"job_id\":\"\",\"job_name\":\"web\",\"job_type\":\"\",\"selected_clusters\":[]," ++
      "\"meta\":\x7b\x7d,\"driver\":\"\",\"workload_type\":\"\",\"command\":\"\"," ++
      "\"resources\":\x7b\"memory_mb\":1,\"cpu\":null\x7d\x7d"
    readSubmission tree "/job.json" = .ok s ∧
      (∃ q, (c.run .table ⟨⟨0, 0⟩, 0⟩ (.submitJob "/job.json")).client.sent = [q] ∧ q.body = some body) ∧
      (JobSubmission.ofBytes (bytesOf body)).toOption = none := by
  intro raw tree c s body
  have hread : JobSubmission.ofBytes (bytesOf raw) = .ok s := eq_ok_of_toOption (by decide +kernel)
  have hs : readSubmission tree "/job.json" = .ok s :=
    readSubmission_of_readText (readText_jobFile raw) hread (by decide)
  have hbody : s.toValue.compact = body := by decide +kernel
  exact ⟨hs, ⟨_, sent_run_submit (c := c) hs .table ⟨⟨0, 0⟩, 0⟩, congrArg some hbody⟩, by decide +kernel⟩

end Client

end ClusterPanel
