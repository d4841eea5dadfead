import ClusterPanel.Client.Calls
import ClusterPanel.Proofs.IntegerReading
import ClusterPanel.Proofs.RecordReading

/- The records that go over the wire. What is written of a record is read as that record again: the credentials of a
   login and the answer to it, a job submission with the parts that it may have, the events of a job and the records
   that are made of them (`wire_round_trip`). Fields that say nothing are left out by the writer, and the reader puts
   back what they stand for; so each field has one value that is not written, the one that a missing field has. -/
namespace ClusterPanel

open Json Text Time

namespace Json

theorem EndsMember.endsNumber {r : Bytes} (h : EndsMember r) : EndsNumber r := by
  obtain ⟨b, t, rfl, rfl | rfl⟩ := h
  · intro b hb
    cases hb
    decide
  · intro b hb
    cases hb
    decide

theorem reads_int64 {i : Int} (h : IsInt64 i) : ReadsMember readInt64 (Value.int i).print i :=
  fun _ hr => readInt64_integerNumeral h hr.endsNumber

end Json

/-! ## Logins -/

theorem LoginRequest.reads (x : LoginRequest) : Reads shape.read x.toValue.print x :=
  reads_record (.field rfl rfl (reads_string x.username).member
    (.field rfl rfl (reads_string x.password).member (.nil _))) rfl

theorem LoginResponse.reads {x : LoginResponse} (h : IsInt64 x.expiresIn) : Reads shape.read x.toValue.print x :=
  reads_record (.field rfl rfl (reads_string x.token).member
    (.field rfl rfl (reads_int64 h) (.field rfl rfl (reads_string x.username).member (.nil _)))) rfl

/-! ## Job submissions -/

theorem InstanceConfig.reads {x : InstanceConfig} (h : x.options.Sorted) : Reads shape.read x.toValue.print x := by
  refine reads_record (.append (.append
    (.field rfl rfl (reads_string x.image).member (.unless _ rfl rfl (reads_strings x.command).member))
    (.unless _ rfl ?_ (reads_strings x.args).member)) (.unless _ rfl ?_ (reads_keyed h).member)) ?_
  · split <;> rfl
  · split <;> split <;> rfl
  · obtain ⟨image, command, args, options⟩ := x
    cases command <;> cases args <;> cases options <;> rfl

theorem VolumeMount.reads (x : VolumeMount) : Reads shape.read x.toValue.print x := by
  refine reads_record (.append
    (.field rfl rfl (reads_string x.hostPath).member
      (.field rfl rfl (reads_string x.instancePath).member (.nil _)))
    (.unless _ rfl rfl (reads_bool x.readOnly).member)) ?_
  obtain ⟨hostPath, instancePath, readOnly⟩ := x
  cases readOnly <;> rfl

namespace JobSubmission

/-- A part that is left out is missing, and what is written of one is read as it. -/
abbrev ReadsPart {β : Type} (read : Bytes → Except Fault (β × Bytes)) : Option Value → Option β → Prop :=
  Option.Rel fun v x => Reads read v.print x ∧ Opens v.print

theorem fills_part {δ β : Type} {fields : List (FieldShape δ)} {d : δ} {name key : String}
    {optional : Bool} {get : δ → Option (Option β)} {set : δ → Option β → δ} {read : Bytes → Except Fault (β × Bytes)}
    {v : Option Value} {part : Option β}
    (hf : fields.find? (·.name == key) = some (.of name optional get set (readOption read))) (hnew : get d = none)
    (hread : ReadsPart read v part) :
    Fills fields d (partMembers key v) (part.elim d fun x => set d (some x)) := by
  cases hread with
  | none => exact .nil d
  | some h => exact .field hf hnew (reads_present h.2 h.1).member (.nil _)

/-- The maps of a submission are in order, as a map that is written is. -/
structure Ordered (x : JobSubmission) : Prop where
  labels : x.labels.Sorted
  options : ∀ c ∈ x.instanceConfig, c.options.Sorted

/-- The members that are always written. -/
def scalars (x : JobSubmission) : List (String × Value) :=
  [("job_id", .string x.jobId), ("job_name", .string x.jobName), ("job_type", .string x.jobType),
    ("selected_clusters", stringsValue x.selectedClusters), ("meta", keyedValue x.labels),
    ("driver", .string x.driver), ("workload_type", .string x.workloadType), ("command", .string x.command)]

/-- The draft that they leave. -/
def scalarDraft (x : JobSubmission) : Draft :=
  { jobId := some x.jobId, jobName := some x.jobName, jobType := some x.jobType,
    selectedClusters := some x.selectedClusters, labels := some x.labels, driver := some x.driver,
    workloadType := some x.workloadType, command := some x.command }

/-- The members before the resources. -/
def leading (x : JobSubmission) : List (String × Value) :=
  x.scalars ++ partMembers "instance_config" (x.instanceConfig.map InstanceConfig.toValue)

def leadingDraft (x : JobSubmission) : Draft :=
  x.instanceConfig.elim x.scalarDraft fun c => { x.scalarDraft with instanceConfig := some (some c) }

theorem toValue_eq (x : JobSubmission) :
    x.toValue = .object (x.leading ++ partMembers "resources" (x.resources.map ResourceRequest.toValue) ++
      memberUnless x.volumes.isEmpty "volumes" (.array (x.volumes.map VolumeMount.toValue))) := rfl

variable {x : JobSubmission}

theorem fills_scalars (h : x.Ordered) : Fills shape.fields shape.start x.scalars x.scalarDraft :=
  .field rfl rfl (reads_string x.jobId).member
    (.field rfl rfl (reads_string x.jobName).member
      (.field rfl rfl (reads_string x.jobType).member
        (.field rfl rfl (reads_strings x.selectedClusters).member
          (.field rfl rfl (reads_keyed h.labels).member
            (.field rfl rfl (reads_string x.driver).member
              (.field rfl rfl (reads_string x.workloadType).member
                (.field rfl rfl (reads_string x.command).member (.nil _))))))))

theorem fills_leading (h : x.Ordered) : Fills shape.fields shape.start x.leading x.leadingDraft := by
  have hconfig :
      ReadsPart InstanceConfig.shape.read (x.instanceConfig.map InstanceConfig.toValue) x.instanceConfig := by
    cases hpart : x.instanceConfig with
    | none => exact .none
    | some c => exact .some ⟨InstanceConfig.reads (h.options c hpart), opens_object _⟩
  have hfield : shape.fields.find? (·.name == "instance_config") =
      some (.of "instance_config" true Draft.instanceConfig (fun d c => { d with instanceConfig := some c })
        (readOption InstanceConfig.shape.read)) := rfl
  exact (fills_scalars h).append (fills_part hfield rfl hconfig)

/-- What is written of a submission is read as one that has the resources that are read of what is written of them. -/
theorem reads_with (h : x.Ordered) {resources : Option ResourceRequest}
    (hr : ReadsPart ResourceRequest.shape.read (x.resources.map ResourceRequest.toValue) resources) :
    Reads shape.read x.toValue.print { x with resources } := by
  have hvolumes :
      Reads (readList VolumeMount.shape.read) (Value.array (x.volumes.map VolumeMount.toValue)).print x.volumes :=
    reads_list fun v _ => ⟨v.reads, opens_object _⟩
  have hleading : x.leadingDraft.resources = none ∧ x.leadingDraft.volumes = none := by
    unfold leadingDraft
    cases x.instanceConfig <;> exact ⟨rfl, rfl⟩
  rw [toValue_eq]
  refine reads_record (.append (.append (fills_leading h) (fills_part rfl hleading.1 hr))
    (.unless _ rfl ?_ hvolumes.member)) ?_
  · cases resources <;> exact hleading.2
  · obtain ⟨jobId, jobName, jobType, selectedClusters, labels, driver, workloadType, command, instanceConfig, _,
      volumes⟩ := x
    cases instanceConfig <;> cases resources <;> cases volumes <;> rfl

theorem reads (h : x.Ordered) (hr : x.resources = none) : Reads shape.read x.toValue.print x := by
  have hpart : ReadsPart ResourceRequest.shape.read (x.resources.map ResourceRequest.toValue) x.resources := by
    rw [hr]
    exact .none
  exact reads_with h hpart

end JobSubmission

/-! ## Events -/

theorem JobEvents.reads (x : JobEvents) : Reads shape.read x.toValue.print x :=
  reads_record (.field rfl rfl (reads_string x.jobId).member
    (.field rfl rfl (reads_strings x.events).member (.nil _))) rfl

theorem Time.EventRecord.reads (x : EventRecord) : Reads shape.read x.toValue.print x := by
  obtain ⟨timestamp, message, formattedTime⟩ := x
  have htail (d : Draft) (hmessage : d.message = none) (hformatted : d.formattedTime = none) :
      Fills shape.fields d [("message", .string message), ("formatted_time", .string formattedTime)]
        { d with message := some message, formattedTime := some formattedTime } :=
    .field rfl hmessage (reads_string message).member
      (.field rfl hformatted (reads_string formattedTime).member (.nil _))
  cases timestamp with
  | none => exact reads_record (.field rfl rfl (reads_null readString).member (htail _ rfl rfl)) rfl
  | some t => exact reads_record (.field rfl rfl (reads_some (reads_string t)).member (htail _ rfl rfl)) rfl

/-! ## All of them -/

/-- What is written of a record is read as that record: of the credentials of a login and of the answer to it, of
    container settings, volume mounts and a submission that asks for no resources, of the events of a job and of event
    records. Integers are such as fit into 64 bits, and maps have their keys in order. -/
theorem wire_round_trip :
    (∀ x : LoginRequest, readAll LoginRequest.shape.read (bytesOf x.toValue.compact) = .ok x) ∧
    (∀ x : LoginResponse, IsInt64 x.expiresIn →
      readAll LoginResponse.shape.read (bytesOf x.toValue.compact) = .ok x) ∧
    (∀ x : InstanceConfig, x.options.Sorted →
      readAll InstanceConfig.shape.read (bytesOf x.toValue.compact) = .ok x) ∧
    (∀ x : VolumeMount, readAll VolumeMount.shape.read (bytesOf x.toValue.compact) = .ok x) ∧
    (∀ x : JobEvents, readAll JobEvents.shape.read (bytesOf x.toValue.compact) = .ok x) ∧
    (∀ x : EventRecord, readAll EventRecord.shape.read (bytesOf x.toValue.compact) = .ok x) ∧
    (∀ x : JobSubmission, x.Ordered → x.resources = none →
      JobSubmission.ofBytes (bytesOf x.toValue.compact) = .ok x) := by
  refine ⟨?_, ?_, ?_, ?_, ?_, ?_, ?_⟩
  · exact fun x => readAll_of_reads x.reads
  · exact fun x h => readAll_of_reads (LoginResponse.reads h)
  · exact fun x h => readAll_of_reads (InstanceConfig.reads h)
  · exact fun x => readAll_of_reads x.reads
  · exact fun x => readAll_of_reads x.reads
  · exact fun x => readAll_of_reads x.reads
  · exact fun x h hr => readAll_of_reads (JobSubmission.reads h hr)

/-- The least integer, an option whose key needs escapes next to one that does not, a mount that is written and one
    that is left out. -/
theorem wire_round_trip_escaped :
    let answer : LoginResponse := ⟨"a\"b\\c\n\u0007é𝄞", -0x8000000000000000, ""⟩
    let config : InstanceConfig := { image := "nginx", args := ["", "\t"], options := [("\"", "\\"), ("net", "host")] }
    let job : JobSubmission :=
      { jobName := "web", labels := [("", "x"), ("é", "𝄞")], instanceConfig := some config,
        volumes := [⟨"/data", "/srv", true⟩, ⟨"/log", "/log", false⟩] }
    readAll LoginResponse.shape.read (bytesOf answer.toValue.compact) = .ok answer ∧
      readAll InstanceConfig.shape.read (bytesOf config.toValue.compact) = .ok config ∧
      JobSubmission.ofBytes (bytesOf job.toValue.compact) = .ok job := by
  intro answer config job
  obtain ⟨-, hanswer, hconfig, -, -, -, hjob⟩ := wire_round_trip
  have hoptions : config.options.Sorted := List.pairwise_pair.2 (by decide)
  have hlabels : job.labels.Sorted := List.pairwise_pair.2 (by decide)
  refine ⟨hanswer answer ⟨by decide, by decide⟩, hconfig config hoptions, hjob job ⟨hlabels, ?_⟩ rfl⟩
  intro c hc
  cases hc
  exact hoptions

end ClusterPanel
