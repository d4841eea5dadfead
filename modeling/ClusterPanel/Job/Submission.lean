import ClusterPanel.Json.Printer
import ClusterPanel.Json.Record

/- Job submissions: what is to run, where, and with which resources. Each record has its fields in one order, in
   which they are written; fields that may be left out when they say nothing are left out, and reading puts back
   what they stand for. -/
namespace ClusterPanel

open Json Number

structure InstanceConfig where
  image : String
  command : List String := []
  args : List String := []
  options : Keyed String := []
deriving DecidableEq, Repr

/-- The memory in MiB and the processor cores that a job may use. -/
structure ResourceRequest where
  memoryMb : Int
  memoryReserveMb : Int := 0
  cpu : Binary
  cpuReserve : Binary := .finite false 0 Precision.single.least
deriving DecidableEq, Repr

/-- A directory of the node that the job sees. -/
structure VolumeMount where
  hostPath : String
  instancePath : String
  readOnly : Bool := false
deriving DecidableEq, Repr

structure JobSubmission where
  jobId : String := ""
  jobName : String := ""
  jobType : String := ""
  selectedClusters : List String := []
  labels : Keyed String := []
  driver : String := ""
  workloadType : String := ""
  command : String := ""
  instanceConfig : Option InstanceConfig := none
  resources : Option ResourceRequest := none
  volumes : List VolumeMount := []
deriving DecidableEq, Repr

/-- A list of strings as a value. -/
def stringsValue (xs : List String) : Value := .array (xs.map Value.string)

/-- An object whose members are all strings, as a value. -/
def keyedValue (m : Keyed String) : Value := .object (m.map fun p => (p.1, .string p.2))

/-- A member that is left out when it says nothing. -/
def memberUnless (skip : Bool) (name : String) (v : Value) : List (String × Value) := if skip then [] else [(name, v)]

namespace InstanceConfig

structure Draft where
  image : Option String := none
  command : Option (List String) := none
  args : Option (List String) := none
  options : Option (Keyed String) := none

def shape : Shape Draft InstanceConfig where
  name := "InstanceConfig"
  fields :=
    [.of "image" false Draft.image (fun d v => { d with image := some v }) readString,
     .of "command" true Draft.command (fun d v => { d with command := some v }) (readList readString),
     .of "args" true Draft.args (fun d v => { d with args := some v }) (readList readString),
     .of "options" true Draft.options (fun d v => { d with options := some v }) (readKeyed readString)]
  start := {}
  finish d := do
    let image ← required "image" d.image
    pure { image, command := d.command.getD [], args := d.args.getD [], options := d.options.getD [] }

def toValue (c : InstanceConfig) : Value :=
  .object (("image", .string c.image) :: memberUnless c.command.isEmpty "command" (stringsValue c.command) ++
    memberUnless c.args.isEmpty "args" (stringsValue c.args) ++
    memberUnless c.options.isEmpty "options" (keyedValue c.options))

end InstanceConfig

namespace ResourceRequest

structure Draft where
  memoryMb : Option Int := none
  memoryReserveMb : Option Int := none
  cpu : Option Binary := none
  cpuReserve : Option Binary := none

def shape : Shape Draft ResourceRequest where
  name := "ResourceRequest"
  fields :=
    [.of "memory_mb" false Draft.memoryMb (fun d v => { d with memoryMb := some v }) readInt64,
     .of "memory_reserve_mb" true Draft.memoryReserveMb (fun d v => { d with memoryReserveMb := some v }) readInt64,
     .of "cpu" false Draft.cpu (fun d v => { d with cpu := some v }) readSingle,
     .of "cpu_reserve" true Draft.cpuReserve (fun d v => { d with cpuReserve := some v }) readSingle]
  start := {}
  finish d := do
    let memoryMb ← required "memory_mb" d.memoryMb
    let cpu ← required "cpu" d.cpu
    pure
      { memoryMb, memoryReserveMb := d.memoryReserveMb.getD 0, cpu,
        cpuReserve := d.cpuReserve.getD (.finite false 0 Precision.single.least) }

def toValue (r : ResourceRequest) : Value :=
  .object (("memory_mb", .int r.memoryMb) ::
    memberUnless (r.memoryReserveMb == 0) "memory_reserve_mb" (.int r.memoryReserveMb) ++
    ("cpu", .number (.single r.cpu)) :: memberUnless r.cpuReserve.isZero "cpu_reserve" (.number (.single r.cpuReserve)))

end ResourceRequest

namespace VolumeMount

structure Draft where
  hostPath : Option String := none
  instancePath : Option String := none
  readOnly : Option Bool := none

def shape : Shape Draft VolumeMount where
  name := "VolumeMount"
  fields :=
    [.of "host_path" false Draft.hostPath (fun d v => { d with hostPath := some v }) readString,
     .of "instance_path" false Draft.instancePath (fun d v => { d with instancePath := some v }) readString,
     .of "read_only" true Draft.readOnly (fun d v => { d with readOnly := some v }) readBool]
  start := {}
  finish d := do
    let hostPath ← required "host_path" d.hostPath
    let instancePath ← required "instance_path" d.instancePath
    pure { hostPath, instancePath, readOnly := d.readOnly.getD false }

def toValue (v : VolumeMount) : Value :=
  .object ([("host_path", .string v.hostPath), ("instance_path", .string v.instancePath)] ++
    memberUnless (!v.readOnly) "read_only" (.bool v.readOnly))

end VolumeMount

namespace JobSubmission

structure Draft where
  jobId : Option String := none
  jobName : Option String := none
  jobType : Option String := none
  selectedClusters : Option (List String) := none
  labels : Option (Keyed String) := none
  driver : Option String := none
  workloadType : Option String := none
  command : Option String := none
  instanceConfig : Option (Option InstanceConfig) := none
  resources : Option (Option ResourceRequest) := none
  volumes : Option (List VolumeMount) := none

def shape : Shape Draft JobSubmission where
  name := "JobSubmission"
  fields :=
    [.of "job_id" true Draft.jobId (fun d v => { d with jobId := some v }) readString,
     .of "job_name" true Draft.jobName (fun d v => { d with jobName := some v }) readString,
     .of "job_type" true Draft.jobType (fun d v => { d with jobType := some v }) readString,
     .of "selected_clusters" true Draft.selectedClusters (fun d v => { d with selectedClusters := some v })
      (readList readString),
     .of "meta" true Draft.labels (fun d v => { d with labels := some v }) (readKeyed readString),
     .of "driver" true Draft.driver (fun d v => { d with driver := some v }) readString,
     .of "workload_type" true Draft.workloadType (fun d v => { d with workloadType := some v }) readString,
     .of "command" true Draft.command (fun d v => { d with command := some v }) readString,
     .of "instance_config" true Draft.instanceConfig (fun d v => { d with instanceConfig := some v })
      (readOption InstanceConfig.shape.read),
     .of "resources" true Draft.resources (fun d v => { d with resources := some v })
      (readOption ResourceRequest.shape.read),
     .of "volumes" true Draft.volumes (fun d v => { d with volumes := some v }) (readList VolumeMount.shape.read)]
  start := {}
  finish d := .ok
    { jobId := d.jobId.getD "", jobName := d.jobName.getD "", jobType := d.jobType.getD "",
      selectedClusters := d.selectedClusters.getD [], labels := d.labels.getD [], driver := d.driver.getD "",
      workloadType := d.workloadType.getD "", command := d.command.getD "",
      instanceConfig := d.instanceConfig.getD none, resources := d.resources.getD none,
      volumes := d.volumes.getD [] }

def partMembers (name : String) (v : Option Value) : List (String × Value) :=
  match v with
  | none => []
  | some v => [(name, v)]

def toValue (j : JobSubmission) : Value :=
  .object
    ([("job_id", .string j.jobId), ("job_name", .string j.jobName), ("job_type", .string j.jobType),
      ("selected_clusters", stringsValue j.selectedClusters), ("meta", keyedValue j.labels),
      ("driver", .string j.driver), ("workload_type", .string j.workloadType), ("command", .string j.command)] ++
    partMembers "instance_config" (j.instanceConfig.map InstanceConfig.toValue) ++
    partMembers "resources" (j.resources.map ResourceRequest.toValue) ++
    memberUnless j.volumes.isEmpty "volumes" (.array (j.volumes.map VolumeMount.toValue)))

def ofBytes (text : Bytes) : Except Fault JobSubmission := readAll shape.read text

end JobSubmission

end ClusterPanel
