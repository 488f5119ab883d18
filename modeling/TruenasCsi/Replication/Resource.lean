import TruenasCsi.Replication.Group

/-! The custom resource, and the engine's record in its status. -/

namespace TruenasCsi.Replication

open Volume

inductive Action where
  | none
  | failover
  | testFailover
  | stopTestFailover
  | failback
  | suspend
  | resume
  | createRemoteVolumes
  | other (text : String)
deriving DecidableEq

structure CronSchedule where
  minute : String := ""
  hour : String := ""
  dayOfMonth : String := ""
  month : String := ""
  dayOfWeek : String := ""
deriving DecidableEq

structure Spec where
  sourceBackend : String
  targetBackend : String
  volumeHandles : List String
  sshCredentialID : Int := 0
  reverseSSHCredentialID : Int := 0
  schedule : CronSchedule := {}
  retention : Option Retention := none
  /-- A request to be served once per generation. -/
  action : Action := .none
  force : Bool := false
  deleteTargetDatasets : Bool := false
deriving DecidableEq

structure VolumeStatus where
  handle : String
  failoverSnapshot : String := ""
  testFailoverDataset : String := ""
deriving DecidableEq

structure Condition where
  type : String
  status : Bool
  reason : String
  message : String
  observedGeneration : Int
deriving DecidableEq

structure ResourceStatus where
  observedGeneration : Int := 0
  phase : Phase := .unknown
  message : String := ""
  replicationTaskID : Nat := 0
  taskState : String := ""
  suspended : Bool := false
  testFailoverActive : Bool := false
  lastAction : Action := .none
  lastActionGeneration : Int := 0
  volumes : List VolumeStatus := []
  snapshotTaskIDs : Dict Nat := ∅
  conditions : List Condition := []

structure StorageProtectionGroup where
  ns : String
  name : String
  generation : Int := 1
  /-- Whether a deletion timestamp is set. -/
  deleting : Bool := false
  finalizers : List String := []
  spec : Spec
  status : ResourceStatus := {}

def parseHandles : List String → Except Err (List ID)
  | [] => .ok []
  | handle :: rest =>
    match parseID handle with
    | .error e => .error (e.wrap "volumeHandles: ")
    | .ok id =>
      match parseHandles rest with
      | .error e => .error e
      | .ok ids => .ok (id :: ids)

def CronSchedule.cron (s : CronSchedule) : Cron :=
  ⟨s.minute, s.hour, s.dayOfMonth, s.month, s.dayOfWeek⟩

def groupName (ns name : String) : String := if ns = "" then name else ns ++ "-" ++ name

variable (spg : StorageProtectionGroup)

/-- The group an object asks for, or why it cannot be read. -/
def groupFromSpec : Except Err Group :=
  if spg.spec.sourceBackend = "" ∨ spg.spec.targetBackend = "" then
    .error (.plain "sourceBackend and targetBackend are both required")
  else if spg.spec.sourceBackend = spg.spec.targetBackend then
    .error (.plain ("sourceBackend and targetBackend are both " ++
      Text.quote spg.spec.sourceBackend ++
      "; replicating an appliance to itself would overwrite the source"))
  else
    match parseHandles spg.spec.volumeHandles with
    | .error e => .error e
    | .ok [] => .error (.plain "volumeHandles is empty")
    | .ok volumes => .ok {
        name := groupName spg.ns spg.name
        sourceBackend := spg.spec.sourceBackend
        targetBackend := spg.spec.targetBackend
        volumes := volumes
        sshCredentialID := spg.spec.sshCredentialID
        sshCredentialIDReverse := spg.spec.reverseSSHCredentialID
        schedule := spg.spec.schedule.cron
        snapshotRetention := spg.spec.retention.getD {} }

def parentOf (dataset : String) : String :=
  match Text.cutLast '/' dataset with
  | some (parent, _) => parent
  | none => dataset

/-- A map has no order; the model takes the first. -/
def anyValue (m : Dict String) : String := (m.entries.head?.map (·.2)).getD ""

def recordedVolumes (marks clones : Dict String) :
    List VolumeStatus → Except Err (Dict String × Dict String)
  | [] => .ok (marks, clones)
  | v :: rest =>
    match parseID v.handle with
    | .error e => .error e
    | .ok id =>
      recordedVolumes
        (if v.failoverSnapshot ≠ "" then marks.set id.name v.failoverSnapshot else marks)
        (if v.testFailoverDataset ≠ "" then clones.set id.name v.testFailoverDataset else clones)
        rest

/-- The engine's record, read back from the status, -/
def loadedState (status : ResourceStatus) : Except Err State :=
  match recordedVolumes ∅ ∅ status.volumes with
  | .error e => .error e
  | .ok (marks, clones) => .ok {
      phase := status.phase
      taskID := status.replicationTaskID
      snapshotTaskIDs := status.snapshotTaskIDs
      suspended := status.suspended
      message := status.message
      failoverSnapshots := marks
      testFailover :=
        if clones.entries = [] then none
        else some { root := parentOf (anyValue clones), datasets := clones } }

def updateLast {α : Type} (p : α → Bool) (f : α → α) : List α → List α
  | [] => []
  | a :: rest => if p a && !rest.any p then f a :: rest else a :: updateLast p f rest

def VolumeStatus.isOf (name : String) (v : VolumeStatus) : Bool :=
  match parseID v.handle with
  | .error _ => false
  | .ok id => id.name == name

/-- One handle of the spec as the store records it. -/
def savedVolume (st : State) (volumes : List VolumeStatus) (handle : String) : List VolumeStatus :=
  match parseID handle with
  | .error _ => volumes
  | .ok id =>
    let record (v : VolumeStatus) : VolumeStatus :=
      { v with
        failoverSnapshot := st.failoverSnapshots.getD id.name ""
        testFailoverDataset := (st.testFailover.map fun tf => tf.datasets.getD id.name "").getD "" }
    if volumes.any (VolumeStatus.isOf id.name) then
      updateLast (VolumeStatus.isOf id.name) record volumes
    else volumes ++ [record { handle := handle }]

/-- and written to it. -/
def savedStatus (spec : Spec) (status : ResourceStatus) (st : State) : ResourceStatus :=
  { status with
    phase := st.phase
    replicationTaskID := st.taskID
    snapshotTaskIDs := st.snapshotTaskIDs
    suspended := st.suspended
    message := st.message
    testFailoverActive := st.testFailover.isSome
    volumes := spec.volumeHandles.foldl (savedVolume st) status.volumes }

def conditionReady : String := "Ready"

def conditionRefused : String := "Refused"

def setCondition (type : String) (status : Bool)
    (reason message : String) : StorageProtectionGroup :=
  let cond : Condition := ⟨type, status, reason, message, spg.generation⟩
  let rec place : List Condition → List Condition
    | [] => [cond]
    | c :: rest => if c.type = type then cond :: rest else c :: place rest
  { spg with status := { spg.status with conditions := place spg.status.conditions } }

end TruenasCsi.Replication
