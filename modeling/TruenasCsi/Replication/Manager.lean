import TruenasCsi.Backend.Registry
import TruenasCsi.Replication.Calls

/-! The replication engine: load, refuse, call, save. -/

namespace TruenasCsi.Replication

open Appliance
open Volume (ID)
open Text Backend

/-- Where a group's record is kept. -/
inductive Store where
  | memory
  | status
deriving DecidableEq

def readCopy : R StorageProtectionGroup := Prog.issue Call.read

def writeCopy (spg : StorageProtectionGroup) : R Unit := Prog.issue (Call.write spg)

namespace Store

def load : Store → String → R State
  | memory, group => Prog.issue (Call.load group)
  | status, _ => do
    let spg ← readCopy
    Prog.ofExcept (loadedState spg.status)

def save : Store → String → State → R Unit
  | memory, group, st => Prog.issue (Call.save group st)
  | status, _, st => do
    let spg ← readCopy
    writeCopy { spg with status := savedStatus spg.spec spg.status st }

end Store

/-- The engine: the configured appliances, and where it keeps its record. -/
structure Manager where
  appliances : Registry
  store : Store

structure DeleteOptions where
  removeTargetDatasets : Bool := false

structure GroupStatus where
  state : State
  taskState : String := ""
  taskError : String := ""

namespace Manager

variable (m : Manager)

def client (backend : String) : R Caller := do
  let _ ← Prog.ofExcept (m.appliances.backend backend)
  (Prog.issue (Call.client backend) : R Unit).mapError
    fun e => e.wrap ("backend " ++ quote backend ++ ": ")
  return caller backend

variable (src dst guarded : Caller) (g : Group) (enabled : Bool) (root : String) (suspended : Bool)
  (target srcRoot dstRoot : String) (force : Bool) (id : ID) (dataset : String) (st : State)

def clients : R (Caller × Caller) := do
  let src ← m.client g.sourceBackend
  let dst ← m.client g.targetBackend
  return (src, dst)

def rootOf (cfg : Config) : String := cfg.pool ++ "/" ++ cfg.parentDataset

def roots : R (String × String) := do
  let srcCfg ← Prog.ofExcept (m.appliances.backend g.sourceBackend)
  let dstCfg ← Prog.ofExcept (m.appliances.backend g.targetBackend)
  return (rootOf srcCfg, rootOf dstCfg)

def checkMember (cfg : Config) (seen : List String) (id : ID) : Except Err Unit :=
  if id.backend ≠ g.sourceBackend then
    .error (.plain ("volume " ++ id.string ++ " lives on backend " ++ quote id.backend ++
      ", not the group's source " ++ quote g.sourceBackend))
  else
    match Volume.confine id cfg.pool cfg.parentDataset with
    | .error e => .error (e.wrap ("volume " ++ id.string ++ ": "))
    | .ok () =>
      if id.name ∈ seen then
        .error (.plain ("volume " ++ quote id.name ++ " appears twice in group " ++ quote g.name))
      else .ok ()

def verifyMembers (src : Caller) (g : Group) (cfg : Config) : List String → List ID → R Unit
  | _, [] => return ()
  | seen, id :: rest => do
    Prog.ofExcept (checkMember g cfg seen id)
    let _ ← (verifyOwned src id.datasetPath).mapError fun e =>
      e.wrap ("group " ++ quote g.name ++ " member " ++ id.string ++ ": ")
    verifyMembers src g cfg (id.name :: seen) rest

def requireVolumes : Except Err Unit :=
  if g.volumes = [] then .error (.plain ("group " ++ quote g.name ++ " names no volumes"))
  else .ok ()

def verifyMembership : R Unit := do
  Prog.ofExcept (requireVolumes g)
  let srcCfg ← Prog.ofExcept (m.appliances.backend g.sourceBackend)
  let src ← m.client g.sourceBackend
  verifyMembers src g srcCfg [] g.volumes

def ensureBaseline : R Unit := do
  let snaps ← snapshotsOf src dataset
  if snaps.any fun s => s.name == baselineName g || snapshotShortName s.id == baselineName g then
    return ()
  else createSnapshot src dataset (baselineName g)

def snapshotTaskSpec : SnapshotTaskSpec where
  dataset := dataset
  recursive := false
  namingSchema := namingSchema g
  lifetime := g.snapshotRetention.orDefault
  enabled := true
  allowEmpty := true
  schedule := g.schedule.payload

def ensureSnapshotTask : R SnapshotTask := do
  match ← querySnapshotTask src dataset (namingSchema g) with
  | some task => return task
  | none => (createSnapshotTask src (snapshotTaskSpec g dataset)).mapError fun e =>
      e.wrap ("periodic snapshot task for " ++ dataset ++ ": ")

def ensureMember : R Nat := do
  let task ← ensureSnapshotTask src g id.datasetPath
  ensureBaseline src g id.datasetPath
  return task.id

def ensureMembers (src : Caller) (g : Group) : List ID → R (List Nat)
  | [] => return []
  | id :: rest => do
    let task ← ensureMember src g id
    let others ← ensureMembers src g rest
    return task :: others

variable (taskIDs : List Nat)

/-- The forward task, to a read-only target. -/
def forwardSpec : ReplicationSpec where
  name := taskName g
  direction := "PUSH"
  transport := "SSH"
  sshCredentials := g.sshCredentialID
  sourceDatasets := g.volumes.map (·.datasetPath)
  targetDataset := dstRoot
  recursive := false
  auto := true
  periodicSnapshotTasks := taskIDs
  restrictSchedule := some g.schedule.payload
  retentionPolicy := "SOURCE"
  readonly := .set
  allowFromScratch := false
  enabled := true

def ensureReplication : R ReplicationTask := do
  match ← queryReplicationByName src (taskName g) with
  | some task => return task
  | none =>
    let task ← createReplication src (forwardSpec g dstRoot taskIDs)
    (runReplication src task.id).mapError fun e => e.wrap "initial replication run: "
    return task

def ensuredState (task : ReplicationTask) (st : State) : State :=
  let phase := if st.phase = .unknown then .ready else st.phase
  { st with
    snapshotTaskIDs := st.snapshotTaskIDs.setAll ((g.volumes.map (·.name)).zip taskIDs)
    taskID := task.id
    suspended := !task.enabled
    phase := if !task.enabled && phase = .ready then .suspended else phase
    message := "" }

/-- Makes the tasks of a group that are missing; what it finds is not compared. -/
def create : R State := do
  m.verifyMembership g
  let (_, dstRoot) ← m.roots g
  let (src, _) ← m.clients g
  let st ← m.store.load g.name
  let taskIDs ← ensureMembers src g g.volumes
  let task ← ensureReplication src g dstRoot taskIDs
  let st := ensuredState g taskIDs task st
  m.store.save g.name st
  return st

variable (detail : String) (latest : Option Appliance.Snapshot) (d : Dict (List String))

def rehearsing : Err :=
  .sentinel .testFailoverActive ("a test failover is still active: " ++ detail)

def verifyTarget : R Unit := do
  match ← queryDataset dst target with
  | none => return ()
  | some ds =>
    (Prog.ofExcept (Truenas.verifyOwned ds)).mapError fun e =>
      e.wrap ("group " ++ quote g.name ++ " target " ++ target ++ ": ")

def verifyTargets (dst : Caller) (g : Group) (dstRoot : String) : List ID → R Unit
  | [] => return ()
  | id :: rest => do
    verifyTarget dst g (targetDataset dstRoot id)
    verifyTargets dst g dstRoot rest

def removeReplication : R Unit := do
  match ← queryReplicationByName src (taskName g) with
  | none => return ()
  | some task => deleteReplication src task.id

def removeSnapshotTask : R Unit := do
  match ← querySnapshotTask src dataset (namingSchema g) with
  | none => return ()
  | some task => deleteSnapshotTask src task.id

def deleteSnapshotTasks (src : Caller) (g : Group) : List ID → R Unit
  | [] => return ()
  | id :: rest => do
    removeSnapshotTask src g id.datasetPath
    deleteSnapshotTasks src g rest

def deleteTargets (dst : Caller) (dstRoot : String) : List ID → R Unit
  | [] => return ()
  | id :: rest => do
    deleteIfOwned dst (targetDataset dstRoot id)
    deleteTargets dst dstRoot rest

def refuseDelete : Except Err Unit :=
  if st.testFailover.isSome then
    .error (rehearsing ("stop it before deleting group " ++ quote g.name))
  else .ok ()

/-- Removes the tasks, and the replicas only if asked to. -/
def delete (opts : DeleteOptions) : R Unit := do
  let (src, dst) ← m.clients g
  let (_, dstRoot) ← m.roots g
  let st ← m.store.load g.name
  Prog.ofExcept (refuseDelete g st)
  -- Every target is proved before anything is destroyed.
  verifyTargets dst g dstRoot (if opts.removeTargetDatasets then g.volumes else [])
  removeReplication src g
  deleteSnapshotTasks src g g.volumes
  deleteTargets dst dstRoot (if opts.removeTargetDatasets then g.volumes else [])
  m.store.save g.name {}

def status : R GroupStatus := do
  let st ← m.store.load g.name
  let src ← m.client g.sourceBackend
  match ← queryReplicationByName src (taskName g) with
  | none => return { state := st, taskState := "MISSING" }
  | some task => return {
      state := { st with suspended := !task.enabled }
      taskState := task.state
      taskError := task.error }

def setTask : R Nat := do
  match ← queryReplicationByName src (taskName g) with
  | none => throw (.plain ("replication task " ++ quote (taskName g) ++ " does not exist"))
  | some task =>
    if task.enabled = enabled then return task.id
    else do
      updateReplication src task.id enabled
      return task.id

def setSnapshotTask : R Unit := do
  match ← querySnapshotTask src dataset (namingSchema g) with
  | none => return ()
  | some task =>
    if task.enabled = enabled then return () else updateSnapshotTask src task.id enabled

def setSnapshotTasks (src : Caller) (g : Group) (enabled : Bool) : List ID → R Unit
  | [] => return ()
  | id :: rest => do
    setSnapshotTask src g enabled id.datasetPath
    setSnapshotTasks src g enabled rest

/-- The record as far as it got, and the error. -/
def setTransfers (enabled : Bool) : R (State × Except Err Unit) := do
  match ← (setTask src g enabled).attempt with
  | .error e => return (st, .error e)
  | .ok id =>
    let done ← (setSnapshotTasks src g enabled g.volumes).attempt
    return ({ st with taskID := id }, done)

def incomplete : Err :=
  .sentinel .failoverIncomplete ("a previous failover did not complete: " ++ detail)

/-- What the phase makes of an unfinished failover. -/
def refuseFailover : Except Err Unit :=
  if st.phase = .failingOver ∧ force = false then
    .error (incomplete ("group " ++ quote g.name ++ " is in phase " ++ st.phase.text ++ " (" ++
      st.message ++ "); confirm no promotion is in flight, then force"))
  else if st.phase = .failingBack ∧ force = false then
    .error (incomplete ("group " ++ quote g.name ++ " is failing back"))
  else if st.testFailover.isSome ∧ force = false then
    .error (rehearsing ("stop it before failing group " ++ quote g.name ++ " over"))
  else .ok ()

def noReplicatedSnapshot : Err :=
  .sentinel .noReplicatedSnapshot ("target has no replicated snapshot: " ++ detail)

def marked (st : State) : State :=
  match latest with
  | none => st
  | some snap =>
    { st with failoverSnapshots := st.failoverSnapshots.set id.name (snapshotShortName snap.id) }

def writable : DatasetPatch := { zfsProperties := [(Site.readonlyProperty, "OFF")] }

def requireSnapshot : Except Err Unit :=
  if latest.isNone && !force then
    .error (noReplicatedSnapshot (target ++ " has no replicated snapshot, so failing over would " ++
      "promote an empty or unsynchronised replica"))
  else .ok ()

/-- Only a clone needs promoting. -/
def promoteClone (origin : String) : R Unit :=
  if origin = "" then return ()
  else (promoteDataset dst target).mapError fun e => e.wrap ("promoting clone " ++ target ++ ": ")

/-- Checks a replica, makes it writable, and marks the snapshot it stands at. -/
def promoteMember : R State := do
  let target := targetDataset dstRoot id
  let ds ← (verifyOwned dst target).mapError fun e =>
    e.wrap ("group " ++ quote g.name ++ " target " ++ target ++ ": ")
  let latest ← latestSnapshot dst target
  Prog.ofExcept (requireSnapshot target force latest)
  (updateDataset dst target writable).mapError fun e => e.wrap ("promoting " ++ target ++ ": ")
  promoteClone dst target ds.origin
  return marked id latest st

def promoteMembers (dst : Caller) (g : Group) (dstRoot : String) (force : Bool) :
    List ID → State → R State
  | [], st => return st
  | id :: rest, st => do
    let st ← promoteMember dst g dstRoot force id st
    promoteMembers dst g dstRoot force rest st

/-- The replica of a running stream is left alone. -/
def transfersStand (e : Err) : Err :=
  { e with text := "group " ++ quote g.name ++ ": disabling replication on the source: " ++
      e.text ++ " (if the source appliance is lost, force the failover)" }

/-- A running stream ends an unforced failover. -/
def requireStopped : Except Err Unit → Except Err Unit
  | .ok () => .ok ()
  | .error e => if force then .ok () else .error (transfersStand g e)

def failoverFrom : R State := do
  Prog.ofExcept (refuseFailover g force st)
  let (src, dst) ← m.clients g
  let (_, dstRoot) ← m.roots g
  let st := { st with phase := .failingOver, message := "promoting " ++ g.targetBackend }
  m.store.save g.name st
  -- The stream stops first, or it would overwrite the replica it has just lost.
  let (st, stopped) ← setTransfers src g st false
  Prog.ofExcept (requireStopped g force stopped)
  let st ← promoteMembers dst g dstRoot force g.volumes st
  let st := { st with phase := .failedOver, message := g.targetBackend ++ " is now primary" }
  m.store.save g.name st
  return st

/-- Stops the transfers, then checks and promotes one member after the other. -/
def failover : R State := do
  let st ← m.store.load g.name
  if st.phase = .failedOver then return st else m.failoverFrom g force st

def ensureClone (latest clone : String) : R Unit := do
  match ← queryDataset guarded clone with
  | some _ => return ()
  | none => (cloneSnapshot guarded latest clone).mapError fun e => e.wrap ("cloning " ++ latest ++ ": ")

def cloneMember : R (String × String) := do
  let target := targetDataset dstRoot id
  match ← latestSnapshot guarded target with
  | none => throw (noReplicatedSnapshot (target ++ " has nothing to rehearse against"))
  | some latest =>
    let clone := root ++ "/" ++ id.name
    ensureClone guarded latest.id clone
    (updateDataset guarded clone { userPropertiesUpdate := Volume.stampProperties clone }).mapError
      fun e => e.wrap ("stamping " ++ clone ++ ": ")
    return (clone, snapshotShortName latest.id)

def cloneMembers (guarded : Caller) (root dstRoot : String) :
    List ID → TestFailoverState → R TestFailoverState
  | [], tf => return tf
  | id :: rest, tf => do
    let (clone, snapshot) ← cloneMember guarded root dstRoot id
    cloneMembers guarded root dstRoot rest { tf with
      datasets := tf.datasets.set id.name clone
      snapshots := tf.snapshots.set id.name snapshot }

def scratchSpec : DatasetSpec where
  name := root
  type := .filesystem
  userProperties := Volume.stampProperties root

def ensureScratch : R Unit := do
  match ← queryDataset guarded root with
  | some _ => return ()
  | none => (createDataset guarded (scratchSpec root)).mapError fun e =>
      e.wrap ("scratch dataset " ++ root ++ ": ")

def rehearse : R State := do
  let (_, dst) ← m.clients g
  let (_, dstRoot) ← m.roots g
  let root := scratchRoot g dstRoot
  let guarded := scratchGuard dst root
  ensureScratch guarded root
  let tf ← cloneMembers guarded root dstRoot g.volumes { root := root }
  let st := { st with testFailover := some tf }
  m.store.save g.name st
  return st

/-- Clones every replica's newest snapshot below a scratch root. -/
def testFailover (g : Group) : R State := do
  let st ← m.store.load g.name
  if st.testFailover.isSome then return st else m.rehearse g st

def deleteClones (guarded : Caller) : List String → R Unit
  | [] => return ()
  | ds :: rest => do
    (deleteIfOwned guarded ds).mapError fun e => e.wrap ("test failover clone " ++ ds ++ ": ")
    deleteClones guarded rest

/-- Deletes what the record names, and the scratch root. -/
def stopTestFailover : R State := do
  let st ← m.store.load g.name
  match st.testFailover with
  | none => return st
  | some tf =>
    let (_, dst) ← m.clients g
    let guarded := scratchGuard dst tf.root
    deleteClones guarded ((tf.datasets.entries.map (·.2)).insertionSort (· ≤ ·))
    (deleteIfOwned guarded tf.root).mapError fun e =>
      e.wrap ("test failover scratch dataset " ++ tf.root ++ ": ")
    let st := { st with testFailover := none }
    m.store.save g.name st
    return st

/-- The names after the mark. -/
def gainedSince (mark : String) (before names : List String) : List String :=
  if mark ∈ names then before ++ (names.dropWhile (· ≠ mark)).tail
  else ["the common snapshot " ++ quote mark ++ " is gone from the source"]

/-- The snapshots of the old source that are newer than the recorded one. -/
def memberDivergence (id : ID) (before : List String) : R (List String) := do
  match st.failoverSnapshots.get? id.name with
  | none => return ["no common snapshot was recorded at failover"]
  | some mark =>
    let snaps ← snapshotsOf src id.datasetPath
    return gainedSince mark before (snaps.map fun s => snapshotShortName s.id)

/-- Per volume what its source gained. -/
def divergence (src : Caller) (st : State) (out : Dict (List String)) :
    List ID → R (Dict (List String))
  | [] => return out
  | id :: rest => do
    let gained ← memberDivergence src st id (out.getD id.name [])
    divergence src st (if gained = [] then out else out.set id.name gained) rest

def describeDivergence : String :=
  join "; " ((d.keys.insertionSort (· ≤ ·)).map fun name =>
    name ++ " gained " ++ join ", " (d.getD name []))

def wrongPhase : Err :=
  .sentinel .wrongPhase ("operation does not apply in this phase: " ++ detail)

def refuseFailback : Except Err Unit :=
  if st.phase = .failingBack ∧ force = false then
    .error (incomplete ("group " ++ quote g.name ++ " is already failing back"))
  else if st.phase ≠ .failingBack ∧ st.phase ≠ .failedOver then
    .error (wrongPhase ("group " ++ quote g.name ++ " is in phase " ++ st.phase.text))
  else if st.testFailover.isSome ∧ force = false then
    .error (rehearsing ("stop it before failing group " ++ quote g.name ++ " back"))
  else .ok ()

def diverged : Err :=
  .sentinel .diverged ("source has diverged since failover: " ++ describeDivergence d ++
    "; failing back would discard this. Force only if these changes are expendable")

def refuseDiverged (gained : Dict (List String)) : Except Err Unit :=
  if gained.entries ≠ [] ∧ force = false then .error (diverged gained) else .ok ()

/-- The temporary task back to the source. -/
def reverseSpec : ReplicationSpec where
  name := reverseTaskName g
  direction := "PUSH"
  transport := "SSH"
  sshCredentials := g.sshCredentialIDReverse
  sourceDatasets := g.volumes.map (targetDataset dstRoot)
  targetDataset := srcRoot
  recursive := false
  auto := false
  retentionPolicy := "NONE"
  readonly := .ignore
  allowFromScratch := force
  enabled := true

def ensureReverse : R ReplicationTask := do
  match ← queryReplicationByName dst (reverseTaskName g) with
  | some task => return task
  | none => (createReplication dst (reverseSpec g srcRoot dstRoot force)).mapError fun e =>
      e.wrap "reverse replication task: "

def pushBack : R Unit := do
  let reverse ← ensureReverse dst g srcRoot dstRoot force
  (runReplication dst reverse.id).mapError fun e => e.wrap "reverse replication run: "
  deleteReplication dst reverse.id

def reopenSources (src : Caller) : List ID → R Unit
  | [] => return ()
  | id :: rest => do
    updateDataset src id.datasetPath writable
    reopenSources src rest

def failbackFrom : R State := do
  Prog.ofExcept (refuseFailback g force st)
  let (src, dst) ← m.clients g
  let (srcRoot, dstRoot) ← m.roots g
  let gained ← divergence src st ∅ g.volumes
  Prog.ofExcept (refuseDiverged force gained)
  let st := { st with
    phase := .failingBack
    message := "replicating " ++ g.targetBackend ++ " back to " ++ g.sourceBackend }
  m.store.save g.name st
  pushBack dst g srcRoot dstRoot force
  reopenSources src g.volumes
  let (st, resumed) ← setTransfers src g st true
  Prog.ofExcept resumed
  let st := { st with
    phase := .ready
    suspended := false
    failoverSnapshots := ∅
    message := g.sourceBackend ++ " is primary again" }
  m.store.save g.name st
  return st

/-- Refuses if the source has diverged, sends everything back and reopens the source. -/
def failback : R State := do
  let st ← m.store.load g.name
  if st.phase = .ready ∨ st.phase = .suspended then return st else m.failbackFrom g force st

def suspendedState : State :=
  { st with
    suspended := suspended
    phase := if suspended then .suspended else .ready
    message := if suspended then "replication transfers are disabled" else "" }

def refuseSuspended : Except Err Unit :=
  if st.phase = .failedOver ∨ st.phase = .failingOver then
    .error (wrongPhase ("group " ++ quote g.name ++
      " is failed over; there is no source stream to " ++ if suspended then "suspend" else "resume"))
  else .ok ()

def setSuspended : R State := do
  let st ← m.store.load g.name
  Prog.ofExcept (refuseSuspended g suspended st)
  let src ← m.client g.sourceBackend
  let (st, done) ← setTransfers src g st !suspended
  Prog.ofExcept done
  let st := suspendedState suspended st
  m.store.save g.name st
  return st

def suspend : R State := m.setSuspended g true

def resume : R State := m.setSuspended g false

/-- The target-side dataset of a member. -/
def remoteSpec (source : Dataset) : DatasetSpec where
  name := target
  type := source.type
  volSize := if source.type = .volume then source.volSize else 0
  sparse := source.type = .volume
  refQuota := if source.type = .filesystem ∧ source.refQuota > 0 then source.refQuota else 0
  userProperties := Volume.stampProperties target

def createRemoteVolume : R String := do
  let srcCfg ← Prog.ofExcept (m.appliances.backend g.sourceBackend)
  (Prog.ofExcept (Volume.confine id srcCfg.pool srcCfg.parentDataset)).mapError fun e =>
    e.wrap ("volume " ++ id.string ++ ": ")
  let (src, dst) ← m.clients g
  let (_, dstRoot) ← m.roots g
  let source ← verifyOwned src id.datasetPath
  let target := targetDataset dstRoot id
  match ← queryDataset dst target with
  | some existing =>
    (Prog.ofExcept (Truenas.verifyOwned existing)).mapError fun e =>
      e.wrap ("remote volume " ++ target ++ " already exists: ")
    return target
  | none =>
    (createDataset dst (remoteSpec target source)).mapError fun e =>
      e.wrap ("remote volume " ++ target ++ ": ")
    return target

end Manager

end TruenasCsi.Replication
