import TruenasCsi.Replication.Manager

/-! The reconciler of protection groups. -/

namespace TruenasCsi.Replication

/-- Keeps tasks from outliving their object. -/
def finalizer : String := "replication.truenas.io/storageprotectiongroup"

def resyncInterval : Nat := 120

structure Result where
  requeueAfter : Option Nat := none
deriving DecidableEq

/-- A safety refusal, not a transient failure. -/
def refused (e : Err) : Bool :=
  e.isA .notManaged || e.isA .outsideParent || e.isA .malformedID || e.isA .diverged ||
    e.isA .failoverIncomplete || e.isA .testFailoverActive || e.isA .wrongPhase ||
    e.isA .forbiddenCall

def writeStatus (g : Group) (s : GroupStatus) (spg : StorageProtectionGroup) :
    StorageProtectionGroup :=
  { spg with status := { spg.status with
      phase := s.state.phase
      message := if s.taskError ≠ "" then s.taskError else s.state.message
      replicationTaskID := s.state.taskID
      taskState := s.taskState
      suspended := s.state.suspended
      testFailoverActive := s.state.testFailover.isSome
      snapshotTaskIDs := s.state.snapshotTaskIDs
      volumes := g.volumes.map fun id => {
        handle := id.string
        failoverSnapshot := s.state.failoverSnapshots.getD id.name ""
        testFailoverDataset :=
          (s.state.testFailover.map fun tf => tf.datasets.getD id.name "").getD "" } } }

namespace Reconciler

def withMessage (message : String) (spg : StorageProtectionGroup) : StorageProtectionGroup :=
  { spg with status := { spg.status with message := message } }

def statusUpdate (f : StorageProtectionGroup → StorageProtectionGroup) : R Unit := do
  let spg ← readCopy
  writeCopy (f spg)
  Prog.issue (Call.updateStatus (f spg))

variable (text : String) (e : Err) (spg : StorageProtectionGroup)

def markRefused : StorageProtectionGroup :=
  setCondition (setCondition (withMessage text spg) conditionRefused true "Refused" text)
    conditionReady false "Refused" text

def refuse : R Result := do
  statusUpdate (markRefused e.text)
  return {}

def markFailed : StorageProtectionGroup :=
  setCondition (withMessage text spg) conditionReady false "Error" text

def retryable : R Result := do
  statusUpdate (markFailed e.text)
  throw e

def markReconciled (g : Group) (s : GroupStatus) (spg : StorageProtectionGroup) :
    StorageProtectionGroup :=
  let spg := writeStatus g s spg
  let spg := { spg with status := { spg.status with observedGeneration := spg.generation } }
  setCondition (setCondition spg conditionReady true "Reconciled" spg.status.message)
    conditionRefused false "NoRefusal" ""

variable (appliances : Backend.Registry)

def manager : Manager := ⟨appliances, .status⟩

def createRemoteVolumes (g : Group) : List Volume.ID → R Unit
  | [] => return ()
  | id :: rest => do
    let _ ← (manager appliances).createRemoteVolume g id
    createRemoteVolumes g rest

variable (g : Group) (spg : StorageProtectionGroup)

/-- One requested action. -/
def serve (force : Bool) : Action → R Unit
  | .none => return ()
  | .failover => do let _ ← (manager appliances).failover g force
  | .testFailover => do let _ ← (manager appliances).testFailover g
  | .stopTestFailover => do let _ ← (manager appliances).stopTestFailover g
  | .failback => do let _ ← (manager appliances).failback g force
  | .suspend => do let _ ← (manager appliances).suspend g
  | .resume => do let _ ← (manager appliances).resume g
  | .createRemoteVolumes => createRemoteVolumes appliances g g.volumes
  | .other text => throw (.plain ("unknown action " ++ Text.quote text))

/-- The status says that this generation's action was carried out. -/
def served : Bool :=
  spg.status.lastAction == spg.spec.action && spg.status.lastActionGeneration == spg.generation

def markServed (action : Action) (spg : StorageProtectionGroup) : StorageProtectionGroup :=
  { spg with status := { spg.status with
      lastAction := action, lastActionGeneration := spg.generation } }

def applyAction : R Unit := do
  let spg ← readCopy
  if spg.spec.action = .none ∨ served spg then return ()
  else do
    serve appliances g spg.spec.force spg.spec.action
    let after ← readCopy
    writeCopy (markServed spg.spec.action after)

def ensure : R Unit := do
  let _ ← ((manager appliances).create g).mapError fun e => e.wrap "ensuring group: "

/-- Tear the tasks down; then the finalizer goes. -/
def finalize : R Result := do
  let spg ← readCopy
  if finalizer ∉ spg.finalizers then return {}
  else
    match ← ((manager appliances).delete g ⟨spg.spec.deleteTargetDatasets⟩).attempt with
    | .error e => if refused e then refuse e else retryable e
    | .ok () =>
      let spg ← readCopy
      let spg := { spg with finalizers := spg.finalizers.filter (· ≠ finalizer) }
      writeCopy spg
      Prog.issue (Call.update spg)
      return {}

def converge : R Result := do
  match ← (ensure appliances g).attempt with
  | .error e => retryable e
  | .ok () =>
  match ← (applyAction appliances g).attempt with
  | .error e => if refused e then refuse e else retryable e
  | .ok () =>
  match ← ((manager appliances).status g).attempt with
  | .error e => retryable e
  | .ok status =>
    statusUpdate (markReconciled g status)
    return { requeueAfter := some resyncInterval }

def addFinalizer : R Unit := do
  if finalizer ∈ spg.finalizers then return ()
  else do
    let spg := { spg with finalizers := spg.finalizers ++ [finalizer] }
    writeCopy spg
    Prog.issue (Call.update spg)

/-- Fetch, finalizer, group, engine, action, status. -/
def reconcile (ns name : String) : R Result := do
  match ← (Prog.issue (Call.get ns name) : R (Option StorageProtectionGroup)) with
  | none => return {}
  | some spg =>
    writeCopy spg
    match groupFromSpec spg with
    | .error e => refuse e
    | .ok g =>
      if spg.deleting then finalize appliances g
      else do
        addFinalizer spg
        converge appliances g

end Reconciler

end TruenasCsi.Replication
