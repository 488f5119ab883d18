import TruenasCsi.Truenas.Ops
import TruenasCsi.Replication.World

/-! A query that finds nothing and a deletion of what is gone are not errors. -/

namespace TruenasCsi.Replication

open Appliance

section

variable (c : Caller)

/-- A query that finds nothing is an empty answer. -/
def absentAsEmpty {α : Type} (p : R (List α)) : R (List α) :=
  p.rescue fun e => if e.isNotFound then pure [] else throw e

def ignoreAbsent (p : R Unit) : R Unit :=
  p.rescue fun e => if e.isNotFound then pure () else throw e

def queryReplicationByName (name : String) : R (Option ReplicationTask) := do
  return (← absentAsEmpty (c (.replicationQuery name))).head?

def createReplication (spec : ReplicationSpec) : R ReplicationTask := c (.replicationCreate spec)

def updateReplication (id : Nat) (enabled : Bool) : R Unit := c (.replicationUpdate id enabled)

def deleteReplication (id : Nat) : R Unit := ignoreAbsent (c (.replicationDelete id))

def runReplication (id : Nat) : R Unit := c (.replicationRun id)

variable (id dataset : String)

def querySnapshotTask (schema : String) : R (Option SnapshotTask) := do
  return (← absentAsEmpty (c (.snapshotTaskQuery dataset))).find? fun t => t.namingSchema == schema

def createSnapshotTask (spec : SnapshotTaskSpec) : R SnapshotTask := c (.snapshotTaskCreate spec)

def updateSnapshotTask (id : Nat) (enabled : Bool) : R Unit := c (.snapshotTaskUpdate id enabled)

def deleteSnapshotTask (id : Nat) : R Unit := ignoreAbsent (c (.snapshotTaskDelete id))

def byTXG (a b : Snapshot) : Prop := a.createTXG ≤ b.createTXG

instance : DecidableRel byTXG := fun a b => inferInstanceAs (Decidable (a.createTXG ≤ b.createTXG))

/-- The snapshots of a dataset, oldest first. -/
def snapshotsOf (dataset : String) : R (List Snapshot) := do
  return (← absentAsEmpty (c (.snapshotsOf dataset))).insertionSort byTXG

def latestSnapshot : R (Option Snapshot) := do
  return (← snapshotsOf c dataset).getLast?

def createSnapshot (name : String) : R Unit := do
  let _ ← c (.dataset (.snapshotCreate dataset name false))

def cloneSnapshot (snapshotID dst : String) : R Unit := c (.dataset (.snapshotClone snapshotID dst []))

def queryDataset : R (Option Dataset) := do
  return (← absentAsEmpty (c (.dataset (.query id)))).head?

def createDataset (spec : DatasetSpec) : R Unit := do
  let _ ← c (.dataset (.create spec))

def updateDataset (patch : DatasetPatch) : R Unit := do
  let _ ← c (.dataset (.update id patch))

def deleteDataset : R Unit := ignoreAbsent (c (.dataset (.delete id true true)))

def promoteDataset : R Unit := c (.promote id)

/-- Fetch a dataset unless it is not the driver's. -/
def verifyOwned (id : String) : R Dataset := do
  match ← queryDataset c id with
  | none => throw (.sentinel .notManaged
      ("dataset is not managed by this driver — refusing to delete: " ++ Text.quote id ++
        " does not exist"))
  | some ds =>
    Prog.ofExcept (Truenas.verifyOwned ds)
    return ds

/-- What the driver does not own is left where it is. -/
def deleteIfOwned : R Unit := do
  match ← queryDataset c id with
  | none => return ()
  | some ds =>
    Prog.ofExcept (Truenas.verifyOwned ds)
    deleteDataset c id

end

def forbidden (detail : String) : Err :=
  .sentinel .forbiddenCall ("call is not permitted during a test failover: " ++ detail)

def requireScratch (root method id : String) : Except Err Unit :=
  if id = "" then .error (forbidden (method ++ " without a dataset"))
  else if id ≠ root ∧ Text.startsWith id (root ++ "/") = false then
    .error (forbidden (method ++ " targets " ++ Text.quote id ++
      ", which is outside the scratch dataset " ++ Text.quote root))
  else .ok ()

/-- Writes stay inside the scratch dataset. -/
def permit (root : String) : Op → Except Err Unit
  | .dataset (.query _) => .ok ()
  | .dataset (.list _) => .ok ()
  | .dataset (.snapshotQuery _) => .ok ()
  | .dataset (.snapshotList _) => .ok ()
  | .snapshotsOf _ => .ok ()
  | .replicationQuery _ => .ok ()
  | .snapshotTaskQuery _ => .ok ()
  | .dataset (.snapshotClone _ dst _) => requireScratch root "pool.snapshot.clone" dst
  | .dataset (.create spec) => requireScratch root "pool.dataset.create" spec.name
  | .dataset (.update id _) => requireScratch root "pool.dataset.update" id
  | .dataset (.delete id _ _) => requireScratch root "pool.dataset.delete" id
  | .promote _ => .error (forbidden "pool.dataset.promote")
  | .replicationCreate _ => .error (forbidden "replication.create")
  | .replicationUpdate _ _ => .error (forbidden "replication.update")
  | .replicationDelete _ => .error (forbidden "replication.delete")
  | .replicationRun _ => .error (forbidden "replication.run")
  | .snapshotTaskCreate _ => .error (forbidden "pool.snapshottask.create")
  | .snapshotTaskUpdate _ _ => .error (forbidden "pool.snapshottask.update")
  | .snapshotTaskDelete _ => .error (forbidden "pool.snapshottask.delete")
  | .dataset (.rename _ _ _) => .error (forbidden "pool.dataset.rename")
  | .dataset (.recommendedZvolBlocksize _) =>
    .error (forbidden "pool.dataset.recommended_zvol_blocksize")
  | .dataset (.poolQuery _) => .error (forbidden "pool.query")
  | .dataset (.snapshotCreate _ _ _) => .error (forbidden "pool.snapshot.create")
  | .dataset (.snapshotDelete _) => .error (forbidden "pool.snapshot.delete")
  | .dataset (.setPerm _ _ _ _) => .error (forbidden "filesystem.setperm")
  | .dataset (.setACL _ _ _ _) => .error (forbidden "filesystem.setacl")

/-- Every call of a rehearsal goes through this check of its path. -/
def scratchGuard (inner : Caller) (root : String) : Caller := fun op => do
  Prog.ofExcept (permit root op)
  inner op

end TruenasCsi.Replication
