import TruenasCsi.Backend.Scan
import TruenasCsi.Csi.GroupController

/-! Names, listing and requests of snapshots. -/

namespace TruenasCsi

open Volume

namespace Backend

def retired (b : Config) (dataset : String) : Bool :=
  b.policy.on && (b.policy.confineToGraveyard dataset).isOk

def Config.root (b : Config) : String := b.pool ++ "/" ++ b.parentDataset

def listedSize (sources : List Appliance.Dataset) (s : Appliance.Snapshot) : Int :=
  if s.volSize = 0 then ((sources.find? fun d => d.id == s.dataset).map (·.refQuota)).getD 0
  else s.volSize

namespace Registry

variable (r : Registry)

def snapshot (id : String) : M (Option Snapshot) := do
  let (backendName, zfsID) ← Prog.ofExcept (parseSnapshotID id)
  let c ← r.client backendName
  match ← c.snapshotQuery zfsID with
  | none => return none
  | some snap =>
    let size ← provisionedBytes c (some snap) snap.dataset
    return some ⟨id, snap.dataset, size, creationTime snap, true⟩

def listSnapshots (backendName : String) : M (List Snapshot) := do
  let b ← Prog.ofExcept (r.backend backendName)
  let c ← r.client backendName
  let snaps ← c.snapshotList b.root
  -- A listing of the datasets that fails costs the sizes only.
  let sources := (← (c.datasetList b.root).attempt).toOption.getD []
  return (snaps.filter fun s => !retired b s.dataset).map fun s =>
    ⟨snapshotID backendName s.id, s.dataset, listedSize sources s, creationTime s, true⟩

end Registry

end Backend

namespace Csi

structure CreateSnapshotRequest where
  name : String
  sourceVolumeId : String
deriving DecidableEq

structure SnapshotInfo where
  snapshotId : String
  sourceVolumeId : String
  sizeBytes : Int
  creationTime : Option Backend.Moment
  readyToUse : Bool
deriving DecidableEq

structure ListSnapshotsRequest where
  snapshotId : String := ""
  sourceVolumeId : String := ""
  startingToken : String := ""
  /-- Zero for all that are left. -/
  maxEntries : Int := 0

structure ListSnapshotsResponse where
  entries : List SnapshotInfo := []
  nextToken : String := ""
deriving DecidableEq

def snapshotNameOf (id : String) : String :=
  match Text.cutLast '@' id with
  | some (_, name) => name
  | none => id

/-- The wire form of a listed snapshot. -/
def snapshotPB (reg : Backend.Registry) (id sourceDataset backendName : String) (sizeBytes : Int)
    (creation : Option Backend.Moment) : SnapshotInfo :=
  ⟨id, source, sizeBytes, creation, true⟩
where
  source : String :=
    match reg.backends.get? backendName with
    | none => sourceDataset
    | some b =>
      if Text.startsWith sourceDataset b.start then
        let leaf := String.ofList (sourceDataset.toList.drop b.start.toList.length)
        match idFromLeaf backendName "nfs" b.pool b.parentDataset leaf with
        | .ok vid => vid.string
        | .error _ => sourceDataset
      else sourceDataset

def snapshotPage (all : List SnapshotInfo) (req : ListSnapshotsRequest) :
    Except Err ListSnapshotsResponse :=
  let start := if req.startingToken = "" then some 0
    else all.findIdx? fun e => e.snapshotId == req.startingToken
  match start with
  | none => .error (.status .aborted ("invalid starting_token " ++ Text.quote req.startingToken))
  | some start =>
    let left := all.drop start
    let max := if req.maxEntries ≤ 0 ∨ (left.length : Int) < req.maxEntries then left.length
      else req.maxEntries.toNat
    .ok ⟨left.take max, ((left.drop max).head?.map (·.snapshotId)).getD ""⟩

namespace Controller

variable (c : Controller)

/-- A name that another dataset below the parent uses is refused. -/
def rejectSnapshotNameReuse (source : ID) (name : String) : M Unit := do
  let cl ← withStatus (c.reg.client source.backend)
  let b ← withStatus (Prog.ofExcept (c.reg.backend source.backend))
  let snaps ← withStatus (cl.snapshotList b.root)
  match snaps.find? fun s => snapshotNameOf s.id == name && s.dataset != source.datasetPath with
  | some s => throw (.status .alreadyExists ("snapshot name " ++ Text.quote name ++
      " already exists for source volume " ++ s.dataset))
  | none => return ()

def createSnapshot (req : CreateSnapshotRequest) : M SnapshotInfo :=
  if req.name = "" then throw (.status .invalidArgument "snapshot name is required")
  else if req.sourceVolumeId = "" then
    throw (.status .invalidArgument "source volume id is required")
  else
    match parseID req.sourceVolumeId with
    | .error _ => throw (.status .notFound ("unknown source volume " ++ Text.quote req.sourceVolumeId))
    | .ok id => do
      let name := sanitiseSnapshotName req.name
      c.rejectSnapshotNameReuse id name
      let s ← withStatus (c.reg.createSnapshot id name)
      return ⟨s.id, req.sourceVolumeId, s.sizeBytes, s.creationTime, s.readyToUse⟩

def deleteSnapshot (snapshotId : String) : M Unit :=
  if snapshotId = "" then throw (.status .invalidArgument "snapshot id is required")
  else
    match Backend.parseSnapshotID snapshotId with
    | .error _ => return ()
    | .ok _ => withStatus (c.reg.deleteSnapshot snapshotId)

def scanSnapshots : List String → M (List SnapshotInfo)
  | [] => return []
  | name :: rest => do
    let snaps := (← (c.reg.listSnapshots name).attempt).toOption.getD []
    let others ← scanSnapshots rest
    return (snaps.map fun s =>
      snapshotPB c.reg s.id s.sourceVolumeID name s.sizeBytes s.creationTime) ++ others

def findSnapshot (id : String) : M ListSnapshotsResponse :=
  match Backend.parseSnapshotID id with
  | .error _ => return {}
  | .ok (backendName, _) => do
    match (← (c.reg.snapshot id).attempt).toOption.join with
    | none => return {}
    | some snap => return ⟨[snapshotPB c.reg id snap.sourceVolumeID backendName snap.sizeBytes
        snap.creationTime], ""⟩

def ofSource (id : ID) (src : String) (all : List SnapshotInfo) : List SnapshotInfo :=
  all.filter fun s => s.sourceVolumeId == id.datasetPath || s.sourceVolumeId == src

def listSnapshots (req : ListSnapshotsRequest) : M ListSnapshotsResponse :=
  if req.snapshotId ≠ "" then c.findSnapshot req.snapshotId
  else do
    let all ← c.scanSnapshots c.reg.sortedNames
    let sorted (found : List SnapshotInfo) : M ListSnapshotsResponse :=
      Prog.ofExcept (snapshotPage (found.insertionSort fun a b => a.snapshotId ≤ b.snapshotId) req)
    if req.sourceVolumeId = "" then sorted all
    else
      match parseID req.sourceVolumeId with
      | .error _ => return {}
      | .ok id => sorted (ofSource id req.sourceVolumeId all)

end Controller

end Csi

end TruenasCsi
