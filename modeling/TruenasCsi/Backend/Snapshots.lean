import TruenasCsi.Backend.Registry

/-! A snapshot id is `<backend>/<dataset>@<name>`. -/

namespace TruenasCsi.Backend

open Truenas (Client)
open Text

/-- A time on record, or the driver's clock. -/
inductive Moment where
  | recorded (unix : Int)
  | clock (now : Civil)
deriving DecidableEq

structure Snapshot where
  id : String
  sourceVolumeID : String
  sizeBytes : Int
  creationTime : Option Moment
  readyToUse : Bool
deriving DecidableEq

/-- A snapshot's creation time, if positive. -/
def creationTime (snap : Appliance.Snapshot) : Option Moment :=
  if snap.creation ≤ 0 then none else some (.recorded snap.creation)

def snapshotID (backendName zfsID : String) : String := backendName ++ "/" ++ zfsID

def parseSnapshotID (id : String) : Except Err (String × String) :=
  match cutFirst '/' id with
  | none => malformed
  | some (backendName, zfsID) =>
    if backendName = "" ∨ zfsID = "" then malformed
    else if '@' ∈ zfsID.toList then .ok (backendName, zfsID)
    else .error (.status .invalidArgument ("malformed snapshot id " ++ quote id ++
      ": missing @<name>"))
where
  malformed : Except Err (String × String) :=
    .error (.status .invalidArgument ("malformed snapshot id " ++ quote id ++
      ", want <backend>/<dataset>@<name>"))

variable (zfsID : String)

def splitSnapshotID : String × String := (cutLast '@' zfsID).getD (zfsID, "")

def snapshotName : String := (splitSnapshotID zfsID).2

theorem splitSnapshotID_append {name : String} (dataset : String) (clean : '@' ∉ name.toList) :
    splitSnapshotID (dataset ++ "@" ++ name) = (dataset, name) := by
  have cut := cutLast_append dataset clean
  rw [splitSnapshotID, show "@" = String.singleton '@' from rfl, cut]
  rfl

theorem parseSnapshotID_snapshotID {backendName zfsID : String} (named : backendName ≠ "")
    (slashless : '/' ∉ backendName.toList) (snapshot : '@' ∈ zfsID.toList) :
    parseSnapshotID (snapshotID backendName zfsID) = .ok (backendName, zfsID) := by
  have cut := cutFirst_append zfsID slashless
  have nonempty : zfsID ≠ "" := by
    rintro rfl
    simp at snapshot
  rw [parseSnapshotID, snapshotID, slash_eq, cut]
  simp [named, nonempty, snapshot]

/-- The provisioned size of a snapshot's source. -/
def provisionedBytes (c : Client) (snap : Option Appliance.Snapshot) (dataset : String) : M Int :=
  let own := (snap.map (·.volSize)).getD 0
  if own > 0 then return own
  else do
    match ← (c.datasetQuery dataset).attempt with
    | .ok (some ds) => return if ds.volSize > 0 then ds.volSize else ds.refQuota
    | _ => return 0

def poolOf : String :=
  match cutFirst '/' zfsID with
  | none => zfsID
  | some (pool, _) => if pool = "" then zfsID else pool

namespace Registry

variable (r : Registry)

def createSnapshot (source : Volume.ID) (name : String) : M Snapshot := do
  let c ← r.client source.backend
  let ds := source.datasetPath
  let id := ds ++ "@" ++ name
  let answer (snap : Option Appliance.Snapshot) (created : Option Moment) : M Snapshot := do
    let size ← provisionedBytes c snap ds
    return ⟨snapshotID source.backend id, source.string, size, created, true⟩
  match ← (c.snapshotQuery id).attempt with
  | .ok (some existing) => answer (some existing) (creationTime existing)
  | _ =>
    -- A query that failed counts as "not there"; the appliance then refuses the duplicate.
    let created ← c.snapshotCreate ds name
    match ← (c.snapshotQuery id).attempt with
    | .ok (some snap) =>
      answer (some snap) (some ((creationTime snap).getD (.clock r.env.now)))
    | _ => answer (some created) (some (.clock r.env.now))

def dependentClones (c : Client) (snapID : String) : M (List String) := do
  let all ← c.datasetList (poolOf snapID)
  return (all.filter fun ds => ds.origin == snapID).map (·.id)

/-- A snapshot with clones is refused. -/
def deleteSnapshot (id : String) : M Unit := do
  let (backendName, snapID) ← Prog.ofExcept (parseSnapshotID id)
  let c ← r.client backendName
  match ← c.snapshotQuery snapID with
  | none => return ()
  | some _ =>
    let clones ← dependentClones c snapID
    if clones ≠ [] then
      throw (.status .failedPrecondition ("snapshot " ++ id ++ " still has dependent volume(s) " ++
        listed clones ++ "; delete them first"))
    else c.snapshotDelete snapID

end Registry

end TruenasCsi.Backend
