import TruenasCsi.Backend.Basic

/-! What the NFS and the SMB backend do alike. -/

namespace TruenasCsi.Backend.Filesystem

open Truenas Appliance

def minimumCapacityBytes : Int := 1073741824

def queryDataset (b : Server) (id : Volume.ID) : M (Option Dataset) :=
  asInternal ("query dataset " ++ id.datasetPath ++ ": ") (b.client.datasetQuery id.datasetPath)

def noVolume (id : Volume.ID) : Err :=
  .status .notFound ("volume " ++ id.string ++ " does not exist")

variable (c : Client) (dsPath : String)

variable (r : CreateRequest) (b : Server)

/-- Removes a clone that could not be finished, and reports the cause. -/
def abandonClone {α : Type} (cause : Err) : M α := do
  match ← (c.datasetDelete dsPath true true).attempt with
  | .ok _ => throw cause
  | .error e => throw (.status .internal (cause.text ++ "; removing the unmarked clone " ++ dsPath ++
      " also failed: " ++ e.text ++ " — it must be removed by hand"))

def repairClone (protocol dsPath : String) (patch : DatasetPatch) (patching : String) :
    M (Option Dataset) := do
  (stampClone c dsPath protocol).rescue fun e => abandonClone c dsPath (.status .internal e.text)
  let _ ← (c.datasetUpdate dsPath patch).rescue fun e =>
    abandonClone c dsPath (.status .internal ("set " ++ patching ++ " on clone " ++ dsPath ++ ": " ++ e.text))
  (c.datasetQuery dsPath).rescue fun e =>
    abandonClone c dsPath (.status .internal ("query clone " ++ dsPath ++ ": " ++ e.text))

def cloneInto (snapshot dsPath : String) : M Unit :=
  asInternal ("clone snapshot " ++ snapshot ++ " into " ++ dsPath ++ ": ")
    (c.snapshotClone snapshot dsPath [])

def createEmpty (spec : DatasetSpec) : M (Option Dataset) := do
  let ds ← (c.datasetCreate spec).mapError (orInternal ("create dataset " ++ spec.name ++ ": "))
  return some ds

def rollback {α : Type} (cause : Err) : M α := do
  match ← (c.datasetDelete dsPath true true).attempt with
  | .ok _ => throw cause
  | .error e => throw (.status .internal (cause.text ++ "; rolling back dataset " ++ dsPath ++
      " also failed: " ++ e.text ++ " — it must be removed by hand"))

/-- A volume that exists with another size is a conflict. -/
def sameSize (existing : Dataset) : M Unit :=
  if existing.refQuota ≠ r.capacityBytes then
    throw (.status .alreadyExists ("volume " ++ r.id.string ++ " already exists with refquota " ++
      toString existing.refQuota ++ " bytes, requested " ++ toString r.capacityBytes))
  else return ()

def positiveCapacity : M Unit :=
  if r.capacityBytes ≤ 0 then
    throw (.status .invalidArgument ("capacity must be positive, got " ++ toString r.capacityBytes))
  else return ()

def delete (removeShare : String → M Unit) (id : Volume.ID) : M Unit := do
  b.confine id
  match ← queryDataset b id with
  | none => return ()
  | some ds =>
    Prog.ofExcept (verifyOwned ds)
    removeShare (mountpointOf (some ds) id.datasetPath)
    (b.dispose id (b.client.datasetDelete id.datasetPath true false)).mapError
      (orInternal ("delete dataset " ++ id.datasetPath ++ ": "))

def expand (id : Volume.ID) (bytes : Int) : M Int := do
  b.confine id
  match ← queryDataset b id with
  | none => throw (noVolume id)
  | some ds =>
    Prog.ofExcept (verifyOwned ds)
    let current := ds.refQuota
    if bytes < current then
      throw (.status .invalidArgument ("cannot shrink volume " ++ id.string ++ " from " ++
        toString current ++ " to " ++ toString bytes ++ " bytes: TrueNAS would accept the smaller " ++
        "refquota even below current usage, so the driver refuses it"))
    else if bytes = current then return current
    else
      let _ ← asInternal ("set refquota on " ++ id.datasetPath ++ ": ")
        (b.client.datasetUpdate id.datasetPath { refQuota := some bytes })
      return bytes

end TruenasCsi.Backend.Filesystem
