import TruenasCsi.Backend.Basic

/-! What the iSCSI and the NVMe-oF backend do alike. -/

namespace TruenasCsi.Backend.Zvol

open Truenas
open Appliance (Dataset)

/-- Undoes what was made if the rest fails. -/
def undoing {α : Type} (undo : M Unit) (p : M α) : M α :=
  p.rescue fun e => do
    undo
    throw e

def bestEffort (p : M Unit) : M Unit := do
  let _ ← p.attempt

def volumeNotFound (what : String) : Err := .sentinel .volumeNotFound ("volume does not exist: " ++ what)

variable (c : Client) (b : Server) (dsPath protocol : String) (r : CreateRequest) (sparse : Bool)
  (volBlockSize : String)

def queryZvol : M (Option Dataset) :=
  (c.datasetQuery dsPath).mapError fun e => e.wrap ("querying zvol " ++ dsPath ++ ": ")

def removeZvol : M Unit := bestEffort (c.datasetDelete dsPath true true)

def cloneProps : List (String × String) :=
  if sparse then [] else [("refreservation", "auto")]

def finishClone : M Unit := do
  let dsPath := r.id.datasetPath
  stampClone c dsPath protocol
  let ds ← (c.datasetQuery dsPath).mapError
    fun e => e.wrap ("querying the restored volume " ++ dsPath ++ ": ")
  match ds with
  | none => throw (volumeNotFound (dsPath ++ " vanished after cloning"))
  | some ds =>
    if r.capacityBytes > 0 ∧ ds.volSize < r.capacityBytes then
      let _ ← (c.datasetUpdate dsPath { volSize := some r.capacityBytes }).mapError
        fun e => e.wrap ("sizing the restored volume " ++ dsPath ++ ": ")

def cloneZvol : M Unit := do
  let dsPath := r.id.datasetPath
  (c.snapshotClone r.sourceSnapshot dsPath (cloneProps sparse)).mapError
    fun e => e.wrap ("cloning " ++ r.sourceSnapshot ++ " into " ++ dsPath ++ ": ")
  undoing (removeZvol c dsPath) (finishClone c protocol r)

def blocksizeFor : M String :=
  if volBlockSize = "" then
    (c.recommendedZvolBlocksize r.id.pool).mapError
      fun e => e.wrap "asking for the recommended volblocksize: "
  else return volBlockSize

def createZvol : M Unit := do
  let dsPath := r.id.datasetPath
  let blocksize ← blocksizeFor c r volBlockSize
  let _ ← (c.datasetCreate {
      name := dsPath, type := .volume, volSize := r.capacityBytes, sparse, volBlockSize := blocksize
      userProperties := [(Volume.ownerProperty, Volume.ownerValue),
        (Volume.ownerIDProperty, dsPath), (Volume.protocolProperty, protocol)] }).mapError
    fun e => e.wrap ("creating zvol " ++ dsPath ++ ": ")

/-- Make sure of the zvol; say whether it was made. -/
def ensureZvol : M Bool := do
  let dsPath := r.id.datasetPath
  match ← queryZvol c dsPath with
  | some ds =>
    if abandonedCloneOf (some ds) r then
      stampClone c dsPath protocol
      recordIdentity c dsPath (Volume.identityFrom r.params)
    return false
  | none =>
    if r.sourceSnapshot = "" then createZvol c protocol r sparse volBlockSize
    else cloneZvol c protocol r sparse
    recordIdentity c dsPath (Volume.identityFrom r.params)
    return true

def undoZvol (made : Bool) : M Unit :=
  if made then removeZvol c r.id.datasetPath else return ()

def deleteZvolWhenReleased : M Unit :=
  Retention.whenReleased (b.client.datasetDelete dsPath true true) b.env.busyRetries

def verifyPresent : Option Dataset → M Unit
  | none => return ()
  | some ds => Prog.ofExcept (verifyOwned ds)

def disposeZvol (id : Volume.ID) : Option Dataset → M Unit
  | none => return ()
  | some _ => (b.dispose id (deleteZvolWhenReleased b id.datasetPath)).mapError
      fun e => e.wrap ("disposing of zvol " ++ id.datasetPath ++ ": ")

/-- A zvol is never made smaller. -/
def expand (id : Volume.ID) (bytes : Int) : M Int := do
  let dsPath := id.datasetPath
  match ← queryZvol b.client dsPath with
  | none => throw (volumeNotFound dsPath)
  | some ds =>
    let current := ds.volSize
    if bytes < current then
      throw (.sentinel .shrinkNotAllowed ("volume cannot be shrunk: " ++ dsPath ++ " is " ++
        toString current ++ " bytes, requested " ++ toString bytes))
    else if bytes = current then return current
    else
      let _ ← (b.client.datasetUpdate dsPath { volSize := some bytes }).mapError
        fun e => e.wrap ("growing zvol " ++ dsPath ++ ": ")
      return bytes

end TruenasCsi.Backend.Zvol
