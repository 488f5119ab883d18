import TruenasCsi.Csi.Capacity
import TruenasCsi.Csi.GroupController
import TruenasCsi.Csi.Modify

/-! Creating a volume: checks, room, source and only then the volume. -/

namespace TruenasCsi.Csi

open Backend
open Appliance (DatasetType)
open Volume Text

inductive ContentSource where
  | snapshot (id : String)
  | volume (id : String)
deriving DecidableEq

structure CreateVolumeRequest where
  name : String
  capabilities : List VolumeCapability
  parameters : Dict String := ∅
  mutableParameters : Dict String := ∅
  requiredBytes : Int := 0
  /-- Zero is no limit. -/
  limitBytes : Int := 0
  accessibility : Option TopologyRequirement := none
  contentSource : Option ContentSource := none

structure VolumeInfo where
  volumeId : String
  capacityBytes : Int
  volumeContext : Dict String
  accessibleTopology : Dict String
  /-- The source snapshot, or the empty text. -/
  sourceSnapshot : String

def defaultCapacityBytes : Int := 1073741824

def belowMinimum (id : ID) (minimum limit : Int) : Err :=
  .status .outOfRange ("backend " ++ quote id.backend ++ " cannot create a " ++ id.protocol ++
    " volume smaller than " ++ toString minimum ++ " bytes, and the request limits it to " ++
    toString limit ++ "; ask for at least " ++ toString minimum)

/-- The size to provision. -/
def sizeFor (id : ID) (minimum required limit : Int) : Except Err Int :=
  let size := if required ≤ 0 then defaultCapacityBytes else required
  if size < minimum then
    if limit > 0 ∧ limit < minimum then .error (belowMinimum id minimum limit) else .ok minimum
  else .ok size

def sensitivePublishKeys : List String := ["chapSecret", "password"]

def harmless (context : List (String × String)) : List (String × String) :=
  context.filter fun e => e.1 ∉ sensitivePublishKeys

variable (params : Dict String)

def nodeParameters : List (String × String) :=
  nodeParameterKeys.filterMap fun key => match params.get? key with
    | some value => if value = "" then none else some (key, value)
    | none => none

def claimName : List (String × String) :=
  let name := (identityFrom params).pvcName
  if name = "" then [] else [("csi.storage.k8s.io/pvc/name", name)]

def volumeContext (created published : List (String × String)) : Dict String :=
  Dict.ofList (harmless created ++ harmless published ++ nodeParameters params ++ claimName params)

namespace Controller

variable (c : Controller)

variable (id : ID) (req : CreateVolumeRequest) (snapshotID : String) (mod : Modification)

def requireSnapshotExists : M Unit := do
  let absent : Err := .status .notFound ("snapshot " ++ quote snapshotID ++ " does not exist")
  let (backendName, zfsID) ← (Prog.ofExcept (parseSnapshotID snapshotID)).mapError
    fun _ => absent
  let cl ← withStatus (c.reg.client backendName)
  match ← withStatus (cl.snapshotQuery zfsID) with
  | some _ => return ()
  | none => throw absent

def datasetIfKnown (backendName path : String) : M (Option Appliance.Dataset) := do
  match ← (c.reg.client backendName).attempt with
  | .error _ => return none
  | .ok cl =>
    match ← (cl.datasetQuery path).attempt with
    | .ok ds => return ds
    | .error _ => return none

def snapshotSourceType : M (Option DatasetType) :=
  match parseSnapshotID snapshotID with
  | .error _ => return none
  | .ok (backendName, zfsID) =>
    match cutFirst '@' zfsID with
    | none => return none
    | some (dataset, _) => do
      let ds ← c.datasetIfKnown backendName dataset
      return ds.map (·.type)

def recordedFilesystem (backendName dataset : String) : M String := do
  match ← c.datasetIfKnown backendName dataset with
  | none => return ""
  | some ds => return Truenas.localProperty ds fsTypeProperty

def recordFilesystem (fs : String) : M Unit :=
  if fs = "" then return ()
  else do
    match ← (c.reg.client id.backend).attempt with
    | .error _ => return ()
    | .ok cl =>
      let _ ← (cl.setUserProperty id.datasetPath fsTypeProperty fs).attempt

def fromSnapshot (wantFS snapshotID : String) : M String := do
  c.requireSnapshotExists snapshotID
  let (srcBackend, zfsID) ← (Prog.ofExcept (parseSnapshotID snapshotID)).mapError
    fun _ => .status .notFound ("snapshot " ++ quote snapshotID ++ " not found")
  if srcBackend ≠ id.backend then
    throw (.status .invalidArgument ("snapshot " ++ quote snapshotID ++ " lives on backend " ++
      quote srcBackend ++ " but the volume would be created on " ++ quote id.backend))
  else
    let type ← c.snapshotSourceType snapshotID
    Prog.ofExcept (requireRestorableInto id.protocol type snapshotID)
    let dataset := ((cutFirst '@' zfsID).map Prod.fst).getD zfsID
    let got ← c.recordedFilesystem srcBackend dataset
    Prog.ofExcept (requireFilesystemMatches wantFS got snapshotID)
    return zfsID

/-- Cloning a volume is a snapshot and a clone of it. -/
def fromVolume (wantFS name sourceID : String) : M String := do
  let source ← (Prog.ofExcept (parseID sourceID)).mapError
    fun _ => .status .notFound ("source volume " ++ quote sourceID ++ " not found")
  if source.backend ≠ id.backend then
    throw (.status .invalidArgument ("source volume " ++ quote sourceID ++ " lives on backend " ++
      quote source.backend ++ " but the clone would be created on " ++ quote id.backend ++
      ", and a ZFS clone cannot cross appliances"))
  else
    Prog.ofExcept (requireRestorableInto id.protocol (some (datasetTypeFor source.protocol)) sourceID)
    let got ← c.recordedFilesystem source.backend source.datasetPath
    Prog.ofExcept (requireFilesystemMatches wantFS got sourceID)
    c.requireVolumeExists source
    let snap ← withStatus (c.reg.createSnapshot source ("csi-clone-" ++ sanitiseSnapshotName name))
    let (_, zfsID) ← withStatus (Prog.ofExcept (parseSnapshotID snap.id))
    return zfsID

def sourceSnapshot : M String :=
  let wantFS := blockFilesystemFor id.protocol req.capabilities
  match req.contentSource with
  | none => return ""
  | some (.snapshot snapshotID) => c.fromSnapshot id wantFS snapshotID
  | some (.volume sourceID) => c.fromVolume id wantFS req.name sourceID

def applyRequested : M Unit :=
  if mod.isEmpty then return ()
  else do
    let ds ← c.volumeDataset id
    c.applyModification id ds mod

def provisionVolume (h : Handle) (req : CreateVolumeRequest) (mod : Modification) (cr : CreateRequest) :
    M VolumeInfo := do
  let vol ← withStatus (h.create cr)
  c.recordFilesystem cr.id (blockFilesystemFor cr.id.protocol req.capabilities)
  c.applyRequested vol.id mod
  let published ← (h.publishContext (Handle.remembered cr) vol.id).attempt
  return {
    volumeId := vol.id.string
    capacityBytes := vol.capacityBytes
    volumeContext := volumeContext req.parameters vol.context (published.toOption.getD [])
    accessibleTopology :=
      requiredTopology cr.id.backend cr.id.protocol req.parameters req.capabilities
    sourceSnapshot := cr.sourceSnapshot }

/-- Room, source and volume, under the volume's lock. -/
def createLocked : M VolumeInfo := do
  let h ← withStatus (c.reg.handle id.backend id.protocol)
  let size ← Prog.ofExcept (sizeFor id h.minimumCapacityBytes req.requiredBytes req.limitBytes)
  c.requireRoomOutsideReserve id.backend size
  c.requireRoomInNamespaceQuota id size
  Prog.ofExcept (requireKnownParameters c.reg.env.toLower h.acceptedParameters req.parameters)
  Prog.ofExcept (requireTopologyReachable req.accessibility
    (requiredTopology id.backend id.protocol req.parameters req.capabilities))
  let source ← c.sourceSnapshot id req
  c.provisionVolume h req mod ⟨id, size, req.parameters, source⟩

/-- All checks that need no appliance. -/
def acceptRequest : Except Err (ID × Modification) := do
  if req.name = "" then throw (.status .invalidArgument "volume name is required")
  if req.capabilities.isEmpty then
    throw (.status .invalidArgument "volume capabilities are required")
  let id ← resolveID c.reg req.name req.parameters
  requireSupportedCapabilities id.protocol req.capabilities
  let mod ← parseModification req.mutableParameters
  return (id, mod)

def createVolume : M VolumeInfo := do
  let (id, mod) ← Prog.ofExcept (c.acceptRequest req)
  withVolumeLock id (c.createLocked id req mod)

end Controller

end TruenasCsi.Csi
