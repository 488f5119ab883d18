import TruenasCsi.Backend.Namespaces
import TruenasCsi.Csi.Controller

/-! Removing and growing a volume. -/

namespace TruenasCsi.Csi

open Volume

structure ExpandRequest where
  volumeId : String
  /-- The required size and the limit, if given. -/
  capacityRange : Option (Int × Int)

structure ExpandResponse where
  capacityBytes : Int
  nodeExpansionRequired : Bool
deriving DecidableEq

def nodeExpansionRequired (protocol : String) : Bool := protocol != "nfs" && protocol != "smb"

namespace Controller

variable (c : Controller)

def reclaimNamespaceDataset (id : ID) : M Unit :=
  if id.ns = "" then return ()
  else do
    match ← (c.reg.client id.backend).attempt with
    | .error _ => return ()
    | .ok cl =>
      let _ ← (Backend.reclaimNamespace cl id.pool id.parent id.ns).attempt

def deleteLocked (id : ID) : M Unit := do
  let be ← withStatus (c.reg.handle id.backend id.protocol)
  withStatus (be.delete id)
  c.reclaimNamespaceDataset id

def deleteVolume (volumeId : String) : M Unit :=
  if volumeId = "" then throw (.status .invalidArgument "volume id is required")
  else
    match parseID volumeId with
    | .error _ => return ()
    | .ok id =>
      match c.reg.backends.get? id.backend with
      | none => throw (.status .invalidArgument (Backend.Registry.unknownBackend id.backend))
      | some b => do
        (Prog.ofExcept (confine id b.pool b.parentDataset)).mapError
          fun e => .status .invalidArgument e.text
        withVolumeLock id (c.deleteLocked id)

def expandLocked (id : ID) (want : Int) : M ExpandResponse := do
  let be ← withStatus (c.reg.handle id.backend id.protocol)
  let got ← withStatus (be.expand id want)
  return ⟨got, nodeExpansionRequired id.protocol⟩

def controllerExpandVolume (req : ExpandRequest) : M ExpandResponse :=
  if req.volumeId = "" then throw (.status .invalidArgument "volume id is required")
  else
    match req.capacityRange with
    | none => throw (.status .invalidArgument "capacity range is required")
    | some (want, _) => do
      let id ← (Prog.ofExcept (parseID req.volumeId)).mapError
        fun _ => unknownVolume req.volumeId
      if want ≤ 0 then throw (.status .invalidArgument "required_bytes must be positive")
      else withVolumeLock id (c.expandLocked id want)

end Controller

end TruenasCsi.Csi
