import TruenasCsi.Csi.Controller

/-! Publishing: granted before it is recorded, revoked from the record. -/

namespace TruenasCsi.Csi

open Backend Volume

structure PublishRequest where
  volumeId : String
  nodeId : String
  capability : Option VolumeCapability

structure UnpublishRequest where
  volumeId : String
  /-- Empty for every node. -/
  nodeId : String

def union (a b : List String) : List String := Text.sortedSet ((a ++ b).filter (· ≠ ""))

namespace Controller

variable (c : Controller)

def resolve (nodeID : String) : M NodeRef :=
  (Prog.ofExcept (c.nodes.resolve nodeID)).mapError fun e =>
    if e.isA .nodeNotFound then
      .status .notFound ("node " ++ Text.quote nodeID ++ " does not exist")
    else .status .internal ("resolving node " ++ Text.quote nodeID ++ ": " ++ e.text)

variable (id : ID) (nodeID : String) (grants : Grants)

/-- A single-node mode is refused while another node is recorded. -/
def exclusive (mode : AccessMode) (node : String) (grants : Grants) : Except Err Unit :=
  let others := grants.others node
  if others ≠ [] ∧ singleNode mode then
    .error (.status .failedPrecondition ("volume " ++ id.string ++ " is published to " ++
      listed others ++ " with access mode " ++ mode.text ++
      " and cannot also be published to " ++ node))
  else .ok ()

/-- Grants, then records. -/
def publishLocked (mode : AccessMode) : M (List (String × String)) := do
  c.requireVolumeExists id
  let node ← c.resolve nodeID
  let cl ← withStatus (c.reg.client id.backend)
  let grants ← withStatus (readGrants cl id)
  Prog.ofExcept (exclusive id mode node.id grants)
  let pub ← withStatus (c.reg.handle id.backend id.protocol)
  let pc ← withStatus (pub.publish id node)
  -- Recorded only after the grant was made.
  withStatus (saveGrants cl id (grants.set node.id node.addrs))
  return pc

def controllerPublishVolume (req : PublishRequest) : M (List (String × String)) :=
  if req.volumeId = "" then throw (.status .invalidArgument "volume id is required")
  else if req.nodeId = "" then throw (.status .invalidArgument "node id is required")
  else
    match req.capability with
    | none => throw (.status .invalidArgument "volume capability is required")
    | some capability => do
      let id ← (Prog.ofExcept (parseID req.volumeId)).mapError
        fun _ => unknownVolume req.volumeId
      let mode := capability.accessMode
      if supportsAccessMode id.protocol mode then
        withVolumeLock id (c.publishLocked id req.nodeId mode)
      else throw (.status .invalidArgument ("protocol " ++ id.protocol ++
        " does not support access mode " ++ mode.text))

/-- The node to revoke, from ledger and cluster. -/
def revoked (nodeID : String) : NodeRef :=
  let recorded := grants.getD nodeID []
  match c.nodes.resolve nodeID with
  | .ok live => { id := nodeID, addrs := union recorded live.addrs, iqn := live.iqn, nqn := live.nqn }
  | .error _ => { id := nodeID, addrs := recorded }

/-- Revokes node by node; the first failure ends it. -/
def revokeAll (pub : Handle) (id : ID) : Grants → List String → M Grants
  | grants, [] => return grants
  | grants, nodeID :: rest => do
    withStatus (pub.unpublish id (c.revoked grants nodeID))
    revokeAll pub id (grants.delete nodeID) rest

/-- The nodes an unpublish is about: the one named, or all. -/
def targets : List String :=
  if nodeID = "" then grants.nodes else [nodeID]

def unpublishFrom (cl : Truenas.Client) (nodeID : String) (grants : Grants) : M Unit :=
  if targets nodeID grants = [] then return ()
  else do
    let pub ← withStatus (c.reg.handle id.backend id.protocol)
    let left ← c.revokeAll pub id grants (targets nodeID grants)
    withStatus (saveGrants cl id left)

def unpublishLocked : M Unit := do
  let cl ← withStatus (c.reg.client id.backend)
  match ← (readGrants cl id).attempt with
  | .ok grants => c.unpublishFrom id cl nodeID grants
  | .error e => if e.isA .volumeGone then return () else throw (toStatus e)

def controllerUnpublishVolume (req : UnpublishRequest) : M Unit :=
  if req.volumeId = "" then throw (.status .invalidArgument "volume id is required")
  else
    match parseID req.volumeId with
    -- An unparseable id cannot name anything this driver published.
    | .error _ => return ()
    | .ok id => withVolumeLock id (c.unpublishLocked id req.nodeId)

end Controller

end TruenasCsi.Csi
