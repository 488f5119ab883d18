import TruenasCsi.Support.Net
import TruenasCsi.Backend.Names
import TruenasCsi.Backend.Zvol

/-! One zvol and one extent per volume, and one shared target. -/

namespace TruenasCsi.Backend.Iscsi

open Truenas Appliance
open Zvol (undoing bestEffort volumeNotFound)
open Text

section

variable (c : Client)

def iscsi (op : IscsiOp) : M op.Answer := middleware c.name (.iscsi op)

variable (name : String)

def targetByName : M (Option Target) := first (iscsi c (.targetQuery name))

def targetDelete (id : Nat) : M Unit := gone (iscsi c (.targetDelete id))

def extentByName : M (Option Extent) := first (iscsi c (.extentQuery name))

def extentCreate (name zvolPath : String) : M Extent :=
  iscsi c (.extentCreate name ("zvol/" ++ zvolPath))

def extentDelete (id : Nat) : M Unit := gone (iscsi c (.extentDelete id))

def targetExtentList (target : Nat) : M (List TargetExtent) :=
  rows (iscsi c (.targetExtentQuery target))

def targetExtentDelete (id : Nat) : M Unit := gone (iscsi c (.targetExtentDelete id))

def queryTarget : M (Option Target) :=
  (targetByName c name).mapError fun e => e.wrap ("querying target " ++ name ++ ": ")

def queryExtent : M (Option Extent) :=
  (extentByName c name).mapError fun e => e.wrap ("querying extent " ++ name ++ ": ")

end

structure Params where
  pool : String
  parent : String
  portalID : Nat := 0
  chap : Bool := false
  initiatorACL : Bool := false
  nodeIQNs : List String := []
  sparse : Bool := false
  volBlockSize : String := ""

variable (b : Server) (m : Dict String) (id : Volume.ID)

def boolParam (key : String) (default : Bool) : Except Err Bool :=
  let v := trimSpace (m.getD key "")
  if v = "" then .ok default
  else
    match parseBool v with
    | some b => .ok b
    | none => .error (.plain ("storage class parameter " ++ key ++ " must be true or false, got " ++
        quote v))

def portalParam : Except Err Nat :=
  let v := trimSpace (m.getD "portalID" "")
  if v = "" then .ok 0
  else
    match atoi v with
    | some n =>
      if n ≤ 0 then
        .error (.plain ("storage class parameter portalID must be a positive integer, got " ++
          quote v))
      else .ok n.toNat
    | none => .error (.plain ("storage class parameter portalID must be a positive integer, got " ++
        quote v))

def parseParams (pool parent : String) (m : Dict String) : Except Err Params := do
  let chap ← boolParam m "chap" true
  let initiatorACL ← boolParam m "initiatorACL" true
  let sparse ← boolParam m "sparse" true
  let portalID ← portalParam m
  return {
    pool, parent, portalID, chap, initiatorACL, sparse
    volBlockSize := trimSpace (m.getD "volblocksize" "")
    nodeIQNs := commaList (m.getD "nodeIQNs" "") }

def portalComment : String := "truenas-csi"

def initiatorComment : String := "truenas-csi nodes"

variable (c : Client) (ds : Dataset) (extent : Extent) (env : Env) (p : Params) (target : Nat)
  (name dsPath : String)

def listPortals : M (List Portal) :=
  (iscsi c .portalQuery).mapError fun e => e.wrap "querying iSCSI portals: "

def findPortal : M Nat := do
  let portals ← listPortals c
  return ((portals.find? fun po => po.comment == portalComment).map (·.id)).getD 0

def ensurePortal : M Nat :=
  if p.portalID > 0 then return p.portalID
  else do
    let found ← findPortal c
    if found > 0 then return found
    else
      match ← (iscsi c (.portalCreate portalComment ["0.0.0.0"])).attempt with
      | .ok po => return po.id
      | .error e =>
        match ← (findPortal c).attempt with
        | .ok again => if again > 0 then return again else throw (e.wrap "creating iSCSI portal: ")
        | .error _ => throw (e.wrap "creating iSCSI portal: ")

def isRedacted (secret : String) : Bool := secret != "" && Label.trim '*' secret == ""

def findAuth (user : String) : M (Option Auth) := do
  let auth ← (first (iscsi c (.authQuery user))).mapError
    fun e => e.wrap "querying CHAP credentials: "
  match auth with
  | none => return none
  | some a =>
    if isRedacted a.secret then
      throw (.plain ("the appliance redacted the CHAP secret for " ++ quote user ++ ", so this " ++
        "account cannot read it: iSCSI attachment would fail on every node with an " ++
        "authorization failure. Grant the driver's account SHARING_ISCSI_AUTH_WRITE " ++
        "(SHARING_ISCSI_AUTH_READ is not enough -- it returns the secret masked)"))
    else return some a

def nextAuthTag : M Nat := do
  let auths ← (rows (iscsi c .authList)).mapError fun e => e.wrap "querying CHAP credentials: "
  return auths.foldl (fun tag a => if a.tag ≥ tag then a.tag + 1 else tag) 1

/-- The credentials of a target, found or created. -/
def ensureCHAP (target : String) : M Auth := do
  match ← findAuth c target with
  | some a => return a
  | none =>
    let tag ← nextAuthTag c
    match ← (iscsi c (.authCreate tag target env.secret)).attempt with
    | .ok created => return created
    | .error e =>
      match ← (findAuth c target).attempt with
      | .ok (some a) => return a
      | _ => throw (e.wrap ("creating CHAP credential for " ++ target ++ ": "))

def findInitiatorGroup : M (Option Initiator) :=
  (first (iscsi c (.initiatorQuery initiatorComment))).mapError
    fun e => e.wrap "querying initiator groups: "

def missingIQNs (listed want : List String) : List String := want.filter (· ∉ listed)

def ensureInitiatorGroup : M Nat :=
  if !p.initiatorACL || p.nodeIQNs.isEmpty then return 0
  else do
    match ← findInitiatorGroup c with
    | some existing =>
      let missing := missingIQNs existing.initiators p.nodeIQNs
      if missing = [] then return existing.id
      else
        let updated ← (iscsi c (.initiatorUpdate existing.id (existing.initiators ++ missing))).mapError
          fun e => e.wrap "adding node IQNs to the initiator group: "
        return updated.id
    | none =>
      match ← (iscsi c (.initiatorCreate initiatorComment p.nodeIQNs)).attempt with
      | .ok created => return created.id
      | .error e =>
        match ← (findInitiatorGroup c).attempt with
        | .ok (some g) => return g.id
        | _ => throw (e.wrap "creating the initiator group: ")

def targetIQN : M String := do
  let g ← (iscsi c .globalConfig).mapError fun e => e.wrap "reading iSCSI global config: "
  return g.basename ++ ":" ++ name

def enableCHAP (created : Target) (portalID initiatorID : Nat) (auth : Auth) : M Unit :=
  (iscsi c (.targetUpdate created.id
    [{ portal := portalID, initiator := initiatorID, authMethod := "CHAP", auth := auth.tag }])).rescue
    fun e => do
      bestEffort (targetDelete c created.id)
      throw (e.wrap ("enabling CHAP on target " ++ name ++ ": "))

/-- A creation that fails may have happened, so the target is looked for once more. -/
def createTarget : M Nat := do
  let portalID ← ensurePortal c p
  let initiatorID ← ensureInitiatorGroup c p
  let auth ← if p.chap then some <$> ensureCHAP c env name else pure none
  match ← (iscsi c (.targetCreate name portalID initiatorID)).attempt with
  | .error e =>
    match ← (targetByName c name).attempt with
    | .ok (some again) => return again.id
    | _ => throw (e.wrap ("creating target " ++ name ++ ": "))
  | .ok created =>
    match auth with
    | none => return created.id
    | some auth =>
      enableCHAP c name created portalID initiatorID auth
      return created.id

def withTargetLock {α : Type} (name : String) (body : M α) : M α := do
  process (.lockTarget name)
  let result ← body.attempt
  process (.unlockTarget name)
  Prog.ofExcept result

def ensureTarget : M (Nat × String) :=
  let name := targetName p.pool p.parent
  withTargetLock name do
    let iqn ← targetIQN c name
    match ← queryTarget c name with
    | some existing =>
      let _ ← ensureInitiatorGroup c p
      return (existing.id, iqn)
    | none =>
      let id ← createTarget c env p name
      return (id, iqn)

def isWildcardAddress (ip : String) : Bool :=
  trimSpace ip ∈ ["0.0.0.0", "::", "[::]", "*", ""]

/-- The address of a portal, or the appliance's. -/
def addressIn (c : Client) (portalID port : Nat) : List Portal → Option String
  | [] => none
  | po :: rest =>
    if po.id ≠ portalID then addressIn c portalID port rest
    else
      match po.listen.find? fun ip => ip != "" && !isWildcardAddress ip with
      | some ip => some (Net.joinHostPort ip port)
      | none =>
        if c.host = "" then addressIn c portalID port rest else some (Net.joinHostPort c.host port)

def portalAddress (portalID : Nat) : M String := do
  let portals ← listPortals c
  let g ← (iscsi c .globalConfig).mapError fun e => e.wrap "reading iSCSI global config: "
  match addressIn c portalID (if g.port = 0 then 3260 else g.port) portals with
  | some addr => return addr
  | none => throw (.plain ("portal " ++ toString portalID ++ " has no reachable listen address"))

/-- The context a node attaches with. -/
def contextFor (iqn naa : String) (lun : Option Nat) : M (List (String × String)) := do
  let portalID ← ensurePortal b.client p
  let addr ← portalAddress b.client portalID
  let pc := [("portal", addr), ("iqn", iqn), ("naa", naa)] ++
    (match lun with
      | some lun => [("lun", toString lun)]
      | none => [])
  if p.chap then
    let auth ← ensureCHAP b.client b.env (targetName p.pool p.parent)
    return pc ++ [("chapUser", auth.user), ("chapSecret", auth.secret),
      ("chapSecretRef", toString auth.tag)]
  else return pc

def ensureExtent : M (Extent × Bool) := do
  match ← queryExtent c name with
  | some extent => return (extent, false)
  | none =>
    let extent ← (extentCreate c name dsPath).mapError
      fun e => e.wrap ("creating extent " ++ name ++ ": ")
    return (extent, true)

def create (r : CreateRequest) : M Provisioned := do
  let c := b.client
  let p ← Prog.ofExcept (parseParams b.pool b.parent r.params)
  let madeZvol ← Zvol.ensureZvol c "iscsi" r p.sparse p.volBlockSize
  let undoZvol := Zvol.undoZvol c r madeZvol
  let (extent, madeExtent) ← undoing undoZvol
    (ensureExtent c (extentName b.env.sha256 r.id) r.id.datasetPath)
  let undo : M Unit := do
    if madeExtent then bestEffort (extentDelete c extent.id)
    undoZvol
  let (_, iqn) ← undoing undo (ensureTarget c b.env p)
  let pc ← undoing undo (contextFor b p iqn extent.naa none)
  return ⟨r.id, r.capacityBytes, pc⟩

def maxLUNs : Nat := 255

def withLUNLock {α : Type} (target : Nat) (body : M α) : M α := do
  process (.lockLUNs target)
  let result ← body.attempt
  process (.unlockLUNs target)
  Prog.ofExcept result

/-- The lowest free LUN, reserved for the caller. -/
def allocateLUN : M Nat :=
  withLUNLock target do
    let mappings ← (targetExtentList c target).mapError
      fun e => e.wrap ("listing LUN mappings for target " ++ toString target ++ ": ")
    let used := mappings.map (·.lun)
    let reserved ← process (.pruneLUNs target used)
    match (List.range maxLUNs).find? fun i => i ∉ used && i ∉ reserved with
    | some i =>
      process (.reserveLUN target i)
      return i
    | none => throw (.plain ("target " ++ toString target ++ " holds the maximum of " ++
        toString maxLUNs ++ " LUNs"))

def releaseLUN (lun : Nat) : M Unit := process (.releaseLUN target lun)

def rememberLUN (lun : Nat) : M Unit :=
  bestEffort (c.setUserProperty dsPath Volume.lunProperty (toString lun))

/-- The usable LUN recorded on a volume. -/
def recordedLUN : Option Nat :=
  let v := localProperty ds Volume.lunProperty
  if v = "" then none
  else
    match atoi v with
    | some n => if n < 0 ∨ n ≥ maxLUNs then none else some n.toNat
    | none => none

/-- The LUN on record if it is free, or else a new one. -/
def claimLUN (used : List Nat) : M Nat :=
  match recordedLUN ds with
  | some n => if n ∈ used then allocateLUN c target else return n
  | none => allocateLUN c target

def mapExtent (extent : Nat) : M Nat := do
  let mappings ← (targetExtentList c target).mapError fun e => e.wrap "listing LUN mappings: "
  match mappings.find? fun m => m.extent == extent with
  | some m =>
    rememberLUN c ds.id m.lun
    return m.lun
  | none =>
    let lun ← claimLUN c ds target (mappings.map (·.lun))
    match ← (iscsi c (.targetExtentCreate target extent lun)).attempt with
    | .ok _ =>
      rememberLUN c ds.id lun
      return lun
    | .error e =>
      releaseLUN target lun
      throw (e.wrap ("mapping extent " ++ toString extent ++ " to LUN " ++ toString lun ++ ": "))

def unmap (c : Client) (target extent : Nat) : List TargetExtent → M Unit
  | [] => return ()
  | m :: rest => do
    if m.extent = extent then
      (targetExtentDelete c m.id).mapError fun e => e.wrap ("removing LUN " ++ toString m.lun ++ ": ")
      releaseLUN target m.lun
    unmap c target extent rest

def unmapExtent : M Unit := do
  match ← queryTarget b.client (targetName b.pool b.parent) with
  | none => return ()
  | some target =>
    let mappings ← (targetExtentList b.client target.id).mapError
      fun e => e.wrap "listing LUN mappings: "
    unmap b.client target.id extent.id mappings

def removeExtent : M Unit := do
  match ← queryExtent b.client name with
  | none => return ()
  | some extent =>
    unmapExtent b extent
    (extentDelete b.client extent.id).mapError fun e => e.wrap ("deleting extent " ++ name ++ ": ")

def delete : M Unit := do
  let ds ← Zvol.queryZvol b.client id.datasetPath
  Zvol.verifyPresent ds
  removeExtent b (extentName b.env.sha256 id)
  Zvol.disposeZvol b id ds

def expand (b : Server) (id : Volume.ID) (bytes : Int) : M Int := Zvol.expand b id bytes

def targetParams (target : Target) : Params :=
  match target.groups with
  | [] => { pool := b.pool, parent := b.parent }
  | g :: _ => {
      pool := b.pool, parent := b.parent, portalID := g.portal
      chap := g.authMethod.toList.map Char.toUpper == "CHAP".toList }

def publishContext : M (List (String × String)) := do
  let name := targetName b.pool b.parent
  match ← queryTarget b.client name with
  | none => throw (.plain ("shared target " ++ name ++ " does not exist"))
  | some target =>
    let iqn ← targetIQN b.client name
    let extentName := extentName b.env.sha256 id
    match ← queryExtent b.client extentName with
    | none => throw (volumeNotFound ("extent " ++ extentName))
    | some extent =>
      let mappings ← (targetExtentList b.client target.id).mapError
        fun e => e.wrap "listing LUN mappings: "
      match (mappings.filter fun m => m.extent == extent.id).getLast? with
      | none => throw (volumeNotFound ("extent " ++ extentName ++ " is not mapped to " ++ name))
      | some m => contextFor b (targetParams b target) iqn extent.naa (some m.lun)

def publishExtent : M (List (String × String)) := do
  let tname := targetName b.pool b.parent
  match ← queryTarget b.client tname with
  | none => throw (.plain ("shared target " ++ tname ++ " does not exist"))
  | some target =>
    let iqn ← targetIQN b.client tname
    let lun ← mapExtent b.client ds target.id extent.id
    contextFor b (targetParams b target) iqn extent.naa (some lun)

/-- Maps the extent for whoever logs in: the node is not looked at. -/
def publish (_node : NodeRef) : M (List (String × String)) := do
  match ← Zvol.queryZvol b.client id.datasetPath with
  | none => throw (volumeNotFound id.string)
  | some ds =>
    let name := extentName b.env.sha256 id
    match ← queryExtent b.client name with
    | none => throw (volumeNotFound ("extent " ++ name))
    | some extent =>
      if extent.serving then publishExtent b ds extent
      else throw (.status .failedPrecondition ("the iSCSI extent " ++ name ++
        " is disabled on the appliance, so this volume presents no device to the node; " ++
        "re-enable it in Shares > Block Shares > Extents"))

/-- Removes the mapping, whichever node is named. -/
def unpublish (_node : NodeRef) : M Unit := do
  match ← queryExtent b.client (extentName b.env.sha256 id) with
  | none => return ()
  | some extent => unmapExtent b extent

def minimumCapacityBytes : Int := 0

def acceptedParameters : List String :=
  ["portalID", "chap", "initiatorACL", "nodeIQNs", "sparse", "volblocksize"]

end TruenasCsi.Backend.Iscsi
