import TruenasCsi.Support.Net
import TruenasCsi.Backend.Names
import TruenasCsi.Backend.Zvol

/-! One zvol, one namespace and one subsystem per volume. -/

namespace TruenasCsi.Backend.Nvme

open Truenas Appliance
open Zvol (undoing bestEffort volumeNotFound)
open Volume (ID)
open Text

section

variable (c : Client)

def nvmet (op : NvmetOp) : M op.Answer := middleware c.name (.nvmet op)

variable (name : String) (subsys : Nat)

def subsysByName : M (Option Subsystem) := first (nvmet c (.subsysQuery name))

variable (id : Nat)

def subsysDelete : M Unit := gone (nvmet c (.subsysDelete id))

def namespaceByDevice (devicePath : String) : M (Option NvmeNamespace) :=
  first (nvmet c (.namespaceQuery devicePath))

def namespaceDelete : M Unit := gone (nvmet c (.namespaceDelete id))

def portList : M (List NvmePort) := rows (nvmet c .portQuery)

def portFind (trtype addr : String) (port : Nat) : M (Option NvmePort) := do
  let ports ← portList c
  return ports.find? fun p => p.trType == trtype && p.trAddr == addr && p.trSvcID == port

def portSubsysList : M (List PortSubsys) :=
  rows (nvmet c (.portSubsysQuery subsys))

def portSubsysDelete : M Unit := gone (nvmet c (.portSubsysDelete id))

def hostByNQN (nqn : String) : M (Option NvmeHost) := first (nvmet c (.hostQuery nqn))

def hostSubsysList : M (List HostSubsys) :=
  rows (nvmet c (.hostSubsysQuery subsys))

def hostSubsysDelete : M Unit := gone (nvmet c (.hostSubsysDelete id))

def querySubsystem : M (Option Subsystem) :=
  (subsysByName c name).mapError fun e => e.wrap ("querying subsystem " ++ name ++ ": ")

def listPorts : M (List NvmePort) := (portList c).mapError fun e => e.wrap "querying NVMe-oF ports: "

def listBindings : M (List PortSubsys) :=
  (portSubsysList c subsys).mapError fun e => e.wrap ("listing port bindings of " ++ name ++ ": ")

def listHostACLs : M (List HostSubsys) :=
  (hostSubsysList c subsys).mapError fun e => e.wrap ("listing host ACLs of " ++ name ++ ": ")

end

def defaultPort : Nat := 4420

structure Params where
  transport : String := "tcp"
  hostNQNs : List String := []
  sparse : Bool := true
  volBlockSize : String := ""
  portAddress : String := ""
  port : Nat := defaultPort

variable (m : Dict String) (b : Server) (id : ID)

def transportParam : Except Err String :=
  let t := String.ofList ((trimSpace (m.getD "transport" "")).toList.map Label.lowerChar)
  if t = "" then .ok "tcp"
  else if t = "tcp" ∨ t = "rdma" then .ok t
  else .error (.plain ("storage class parameter transport must be " ++ quote "tcp" ++ " or " ++
    quote "rdma" ++ ", got " ++ quote t))

def sparseParam : Except Err Bool :=
  let v := trimSpace (m.getD "sparse" "")
  if v = "" then .ok true
  else
    match parseBool v with
    | some b => .ok b
    | none => .error (.plain ("storage class parameter sparse must be true or false, got " ++
        quote v))

def portParam : Except Err Nat :=
  let v := trimSpace (m.getD "port" "")
  if v = "" then .ok defaultPort
  else
    match atoi v with
    | some n =>
      if n ≤ 0 ∨ n > 65535 then
        .error (.plain ("storage class parameter port must be a TCP port, got " ++ quote v))
      else .ok n.toNat
    | none => .error (.plain ("storage class parameter port must be a TCP port, got " ++ quote v))

def parseParams : Except Err Params := do
  let transport ← transportParam m
  let sparse ← sparseParam m
  let port ← portParam m
  return {
    transport, sparse, port
    volBlockSize := trimSpace (m.getD "volblocksize" "")
    portAddress := trimSpace (m.getD "portAddress" "")
    hostNQNs := commaList (m.getD "hostNQNs" "") }

def trtypeFor (transport : String) : String := if transport = "rdma" then "RDMA" else "TCP"

def isWildcardAddress (ip : String) : Bool :=
  trimSpace ip ∈ ["0.0.0.0", "::", "[::]", "*", ""]

variable (c : Client) (ds : Dataset) (name : String) (subsys : Nat) (p : Params) (node : NodeRef)
  (nqn : String)

def portalAddress (p : NvmePort) : Except Err String :=
  let port := if p.trSvcID = 0 then defaultPort else p.trSvcID
  let addr := trimSpace p.trAddr
  if addr ≠ "" ∧ isWildcardAddress addr = false then .ok (Net.joinHostPort addr port)
  else if c.host ≠ "" then .ok (Net.joinHostPort c.host port)
  else .error (.plain ("NVMe-oF port " ++ toString p.id ++ " has no reachable listen address"))

def withPortLock {α : Type} (body : M α) : M α := do
  process .lockPorts
  let result ← body.attempt
  process .unlockPorts
  Prog.ofExcept result

def createPort (trtype addr : String) (port : Nat) : M NvmePort :=
  if addr = "" then
    throw (.plain "no address to bind an NVMe-oF port to: set the portAddress storage class parameter")
  else do
    match ← (nvmet c (.portCreate trtype addr port)).attempt with
    | .ok created => return created
    | .error e =>
      match ← (portFind c trtype addr port).attempt with
      | .ok (some again) => return again
      | _ => throw (e.wrap ("creating " ++ trtype ++ " port on " ++ addr ++ ":" ++ toString port ++ ": "))

def ensurePort : M NvmePort :=
  withPortLock do
    let trtype := trtypeFor p.transport
    let ports ← listPorts c
    match ports.find? fun po => po.trType == trtype && po.trSvcID == p.port with
    | some po =>
      if po.listening then return po
      else throw (.status .failedPrecondition ("the NVMe-oF port on " ++ po.trAddr ++ ":" ++
        toString po.trSvcID ++ " is disabled on the appliance, so a volume bound " ++
        "to it could never be attached; enable it under Shares > NVMe-oF > Ports " ++
        "or point port at another port"))
    | none => createPort c trtype (if p.portAddress = "" then c.host else p.portAddress) p.port

def ensureSubsystem : M (Subsystem × Bool) := do
  match ← querySubsystem c name with
  | some existing => return (existing, false)
  | none =>
    match ← (nvmet c (.subsysCreate name p.hostNQNs.isEmpty)).attempt with
    | .ok created => return (created, true)
    | .error e =>
      match ← (subsysByName c name).attempt with
      | .ok (some again) => return (again, false)
      | _ => throw (e.wrap ("creating subsystem " ++ name ++ ": "))

/-- Export the zvol through the subsystem, once. -/
def ensureNamespace (dev : String) (subsys : Nat) : M (Option Nat) := do
  let existing ← (namespaceByDevice c dev).mapError
    fun e => e.wrap ("querying namespace for " ++ dev ++ ": ")
  match existing with
  | some _ => return none
  | none =>
    match ← (nvmet c (.namespaceCreate subsys dev)).attempt with
    | .ok created => return some created.id
    | .error e =>
      match ← (namespaceByDevice c dev).attempt with
      | .ok (some _) => return none
      | _ => throw (e.wrap ("creating namespace for " ++ dev ++ ": "))

def ensureHost : M NvmeHost := do
  let existing ← (hostByNQN c nqn).mapError fun e => e.wrap ("querying host " ++ nqn ++ ": ")
  match existing with
  | some host => return host
  | none =>
    match ← (nvmet c (.hostCreate nqn)).attempt with
    | .ok host => return host
    | .error e =>
      match ← (hostByNQN c nqn).attempt with
      | .ok (some again) => return again
      | _ => throw (e.wrap ("registering host " ++ nqn ++ ": "))

def removeAll (remove : Nat → M Unit) : List Nat → M Unit
  | [] => return ()
  | id :: rest => do
    bestEffort (remove id)
    removeAll remove rest

def admitHost (admitted : List Nat) (nqn : String) : M (Option Nat) := do
  let host ← ensureHost c nqn
  if host.id ∈ admitted then return none
  else
    let created ← (nvmet c (.hostSubsysCreate host.id subsys)).mapError
      fun e => e.wrap ("granting " ++ nqn ++ " access to subsystem " ++ toString subsys ++ ": ")
    return some created.id

/-- Admit hosts in turn, or undo what was `made`. -/
def admitHosts (c : Client) (subsys : Nat) (admitted : List Nat) :
    List Nat → List String → M (List Nat)
  | made, [] => return made
  | made, nqn :: rest => do
    let binding ← undoing (removeAll (hostSubsysDelete c) made) (admitHost c subsys admitted nqn)
    admitHosts c subsys admitted (binding.toList ++ made) rest

/-- Admits the configured hosts. -/
def ensureHostACL : M (List Nat) :=
  if p.hostNQNs = [] then return []
  else do
    let granted ← (hostSubsysList c subsys).mapError fun e => e.wrap "listing host ACLs: "
    admitHosts c subsys (granted.map (·.host)) [] p.hostNQNs

def contextFor (s : Subsystem) (portal trtype : String) : List (String × String) :=
  [("protocol", "nvme"), ("portal", portal), ("nqn", s.subNQN), ("serial", s.serial),
    ("transport", String.ofList (trtype.toList.map Label.lowerChar))]

def requireTransport : M Unit := do
  let global ← (nvmet c .globalConfig).mapError fun e => e.wrap "reading NVMe-oF global config: "
  if p.transport = "rdma" ∧ global.rdma = false then
    throw (.sentinel .rdmaUnavailable ("this appliance does not support NVMe over RDMA: " ++
      "set transport=tcp, or enable RDMA on the appliance"))

def recordPort (dsPath : String) (port : NvmePort) : M Unit :=
  (c.setUserProperty dsPath Volume.nvmePortProperty (toString port.id)).mapError
    fun e => e.wrap ("recording the NVMe-oF port on " ++ dsPath ++ ": ")

def create (r : CreateRequest) : M Provisioned := do
  let c := b.client
  let p ← Prog.ofExcept (parseParams r.params)
  requireTransport c p
  let madeZvol ← Zvol.ensureZvol c "nvme" r p.sparse p.volBlockSize
  let undoZvol := Zvol.undoZvol c r madeZvol
  let (subsys, madeSubsys) ← undoing undoZvol (ensureSubsystem c (subsystemName b.env.sha256 r.id) p)
  let undoSubsys : M Unit := do
    if madeSubsys then bestEffort (subsysDelete c subsys.id)
    undoZvol
  let ns ← undoing undoSubsys (ensureNamespace c (devicePath r.id) subsys.id)
  let undoNamespace : M Unit := do
    removeAll (namespaceDelete c) ns.toList
    undoSubsys
  let port ← undoing undoNamespace (ensurePort c p)
  undoing undoNamespace (recordPort c r.id.datasetPath port)
  let hosts ← undoing undoNamespace (ensureHostACL c subsys.id p)
  let undoHosts : M Unit := do
    removeAll (hostSubsysDelete c) hosts
    undoNamespace
  let portal ← undoing undoHosts (Prog.ofExcept (portalAddress c port))
  return ⟨r.id, r.capacityBytes, contextFor subsys portal port.trType⟩

def deleteAll (delete : Nat → M Unit) (context : String) : List Nat → M Unit
  | [] => return ()
  | id :: rest => do
    (delete id).mapError fun e => e.wrap context
    deleteAll delete context rest

def unbind : M Unit := do
  let bindings ← listBindings c name subsys
  deleteAll (portSubsysDelete c) ("unbinding subsystem " ++ name ++ " from its port: ")
    (bindings.map (·.id))

def detach : Option Subsystem → M Unit
  | none => return ()
  | some subsys => do
    unbind c name subsys.id
    let hosts ← listHostACLs c name subsys.id
    deleteAll (hostSubsysDelete c) ("revoking a host ACL on " ++ name ++ ": ") (hosts.map (·.id))

def removeNamespace (id : ID) : M Unit := do
  let ns ← (namespaceByDevice c (devicePath id)).mapError
    fun e => e.wrap ("querying namespace for " ++ id.datasetPath ++ ": ")
  match ns with
  | none => return ()
  | some ns =>
    (namespaceDelete c ns.id).mapError
      fun e => e.wrap ("deleting namespace for " ++ id.datasetPath ++ ": ")

def removeSubsystem : Option Subsystem → M Unit
  | none => return ()
  | some subsys => (subsysDelete c subsys.id).mapError
      fun e => e.wrap ("deleting subsystem " ++ name ++ ": ")

def delete : M Unit := do
  let ds ← Zvol.queryZvol b.client id.datasetPath
  Zvol.verifyPresent ds
  let name := subsystemName b.env.sha256 id
  let subsys ← querySubsystem b.client name
  detach b.client name subsys
  removeNamespace b.client id
  removeSubsystem b.client name subsys
  Zvol.disposeZvol b id ds

def expand (b : Server) (id : ID) (bytes : Int) : M Int := Zvol.expand b id bytes

def publishContext : M (List (String × String)) := do
  let name := subsystemName b.env.sha256 id
  match ← querySubsystem b.client name with
  | none => throw (volumeNotFound ("subsystem " ++ name))
  | some subsys =>
    let bindings ← listBindings b.client name subsys.id
    if bindings = [] then
      throw (volumeNotFound ("subsystem " ++ name ++ " is bound to no port"))
    let ports ← listPorts b.client
    match bindings.findSome? fun ps => ports.find? fun po => po.id == ps.port with
    | none => throw (volumeNotFound ("no port serves subsystem " ++ name))
    | some port =>
      let portal ← Prog.ofExcept (portalAddress b.client port)
      return contextFor subsys portal port.trType

def portFor : M NvmePort := do
  let ports ← listPorts c
  let recorded := (atoi (localProperty ds Volume.nvmePortProperty)).bind
    fun want => ports.find? fun po => (po.id : Int) == want
  match recorded, ports with
  | some port, _ => return port
  | none, [port] => return port
  | none, ports => throw (.plain ("cannot tell which of " ++ toString ports.length ++
      " NVMe-oF ports serves " ++ ds.id ++
      ": set the portAddress storage class parameter and reprovision"))

def bindPort (port subsys : Nat) : M Unit := do
  let bindings ← (portSubsysList c subsys).mapError fun e => e.wrap "listing port bindings: "
  if bindings.any fun ps => ps.port == port then return ()
  else
    match ← (nvmet c (.portSubsysCreate port subsys)).attempt with
    | .ok _ => return ()
    | .error e =>
      let failed := e.wrap ("binding subsystem " ++ toString subsys ++ " to port " ++ toString port ++ ": ")
      match ← (portSubsysList c subsys).attempt with
      | .ok again => if again.any fun ps => ps.port == port then return () else throw failed
      | .error _ => throw failed

def admitNode (host : NvmeHost) : M Unit := do
  let granted ← (hostSubsysList c subsys).mapError fun e => e.wrap "listing host ACLs: "
  if granted.any fun hs => hs.host == host.id then return ()
  else
    match ← (nvmet c (.hostSubsysCreate host.id subsys)).attempt with
    | .ok _ => return ()
    | .error e =>
      let failed := e.wrap ("granting " ++ nqn ++ " access to subsystem " ++ toString subsys ++ ": ")
      match ← (hostSubsysList c subsys).attempt with
      | .ok again => if again.any fun hs => hs.host == host.id then return () else throw failed
      | .error _ => throw failed

/-- Admit the node and close the subsystem. -/
def grantHost (subsys : Subsystem) (node : NodeRef) : M Unit :=
  if node.nqn = "" then return ()
  else do
    let host ← ensureHost c node.nqn
    admitNode c subsys.id node.nqn host
    if subsys.allowAnyHost then
      (nvmet c (.subsysUpdate subsys.id false)).mapError
        fun e => e.wrap ("closing subsystem " ++ toString subsys.id ++ " to unlisted hosts: ")

def publishSubsystem (subsys : Subsystem) (node : NodeRef) : M (List (String × String)) := do
  let port ← portFor b.client ds
  bindPort b.client port.id subsys.id
  grantHost b.client subsys node
  let portal ← Prog.ofExcept (portalAddress b.client port)
  return contextFor subsys portal port.trType

/-- Binds the subsystem to a port, and admits the node if its NQN is known. -/
def publish (b : Server) (id : ID) (node : NodeRef) : M (List (String × String)) := do
  match ← Zvol.queryZvol b.client id.datasetPath with
  | none => throw (volumeNotFound id.string)
  | some ds =>
    let name := subsystemName b.env.sha256 id
    match ← querySubsystem b.client name with
    | none => throw (volumeNotFound ("subsystem " ++ name))
    | some subsys =>
      let ns ← (namespaceByDevice b.client (devicePath id)).mapError
        fun e => e.wrap ("querying the namespace for " ++ id.string ++ ": ")
      -- A namespace that is not there at all does not stop the publish.
      if (ns.map NvmeNamespace.serving).getD true then publishSubsystem b ds subsys node
      else throw (.status .failedPrecondition ("the NVMe-oF namespace for " ++ id.string ++
        " is disabled on the appliance, so this volume presents no device to the node; " ++
        "re-enable it under Shares > NVMe-oF"))

def revokeHost : M Unit :=
  if node.nqn = "" then return ()
  else do
    let host ← (hostByNQN c node.nqn).mapError fun e => e.wrap ("querying host " ++ node.nqn ++ ": ")
    match host with
    | none => return ()
    | some host =>
      let granted ← listHostACLs c name subsys
      deleteAll (hostSubsysDelete c) ("revoking " ++ node.nqn ++ " on subsystem " ++ name ++ ": ")
        ((granted.filter fun hs => hs.host == host.id).map (·.id))

/-- Unbinds the subsystem for all, and takes the node off its list. -/
def unpublish : M Unit := do
  let name := subsystemName b.env.sha256 id
  match ← querySubsystem b.client name with
  | none => return ()
  | some subsys =>
    revokeHost b.client name subsys.id node
    unbind b.client name subsys.id

def minimumCapacityBytes : Int := 0

def acceptedParameters : List String :=
  ["portalID", "portAddress", "port", "transport", "hostNQNs", "sparse", "volblocksize"]

end TruenasCsi.Backend.Nvme
