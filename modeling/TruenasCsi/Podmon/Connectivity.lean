import TruenasCsi.Backend.Nodes
import TruenasCsi.Truenas.Sessions

/-! What the appliance is asked before a node is fenced. -/

namespace TruenasCsi.Podmon

open Truenas Backend

inductive State where
  | unknown
  | connected
  | disconnected
  | unobservable
deriving DecidableEq

def State.string : State → String
  | .connected => "connected"
  | .disconnected => "disconnected"
  | .unobservable => "unobservable"
  | .unknown => "unknown"

inductive SignalKind where
  | iscsiSession
  | nfsLease
  | smbSession
  | nvmeSession
  | volumeIo
  /-- A protocol without a liveness query. -/
  | other (protocol : String)
deriving DecidableEq

def SignalKind.string : SignalKind → String
  | .iscsiSession => "iscsi-session"
  | .nfsLease => "nfs-lease"
  | .smbSession => "smb-session"
  | .nvmeSession => "nvme-session"
  | .volumeIo => "volume-io"
  | .other protocol => protocol ++ "-session"

/-- What one protocol says about a node. -/
structure Signal where
  kind : SignalKind
  state : State := .unknown
  reason : String
  leaseAgeSeconds : Int := renewAgeUnknown
deriving DecidableEq

structure Report where
  nodeID : String
  volumeID : String
  signals : List Signal := []
  errors : List String := []
deriving DecidableEq

structure Verdict where
  safeToFence : Bool := false
  reason : String
  blocking : List Signal := []
  unobservable : List Signal := []
deriving DecidableEq

/-- The unobservable signals that do not block. -/
def subsumedUnobservable : List SignalKind := [.volumeIo]

/-- Whatever is not known to be disconnected blocks a fence, unless another check covers it. -/
def Signal.blocks (s : Signal) : Bool :=
  match s.state with
  | .disconnected => false
  | .connected | .unknown => true
  | .unobservable => s.kind ∉ subsumedUnobservable

def Report.verdict (r : Report) : Verdict :=
  match r.errors with
  | e :: _ =>
    { reason := "the appliance could not be asked about node " ++ r.nodeID ++ ": " ++ e }
  | [] =>
    let unobservable := r.signals.filter (·.state == .unobservable)
    let disconnected := r.signals.countP (·.state == .disconnected)
    match r.signals.filter (·.blocks) with
    | b :: rest =>
      { reason := "node " ++ r.nodeID ++ ": " ++ b.kind.string ++ " is " ++ b.state.string ++
          " (" ++ b.reason ++ ")"
        blocking := b :: rest
        unobservable }
    | [] =>
      if disconnected = 0 then
        { reason := "node " ++ r.nodeID ++ ": nothing about volume " ++ r.volumeID ++
            " could be positively observed, so its absence is not evidence"
          unobservable }
      else
        { safeToFence := true
          reason := "node " ++ r.nodeID ++ " holds no session or lease on volume " ++ r.volumeID ++
            " according to the appliance"
          unobservable }

/-- All reports must be safe, and there must be one. -/
def safeToFence (reports : List Report) : Bool × String :=
  if reports = [] then
    (false, "no connectivity reports were produced, so nothing was actually checked")
  else
    match reports.find? (!·.verdict.safeToFence) with
    | some r => (false, r.verdict.reason)
    | none =>
      (true, "the appliance reports no session or lease held by this node on any of its volumes")

/-- The listings of an appliance, each answered or not. -/
structure Sessions where
  iscsi : Except Err (List ISCSISession)
  nvme : Except Err (List WireNvmeSession)
  nfs4 : Except Err (List Nfs4Client)
  nfs3 : Except Err (List Nfs3Client)

/-- The merged client list, unless a listing fails. -/
def Sessions.nfsClients (sess : Sessions) : Except Err (List NFSClient) := do
  let v4 ← sess.nfs4
  let v3 ← sess.nfs3
  return Truenas.nfsClients v4 v3

structure Connectivity where
  nodes : Option NodeResolver
  appliances : String → Except Err Sessions
  /-- The lease age past which a client is not live. -/
  staleLeaseAfter : Int := 0

def defaultStaleLeaseAfter : Int := 180

namespace Connectivity

variable (c : Connectivity) (node : NodeRef) (sess : Sessions)

def stale : Int :=
  if c.staleLeaseAfter ≤ 0 then defaultStaleLeaseAfter else c.staleLeaseAfter

def resolve (c : Connectivity) (nodeID : String) : Except Err NodeRef :=
  match c.nodes with
  | none => .error (.plain "no node resolver: this node's addresses are unknown")
  | some nodes =>
    match nodes.resolve nodeID with
    | .error e => .error (e.wrap ("resolving node " ++ nodeID ++ ": "))
    | .ok node =>
      if node.addrs = [] ∧ node.iqn = "" then
        .error (.plain ("node " ++ nodeID ++ " has neither an address nor an initiator name, " ++
          "so no appliance session can be attributed to it"))
      else .ok node

/-- A signal, and what went wrong. -/
abbrev Asked := Signal × List String

def checkISCSI : Asked :=
  match sess.iscsi with
  | .error e =>
    ({ kind := .iscsiSession, reason := "the appliance did not answer iscsi.global.sessions" },
      ["listing iSCSI sessions: " ++ e.text])
  | .ok sessions =>
    let byName (s : ISCSISession) : Bool := node.iqn != "" && s.initiator == node.iqn
    let byAddr (s : ISCSISession) : Bool :=
      s.initiatorAddr != "" && node.addrs.contains s.initiatorAddr
    match sessions.find? fun s => byName s || byAddr s with
    | some s =>
      ({ kind := .iscsiSession
         state := .connected
         reason :=
          (if byName s then "initiator " ++ s.initiator else "address " ++ s.initiatorAddr) ++
            " still holds a session on target " ++ s.target }, [])
    | none =>
      ({ kind := .iscsiSession
         state := .disconnected
         reason := "the appliance lists " ++ toString sessions.length ++
          " iSCSI sessions and none is from node " ++ node.id }, [])

/-- A lease that was not renewed for the stale time counts as gone. -/
def checkNFS : Asked :=
  match sess.nfsClients with
  | .error e =>
    ({ kind := .nfsLease, reason := "the appliance did not answer its NFS client listing" },
      ["listing NFS clients: " ++ e.text])
  | .ok clients =>
    match clients.find? fun cl => node.addrs.contains cl.address with
    | some cl =>
      let age := cl.renewAgeSeconds
      if age = renewAgeUnknown then
        ({ kind := .nfsLease
           state := .unknown
           reason := cl.address ++ " is listed as an NFS client with no lease age " ++
            "(an NFSv3 rmtab entry proves neither presence nor absence)"
           leaseAgeSeconds := age }, [])
      else if age ≤ c.stale then
        ({ kind := .nfsLease
           state := .connected
           reason := cl.address ++ " renewed its NFSv4 lease " ++ toString age ++
            "s ago (live within " ++ toString c.stale ++ "s)"
           leaseAgeSeconds := age }, [])
      else
        ({ kind := .nfsLease
           state := .disconnected
           reason := cl.address ++ " last renewed its NFSv4 lease " ++ toString age ++
            "s ago, past the " ++ toString c.stale ++ "s liveness threshold"
           leaseAgeSeconds := age }, [])
    | none =>
      ({ kind := .nfsLease
         state := .disconnected
         reason := "the appliance lists " ++ toString clients.length ++
          " NFS clients and none is node " ++ node.id }, [])

def checkSMB : Signal where
  kind := .smbSession
  reason := "this appliance publishes no SMB session or status method, so SMB connectivity " ++
    "cannot be observed"

def checkNVMe : Asked :=
  match sess.nvme with
  | .error e =>
    ({ kind := .nvmeSession, reason := "the appliance did not answer nvmet.global.sessions" },
      ["listing NVMe-oF sessions: " ++ e.text])
  | .ok out =>
    let sessions := nvmeSessions out
    let byName (s : NVMeSession) : Bool := node.nqn != "" && s.hostNQN == node.nqn
    let byAddr (s : NVMeSession) : Bool := s.hostAddr != "" && node.addrs.contains s.hostAddr
    match sessions.find? fun s => byName s || byAddr s with
    | some s =>
      ({ kind := .nvmeSession
         state := .connected
         reason := (if byName s then "host " ++ s.hostNQN else "address " ++ s.hostAddr) ++
          " still holds NVMe controller " ++ toString s.controller ++ " on subsystem " ++
          toString s.subsysID }, [])
    | none =>
      -- Not recognising the host is not the same as the host being gone.
      if node.nqn = "" then
        ({ kind := .nvmeSession
           state := .unknown
           reason := "node " ++ node.id ++ " advertises no NVMe host NQN, so none of the " ++
            toString sessions.length ++ " NVMe sessions the appliance lists " ++
            "can be attributed to it or ruled out for it" }, [])
      else
        ({ kind := .nvmeSession
           state := .disconnected
           reason := "the appliance lists " ++ toString sessions.length ++
            " NVMe-oF sessions and none is from host " ++ node.nqn }, [])

def checkVolumeIO : Signal where
  kind := .volumeIo
  state := .unobservable
  reason := "the appliance exposes no per-dataset or per-zvol counter, so whether I/O is in " ++
    "progress on this volume cannot be observed from the appliance at all"

variable (nodeID : String) (id : Volume.ID)

def protocolSignal (node : NodeRef) (sess : Sessions) : Asked :=
  if id.protocol = "iscsi" then checkISCSI node sess
  else if id.protocol = "nfs" then c.checkNFS node sess
  else if id.protocol = "smb" then (checkSMB, [])
  else if id.protocol = "nvme" then checkNVMe node sess
  else
    ({ kind := .other id.protocol
       reason := "no appliance-side liveness query is implemented for protocol " ++
        Text.quote id.protocol }, [])

def report : Report :=
  match c.resolve nodeID with
  | .error e => { nodeID, volumeID := id.string, errors := [e.text] }
  | .ok node =>
    match c.appliances id.backend with
    | .error e =>
      { nodeID
        volumeID := id.string
        errors := ["appliance " ++ Text.quote id.backend ++ " is unreachable: " ++ e.text] }
    | .ok sess =>
      let (signal, errors) := c.protocolSignal id node sess
      { nodeID, volumeID := id.string, signals := [signal, checkVolumeIO], errors }

def check (ids : List Volume.ID) : List Report :=
  ids.map (c.report nodeID)

end Connectivity

end TruenasCsi.Podmon
