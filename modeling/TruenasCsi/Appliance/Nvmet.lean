import TruenasCsi.Appliance.Sharing

/-! The NVMe over fabrics tables of the appliance. -/

namespace TruenasCsi.Appliance

structure NvmeGlobal where
  baseNQN : String
  rdma : Bool
deriving DecidableEq

structure Subsystem where
  id : Nat
  name : String
  subNQN : String
  serial : String
  allowAnyHost : Bool
deriving DecidableEq

structure NvmeNamespace where
  id : Nat
  subsys : Nat
  devicePath : String
  enabled : Option Bool := some true
deriving DecidableEq

def NvmeNamespace.serving (n : NvmeNamespace) : Bool := n.enabled.getD true

structure NvmePort where
  id : Nat
  trType : String
  trAddr : String
  trSvcID : Nat
  enabled : Option Bool := some true
deriving DecidableEq

def NvmePort.listening (p : NvmePort) : Bool := p.enabled.getD true

structure PortSubsys where
  id : Nat
  port : Nat
  subsys : Nat
deriving DecidableEq

structure NvmeHost where
  id : Nat
  hostNQN : String
deriving DecidableEq

structure HostSubsys where
  id : Nat
  host : Nat
  subsys : Nat
deriving DecidableEq

/-- The tables of the NVMe service. -/
structure Nvmet where
  config : NvmeGlobal := ⟨"nqn.2011-06.com.truenas", false⟩
  subsystems : List Subsystem := []
  namespaces : List NvmeNamespace := []
  ports : List NvmePort := []
  portSubsys : List PortSubsys := []
  hosts : List NvmeHost := []
  hostSubsys : List HostSubsys := []
  nextID : Nat := 1

inductive NvmetOp where
  | globalConfig
  | subsysQuery (name : String)
  | subsysCreate (name : String) (allowAnyHost : Bool)
  | subsysUpdate (id : Nat) (allowAnyHost : Bool)
  | subsysDelete (id : Nat)
  | namespaceQuery (devicePath : String)
  | namespaceCreate (subsys : Nat) (devicePath : String)
  | namespaceDelete (id : Nat)
  | portQuery
  | portCreate (trType trAddr : String) (trSvcID : Nat)
  | portSubsysQuery (subsys : Nat)
  | portSubsysCreate (port subsys : Nat)
  | portSubsysDelete (id : Nat)
  | hostQuery (hostNQN : String)
  | hostCreate (hostNQN : String)
  | hostSubsysQuery (subsys : Nat)
  | hostSubsysCreate (host subsys : Nat)
  | hostSubsysDelete (id : Nat)

namespace NvmetOp

@[reducible] def Answer : NvmetOp → Type
  | globalConfig => NvmeGlobal
  | subsysQuery _ => List Subsystem
  | subsysCreate _ _ => Subsystem
  | subsysUpdate _ _ => Unit
  | subsysDelete _ => Unit
  | namespaceQuery _ => List NvmeNamespace
  | namespaceCreate _ _ => NvmeNamespace
  | namespaceDelete _ => Unit
  | portQuery => List NvmePort
  | portCreate _ _ _ => NvmePort
  | portSubsysQuery _ => List PortSubsys
  | portSubsysCreate _ _ => PortSubsys
  | portSubsysDelete _ => Unit
  | hostQuery _ => List NvmeHost
  | hostCreate _ => NvmeHost
  | hostSubsysQuery _ => List HostSubsys
  | hostSubsysCreate _ _ => HostSubsys
  | hostSubsysDelete _ => Unit

end NvmetOp

namespace Nvmet

private def duplicate (method : String) : Err :=
  .call method "EINVAL" "[EINVAL] This record already exists"

/-- One call; a second row for one pair is refused. -/
def act : (op : NvmetOp) → Nvmet → Except Err op.Answer × Nvmet
  | .globalConfig, t => (.ok t.config, t)
  | .subsysQuery name, t => (.ok (t.subsystems.filter fun row => row.name == name), t)
  | .subsysCreate name allowAnyHost, t =>
    if t.subsystems.any fun row => row.name == name then (.error (duplicate "nvmet.subsys.create"), t)
    else
      let row : Subsystem := ⟨t.nextID, name, t.config.baseNQN ++ ":" ++ name,
        "serial" ++ toString t.nextID, allowAnyHost⟩
      (.ok row, { t with subsystems := t.subsystems ++ [row], nextID := t.nextID + 1 })
  | .subsysUpdate id allowAnyHost, t =>
    if t.subsystems.any fun row => row.id == id then
      (.ok (), { t with
        subsystems := updateRow Subsystem.id id (fun row => { row with allowAnyHost }) t.subsystems })
    else (.error (noRow "nvmet.subsys.update" id), t)
  | .subsysDelete id, t =>
    if !t.subsystems.any fun row => row.id == id then (.error (noRow "nvmet.subsys.delete" id), t)
    else if t.namespaces.any fun row => row.subsys == id then
      (.error (.call "nvmet.subsys.delete" "EBUSY" "[EBUSY] subsystem contains namespaces"), t)
    else
      (.ok (), { t with
        subsystems := t.subsystems.filter fun row => row.id != id
        portSubsys := t.portSubsys.filter fun row => row.subsys != id
        hostSubsys := t.hostSubsys.filter fun row => row.subsys != id })
  | .namespaceQuery devicePath, t =>
    (.ok (t.namespaces.filter fun row => row.devicePath == devicePath), t)
  | .namespaceCreate subsys devicePath, t =>
    if t.namespaces.any fun row => row.devicePath == devicePath then
      (.error (duplicate "nvmet.namespace.create"), t)
    else
      let row : NvmeNamespace := { id := t.nextID, subsys, devicePath }
      (.ok row, { t with namespaces := t.namespaces ++ [row], nextID := t.nextID + 1 })
  | .namespaceDelete id, t =>
    if t.namespaces.any fun row => row.id == id then
      (.ok (), { t with namespaces := t.namespaces.filter fun row => row.id != id })
    else (.error (noRow "nvmet.namespace.delete" id), t)
  | .portQuery, t => (.ok t.ports, t)
  | .portCreate trType trAddr trSvcID, t =>
    let row : NvmePort := { id := t.nextID, trType, trAddr, trSvcID }
    (.ok row, { t with ports := t.ports ++ [row], nextID := t.nextID + 1 })
  | .portSubsysQuery subsys, t => (.ok (t.portSubsys.filter fun row => row.subsys == subsys), t)
  | .portSubsysCreate port subsys, t =>
    if t.portSubsys.any fun row => row.port == port && row.subsys == subsys then
      (.error (duplicate "nvmet.port_subsys.create"), t)
    else
      let row : PortSubsys := ⟨t.nextID, port, subsys⟩
      (.ok row, { t with portSubsys := t.portSubsys ++ [row], nextID := t.nextID + 1 })
  | .portSubsysDelete id, t =>
    if t.portSubsys.any fun row => row.id == id then
      (.ok (), { t with portSubsys := t.portSubsys.filter fun row => row.id != id })
    else (.error (noRow "nvmet.port_subsys.delete" id), t)
  | .hostQuery hostNQN, t => (.ok (t.hosts.filter fun row => row.hostNQN == hostNQN), t)
  | .hostCreate hostNQN, t =>
    let row : NvmeHost := ⟨t.nextID, hostNQN⟩
    (.ok row, { t with hosts := t.hosts ++ [row], nextID := t.nextID + 1 })
  | .hostSubsysQuery subsys, t => (.ok (t.hostSubsys.filter fun row => row.subsys == subsys), t)
  | .hostSubsysCreate host subsys, t =>
    if t.hostSubsys.any fun row => row.host == host && row.subsys == subsys then
      (.error (duplicate "nvmet.host_subsys.create"), t)
    else
      let row : HostSubsys := ⟨t.nextID, host, subsys⟩
      (.ok row, { t with hostSubsys := t.hostSubsys ++ [row], nextID := t.nextID + 1 })
  | .hostSubsysDelete id, t =>
    if t.hostSubsys.any fun row => row.id == id then
      (.ok (), { t with hostSubsys := t.hostSubsys.filter fun row => row.id != id })
    else (.error (noRow "nvmet.host_subsys.delete" id), t)

theorem act_error {op : NvmetOp} {t : Nvmet} {e : Err} (refused : (act op t).1 = .error e) :
    (act op t).2 = t := by
  cases op <;> simp only [act] at refused ⊢ <;> (try split_ifs at refused ⊢) <;> simp_all

end Nvmet

end TruenasCsi.Appliance
