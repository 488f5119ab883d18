import Mathlib.Data.Rat.Defs
import TruenasCsi.Truenas.Calm
import TruenasCsi.Backend.Nfs
import TruenasCsi.Backend.Smb
import TruenasCsi.Backend.Iscsi
import TruenasCsi.Backend.Nvme

/-! Which appliances are configured, and their backends. -/

namespace TruenasCsi.Backend

open Truenas (Client)
open Prog Volume

structure NamespaceQuotas where
  enabled : Bool := false
  /-- Zero is no limit. -/
  defaultBytes : Int := 0
  perNamespace : Dict Int := ∅

def NamespaceQuotas.quotaFor (q : NamespaceQuotas) (ns : String) : Int :=
  q.perNamespace.getD ns q.defaultBytes

structure Config where
  pool : String
  parentDataset : String
  /-- The address the appliance is dialled at. -/
  host : String := ""
  reservedBytes : Int := 0
  reservedPercent : Rat := 0
  namespaceQuotas : NamespaceQuotas := {}
  /-- The grace period in seconds, or zero. -/
  grace : Int := 0
  graveyard : String := ".trash"

def Config.policy (b : Config) : Retention.Policy := ⟨b.pool, b.parentDataset, b.graveyard, b.grace⟩

/-- The configured backends. -/
structure Registry where
  backends : Dict Config
  env : Env

def listed (ss : List String) : String := "[" ++ Text.join " " ss ++ "]"

namespace Registry

variable (r : Registry) (name : String)

def names : List String := r.backends.keys

def unknownBackend : String :=
  "storage class names a backend that is not configured: " ++ Text.quote name

def backend : Except Err Config :=
  match r.backends.get? name with
  | some b => .ok b
  | none => .error (.sentinel .unknownBackend
      (unknownBackend name ++ " (configured: " ++ listed r.names ++ ")"))

def client : M Client := do
  let b ← Prog.ofExcept (r.backend name)
  (Prog.issue (Call.client name) : M Unit).mapError
    fun e => e.wrap ("backend " ++ Text.quote name ++ ": ")
  return ⟨name, b.host⟩

end Registry

inductive Protocol where
  | nfs
  | smb
  | iscsi
  | nvme
deriving DecidableEq

namespace Protocol

def text : Protocol → String
  | nfs => "nfs"
  | smb => "smb"
  | iscsi => "iscsi"
  | nvme => "nvme"

def all : List Protocol := [iscsi, nfs, nvme, smb]

def factoryFor (protocol : String) : Option Protocol := all.find? fun p => p.text == protocol

end Protocol

structure Memory where
  nfs : Nfs.Cache := {}
  smb : Smb.Cache := {}

/-- A volume's protocol on its backend. -/
structure Handle where
  protocol : Protocol
  server : Server

namespace Registry

def server (r : Registry) (c : Client) (b : Config) : Server where
  client := c
  pool := b.pool
  parent := b.parentDataset
  retire := b.policy
  env := r.env

def handle (r : Registry) (name protocol : String) : M Handle := do
  let b ← Prog.ofExcept (r.backend name)
  match Protocol.factoryFor protocol with
  | none => throw (.sentinel .unsupportedProtocol
      ("protocol is not supported by this driver version: " ++ Text.quote protocol ++
        " (supported: " ++ listed (Protocol.all.map Protocol.text) ++ ")"))
  | some p =>
    let c ← r.client name
    return ⟨p, r.server c b⟩

/-! What asking for a client or a backend can do: dial, and nothing else. -/

section

variable {w : World}

variable (r : Registry) (name : String)

theorem wp_client : M.wp (r.client name) (fun answer t =>
    t.appliance = w.appliance ∧ ∀ c, answer = .ok c →
      ∃ b, r.backends.get? name = some b ∧ c = ⟨name, b.host⟩) w := by
  unfold client backend
  cases found : r.backends.get? name with
  | none =>
    refine ⟨rfl, ?_⟩
    rintro c ⟨⟩
  | some b =>
    simp only [ofExcept_ok, ret_bind]
    refine wp_bind.mpr (wp_mapError.mpr ?_)
    refine wp_issue.mpr fun fault => ?_
    by_cases dialled : name ∈ w.process.connected
    · simp only [World.handle, dialled, if_true]
      exact ⟨rfl, fun c same => ⟨b, rfl, (Except.ok.inj same).symm⟩⟩
    · simp only [World.handle, dialled, if_false]
      cases fault with
      | none => exact ⟨rfl, fun c same => ⟨b, rfl, (Except.ok.inj same).symm⟩⟩
      | refused e => exact ⟨rfl, by simp⟩
      | lost e => exact ⟨rfl, by simp⟩

theorem yields_client : M.yields (r.client name) (fun c t =>
    t.appliance = w.appliance ∧ ∃ b, r.backends.get? name = some b ∧ c = ⟨name, b.host⟩) w := by
  refine yields_iff_wp.mpr (wp_mono (r.wp_client name) ?_)
  rintro answer t ⟨same, known⟩ c given
  exact ⟨same, known c given⟩

theorem calm_client {name : String} {b : Config} (known : r.backends.get? name = some b) :
    ∃ t, M.calm (r.client name) w = (.ok ⟨name, b.host⟩, t) ∧ t.appliance = w.appliance := by
  unfold client backend
  rw [known]
  simp only [ofExcept_ok, ret_bind]
  by_cases dialled : name ∈ w.process.connected
  · refine ⟨w, ?_, rfl⟩
    have issued : M.calm (Prog.issue (Call.client name) : M Unit) w = (.ok (), w) := by
      simp [M.calm, M.run, run_issue, World.handle, dialled]
    rw [calm_bind_ok (calm_mapError_ok issued)]
    rfl
  · refine ⟨{ w with process := { w.process with connected := name :: w.process.connected } }, ?_, rfl⟩
    have issued : M.calm (Prog.issue (Call.client name) : M Unit) w = (.ok (),
        { w with process := { w.process with connected := name :: w.process.connected } }) := by
      simp only [M.calm, M.run, run_issue, World.handle, dialled, if_false]
      rfl
    rw [calm_bind_ok (calm_mapError_ok issued)]
    rfl

theorem wp_handle (protocol : String) : M.wp (r.handle name protocol)
    (fun answer t => t.appliance = w.appliance ∧ ∀ h, answer = .ok h →
      ∃ b p, r.backends.get? name = some b ∧ Protocol.factoryFor protocol = some p ∧
        h = ⟨p, r.server ⟨name, b.host⟩ b⟩) w := by
  unfold handle backend
  cases found : r.backends.get? name with
  | none =>
    refine ⟨rfl, ?_⟩
    rintro h ⟨⟩
  | some b =>
    cases known : Protocol.factoryFor protocol with
    | none =>
      refine ⟨rfl, ?_⟩
      rintro h ⟨⟩
    | some p =>
      simp only [ofExcept_ok, ret_bind]
      refine wp_seq (r.wp_client name) ?_ ?_
      · rintro e t ⟨same, -⟩
        exact ⟨same, nofun⟩
      · rintro c t ⟨same, answered⟩
        obtain ⟨b', found', rfl⟩ := answered c rfl
        obtain rfl : b = b' := Option.some.inj (found.symm.trans found')
        exact ⟨same, fun h given => ⟨b, p, rfl, rfl, (Except.ok.inj given).symm⟩⟩

end

end Registry

namespace Handle

variable (h : Handle)

variable (r : CreateRequest) (id : ID) (node : NodeRef)

def create : M Provisioned :=
  match h.protocol with
  | .nfs => Nfs.create h.server r
  | .smb => Smb.create h.server r
  | .iscsi => Iscsi.create h.server r
  | .nvme => Nvme.create h.server r

def remembered : Memory where
  nfs := match Nfs.parseParams r.params with
    | .ok p => Nfs.remember {} r.id p
    | .error _ => {}
  smb := match Smb.parseParams r.params with
    | .ok p => Smb.remember {} r.id p
    | .error _ => {}

def delete : M Unit :=
  match h.protocol with
  | .nfs => Nfs.delete h.server id
  | .smb => Smb.delete h.server id
  | .iscsi => Iscsi.delete h.server id
  | .nvme => Nvme.delete h.server id

def expand (bytes : Int) : M Int :=
  match h.protocol with
  | .nfs => Nfs.expand h.server id bytes
  | .smb => Smb.expand h.server id bytes
  | .iscsi => Iscsi.expand h.server id bytes
  | .nvme => Nvme.expand h.server id bytes

def publishContext (memory : Memory) (id : ID) : M (List (String × String)) :=
  match h.protocol with
  | .nfs => Nfs.publishContext h.server memory.nfs id
  | .smb => Smb.publishContext h.server memory.smb id
  | .iscsi => Iscsi.publishContext h.server id
  | .nvme => Nvme.publishContext h.server id

/-- Grant a node access, with nothing remembered. -/
def publish : M (List (String × String)) :=
  match h.protocol with
  | .nfs => Nfs.publish h.server {} id node
  | .smb => Smb.publish h.server {} id node
  | .iscsi => Iscsi.publish h.server id node
  | .nvme => Nvme.publish h.server id node

def unpublish : M Unit :=
  match h.protocol with
  | .nfs => Nfs.unpublish h.server id node
  | .smb => Smb.unpublish h.server id node
  | .iscsi => Iscsi.unpublish h.server id node
  | .nvme => Nvme.unpublish h.server id node

def minimumCapacityBytes : Int :=
  match h.protocol with
  | .nfs => Nfs.minimumCapacityBytes
  | .smb => Smb.minimumCapacityBytes
  | .iscsi => Iscsi.minimumCapacityBytes
  | .nvme => Nvme.minimumCapacityBytes

def acceptedParameters : List String :=
  match h.protocol with
  | .nfs => Nfs.acceptedParameters
  | .smb => Smb.acceptedParameters
  | .iscsi => Iscsi.acceptedParameters
  | .nvme => Nvme.acceptedParameters

end Handle

end TruenasCsi.Backend
