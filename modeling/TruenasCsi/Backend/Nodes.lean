import TruenasCsi.Backend.Basic

/-! How the controller learns a node's addresses. -/

namespace TruenasCsi.Backend

structure NodeResolver where
  resolve : String → Except Err NodeRef
  /-- The answer is about the node that was asked for. -/
  named : ∀ {nodeID ref}, resolve nodeID = .ok ref → ref.id = nodeID

inductive AddressType where
  | internalIP
  | externalIP
  | hostName
  | internalDNS
  | externalDNS
deriving DecidableEq

structure NodeObject where
  addresses : List (AddressType × String)
  iqn : String := ""
  nqn : String := ""
deriving DecidableEq

def nodeRefFrom (name : String) (n : NodeObject) : NodeRef where
  id := name
  addrs := Text.sortedSet ((n.addresses.filter fun a =>
    (a.1 == .internalIP || a.1 == .externalIP) && a.2 != "").map (·.2))
  iqn := n.iqn
  nqn := n.nqn

def nodeNotFound (what : String) : Err := .sentinel .nodeNotFound ("node is not known to this cluster: " ++ what)

/-- Resolution through the cluster. -/
def kubeNodeResolver (cluster : String → Except Err (Option NodeObject)) : NodeResolver where
  resolve nodeID :=
    if nodeID = "" then .error (nodeNotFound "empty node id")
    else
      match cluster nodeID with
      | .error e => .error e
      | .ok none => .error (nodeNotFound nodeID)
      | .ok (some n) => .ok (nodeRefFrom nodeID n)
  named := by
    intro nodeID ref answered
    split_ifs at answered
    split at answered <;> cases answered
    rfl

end TruenasCsi.Backend
