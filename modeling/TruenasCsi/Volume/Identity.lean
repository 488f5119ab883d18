import TruenasCsi.Support.Text
import TruenasCsi.Support.Dict

/-! The Kubernetes object a volume was made for, as it is recorded. -/

namespace TruenasCsi.Volume

def paramPVCName : String := "csi.storage.k8s.io/pvc/name"

def paramPVCNamespace : String := "csi.storage.k8s.io/pvc/namespace"

def paramPVName : String := "csi.storage.k8s.io/pv/name"

def pvcNameProperty : String := "io.truenas.csi:pvcname"

def pvcNamespaceProperty : String := "io.truenas.csi:pvcnamespace"

def pvNameProperty : String := "io.truenas.csi:pvname"

def maxIdentityValue : Nat := 255

def maxDescription : Nat := 512

structure Identity where
  pvcName : String
  pvcNamespace : String
  pvName : String
deriving DecidableEq

/-- Cut a text to at most `n` characters. -/
def truncate (s : String) (n : Nat) : String :=
  if s.utf8ByteSize ≤ n then s else String.ofList (s.toList.take n)

def identityChar (c : Char) : Char :=
  if c = '-' ∨ c = '.' ∨ c = '_' then c
  else if c.isAlphanum then c
  else '_'

def sanitiseIdentityValue (v : String) : String :=
  let v := Text.trimSpace v
  if v = "" then "" else truncate (String.ofList (v.toList.map identityChar)) maxIdentityValue

def identityFrom (params : Dict String) : Identity where
  pvcName := sanitiseIdentityValue (params.getD paramPVCName "")
  pvcNamespace := sanitiseIdentityValue (params.getD paramPVCNamespace "")
  pvName := sanitiseIdentityValue (params.getD paramPVName "")

namespace Identity

def empty (i : Identity) : Bool := i.pvcName == "" && i.pvcNamespace == "" && i.pvName == ""

/-- The properties to stamp, in key order. -/
def properties (i : Identity) : List (String × String) :=
  [(pvcNameProperty, i.pvcName), (pvcNamespaceProperty, i.pvcNamespace),
    (pvNameProperty, i.pvName)].filter fun e => e.2 != ""

def description (i : Identity) : String :=
  if i.empty then ""
  else
    let ns := if i.pvcNamespace = "" then "<unknown>" else i.pvcNamespace
    let name := if i.pvcName = "" then "<unknown>" else i.pvcName
    let out := "Kubernetes PVC " ++ ns ++ "/" ++ name
    truncate (if i.pvName = "" then out else out ++ " (" ++ i.pvName ++ ")") maxDescription

end Identity

end TruenasCsi.Volume
