import TruenasCsi.Backend.Basic

/-! The datasets that carry the quotas of namespaces. -/

namespace TruenasCsi

namespace Volume

def appliedQuota (recorded : String) : Option Int :=
  let s := Text.trimSpace recorded
  if s = "" then none
  else
    match Text.atoi s with
    | none => none
    | some n => if n < 0 then none else some n

def formatQuota (bytes : Int) : String := toString bytes

end Volume

namespace Backend

open Truenas
open Appliance (Dataset)

structure NamespaceDataset where
  path : String
  usedBytes : Int
  provisionedBytes : Int
  /-- Zero is no limit. -/
  quotaBytes : Int
  quotaDeferred : Bool
deriving DecidableEq

def NamespaceDataset.room (n : NamespaceDataset) : Option Int :=
  if n.quotaBytes ≤ 0 then none
  else some (max 0 (n.quotaBytes - max n.usedBytes n.provisionedBytes))

variable (c : Client) (pool path parent ns : String)

def namespacePath : String := pool ++ "/" ++ parent ++ "/" ++ ns

def promised (d : Dataset) : Int :=
  if d.volSize > 0 then d.volSize else if d.refQuota > 0 then d.refQuota else 0

def charged (d : Dataset) : Bool :=
  '/' ∉ d.id.toList.drop (path ++ "/").length && (verifyOwned d).isOk

/-- What a container's volumes were promised. -/
def provisionedUnder : M Int := do
  match ← (c.datasetList (path ++ "/")).attempt with
  | .error _ => return 0
  | .ok children => return ((children.filter (charged path)).map promised).sum

private def conflict (detail : String) : Err :=
  .sentinel .namespaceDatasetConflict ("namespace dataset exists but is not driver-owned: " ++ detail)

def verifyNamespaceDataset (ds : Dataset) (ns : String) : Except Err Unit :=
  match verifyOwned ds with
  | .error e => .error (.wrapBoth .namespaceDatasetConflict
      ("namespace dataset exists but is not driver-owned: " ++ ds.id ++ ": " ++ e.text) e)
  | .ok () =>
    let got := localProperty ds Volume.namespaceProperty
    if got = "" then
      .error (conflict (ds.id ++ " has no " ++ Volume.namespaceProperty ++
        " property — it is a volume or a hand-made dataset, not a namespace container"))
    else if got ≠ ns then
      .error (conflict (ds.id ++ " accounts for namespace " ++ Text.quote got ++ ", not " ++
        Text.quote ns))
    else .ok ()

def applyNamespaceQuota (quota : Int) : M Unit := do
  let _ ← (c.datasetUpdate path { quota := some quota }).mapError
    fun e => e.wrap ("setting quota " ++ toString quota ++ " on " ++ path ++ ": ")
  let _ ← (c.setUserProperty path Volume.namespaceQuotaProperty (Volume.formatQuota quota)).attempt

def namespaceContainer : M Dataset := do
  let existing ← (c.datasetQuery path).mapError
    fun e => e.wrap ("querying namespace dataset " ++ path ++ ": ")
  match existing with
  | none =>
    (c.datasetCreate {
      name := path, type := .filesystem
      userProperties := Volume.namespaceProperties ns }).mapError
      fun e => e.wrap ("creating namespace dataset " ++ path ++ ": ")
  | some ds =>
    Prog.ofExcept (verifyNamespaceDataset ds ns)
    return ds

/-- Make sure of a container and its quota. -/
def ensureNamespace (quota : Int) : M NamespaceDataset := do
  Prog.ofExcept (Volume.validateNamespace ns)
  let path := namespacePath pool parent ns
  let ds ← namespaceContainer c path ns
  let provisioned ← if quota > 0 then provisionedUnder c path else pure 0
  if quota > 0 ∧ ds.used > quota then return ⟨path, ds.used, provisioned, quota, true⟩
  else
    if Volume.appliedQuota (localProperty ds Volume.namespaceQuotaProperty) ≠ some quota then
      applyNamespaceQuota c path quota
    return ⟨path, ds.used, provisioned, quota, false⟩

/-- Remove an empty container. -/
def reclaimNamespace : M Bool := do
  Prog.ofExcept (Volume.validateNamespace ns)
  let path := namespacePath pool parent ns
  let existing ← (c.datasetQuery path).mapError
    fun e => e.wrap ("querying namespace dataset " ++ path ++ ": ")
  match existing with
  | none => return false
  | some ds =>
    Prog.ofExcept (verifyNamespaceDataset ds ns)
    let children ← (c.datasetList (path ++ "/")).mapError fun e => e.wrap ("listing " ++ path ++ ": ")
    if children.isEmpty then
      (c.datasetDelete path false false).mapError
        fun e => e.wrap ("deleting empty namespace dataset " ++ path ++ ": ")
      return true
    else return false

end Backend

end TruenasCsi
