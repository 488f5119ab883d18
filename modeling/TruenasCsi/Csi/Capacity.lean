import TruenasCsi.Backend.Namespaces
import TruenasCsi.Csi.Controller

/-! A new volume must fit the pool and its namespace's quota. -/

namespace TruenasCsi.Csi

open Backend

/-- The operator's part of a pool. -/
def poolReserve (writableFree writableUsed reservedBytes : Int) (reservedPercent : Rat) : Int :=
  let total := writableFree + writableUsed
  let share : Int := if reservedPercent > 0 ∧ total > 0 then
      ((total : Rat) * reservedPercent / 100).floor
    else reservedBytes
  max 0 (max reservedBytes share)

/-- What is free and not held back. -/
def usableCapacity (writableFree reserve : Int) : Int := max 0 (writableFree - reserve)

namespace Controller

variable (c : Controller)

def reserves (b : Config) : Bool := b.reservedBytes > 0 || b.reservedPercent > 0

def requireRoomOutsideReserve (backendName : String) (size : Int) : M Unit := do
  let b ← withStatus (Prog.ofExcept (c.reg.backend backendName))
  if !reserves b then return ()
  else
    let cl ← withStatus (c.reg.client backendName)
    match ← withStatus (cl.datasetQuery b.pool) with
    | none => throw (.status .failedPrecondition ("pool " ++ Text.quote b.pool ++ " does not exist"))
    | some root =>
      let free := root.available
      let reserve := poolReserve free root.used b.reservedBytes b.reservedPercent
      let usable := usableCapacity free reserve
      if size > usable then
        throw (.status .resourceExhausted ("pool " ++ Text.quote b.pool ++ " on backend " ++
          Text.quote backendName ++ " has " ++ toString free ++ " writable bytes free and reserves " ++
          toString reserve ++ " of them, leaving " ++ toString usable ++ " usable; the request for " ++
          toString size ++ " bytes would eat into the reserve"))
      else return ()

variable (id : Volume.ID) (ns : NamespaceDataset) (size : Int)

def fitsQuota : Bool :=
  match ns.room with
  | none => true
  | some room => size ≤ room

def quotaExceeded : Err :=
  .status .resourceExhausted ("namespace " ++ Text.quote id.ns ++ " on backend " ++
    Text.quote id.backend ++ " has a quota of " ++ toString ns.quotaBytes ++ " bytes; it uses " ++
    toString ns.usedBytes ++ " and has provisioned " ++ toString ns.provisionedBytes ++ ", leaving " ++
    toString (ns.room.getD 0) ++ "; the request for " ++ toString size ++ " bytes does not fit" ++
    (if ns.quotaDeferred then
      " (this quota is below current usage and was therefore not applied to ZFS, " ++
      "so existing workloads keep writing while new volumes are refused)"
    else ""))

def requireRoomInNamespaceQuota : M Unit :=
  if id.ns = "" then return ()
  else do
    let b ← withStatus (Prog.ofExcept (c.reg.backend id.backend))
    let cl ← withStatus (c.reg.client id.backend)
    let ns ← withStatus (ensureNamespace cl id.pool id.parent id.ns
      (b.namespaceQuotas.quotaFor id.ns))
    if fitsQuota ns size then return ()
    else throw (quotaExceeded id ns size)

end Controller

end TruenasCsi.Csi
