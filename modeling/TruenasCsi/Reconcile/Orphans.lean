import TruenasCsi.Backend.Scan

/-! The volumes that are no PersistentVolume's handle. -/

namespace TruenasCsi.Reconcile

/-- A PersistentVolume, as far as it is looked at. -/
structure PersistentVolume where
  csi : Option (String × String)
deriving DecidableEq

/-- The driver's handles among the PersistentVolumes. -/
def volumeHandles (driverName : String) (listed : Except Err (List PersistentVolume)) :
    Except Err (List String) :=
  match listed with
  | .error e => .error (e.wrap "listing PersistentVolumes: ")
  | .ok pvs => .ok (pvs.filterMap fun pv => pv.csi.bind fun (driver, handle) =>
      if driver = driverName then some handle else none)

def strays (handles : List String) (name : String) (b : Backend.Config)
    (datasets : List Appliance.Dataset) : List String :=
  (datasets.filterMap fun d => (Backend.volumeOn name b d).map (·.string)).filter (· ∉ handles)

def runOnce (reg : Backend.Registry) (driverName : String)
    (listed : Except Err (List PersistentVolume)) : M (List String) := do
  let handles ← Prog.ofExcept (volumeHandles driverName listed)
  let orphans ← reg.scan (strays handles) reg.sortedNames
  return orphans.insertionSort (· ≤ ·)

end TruenasCsi.Reconcile
