import TruenasCsi.Backend.Scan
import TruenasCsi.Csi.Controller

/-! Every volume of every backend that can be reached, by id, in pages. -/

namespace TruenasCsi.Csi

open Truenas (localProperty)

structure VolumeEntry where
  id : String
  size : Int
  published : List String
deriving DecidableEq

structure ListRequest where
  startingToken : String := ""
  /-- Zero for all that are left. -/
  maxEntries : Int := 0

structure ListResponse where
  entries : List VolumeEntry
  nextToken : String
deriving DecidableEq

/-- The entries a backend's datasets come to. -/
def volumeEntries (name : String) (b : Backend.Config) (datasets : List Appliance.Dataset) :
    List VolumeEntry :=
  datasets.filterMap fun d => (Backend.volumeOn name b d).map fun vid => {
    id := vid.string
    size := if d.type = .volume then d.volSize else d.refQuota
    published := match Volume.decodeGrants (localProperty d Volume.publishedProperty) with
      | .ok grants => grants.nodes
      | .error _ => [] }

/-- A token is the id to go on from. -/
def page (all : List VolumeEntry) (req : ListRequest) : Except Err ListResponse :=
  let start := if req.startingToken = "" then some 0
    else all.findIdx? fun e => e.id == req.startingToken
  match start with
  | none => .error (.status .aborted ("invalid starting_token " ++ Text.quote req.startingToken))
  | some start =>
    let left := all.drop start
    let max := if req.maxEntries ≤ 0 ∨ (left.length : Int) < req.maxEntries then left.length
      else req.maxEntries.toNat
    .ok ⟨left.take max, ((left.drop max).head?.map (·.id)).getD ""⟩

def Controller.listVolumes (c : Controller) (req : ListRequest) : M ListResponse := do
  let all ← withStatus (c.reg.scan volumeEntries c.reg.sortedNames)
  Prog.ofExcept (page (all.insertionSort fun a b => a.id ≤ b.id) req)

end TruenasCsi.Csi
