import TruenasCsi.Retention
import TruenasCsi.Volume.Identity
import TruenasCsi.Volume.Publish

/-! What the four protocols share. -/

namespace TruenasCsi

open Volume (ID)

structure Env where
  now : Civil
  /-- How often a busy dataset is tried again. -/
  busyRetries : Nat
  /-- The CHAP secret a fresh credential is given. -/
  secret : String
  /-- The hexadecimal SHA-256 digest of a text. -/
  sha256 : String → String
  /-- A text in lower case, by the tables of Unicode. -/
  toLower : String → String

namespace Backend

open Truenas
open Appliance (Dataset)

/-- A node with the names each protocol knows it by. -/
structure NodeRef where
  id : String
  addrs : List String
  iqn : String := ""
  nqn : String := ""
deriving DecidableEq

structure CreateRequest where
  id : ID
  capacityBytes : Int
  params : Dict String
  /-- The snapshot to clone, or the empty text. -/
  sourceSnapshot : String

structure Provisioned where
  id : ID
  capacityBytes : Int
  context : List (String × String)
deriving DecidableEq

structure Server where
  client : Client
  pool : String
  parent : String
  retire : Retention.Policy
  env : Env

namespace Server

/-- Every request is confined to the backend's pool and parent. -/
def confine (b : Server) (id : ID) : M Unit :=
  (Prog.ofExcept (Volume.confine id b.pool b.parent)).mapError
    fun e => .status .invalidArgument e.text

/-- Retires the dataset under delete protection, and destroys it otherwise. -/
def dispose (b : Server) (id : ID) (destroy : M Unit) : M Unit :=
  Retention.dispose b.client b.retire id b.env.now b.env.busyRetries destroy

end Server

variable (c : Client) (dsPath : String)

def readGrants (id : ID) : M Volume.Grants := do
  let ds ← (c.datasetQuery id.datasetPath).mapError
    fun e => e.wrap ("querying " ++ id.datasetPath ++ ": ")
  match ds with
  | none => throw (.sentinel .volumeGone ("volume does not exist: " ++ id.string))
  | some ds => Prog.ofExcept (Volume.decodeGrants (localProperty ds Volume.publishedProperty))

/-- Writes the ledger to the dataset. -/
def saveGrants (id : ID) (g : Volume.Grants) : M Unit := do
  let encoded ← Prog.ofExcept g.encode
  (c.setUserProperty id.datasetPath Volume.publishedProperty encoded).mapError
    fun e => e.wrap ("recording the publish ledger on " ++ id.datasetPath ++ ": ")

/-- Label a new volume with its claim. -/
def recordIdentity (id : Volume.Identity) : M Unit :=
  if id.empty then return ()
  else do
    let _ ← (c.datasetUpdate dsPath {
      userPropertiesUpdate := id.properties
      zfsProperties := [("comments", id.description)] }).attempt

variable (protocol : String) (ds : Option Dataset) (context : String)

def stampProperties : List (String × String) :=
  [(Volume.ownerIDProperty, dsPath), (Volume.ownerProperty, Volume.ownerValue),
    (Volume.protocolProperty, protocol)]

def stampCloneWith (c : Client) (dsPath : String) : List (String × String) → M Unit
  | [] => return ()
  | (key, value) :: rest => do
    (c.setUserProperty dsPath key value).mapError
      fun e => e.wrap ("stamping " ++ key ++ " on clone " ++ dsPath ++ ": ")
    stampCloneWith c dsPath rest

def stampClone : M Unit :=
  stampCloneWith c dsPath (stampProperties dsPath protocol)

def abandonedCloneOf (r : CreateRequest) : Bool :=
  match ds with
  | none => false
  | some ds =>
    r.sourceSnapshot != "" && (ds.userProperties Volume.ownerProperty).isNone &&
      ds.origin == r.sourceSnapshot

/-- A mountpoint as reported, or by convention. -/
def mountpointOf (dsPath : String) : String :=
  match ds with
  | none => "/mnt/" ++ dsPath
  | some ds => if ds.mountpoint = "" then "/mnt/" ++ dsPath else ds.mountpoint

/-- Keep a chosen code, else Internal. -/
def orInternal (e : Err) : Err :=
  if e.hasChosenCode then e else .status .internal (context ++ e.text)

def asInternal {α : Type} (context : String) (p : M α) : M α :=
  p.mapError fun e => .status .internal (context ++ e.text)

end Backend

end TruenasCsi
