import TruenasCsi.Support.Label
import TruenasCsi.Support.Time
import TruenasCsi.Truenas.Ops

/-!
# Delete protection

A deleted volume moves into the graveyard of its backend (`retire`) under a free name that carries the
time, and is stamped there; with protection off it is destroyed (`dispose`). `confineToGraveyard` says what
may be destroyed later at all.
-/

namespace TruenasCsi.Retention

open Truenas Volume Text

/-- Where a backend's graveyard is, and how long entries stay. -/
structure Policy where
  pool : String
  parent : String
  graveyard : String
  /-- The grace period in seconds, or zero. -/
  grace : Int
deriving DecidableEq

namespace Policy

def on (p : Policy) : Bool := p.grace > 0 && p.pool != "" && p.parent != "" && p.graveyard != ""

def root (p : Policy) : String := p.pool ++ "/" ++ p.parent ++ "/" ++ p.graveyard

def confineToGraveyard (p : Policy) (id : String) : Except Err Unit :=
  if p.on = false then refuse "delete protection is off, so there is no graveyard"
  else if id = p.root then refuse (quote id ++ " IS the graveyard, not something in it")
  else if startsWith id below = false then
    refuse (quote id ++ " is not under " ++ quote below)
  else
    let rest := id.toList.drop below.toList.length
    if rest = [] then refuse (quote id ++ " names no dataset under " ++ quote below)
    else if '/' ∈ rest then
      refuse (quote id ++ " is " ++ toString (rest.count '/' + 1) ++ " levels below " ++
        quote p.root ++ "; only direct children are ever destroyed")
    else .ok ()
where
  below : String := p.root ++ "/"
  refuse (why : String) : Except Err Unit :=
    .error (.sentinel .outsideGraveyard ("dataset is not inside the graveyard: " ++ why))

end Policy

variable (c : Client) (p : Policy) (id : ID)

def ensureGraveyard : M Unit := do
  let ds ← (c.datasetQuery p.root).mapError
    fun e => e.wrap ("querying graveyard dataset " ++ p.root ++ ": ")
  match ds with
  | some ds =>
    if isGraveyard (localProperty ds graveyardProperty) then return ()
    else throw (.plain ("dataset " ++ p.root ++ " exists but is not this driver's graveyard " ++
      "(no local " ++ graveyardProperty ++ " property): choose another " ++
      "deleteProtection.graveyardDataset, or move that dataset out of the way"))
  | none =>
    let _ ← (c.datasetCreate {
      name := p.root, type := .filesystem
      userProperties := [(ownerProperty, ownerValue),
        (ownerIDProperty, p.root), (graveyardProperty, graveyardValue)] }).mapError
      fun e => e.wrap ("creating graveyard dataset " ++ p.root ++ ": ")

def maxEntryName : Nat := 120

def entryChar (c : Char) : Bool := c.isAlphanum || c == '-' || c == '_' || c == '.'

def sanitiseComponent (s : String) : String :=
  let out := Label.trim '-' (Label.sanitize entryChar s)
  if out = "" ∨ out = "." ∨ out = ".." then "volume" else out

def entryName (deletedAt : Civil) : String :=
  let leaf := if id.ns = "" then id.name else id.ns ++ "-" ++ id.name
  let name := deletedAt.compact ++ "-" ++ sanitiseComponent leaf
  if name.utf8ByteSize > maxEntryName then String.ofList (name.toList.take maxEntryName) else name

def maxEntryAttempts : Nat := 32

def freeEntryFrom (c : Client) (p : Policy) (id : ID) (base : String) (attempt : Nat) :
    Nat → M String
  | 0 => throw (.plain ("no free name for " ++ id.string ++ " in " ++ p.root ++ " after " ++
      toString maxEntryAttempts ++ " attempts"))
  | left + 1 => do
    let name := if attempt > 1 then base ++ "-" ++ toString attempt else base
    let path := p.root ++ "/" ++ name
    let existing ← (c.datasetQuery path).mapError
      fun e => e.wrap ("querying graveyard entry " ++ path ++ ": ")
    match existing with
    | none => return path
    | some _ => freeEntryFrom c p id base (attempt + 1) left

def freeEntry (deletedAt : Civil) : M String :=
  freeEntryFrom c p id (entryName id deletedAt) 1 maxEntryAttempts

/-- Repeat a call while the dataset is busy. -/
def whenReleased (call : M Unit) : Nat → M Unit
  | 0 => call
  | retries + 1 => do
    match ← call.attempt with
    | .ok _ => return ()
    | .error e => if e.isBusy then whenReleased call retries else throw e

def stampAll (c : Client) (dataset : String) : List (String × String) → M Unit
  | [] => return ()
  | (key, value) :: rest => do
    match ← (c.setUserProperty dataset key value).attempt with
    | .ok _ => stampAll c dataset rest
    | .error _ => return ()

/-- Renames the dataset into the graveyard and stamps it. -/
def retire (c : Client) (p : Policy) (id : ID) (now : Civil) (retries : Nat) : M Unit := do
  if !p.on then throw (.plain "retire called with delete protection off")
  (Prog.ofExcept (confine id p.pool p.parent)).mapError
    fun e => e.wrap ("refusing to retire " ++ id.string ++ ": ")
  let src := id.datasetPath
  ensureGraveyard c p
  let dst ← freeEntry c p id now
  (whenReleased (c.datasetRename src dst true) retries).mapError
    fun e => e.wrap ("retiring " ++ src ++ " into " ++ dst ++ ": ")
  stampAll c dst [(ownerIDProperty, dst), (deletedAtProperty, now.rfc3339),
    (retiredFromProperty, id.string)]

/-- With protection on nothing is destroyed here. -/
def dispose (now : Civil) (retries : Nat) (destroy : M Unit) : M Unit :=
  if p.on then retire c p id now retries else destroy

end TruenasCsi.Retention
