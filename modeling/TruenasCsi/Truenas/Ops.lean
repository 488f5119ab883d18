import TruenasCsi.Appliance.World

/-! The typed calls on datasets, snapshots and exports. -/

namespace TruenasCsi.Truenas

open Appliance Prog

/-- A connection to the appliance of one backend. -/
structure Client where
  name : String
  host : String
deriving DecidableEq

def first {α : Type} (query : M (List α)) : M (Option α) := do
  match ← query.attempt with
  | .ok rows => return rows.head?
  | .error e => if e.isNotFound then return none else throw e

/-- A listing answers with its rows. -/
def rows {α : Type} (query : M (List α)) : M (List α) := do
  match ← query.attempt with
  | .ok rows => return rows
  | .error e => if e.isNotFound then return [] else throw e

def gone (delete : M Unit) : M Unit := do
  match ← delete.attempt with
  | .ok _ => return ()
  | .error e => if e.isNotFound then return () else throw e

namespace Client

variable (c : Client)

def dataset (op : DatasetOp) : M op.Answer := middleware c.name (.dataset op)

def datasetCreate (spec : DatasetSpec) : M Dataset := do
  match ← (c.dataset (.create spec)).attempt with
  | .ok ds => return ds
  | .error e =>
    if e.isParentMissing then
      throw (e.withStatus .failedPrecondition
        ("cannot create " ++ spec.name ++ ": its parent dataset " ++
          (parentOf spec.name).getD spec.name ++ " does not exist on the appliance. " ++
          "The driver never creates the configured parentDataset — create it " ++
          "(or correct the backend's pool/parentDataset) and retry."))
    else throw e

variable (id : String)

def datasetQuery : M (Option Dataset) := first (c.dataset (.query id))

variable (start dataset path name : String)

def datasetList : M (List Dataset) := rows (c.dataset (.list start))

def datasetUpdate (patch : DatasetPatch) : M Dataset := c.dataset (.update id patch)

def setUserProperty (key value : String) : M Unit := do
  let _ ← c.datasetUpdate id { userPropertiesUpdate := [(key, value)] }

def datasetRename (newName : String) (force : Bool) : M Unit :=
  c.dataset (.rename id newName force)

/-- The datasets cloned from a snapshot of `id`. -/
def clonesOf : M (List String) := do
  match ← (c.datasetList ((Text.split '/' id).headD "")).attempt with
  | .error _ => return []
  | .ok all =>
    return ((all.filter fun ds => match Text.split '@' ds.origin with
      | origin :: _ :: _ => origin == id
      | _ => false).map (·.id)).insertionSort (· ≤ ·)

def describeClones : List String → String
  | [] => "volumes cloned from its snapshots still exist"
  | [clone] => "volume " ++ clone ++ " still exists"
  | clones => "volumes " ++ Text.join ", " clones ++ " still exist"

def datasetDelete (recursive force : Bool) : M Unit := do
  match ← (c.dataset (.delete id recursive force)).attempt with
  | .ok _ => return ()
  | .error e =>
    if e.isNotFound then return ()
    else if e.isHasDependentClones then do
      let clones ← c.clonesOf id
      throw (e.withStatus .failedPrecondition (id ++ " cannot be deleted while " ++
        describeClones clones ++ ": delete those first. " ++
        "They were created from a snapshot of this volume, so ZFS keeps this " ++
        "one alive to serve them"))
    else throw e

def recommendedZvolBlocksize (pool : String) : M String := c.dataset (.recommendedZvolBlocksize pool)

def poolQuery : M Pool := do
  match (← c.dataset (.poolQuery name)) with
  | [] => throw (.plain ("pool " ++ Text.quote name ++ " does not exist"))
  | pool :: _ => return pool

def snapshotCreate : M Snapshot :=
  c.dataset (.snapshotCreate dataset name false)

def snapshotCreateRecursive : M Snapshot :=
  c.dataset (.snapshotCreate dataset name true)

def snapshotQuery (id : String) : M (Option Snapshot) := first (c.dataset (.snapshotQuery id))

def snapshotList : M (List Snapshot) := rows (c.dataset (.snapshotList start))

def snapshotDelete (id : String) : M Unit := gone (c.dataset (.snapshotDelete id))

def snapshotClone (snapshot dst : String) (props : List (String × String)) : M Unit :=
  c.dataset (.snapshotClone snapshot dst props)

def setPerm (mode : String) (uid gid : Int) : M Unit :=
  (c.dataset (.setPerm path mode uid gid)).mapError fun e => e.wrap ("filesystem.setperm " ++ path ++ ": ")

def setACL (entries : List (String × String × String)) (uid gid : Int) : M Unit :=
  if entries = [] then
    throw (.plain ("filesystem.setacl " ++ path ++ ": refusing to apply an empty ACL"))
  else
    (c.dataset (.setACL path entries uid gid)).mapError
      fun e => e.wrap ("filesystem.setacl " ++ path ++ ": ")

end Client

/-- A user property set on a dataset, or "". -/
def localProperty (ds : Dataset) (key : String) : String :=
  match ds.userProperties key with
  | some p => if p.source = "LOCAL" then p.value else ""
  | none => ""

/-- The ownership guard on a reported dataset. -/
def verifyOwned (ds : Dataset) : Except Err Unit :=
  Volume.verifyOwned (some ⟨ds.id, ds.userProperties⟩)

/-! A question leaves the world alone and is answered truthfully or not at all. -/

/-- Nothing changes; the answer is `a`, if any. -/
def Asks {α : Type} (p : M α) (w : World) (a : α) : Prop :=
  M.wp p (fun r t => t = w ∧ (r = .ok a ∨ ∃ e, r = .error e)) w

section

variable {α β : Type} {p : M α} {w : World} {a : α} {Q : Except Err β → World → Prop} {f : α → M β}

theorem Asks.bind (asks : Asks p w a)
    (failed : ∀ e, Q (.error e) w) (rest : M.wp (f a) Q w) : M.wp (p >>= f) Q w := by
  refine wp_seq asks ?_ ?_
  · rintro e t ⟨rfl, -⟩
    exact failed e
  · rintro b t ⟨rfl, answered | ⟨e, wrong⟩⟩
    · cases answered
      exact rest
    · cases wrong

theorem Asks.yields (asks : Asks p w a) : M.yields p (fun b t => b = a ∧ t = w) w := by
  refine yields_iff_wp.mpr (wp_mono asks ?_)
  rintro r t ⟨rfl, rfl | ⟨e, rfl⟩⟩ b answered
  · exact ⟨(Except.ok.inj answered).symm, rfl⟩
  · cases answered

theorem Asks.yields_seq (asks : Asks p w a) {Q : β → World → Prop}
    (rest : M.yields (f a) Q w) : M.yields (p >>= f) Q w := by
  refine yields_bind asks.yields ?_
  rintro _ _ ⟨rfl, rfl⟩
  exact rest

theorem Asks.mapError (asks : Asks p w a) (f : Err → Err) : Asks (p.mapError f) w a := by
  refine wp_mapError.mpr (wp_mono asks ?_)
  rintro r t ⟨same, rfl | ⟨e, rfl⟩⟩
  · exact ⟨same, .inl rfl⟩
  · exact ⟨same, .inr ⟨f e, rfl⟩⟩

theorem asks_ofExcept {r : Except Err α} (answer : ∀ b, r = .ok b → b = a) :
    Asks (Prog.ofExcept r) w a := by
  refine wp_ofExcept.mpr ⟨rfl, ?_⟩
  cases r with
  | ok b => exact .inl (by rw [answer b rfl])
  | error e => exact .inr ⟨e, rfl⟩

theorem Asks.attempt_bind (asks : Asks p w a) {f : Except Err α → M β}
    (failed : ∀ e, M.wp (f (.error e)) Q w)
    (rest : M.wp (f (.ok a)) Q w) : M.wp (p.attempt >>= f) Q w := by
  refine wp_bind.mpr (wp_attempt.mpr (wp_mono asks ?_))
  rintro r t ⟨rfl, rfl | ⟨e, rfl⟩⟩
  · exact rest
  · exact failed e

theorem wp_query {backend : String} {op : Op} {answer : op.Answer}
    (readOnly : (w.appliance backend).act op = (.ok answer, w.appliance backend)) :
    M.wp (middleware backend op) (fun r t => t = w ∧
      (r = .ok answer ∨ ∃ e : Failure, r = .error e.err)) w := by
  have unchanged : w.acted backend op = w := by simp [World.acted, readOnly]
  refine wp_middleware.mpr ⟨fun e => ⟨rfl, .inr ⟨e, rfl⟩⟩, fun e => ?_, ?_⟩
  · exact ⟨unchanged, .inr ⟨e, rfl⟩⟩
  · exact ⟨unchanged, .inl (by rw [readOnly])⟩

variable {query : M (List α)} {rows : List α}

theorem wp_first (asks : M.wp query (fun r t => t = w ∧
    (r = .ok rows ∨ ∃ e : Failure, r = .error e.err)) w) : M.wp (first query) (fun r t => t = w ∧
      (r = .ok rows.head? ∨ ∃ e : Failure, r = .error e.err)) w := by
  refine wp_bind.mpr (wp_attempt.mpr (wp_mono asks ?_))
  rintro r t ⟨rfl, rfl | ⟨e, rfl⟩⟩
  · exact ⟨rfl, .inl rfl⟩
  · show Prog.wp World.handle (if e.err.isNotFound then _ else _) _ t
    rw [e.notAbsence]
    exact ⟨rfl, .inr ⟨e, rfl⟩⟩

theorem asks_of_failure {query : M α} (asks : M.wp query (fun r t => t = w ∧
    (r = .ok a ∨ ∃ e : Failure, r = .error e.err)) w) : Asks query w a := by
  refine wp_mono asks ?_
  rintro r t ⟨rfl, rfl | ⟨e, rfl⟩⟩
  · exact ⟨rfl, .inl rfl⟩
  · exact ⟨rfl, .inr ⟨e.err, rfl⟩⟩

theorem asks_first (asks : M.wp query (fun r t => t = w ∧
    (r = .ok rows ∨ ∃ e : Failure, r = .error e.err)) w) : Asks (first query) w rows.head? :=
  asks_of_failure (wp_first asks)

theorem asks_rows (asks : M.wp query (fun r t => t = w ∧
    (r = .ok rows ∨ ∃ e : Failure, r = .error e.err)) w) : Asks (Truenas.rows query) w rows := by
  refine wp_bind.mpr (wp_attempt.mpr (wp_mono asks ?_))
  rintro r t ⟨rfl, rfl | ⟨e, rfl⟩⟩
  · exact ⟨rfl, .inl rfl⟩
  · show Prog.wp World.handle (if e.err.isNotFound then _ else _) _ t
    rw [e.notAbsence]
    exact ⟨rfl, .inr ⟨e.err, rfl⟩⟩

theorem wp_gone {delete : M Unit} {Q : Except Err Unit → World → Prop}
    (ends : M.wp delete (fun r t => Q r t ∧
      ∀ e, r = .error e → e.isNotFound = true → Q (.ok ()) t) w) : M.wp (gone delete) Q w := by
  refine wp_bind.mpr (wp_attempt.mpr (wp_mono ends ?_))
  rintro r t ⟨ended, absent⟩
  cases r with
  | ok _ => exact ended
  | error e =>
    show Prog.wp World.handle (if e.isNotFound then _ else _) _ t
    split_ifs with nothing
    · exact absent e rfl nothing
    · exact ended

theorem wp_datasetQuery (c : Client) (id : String) : M.wp (c.datasetQuery id) (fun r t => t = w ∧
    (r = .ok ((w.appliance c.name).storage.dataset? id) ∨ ∃ e : Failure, r = .error e.err)) w := by
  have answer : ((w.appliance c.name).storage.dataset? id) =
      ((w.appliance c.name).storage.dataset? id).toList.head? := by simp
  rw [answer]
  exact wp_first (wp_query rfl)

theorem asks_datasetQuery (c : Client) (id : String) :
    Asks (c.datasetQuery id) w ((w.appliance c.name).storage.dataset? id) :=
  asks_of_failure (wp_datasetQuery c id)

end

def withProperty (c : Client) (w : World) (id key value : String) : World :=
  w.acted c.name (.dataset (.update id { userPropertiesUpdate := [(key, value)] }))

theorem wp_setUserProperty {c : Client} {w : World} {id key value : String}
    {Q : Except Err Unit → World → Prop} (failed : ∀ e, Q (.error e) w)
    (lost : ∀ e, Q (.error e) (withProperty c w id key value))
    (stored : (Storage.act (.update id { userPropertiesUpdate := [(key, value)] })
        (w.appliance c.name).storage).1.isOk →
      Q (.ok ()) (withProperty c w id key value)) : M.wp (c.setUserProperty id key value) Q w := by
  unfold Client.setUserProperty Client.datasetUpdate Client.dataset M.wp
  rw [wp_bind]
  refine wp_middleware.mpr ⟨fun e => failed _, fun e => lost _, ?_⟩
  cases answer : ((w.appliance c.name).act
      (.dataset (.update id { userPropertiesUpdate := [(key, value)] }))).1 with
  | error e => exact lost e
  | ok ds =>
    have accepted : (Storage.act (.update id { userPropertiesUpdate := [(key, value)] })
        (w.appliance c.name).storage).1 = .ok ds := answer
    exact stored (by rw [accepted]; rfl)

end TruenasCsi.Truenas
