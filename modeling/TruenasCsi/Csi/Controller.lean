import TruenasCsi.Backend.Nodes
import TruenasCsi.Backend.Registry

/-! What every RPC of the controller uses: capabilities, locks, codes. -/

namespace TruenasCsi.Csi

open Backend Prog

structure Controller where
  reg : Registry
  /-- What is known of the nodes while the RPC runs. -/
  nodes : NodeResolver

inductive AccessMode where
  | unknown
  | singleNodeWriter
  | singleNodeReaderOnly
  | multiNodeReaderOnly
  | multiNodeSingleWriter
  | multiNodeMultiWriter
  | singleNodeSingleWriter
  | singleNodeMultiWriter
deriving DecidableEq

namespace AccessMode

def text : AccessMode → String
  | unknown => "UNKNOWN"
  | singleNodeWriter => "SINGLE_NODE_WRITER"
  | singleNodeReaderOnly => "SINGLE_NODE_READER_ONLY"
  | multiNodeReaderOnly => "MULTI_NODE_READER_ONLY"
  | multiNodeSingleWriter => "MULTI_NODE_SINGLE_WRITER"
  | multiNodeMultiWriter => "MULTI_NODE_MULTI_WRITER"
  | singleNodeSingleWriter => "SINGLE_NODE_SINGLE_WRITER"
  | singleNodeMultiWriter => "SINGLE_NODE_MULTI_WRITER"

end AccessMode

/-- Modes for one node at a time. -/
def singleNode : AccessMode → Bool
  | .singleNodeWriter => true
  | .singleNodeReaderOnly => true
  | .singleNodeSingleWriter => true
  | .singleNodeMultiWriter => true
  | _ => false

inductive AccessClass where
  | rawBlock
  | sharedFilesystem
deriving DecidableEq

def accessClassOf (protocol : String) : AccessClass :=
  if protocol = "nfs" ∨ protocol = "smb" then .sharedFilesystem else .rawBlock

def supportsAccessMode (protocol : String) (m : AccessMode) : Bool :=
  match accessClassOf protocol with
  | .sharedFilesystem => m != .unknown
  | .rawBlock => singleNode m

inductive AccessType where
  | unset
  | block
  | mount (fsType : String)
deriving DecidableEq

structure VolumeCapability where
  accessType : AccessType
  accessMode : AccessMode
deriving DecidableEq

def toStatus (e : Err) : Err :=
  if e.hasChosenCode then e
  else if e.isA .shrinkNotAllowed then .status .invalidArgument e.text
  else .status .internal e.text

def withStatus {α : Type} (p : M α) : M α := p.mapError toStatus

/-- A second request on one volume is turned away. -/
def withLock {α : Type} (key what : String) (body : M α) : M α := do
  if ← process (.tryAcquire key) then
    let result ← body.attempt
    process (.release key)
    Prog.ofExcept result
  else throw (.status .aborted ("another operation is in progress for " ++ what ++ " " ++ key))

def withVolumeLock {α : Type} (id : Volume.ID) (body : M α) : M α := withLock id.string "volume" body

def unknownVolume (handle : String) : Err := .status .notFound ("unknown volume " ++ Text.quote handle)

theorem wp_withStatus_seq {α β : Type} {p : M α} {f : α → M β} {P : Except Err α → World → Prop}
    {Q : Except Err β → World → Prop} {w : World} (first : M.wp p P w)
    (failed : ∀ e t, P (.error e) t → Q (.error (toStatus e)) t)
    (rest : ∀ a t, P (.ok a) t → M.wp (f a) Q t) : M.wp (withStatus p >>= f) Q w := by
  refine wp_bind.mpr (wp_mapError.mpr ?_)
  refine wp_mono first fun r t reached => ?_
  cases r with
  | error e => exact failed e t reached
  | ok a => exact rest a t reached

section

variable {α : Type} {key : String} {body : M α} {busy : Err} {w : World}

/-- A locked body decides the outcome. -/
theorem wp_locked {Q : Except Err α → World → Prop}
    (blind : ∀ r t u, u.appliance = t.appliance → Q r t → Q r u)
    (refused : ∀ e, Q (.error e) w) (locked : ∀ t, t.appliance = w.appliance → M.wp body Q t) :
    M.wp (do
      if ← process (.tryAcquire key) then
        let result ← body.attempt
        process (.release key)
        Prog.ofExcept result
      else throw busy) Q w := by
  refine wp_bind.mpr (wp_process.mpr ?_)
  by_cases taken : key ∈ w.process.volumeLocks
  · simp only [Process.act, taken, if_true]
    exact blind _ _ _ rfl (refused _)
  · simp only [Process.act, taken, if_false]
    refine wp_bind.mpr (wp_attempt.mpr ?_)
    refine wp_mono (locked _ rfl) fun r t done => ?_
    refine wp_bind.mpr (wp_process.mpr ?_)
    exact wp_ofExcept.mpr (blind r t _ rfl done)

theorem yields_locked {Q : α → World → Prop}
    (blind : ∀ a t u, u.appliance = t.appliance → Q a t → Q a u)
    (locked : ∀ t, t.appliance = w.appliance → M.yields body Q t) :
    M.yields (do
      if ← process (.tryAcquire key) then
        let result ← body.attempt
        process (.release key)
        Prog.ofExcept result
      else throw busy) Q w := by
  refine yields_iff_wp.mpr (wp_locked ?_ ?_ ?_)
  · intro r t u same ends a answered
    exact blind a t u same (ends a answered)
  · rintro e a ⟨⟩
  · exact fun t same => yields_iff_wp.mp (locked t same)

end

namespace Controller

variable (c : Controller) (id : Volume.ID)

def requireVolumeExists : M Unit := do
  let cl ← withStatus (c.reg.client id.backend)
  match ← withStatus (cl.datasetQuery id.datasetPath) with
  | some _ => return ()
  | none => throw (.status .notFound ("volume " ++ id.string ++ " does not exist"))

theorem wp_requireVolumeExists {w : World} :
    M.wp (c.requireVolumeExists id) (fun r t => t.appliance = w.appliance ∧
      (r = .ok () → ∃ ds, (w.appliance id.backend).storage.dataset? id.datasetPath = some ds)) w := by
  unfold requireVolumeExists
  refine wp_withStatus_seq (c.reg.wp_client id.backend) ?_ ?_
  · rintro e t ⟨same, -⟩
    exact ⟨same, nofun⟩
  · rintro cl t ⟨same, answered⟩
    obtain ⟨b, -, rfl⟩ := answered cl rfl
    refine ((Truenas.asks_datasetQuery _ id.datasetPath).mapError _).bind
      (fun e => ⟨same, nofun⟩) ?_
    rw [← same]
    cases found : (t.appliance id.backend).storage.dataset? id.datasetPath with
    | none => exact ⟨rfl, nofun⟩
    | some ds => exact ⟨rfl, fun _ => ⟨ds, rfl⟩⟩

theorem yields_requireVolumeExists {w : World} :
    M.yields (c.requireVolumeExists id) (fun _ t => t.appliance = w.appliance ∧
      ∃ d, (w.appliance id.backend).storage.datasets.get? id.datasetPath = some d) w := by
  refine yields_iff_wp.mpr (wp_mono (c.wp_requireVolumeExists id) ?_)
  rintro r t ⟨same, found⟩ a answered
  obtain ⟨ds, seen⟩ := found answered
  obtain ⟨d, present, -⟩ := Option.map_eq_some_iff.mp seen
  exact ⟨same, d, present⟩

end Controller

end TruenasCsi.Csi
