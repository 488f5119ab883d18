import TruenasCsi.Appliance.Tree
import TruenasCsi.Backend.Making

/-! What a creation leaves at a volume's path. -/

namespace TruenasCsi.Provisioning

open Appliance Backend Truenas Prog
open Backend.Zvol (yields_undoing)
open Backend.Filesystem Appliance.Storage

/-- What of a dataset says how large it is. -/
structure Gauge where
  type : DatasetType
  volSize : Int
  refQuota : Int
deriving DecidableEq

def gauge (d : DatasetState) : Gauge := ⟨d.type, d.volSize, d.refQuota⟩

def gaugeAt (path : String) (a : State) : Option Gauge :=
  (a.storage.datasets.get? path).map gauge

/-- The size of a zvol, or the quota of a filesystem. -/
def Gauge.capacity (g : Gauge) : Int :=
  match g.type with
  | .volume => g.volSize
  | .filesystem => g.refQuota

/-- Calls that change no size. -/
def Labels (_ : String) : DatasetOp → Prop
  | .update _ patch => patch.volSize = none ∧ patch.refQuota = none
  | .setPerm _ _ _ _ => True
  | .setACL _ _ _ _ => True
  | _ => False

theorem gauge_patched {patch : DatasetPatch} (sizeless : patch.volSize = none ∧ patch.refQuota = none)
    (d : DatasetState) : gauge (patched d patch) = gauge d := by
  simp [gauge, patched, sizeless]

theorem gauge_update {id : String} {patch : DatasetPatch}
    (sizeless : patch.volSize = none ∧ patch.refQuota = none) (s : Storage) (path : String) :
    ((act (.update id patch) s).2.datasets.get? path).map gauge =
      (s.datasets.get? path).map gauge := by
  cases ended : act (.update id patch) s with
  | mk r s' =>
    cases r with
    | error e =>
      have refused : (act (.update id patch) s).1 = .error e := by rw [ended]
      have same := act_error refused
      rw [ended] at same
      rw [show s' = s from same]
    | ok ds =>
      obtain ⟨d, found, -, rfl⟩ := act_update_ok ended
      by_cases here : path = id
      · subst here
        simp [put, found, gauge_patched sizeless]
      · simp [put, Dict.get?_set_ne _ _ here]

section

variable {α : Type} {p : M α}

/-- A program of such calls keeps every size. -/
theorem keeps_gauge (within : M.Within Labels p) (path : String) : M.Keeps (gaugeAt path) p := by
  refine within.keeps (fun a b same => by simp only [gaugeAt, same]) fun backend op a labels => ?_
  cases op with
  | update id patch => exact gauge_update labels a.storage path
  | setPerm path' mode uid gid => rfl
  | setACL path' entries uid gid => rfl
  | _ => cases labels

theorem yields_labels (within : M.Within Labels p) {w : World} {g : Option Gauge}
    {backend path : String} (sized : gaugeAt path (w.appliance backend) = g) :
    M.yields p (fun _ t => gaugeAt path (t.appliance backend) = g) w :=
  (keeps_gauge within path).yields sized

end

theorem labels_update (backend id : String) (patch : DatasetPatch) (only : Labelling patch) :
    Labels backend (.update id patch) :=
  ⟨only.1, only.2.1⟩

section

variable {c : Client} {w : World} {path : String}

theorem gaugeAt_acted (op : DatasetOp) : gaugeAt path ((w.acted c.name (.dataset op)).appliance c.name) =
    ((act op (w.appliance c.name).storage).2.datasets.get? path).map gauge := by
  rw [World.acted, World.setAppliance_self]
  rfl

theorem yields_create {spec : DatasetSpec} (named : spec.name = path) :
    M.yields (c.datasetCreate spec) (fun _ t =>
      gaugeAt path (t.appliance c.name) = some (gauge (newDataset spec))) w := by
  have made : M.yields (c.dataset (.create spec)) (fun _ t =>
      gaugeAt path (t.appliance c.name) = some (gauge (newDataset spec))) w := by
    refine yields_middleware fun ds answered => ?_
    have done : act (.create spec) (w.appliance c.name).storage =
      (.ok ds, (act (.create spec) (w.appliance c.name).storage).2) := Prod.ext answered rfl
    obtain ⟨-, same⟩ := act_create_ok done
    rw [gaugeAt_acted, same, named]
    simp [put]
  refine yields_bind (yields_attempt (yields_iff_wp.mp made)) fun r t ended => ?_
  cases r with
  | ok ds => exact yields_ret (ended ds rfl)
  | error e =>
    dsimp only
    split_ifs <;> exact yields_fail

theorem yields_clone (snapshot : String) (props : List (String × String)) :
    M.yields (c.snapshotClone snapshot path props) (fun _ t => ∃ snap,
      (w.appliance c.name).storage.snapshot? snapshot = some snap ∧
        gaugeAt path (t.appliance c.name) = some ⟨snap.type, snap.volSize, 0⟩) w := by
  refine yields_middleware fun _ answered => ?_
  have done : act (.snapshotClone snapshot path props) (w.appliance c.name).storage = (.ok (),
    (act (.snapshotClone snapshot path props) (w.appliance c.name).storage).2) :=
    Prod.ext answered rfl
  obtain ⟨snap, found, -, same⟩ := act_snapshotClone_ok done
  refine ⟨snap, found, ?_⟩
  rw [gaugeAt_acted, same]
  simp [put, gauge, cloneOf]

theorem yields_resize {patch : DatasetPatch} {g : Gauge}
    (sized : gaugeAt path (w.appliance c.name) = some g) :
    M.yields (c.datasetUpdate path patch) (fun _ t =>
      (patch.volSize.isSome → g.type = .volume) ∧ (patch.refQuota.isSome → g.type = .filesystem) ∧
        gaugeAt path (t.appliance c.name) =
          some ⟨g.type, patch.volSize.getD g.volSize, patch.refQuota.getD g.refQuota⟩) w := by
  refine yields_middleware fun ds answered => ?_
  have done : act (.update path patch) (w.appliance c.name).storage =
    (.ok ds, (act (.update path patch) (w.appliance c.name).storage).2) := Prod.ext answered rfl
  obtain ⟨d, found, accepted, same⟩ := act_update_ok done
  rw [gaugeAt_acted, same]
  have measured : gauge d = g := by simpa [gaugeAt, found] using sized
  have fits : misfit d patch = false := by
    unfold refusePatch at accepted
    by_contra misfit
    rw [if_pos (by simpa using misfit)] at accepted
    cases accepted
  subst measured
  refine ⟨?_, ?_, by simp [put, gauge, patched]⟩
  · intro given
    cases kind : d.type with
    | volume => exact kind
    | filesystem => simp [misfit, kind, given] at fits
  · intro given
    cases kind : d.type with
    | filesystem => exact kind
    | volume => simp [misfit, kind, given] at fits

end

section

variable {c : Client} {w : World} {path : String}

/-- That size, or the zvol that was there. -/
def Quota (path : String) (size : Int) (before : Option Gauge) (a : State) : Prop :=
  ∃ g, gaugeAt path a = some g ∧ g.refQuota = size ∧
    match before with
    | none => g.type = .filesystem
    | some g₀ => g.type = g₀.type ∧ g.volSize = g₀.volSize

variable {size : Int} {before : Option Gauge} {r : CreateRequest} {d : DatasetState} {b : Server}
  {patch : DatasetPatch} {backend : String}

theorem Quota.labels {α : Type} {p : M α}
    (sized : Quota path size before (w.appliance backend)) (within : M.Within Labels p) :
    M.yields p (fun _ t => Quota path size before (t.appliance backend)) w := by
  obtain ⟨g, here, rest⟩ := sized
  exact yields_mono (yields_labels within here) fun _ _ kept => ⟨g, kept, rest⟩

theorem yields_fs_repairClone {protocol patching : String}
    {g : Gauge} (resizes : patch.refQuota = some size) (keeps : patch.volSize = none)
    (sized : gaugeAt path (w.appliance c.name) = some g) :
    M.yields (Filesystem.repairClone c protocol path patch patching) (fun _ t =>
      g.type = .filesystem ∧
        gaugeAt path (t.appliance c.name) = some ⟨g.type, g.volSize, size⟩) w := by
  have stamps : M.Within Labels (stampClone c path protocol) :=
    within_stampClone (labels_update _ _) _
  refine yields_bind (yields_rescue (yields_labels stamps sized)
    fun e t => Filesystem.yields_abandonClone) fun _ t sized => ?_
  refine yields_bind (yields_rescue (yields_resize sized)
    fun e t => Filesystem.yields_abandonClone) ?_
  rintro _ u ⟨-, kind, sized⟩
  rw [resizes, keeps] at sized
  refine yields_rescue ?_ fun e t => Filesystem.yields_abandonClone
  refine yields_mono (asks_datasetQuery c path).yields ?_
  rintro ds v ⟨-, rfl⟩
  exact ⟨kind (by rw [resizes]; rfl), sized⟩

theorem yields_fs_restore {protocol patching snapshot : String}
    (resizes : patch.refQuota = some size) (keeps : patch.volSize = none) :
    M.yields (do
      Filesystem.cloneInto c snapshot path
      Filesystem.repairClone c protocol path patch patching)
      (fun _ t => Quota path size none (t.appliance c.name)) w := by
  refine yields_bind (yields_mapError (yields_clone snapshot [])) ?_
  rintro _ t ⟨snap, -, sized⟩
  refine yields_mono (yields_fs_repairClone resizes keeps sized) ?_
  rintro _ u ⟨kind, sized⟩
  exact ⟨_, sized, rfl, kind⟩

theorem yields_fs_createEmpty {spec : DatasetSpec} (named : spec.name = path)
    (kind : spec.type = .filesystem) (bounded : spec.refQuota = size) (positive : 0 < size) :
    M.yields (Filesystem.createEmpty c spec)
      (fun _ t => Quota path size none (t.appliance c.name)) w := by
  refine yields_bind (yields_mapError (yields_create named)) fun ds t made =>
    yields_ret ⟨_, made, ?_, ?_⟩
  · simp [gauge, newDataset, kind, bounded, positive]
  · simp [gauge, newDataset, kind]

theorem yields_identified {made : M (Option Dataset)}
    (id : Volume.Identity)
    (sized : M.yields made (fun _ t => Quota path size before (t.appliance c.name)) w) :
    M.yields (made >>= fun ds => recordIdentity c path id >>= fun _ => pure ds)
      (fun _ t => Quota path size before (t.appliance c.name)) w := by
  refine yields_bind sized fun ds t sized => ?_
  refine yields_bind (sized.labels (within_recordIdentity (labels_update _ _) _))
    fun _ u sized => ?_
  exact yields_ret sized

theorem yields_nfs_finish (params : Nfs.Params) (mountpoint : String)
    (sized : Quota r.id.datasetPath size before (w.appliance c.name)) :
    M.yields (Nfs.finish c r params mountpoint) (fun v t => v.id = r.id ∧
      v.capacityBytes = r.capacityBytes ∧
        Quota r.id.datasetPath size before (t.appliance c.name)) w := by
  have permits : M.Within Labels (asInternal ("set permissions on " ++ mountpoint ++ ": ")
      (c.setPerm mountpoint params.mode params.uid params.gid)) :=
    within_asInternal (emits_mapError.mpr (within_dataset.mpr (.inr trivial)))
  refine yields_bind (yields_rescue (sized.labels permits)
    fun e t => yields_rollback) fun _ t sized => ?_
  refine yields_bind (yields_rescue (sized.labels (Nfs.within_ensureShare _ _))
    fun e t => yields_rollback) fun _ t sized => ?_
  refine yields_bind (yields_rescue
    (sized.labels (Nfs.within_recordMountPolicy (labels_update _ _) _))
    fun e t => yields_rollback) fun _ t sized => ?_
  exact yields_ret ⟨rfl, rfl, sized⟩

/-- A filesystem that is there is adopted only with the quota that was asked for. -/
theorem yields_sameSize {existing : Dataset} :
    M.yields (Filesystem.sameSize r existing)
      (fun _ t => t = w ∧ existing.refQuota = r.capacityBytes) w := by
  unfold Filesystem.sameSize
  split_ifs with different
  · exact yields_fail
  · exact yields_ret ⟨rfl, not_not.mp different⟩

theorem quota_of_existing
    (found : (w.appliance backend).storage.datasets.get? path = some d) (same : d.refQuota = size) :
    Quota path size (gaugeAt path (w.appliance backend)) (w.appliance backend) := by
  have here : gaugeAt path (w.appliance backend) = some (gauge d) := by simp [gaugeAt, found]
  rw [here]
  exact ⟨gauge d, here, same, rfl, rfl⟩

/-- The answer is the volume that was asked for. -/
def Sized (b : Server) (r : CreateRequest) (w : World) (v : Provisioned) (t : World) : Prop :=
  v.id = r.id ∧ v.capacityBytes = r.capacityBytes ∧
    Quota r.id.datasetPath r.capacityBytes (gaugeAt r.id.datasetPath (w.appliance b.client.name))
      (t.appliance b.client.name)

theorem yields_nfs_adopt (params : Nfs.Params)
    (found : (w.appliance b.client.name).storage.datasets.get? r.id.datasetPath = some d) :
    M.yields (Nfs.adopt b.client r params ((w.appliance b.client.name).storage.view r.id.datasetPath d))
      (Sized b r w) w := by
  refine yields_bind yields_sameSize ?_
  rintro _ t ⟨rfl, same⟩
  have sized := quota_of_existing found same
  refine yields_bind (sized.labels (Nfs.within_ensureShare _ _)) fun _ u sized => ?_
  refine yields_bind
    (sized.labels (Nfs.within_recordMountPolicy (labels_update _ _) _)) fun _ u sized => ?_
  exact yields_ret ⟨rfl, rfl, sized⟩

theorem yields_smb_finish (params : Smb.Params) (mountpoint : String)
    (sized : Quota r.id.datasetPath size before (w.appliance b.client.name)) :
    M.yields (Smb.finish b r params mountpoint) (fun v t => v.id = r.id ∧
      v.capacityBytes = r.capacityBytes ∧
        Quota r.id.datasetPath size before (t.appliance b.client.name)) w := by
  unfold Smb.finish
  generalize Smb.dacl params.mode = entries
  have permits : M.Within Labels (asInternal ("set ACL on " ++ mountpoint ++ ": ")
      (b.client.setACL mountpoint entries params.uid params.gid)) :=
    within_asInternal (emits_if (fun _ => trivial) fun _ =>
      emits_mapError.mpr (within_dataset.mpr (.inr trivial)))
  refine yields_bind (yields_rescue (sized.labels permits)
    fun e t => yields_rollback) fun _ t sized => ?_
  refine yields_bind (yields_rescue (sized.labels (Smb.within_ensureShare _ _))
    fun e t => yields_rollback) fun _ t sized => ?_
  refine yields_bind
    (sized.labels (Smb.within_recordMountOptions (labels_update _ _) _)) fun _ t sized => ?_
  exact yields_ret ⟨rfl, rfl, sized⟩

theorem yields_smb_adopt (params : Smb.Params)
    (found : (w.appliance b.client.name).storage.datasets.get? r.id.datasetPath = some d) :
    M.yields (Smb.adopt b r params ((w.appliance b.client.name).storage.view r.id.datasetPath d))
      (Sized b r w) w := by
  refine yields_bind yields_sameSize ?_
  rintro _ t ⟨rfl, same⟩
  have sized := quota_of_existing found same
  refine yields_bind (sized.labels (Smb.within_ensureShare _ _)) fun _ u sized => ?_
  refine yields_bind
    (sized.labels (Smb.within_recordMountOptions (labels_update _ _) _)) fun _ u sized => ?_
  exact yields_ret ⟨rfl, rfl, sized⟩

theorem yields_positiveCapacity :
    M.yields (Filesystem.positiveCapacity r) (fun _ t => t = w ∧ 0 < r.capacityBytes) w := by
  unfold Filesystem.positiveCapacity
  split_ifs with none
  · exact yields_fail
  · exact yields_ret ⟨rfl, not_le.mp none⟩

theorem asks_confine (b : Server) (id : Volume.ID) : Asks (b.confine id) w () :=
  (asks_ofExcept fun _ _ => rfl).mapError _

theorem yields_fs_dataset {spec : DatasetSpec} {patch : DatasetPatch}
    {protocol patching snapshot : String} (named : spec.name = path) (kind : spec.type = .filesystem)
    (bounded : spec.refQuota = size) (resizes : patch.refQuota = some size)
    (keeps : patch.volSize = none) (positive : 0 < size) :
    M.yields (if snapshot = "" then Filesystem.createEmpty c spec else do
      Filesystem.cloneInto c snapshot path
      Filesystem.repairClone c protocol path patch patching)
      (fun _ t => Quota path size none (t.appliance c.name)) w := by
  split_ifs
  · exact yields_fs_createEmpty named kind bounded positive
  · exact yields_fs_restore resizes keeps

/-- What a creation leaves, for any protocol. -/
theorem yields_fs_create {β : Type} {params : Except Err β} {adopt : β → Dataset → M Provisioned}
    {repair provision : M (Option Dataset)} {finish : β → String → M Provisioned}
    {identity : Volume.Identity}
    (adopts : ∀ p d, (w.appliance b.client.name).storage.datasets.get? r.id.datasetPath = some d →
      M.yields (adopt p ((w.appliance b.client.name).storage.view r.id.datasetPath d))
        (Sized b r w) w)
    (repairs : ∀ g, gaugeAt r.id.datasetPath (w.appliance b.client.name) = some g →
      M.yields repair (fun _ t => g.type = .filesystem ∧ gaugeAt r.id.datasetPath
        (t.appliance b.client.name) = some ⟨g.type, g.volSize, r.capacityBytes⟩) w)
    (provisions : 0 < r.capacityBytes → M.yields provision (fun _ t =>
      Quota r.id.datasetPath r.capacityBytes none (t.appliance b.client.name)) w)
    (finishes : ∀ p mp before t,
      Quota r.id.datasetPath r.capacityBytes before (t.appliance b.client.name) →
      M.yields (finish p mp) (fun v u => v.id = r.id ∧ v.capacityBytes = r.capacityBytes ∧
        Quota r.id.datasetPath r.capacityBytes before (u.appliance b.client.name)) t) :
    M.yields (do
      b.confine r.id
      Filesystem.positiveCapacity r
      let p ← Prog.ofExcept params
      let existing ← Filesystem.queryDataset b r.id
      match abandonedCloneOf existing r, existing with
      | false, some existing => adopt p existing
      | true, _ =>
        let ds ← repair
        recordIdentity b.client r.id.datasetPath identity
        finish p (mountpointOf ds r.id.datasetPath)
      | false, none =>
        let ds ← provision
        finish p (mountpointOf ds r.id.datasetPath)) (Sized b r w) w := by
  refine (asks_confine b r.id).yields_seq (yields_bind yields_positiveCapacity ?_)
  rintro _ w ⟨rfl, positive⟩
  refine yields_bind (yields_ofExcept fun p parsed => (rfl : w = w)) ?_
  rintro params _ rfl
  refine ((asks_datasetQuery b.client r.id.datasetPath).mapError _).yields_seq ?_
  unfold Sized
  cases found : (w.appliance b.client.name).storage.datasets.get? r.id.datasetPath with
  | none =>
    have empty : gaugeAt r.id.datasetPath (w.appliance b.client.name) = none := by
      simp [gaugeAt, found]
    have absent : (w.appliance b.client.name).storage.dataset? r.id.datasetPath = none := by
      simp [dataset?, found]
    rw [absent, empty]
    exact yields_bind (provisions positive) fun ds t sized => finishes params _ _ t sized
  | some d =>
    rw [dataset?_of_get? found]
    cases abandoned : abandonedCloneOf
        (some ((w.appliance b.client.name).storage.view r.id.datasetPath d)) r with
    | false => exact adopts params d found
    | true =>
      have here : gaugeAt r.id.datasetPath (w.appliance b.client.name) = some (gauge d) := by
        simp [gaugeAt, found]
      rw [here]
      refine yields_bind (repairs _ here) ?_
      rintro ds t ⟨-, sized⟩
      have quota : Quota r.id.datasetPath r.capacityBytes (some (gauge d))
          (t.appliance b.client.name) := ⟨_, sized, rfl, rfl, rfl⟩
      refine yields_bind (quota.labels (within_recordIdentity (labels_update _ _) _))
        fun _ u sized => ?_
      exact finishes params _ _ u sized

/-- After a creation that succeeded the quota is the requested size. -/
theorem yields_nfs_create (b : Server) (r : CreateRequest) :
    M.yields (Nfs.create b r) (Sized b r w) w :=
  yields_fs_create (fun p _ found => yields_nfs_adopt p found)
    (fun _ here => yields_fs_repairClone rfl rfl here)
    (fun positive => yields_identified _ (yields_fs_dataset rfl rfl rfl rfl rfl positive))
    fun p mp _ _ sized => yields_nfs_finish p mp sized

theorem yields_smb_create (b : Server) (r : CreateRequest) :
    M.yields (Smb.create b r) (Sized b r w) w :=
  yields_fs_create (fun p _ found => yields_smb_adopt p found)
    (fun _ here => yields_fs_repairClone rfl rfl here)
    (fun positive => yields_identified _ (yields_fs_dataset rfl rfl rfl rfl rfl positive))
    fun p mp _ _ sized => yields_smb_finish p mp sized

end

/-- What a block volume is left with. -/
def Blocked (a : State) (r : CreateRequest) (g : Gauge) : Prop :=
  match gaugeAt r.id.datasetPath a with
  | some g₀ => g = g₀
  | none =>
    if r.sourceSnapshot = "" then g = ⟨.volume, r.capacityBytes, 0⟩
    else ∃ snap, a.storage.snapshot? r.sourceSnapshot = some snap ∧
      (snap.volSize < r.capacityBytes → snap.type = .volume) ∧
      g = ⟨snap.type, max snap.volSize r.capacityBytes, 0⟩

section

variable {c : Client} {w : World} {protocol : String} {r : CreateRequest} {sparse : Bool}
  {volBlockSize : String}

theorem yields_finishClone {g : Gauge} (positive : 0 < r.capacityBytes)
    (sized : gaugeAt r.id.datasetPath (w.appliance c.name) = some g) :
    M.yields (Zvol.finishClone c protocol r) (fun _ t =>
      (g.volSize < r.capacityBytes → g.type = .volume) ∧
        gaugeAt r.id.datasetPath (t.appliance c.name) =
          some ⟨g.type, max g.volSize r.capacityBytes, g.refQuota⟩) w := by
  have stamps : M.Within Labels (stampClone c r.id.datasetPath protocol) :=
    within_stampClone (labels_update _ _) _
  refine yields_bind (yields_labels stamps sized) fun _ t sized => ?_
  refine ((asks_datasetQuery c r.id.datasetPath).mapError _).yields_seq ?_
  obtain ⟨d, found, rfl⟩ := Option.map_eq_some_iff.mp sized
  rw [dataset?_of_get? found]
  dsimp only
  split_ifs with small
  · -- The clone is smaller than the request and is grown.
    refine yields_bind (yields_mapError (yields_resize sized)) ?_
    rintro _ u ⟨kind, -, resized⟩
    refine yields_ret ⟨fun _ => kind rfl, ?_⟩
    have grown : max (gauge d).volSize r.capacityBytes = r.capacityBytes :=
      max_eq_right (le_of_lt small.2)
    rw [resized, grown]
    rfl
  · have large : r.capacityBytes ≤ d.volSize := not_lt.mp fun less => small ⟨positive, less⟩
    refine yields_ret ⟨fun less => absurd less (not_lt.mpr large), ?_⟩
    have kept : max (gauge d).volSize r.capacityBytes = (gauge d).volSize := max_eq_left large
    rw [sized, kept]

theorem yields_cloneZvol (positive : 0 < r.capacityBytes) :
    M.yields (Zvol.cloneZvol c protocol r sparse) (fun _ t => ∃ snap,
      (w.appliance c.name).storage.snapshot? r.sourceSnapshot = some snap ∧
      (snap.volSize < r.capacityBytes → snap.type = .volume) ∧
      gaugeAt r.id.datasetPath (t.appliance c.name) =
        some ⟨snap.type, max snap.volSize r.capacityBytes, 0⟩) w := by
  refine yields_bind (yields_mapError (yields_clone r.sourceSnapshot _)) ?_
  rintro _ t ⟨snap, found, sized⟩
  refine yields_mono (yields_undoing (yields_finishClone positive sized)) ?_
  rintro _ u ⟨kind, grown⟩
  exact ⟨snap, found, kind, grown⟩

theorem yields_createZvol :
    M.yields (Zvol.createZvol c protocol r sparse volBlockSize) (fun _ t =>
      gaugeAt r.id.datasetPath (t.appliance c.name) = some ⟨.volume, r.capacityBytes, 0⟩) w := by
  refine yields_bind yields_trivial fun blocksize t _ => ?_
  refine yields_bind (yields_mapError (yields_create rfl)) fun _ u made => ?_
  exact yields_ret made

/-- A zvol that is there is taken as it is, whatever its size. -/
theorem yields_ensureZvol (positive : 0 < r.capacityBytes) :
    M.yields (Zvol.ensureZvol c protocol r sparse volBlockSize) (fun _ t => ∃ g,
      gaugeAt r.id.datasetPath (t.appliance c.name) = some g ∧ Blocked (w.appliance c.name) r g) w := by
  unfold Zvol.ensureZvol
  generalize Volume.identityFrom r.params = identity
  have identifies : M.Within Labels (recordIdentity c r.id.datasetPath identity) :=
    within_recordIdentity (labels_update _ _) _
  refine ((asks_datasetQuery c r.id.datasetPath).mapError _).yields_seq ?_
  cases found : (w.appliance c.name).storage.datasets.get? r.id.datasetPath with
  | some d =>
    -- Whatever is there stays; an abandoned clone is stamped again.
    have here : gaugeAt r.id.datasetPath (w.appliance c.name) = some (gauge d) := by
      simp [gaugeAt, found]
    have kept : Blocked (w.appliance c.name) r (gauge d) := by
      rw [Blocked, here]
    rw [dataset?_of_get? found]
    dsimp only
    split_ifs
    · refine yields_bind (yields_labels (within_stampClone (labels_update _ _) _) here)
        fun _ t here => ?_
      refine yields_bind (yields_labels identifies here) fun _ t here => ?_
      exact yields_ret ⟨_, here, kept⟩
    · exact yields_ret ⟨_, here, kept⟩
  | none =>
    have empty : gaugeAt r.id.datasetPath (w.appliance c.name) = none := by simp [gaugeAt, found]
    have absent : (w.appliance c.name).storage.dataset? r.id.datasetPath = none := by
      simp [dataset?, found]
    rw [absent]
    dsimp only
    split_ifs with blank
    · refine yields_bind yields_createZvol fun _ t made => ?_
      refine yields_bind (yields_labels identifies made) fun _ t made => ?_
      refine yields_ret ⟨_, made, ?_⟩
      rw [Blocked, empty]
      simp [blank]
    · refine yields_bind (yields_cloneZvol positive) ?_
      rintro _ t ⟨snap, snapped, kind, made⟩
      refine yields_bind (yields_labels identifies made) fun _ t made => ?_
      refine yields_ret ⟨_, made, ?_⟩
      rw [Blocked, empty]
      simpa [blank] using ⟨snap, snapped, kind, rfl, rfl⟩

theorem yields_iscsi_create (b : Server) (positive : 0 < r.capacityBytes) :
    M.yields (Iscsi.create b r) (fun v t => v.id = r.id ∧ v.capacityBytes = r.capacityBytes ∧
      ∃ g, gaugeAt r.id.datasetPath (t.appliance b.client.name) = some g ∧
        Blocked (w.appliance b.client.name) r g) w := by
  unfold Iscsi.create
  generalize Iscsi.extentName b.env.sha256 r.id = extentName
  refine yields_bind (yields_ofExcept fun p _ => (rfl : w = w)) ?_
  rintro p _ rfl
  refine yields_bind (yields_ensureZvol positive) ?_
  rintro made t ⟨g, sized, blocked⟩
  refine yields_bind (yields_undoing (yields_labels (Iscsi.within_ensureExtent _ _) sized)) ?_
  rintro ⟨extent, madeExtent⟩ t sized
  refine yields_bind (yields_undoing (yields_labels (Iscsi.within_ensureTarget _ _) sized)) ?_
  rintro ⟨target, iqn⟩ t sized
  refine yields_bind (yields_undoing
    (yields_labels (Iscsi.within_contextFor _ _ _ _ _) sized)) fun pc t sized => ?_
  exact yields_ret ⟨rfl, rfl, g, sized, blocked⟩

theorem yields_requireTransport (p : Nvme.Params) :
    M.yields (Nvme.requireTransport c p) (fun _ t => t = w) w := by
  refine ((asks_of_failure (wp_query rfl)).mapError _).yields_seq ?_
  split_ifs
  · exact yields_fail
  · exact yields_ret rfl

theorem yields_nvme_create (b : Server) (positive : 0 < r.capacityBytes) :
    M.yields (Nvme.create b r) (fun v t => v.id = r.id ∧ v.capacityBytes = r.capacityBytes ∧
      ∃ g, gaugeAt r.id.datasetPath (t.appliance b.client.name) = some g ∧
        Blocked (w.appliance b.client.name) r g) w := by
  unfold Nvme.create
  generalize Nvme.subsystemName b.env.sha256 r.id = name
  generalize Nvme.devicePath r.id = device
  refine yields_bind (yields_ofExcept fun p _ => (rfl : w = w)) ?_
  rintro p _ rfl
  refine yields_bind (yields_requireTransport p) ?_
  rintro _ _ rfl
  refine yields_bind (yields_ensureZvol positive) ?_
  rintro made t ⟨g, sized, blocked⟩
  refine yields_bind (yields_undoing (yields_labels (Nvme.within_ensureSubsystem _ _) sized)) ?_
  rintro ⟨subsys, madeSubsys⟩ t sized
  refine yields_bind (yields_undoing
    (yields_labels (Nvme.within_ensureNamespace _ _) sized)) fun ns t sized => ?_
  refine yields_bind (yields_undoing
    (yields_labels (Nvme.within_ensurePort _) sized)) fun port t sized => ?_
  refine yields_bind (yields_undoing
    (yields_labels (Nvme.within_recordPort (labels_update _ _) _) sized)) fun _ t sized => ?_
  refine yields_bind (yields_undoing
    (yields_labels (Nvme.within_ensureHostACL _ _) sized)) fun hosts t sized => ?_
  refine yields_bind (yields_undoing (yields_labels emits_ofExcept sized)) fun portal t sized => ?_
  exact yields_ret ⟨rfl, rfl, g, sized, blocked⟩

end

section

variable {b : Server} {id : Volume.ID} {bytes : Int} {w : World}

/-- The requested size, on a dataset of its kind. -/
def Grown (kind : DatasetType) (path : String) (bytes : Int) (a₀ a : State) : Prop :=
  ∃ g₀ g, gaugeAt path a₀ = some g₀ ∧ gaugeAt path a = some g ∧
    (g.capacity = bytes ↔ g₀.type = kind ∨ g₀.capacity = bytes)

theorem yields_fs_expand : M.yields (Filesystem.expand b id bytes) (fun n t => n = bytes ∧
    Grown .filesystem id.datasetPath bytes (w.appliance b.client.name)
      (t.appliance b.client.name)) w := by
  refine (asks_confine b id).yields_seq ?_
  refine ((asks_datasetQuery b.client id.datasetPath).mapError _).yields_seq ?_
  cases found : (w.appliance b.client.name).storage.datasets.get? id.datasetPath with
  | none =>
    rw [show (w.appliance b.client.name).storage.dataset? id.datasetPath = none by
      simp [dataset?, found]]
    exact yields_fail
  | some d =>
    have here : gaugeAt id.datasetPath (w.appliance b.client.name) = some (gauge d) := by
      simp [gaugeAt, found]
    rw [dataset?_of_get? found]
    refine yields_bind (yields_ofExcept fun _ _ => (rfl : w = w)) ?_
    rintro _ _ rfl
    dsimp only
    split_ifs with smaller same
    · exact yields_fail
    · -- The quota is what is asked for, and is left as it is.
      refine yields_ret ⟨same.symm, gauge d, gauge d, here, here, ?_⟩
      refine ⟨.inr, ?_⟩
      rintro (kind | whole)
      · unfold Gauge.capacity
        rw [kind]
        exact same.symm
      · exact whole
    · refine yields_bind (yields_mapError (yields_resize here)) ?_
      rintro _ t ⟨-, kind, resized⟩
      have filesystem : d.type = .filesystem := kind rfl
      refine yields_ret ⟨rfl, gauge d, _, here, resized, ?_⟩
      simp [Gauge.capacity, gauge, filesystem]

/-- The dataset ends with the size exactly if it is a zvol or had it. -/
theorem yields_zvol_expand : M.yields (Zvol.expand b id bytes) (fun n t => n = bytes ∧
    Grown .volume id.datasetPath bytes (w.appliance b.client.name) (t.appliance b.client.name)) w := by
  refine ((asks_datasetQuery b.client id.datasetPath).mapError _).yields_seq ?_
  cases found : (w.appliance b.client.name).storage.datasets.get? id.datasetPath with
  | none =>
    rw [show (w.appliance b.client.name).storage.dataset? id.datasetPath = none by
      simp [dataset?, found]]
    exact yields_fail
  | some d =>
    have here : gaugeAt id.datasetPath (w.appliance b.client.name) = some (gauge d) := by
      simp [gaugeAt, found]
    rw [dataset?_of_get? found]
    dsimp only
    split_ifs with smaller same
    · exact yields_fail
    · refine yields_ret ⟨same.symm, gauge d, gauge d, here, here, ?_⟩
      refine ⟨.inr, ?_⟩
      rintro (kind | whole)
      · unfold Gauge.capacity
        rw [kind]
        exact same.symm
      · exact whole
    · refine yields_bind (yields_mapError (yields_resize here)) ?_
      rintro _ t ⟨kind, -, resized⟩
      have volume : d.type = .volume := kind rfl
      refine yields_ret ⟨rfl, gauge d, _, here, resized, ?_⟩
      simp [Gauge.capacity, gauge, volume]

end

end TruenasCsi.Provisioning
