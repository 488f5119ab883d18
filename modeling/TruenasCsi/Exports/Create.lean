import TruenasCsi.Backend.Making
import TruenasCsi.Fencing.Shares

/-! A creation that succeeds leaves a dataset and a share at its mountpoint. -/

namespace TruenasCsi.Exports

open Backend Truenas Appliance
open Fencing (Export exportAt rewritten Rewrote Shared datasetOf mountpoint)
open Prog
open Volume (ID)
open Backend.Filesystem Appliance.Storage

/-- A dataset's mountpoint, and a path's share. -/
def footing (p : Protocol) (path mp : String) (a : State) : Option String × Option Export :=
  ((a.storage.dataset? path).map fun ds => mountpointOf (some ds) path, exportAt p a mp)

/-- The volume's mountpoint `mp` and its `share`. -/
def Standing (p : Protocol) (v : ID) (mp : String) (share : Option Export) (w : World) : Prop :=
  footing p v.datasetPath mp (w.appliance v.backend) = (some mp, share)

theorem standing_iff {p : Protocol} {v : ID} {mp : String} {share : Option Export} {w : World} :
    Standing p v mp share w ↔
      mountpoint v w = some mp ∧ exportAt p (w.appliance v.backend) mp = share :=
  Prod.ext_iff

section

variable {p : Protocol} {path mp : String} {c : Client} {dsPath : String}

theorem mounted_eq (s : Storage) : ((s.dataset? path).map fun ds => mountpointOf (some ds) path) =
    (s.datasets.get? path).map fun d => if d.mountpoint = "" then "/mnt/" ++ path else d.mountpoint := by
  unfold dataset?
  rw [Option.map_map]
  rfl

theorem keeps_update {backend id : String} {patch : DatasetPatch} :
    Call.Keeps (footing p path mp) (.api backend (.dataset (.update id patch))) := by
  intro a
  have shares : exportAt p (a.act (.dataset (.update id patch))).2 mp = exportAt p a mp := by
    cases p <;> rfl
  refine Prod.ext ?_ shares
  show ((act (.update id patch) a.storage).2.dataset? path).map _ = (a.storage.dataset? path).map _
  rw [mounted_eq, mounted_eq]
  cases present : a.storage.datasets.get? id with
  | none => simp [act, present]
  | some d =>
    cases refused : refusePatch d patch with
    | some e => simp [act, present, refused]
    | none =>
      by_cases here : path = id
      · subst here
        simp [act, present, refused, put, patched]
      · simp [act, present, refused, put, Dict.get?_set_ne _ _ here]

theorem keeps_setUserProperty {id key value : String} :
    M.Keeps (footing p path mp) (c.setUserProperty id key value) :=
  emits_bind (emits_issue.mpr keeps_update) fun _ => trivial

theorem keeps_recordIdentity {id : Volume.Identity} :
    M.Keeps (footing p path mp) (recordIdentity c dsPath id) :=
  emits_if (fun _ => trivial) fun _ =>
    emits_bind (emits_attempt.mpr (emits_issue.mpr keeps_update)) fun _ => trivial

theorem keeps_stampCloneWith (c : Client) (dsPath : String) (stamps : List (String × String)) :
    M.Keeps (footing p path mp) (stampCloneWith c dsPath stamps) := by
  induction stamps with
  | nil => trivial
  | cons stamp rest ih =>
    exact emits_bind (emits_mapError.mpr keeps_setUserProperty) fun _ => ih

theorem keeps_setPerm (c : Client) (place mode : String) (uid gid : Int) :
    M.Keeps (footing p path mp) (c.setPerm place mode uid gid) :=
  emits_mapError.mpr (emits_issue.mpr fun _ => by cases p <;> rfl)

theorem keeps_setACL (c : Client) (place : String) (entries : List (String × String × String))
    (uid gid : Int) : M.Keeps (footing p path mp) (c.setACL place entries uid gid) :=
  emits_if (fun _ => trivial) fun _ =>
    emits_mapError.mpr (emits_issue.mpr fun _ => by cases p <;> rfl)

theorem keeps_recordMountPolicy {params : Nfs.Params} :
    M.Keeps (footing p path mp) (Nfs.recordMountPolicy c dsPath params) := by
  refine emits_bind (emits_if (fun _ => trivial) fun _ => ?_) fun _ =>
    emits_if (fun _ => ?_) fun _ => trivial
  · exact emits_mapError.mpr keeps_setUserProperty
  · exact emits_mapError.mpr keeps_setUserProperty

theorem keeps_recordMountOptions {params : Smb.Params} :
    M.Keeps (footing p path mp) (Smb.recordMountOptions c dsPath params) :=
  emits_bind (emits_attempt.mpr keeps_setUserProperty) fun _ => trivial

end

section

variable {α : Type} {p : Protocol} {v : ID} {mp : String} {share : Option Export} {w : World}
  {c : Client}

theorem Standing.keeps {prog : M α} (stands : Standing p v mp share w)
    (keeps : M.Keeps (footing p v.datasetPath mp) prog) :
    M.yields prog (fun _ t => Standing p v mp share t) w :=
  yields_iff_wp.mpr (wp_mono (keeps.wp w v.backend) fun _ _ kept _ _ => kept.trans stands)

theorem Standing.rewrote {t : World} {hosts : List String} (stands : Standing p v mp share w)
    (rewrote : Rewrote p v w t mp hosts) : Standing p v mp (some (rewritten p share hosts)) t := by
  obtain ⟨mounted, shared⟩ := standing_iff.mp stands
  rw [standing_iff, Fencing.mountpoint_congr rewrote.storage, rewrote.share, shared]
  exact ⟨mounted, rfl⟩

/-- The mountpoint of a dataset that is created without one. -/
def home (v : ID) : String := "/mnt/" ++ v.datasetPath

/-- The volume stands on `mp`, as `ds` says. -/
def Placed (p : Protocol) (v : ID) (mp : String) (share : Option Export) (ds : Option Dataset)
    (w : World) : Prop :=
  mountpointOf ds v.datasetPath = mp ∧ Standing p v mp share w

theorem standing_put (here : c.name = v.backend) {op : DatasetOp} {d : DatasetState}
    (puts : (act op (w.appliance v.backend).storage).2 =
      (w.appliance v.backend).storage.put v.datasetPath d)
    (mounted : d.mountpoint = home v ∨ d.mountpoint = "") :
    Standing p v (home v) (exportAt p (w.appliance v.backend) (home v))
      (w.acted c.name (.dataset op)) := by
  rw [standing_iff, here]
  constructor
  · show ((((w.acted v.backend (.dataset op)).appliance v.backend).storage.dataset? v.datasetPath).map
      fun ds => mountpointOf (some ds) v.datasetPath) = _
    rw [World.acted, World.setAppliance_self]
    show ((act op (w.appliance v.backend).storage).2.dataset? v.datasetPath).map _ = _
    rw [puts, mounted_eq]
    rcases mounted with same | same <;> simp [put, same, home]
  · rw [World.acted, World.setAppliance_self]
    cases p <;> rfl

theorem yields_createEmpty (here : c.name = v.backend) {spec : DatasetSpec}
    (named : spec.name = v.datasetPath) :
    M.yields (Filesystem.createEmpty c spec)
      (Placed p v (home v) (exportAt p (w.appliance v.backend) (home v))) w := by
  have mounted : (newDataset spec).mountpoint = home v ∨ (newDataset spec).mountpoint = "" := by
    unfold newDataset
    cases spec.type with
    | volume => exact .inr rfl
    | filesystem => exact .inl (by rw [home, ← named])
  have made : M.yields (c.dataset (.create spec)) (fun ds =>
      Placed p v (home v) (exportAt p (w.appliance v.backend) (home v)) (some ds)) w := by
    refine yields_middleware fun ds answered => ?_
    rw [here] at answered
    change (act (.create spec) (w.appliance v.backend).storage).1 = .ok ds at answered
    cases refused : (w.appliance v.backend).storage.refuseNew "pool.dataset.create" spec.name with
    | some e =>
      simp only [act, refused] at answered
      cases answered
    | none =>
      simp only [act, refused] at answered
      have shown := (Except.ok.inj answered).symm
      subst shown
      refine ⟨?_, standing_put here (by simp only [act, refused]; rw [named]) mounted⟩
      rcases mounted with same | same <;> simp [view, mountpointOf, same, home]
  refine yields_bind (yields_mapError ?_) fun ds t ended => yields_ret ended
  refine yields_bind (yields_attempt (yields_iff_wp.mp made)) fun r t ended => ?_
  cases r with
  | ok ds => exact yields_ret (ended ds rfl)
  | error e =>
    dsimp only
    split_ifs <;> exact yields_fail

theorem yields_cloneInto (here : c.name = v.backend) (snapshot : String) :
    M.yields (Filesystem.cloneInto c snapshot v.datasetPath) (fun _ t =>
      Standing p v (home v) (exportAt p (w.appliance v.backend) (home v)) t) w := by
  refine yields_mapError ?_
  refine yields_middleware fun _ answered => ?_
  rw [here] at answered
  change (act (.snapshotClone snapshot v.datasetPath []) (w.appliance v.backend).storage).1 =
    .ok _ at answered
  cases found : (w.appliance v.backend).storage.snapshot? snapshot with
  | none =>
    simp only [act, found] at answered
    cases answered
  | some snap =>
    cases refused : (w.appliance v.backend).storage.refuseNew "pool.snapshot.clone" v.datasetPath with
    | some e =>
      simp only [act, found, refused] at answered
      cases answered
    | none =>
      refine standing_put here (d := cloneOf snap v.datasetPath [])
        (by simp only [act, found, refused]) ?_
      unfold cloneOf
      cases snap.type with
      | volume => exact .inr rfl
      | filesystem => exact .inl rfl

theorem yields_repairClone (here : c.name = v.backend) (protocol patching : String)
    (patch : DatasetPatch) (stands : Standing p v mp share w) :
    M.yields (Filesystem.repairClone c protocol v.datasetPath patch patching)
      (Placed p v mp share) w := by
  refine yields_bind (yields_rescue (stands.keeps (keeps_stampCloneWith _ _ _))
    fun e t => Filesystem.yields_abandonClone) fun _ t stands => ?_
  have updates : M.Keeps (footing p v.datasetPath mp) (c.datasetUpdate v.datasetPath patch) :=
    emits_issue.mpr keeps_update
  refine yields_bind (yields_rescue (stands.keeps updates)
    fun e t => Filesystem.yields_abandonClone) fun _ t stands => ?_
  refine yields_rescue ?_ fun e t => Filesystem.yields_abandonClone
  refine yields_mono (asks_datasetQuery c v.datasetPath).yields ?_
  rintro ds u ⟨rfl, rfl⟩
  have mounted := (standing_iff.mp stands).1
  rw [mountpoint, datasetOf, ← here] at mounted
  obtain ⟨d, found, same⟩ := Option.map_eq_some_iff.mp mounted
  exact ⟨by rw [found]; exact same, stands⟩

end

/-- The share from before, or one for nobody. -/
def ensured (p : Protocol) (share : Option Export) : Export := share.getD (rewritten p none [])

section

variable {b : Server} {v : ID} {mp : String} {share : Option Export} {w : World}
  (here : b.client.name = v.backend)

include here

/-- A share that is missing is made, open to nobody; one that is there is left as it is. -/
theorem yields_nfs_ensureShare (params : Nfs.Params) (stands : Standing .nfs v mp share w) :
    M.yields (Nfs.ensureShare b.client mp params)
      (fun _ t => Standing .nfs v mp (some (ensured .nfs share)) t) w := by
  have shared := (standing_iff.mp stands).2
  refine ((Fencing.asks_nfsShare here mp).mapError _).yields_seq ?_
  cases lookup : (w.appliance v.backend).nfs.byPath mp with
  | none =>
    have absent : share = none := by simpa [exportAt, lookup] using shared.symm
    subst absent
    refine yields_bind (yields_mapError ?_) fun _ t stands => yields_ret stands
    refine yields_iff_wp.mpr (wp_mono (Fencing.wp_createShare here lookup) ?_)
    rintro r t (⟨⟨e, rfl⟩, -⟩ | rewrote)
    · simp
    · exact fun a _ => stands.rewrote rewrote
  | some row =>
    have kept : some (ensured .nfs share) = share := by
      rw [← shared]
      simp [exportAt, lookup, ensured]
    rw [kept]
    dsimp only
    split_ifs
    · exact yields_ret stands
    · exact yields_fail

theorem yields_smb_ensureShare (name : String) (stands : Standing .smb v mp share w) :
    M.yields (Smb.ensureShare b.client mp name)
      (fun _ t => Standing .smb v mp (some (ensured .smb share)) t) w := by
  have shared := (standing_iff.mp stands).2
  refine ((Fencing.asks_smbShare here mp).mapError _).yields_seq ?_
  cases lookup : (w.appliance v.backend).smb.byPath mp with
  | none =>
    have absent : share = none := by simpa [exportAt, lookup] using shared.symm
    subst absent
    refine yields_bind (yields_mapError ?_) fun _ t stands => yields_ret stands
    refine yields_iff_wp.mpr (wp_mono (Fencing.wp_createSmbShare here lookup) ?_)
    rintro r t (⟨⟨e, rfl⟩, -⟩ | rewrote)
    · simp
    · exact fun a _ => stands.rewrote rewrote
  | some row =>
    have kept : some (ensured .smb share) = share := by
      rw [← shared]
      simp [exportAt, lookup, ensured]
    rw [kept]
    dsimp only
    split_ifs
    · exact yields_ret stands
    · exact yields_fail

variable {r : CreateRequest}

theorem yields_nfs_finish (names : r.id = v) (params : Nfs.Params)
    (stands : Standing .nfs v mp share w) :
    M.yields (Nfs.finish b.client r params mp)
      (fun _ t => Standing .nfs v mp (some (ensured .nfs share)) t) w := by
  subst names
  refine yields_bind (yields_rescue (stands.keeps
    (emits_mapError.mpr (keeps_setPerm _ _ _ _ _))) fun e t => yields_rollback)
    fun _ t stands => ?_
  refine yields_bind (yields_rescue (yields_nfs_ensureShare here params stands)
    fun e t => yields_rollback) fun _ t stands => ?_
  refine yields_bind (yields_rescue (stands.keeps keeps_recordMountPolicy)
    fun e t => yields_rollback) fun _ t stands => ?_
  exact yields_ret stands

theorem yields_smb_finish (names : r.id = v) (params : Smb.Params)
    (stands : Standing .smb v mp share w) :
    M.yields (Smb.finish b r params mp)
      (fun _ t => Standing .smb v mp (some (ensured .smb share)) t) w := by
  subst names
  unfold Smb.finish
  -- The access list is computed from the mode; which one it is does not matter here.
  generalize Smb.dacl params.mode = entries
  refine yields_bind (yields_rescue (stands.keeps
    (emits_mapError.mpr (keeps_setACL _ _ _ _ _))) fun e t => yields_rollback)
    fun _ t stands => ?_
  refine yields_bind (yields_rescue (yields_smb_ensureShare here _ stands)
    fun e t => yields_rollback) fun _ t stands => ?_
  refine yields_bind (stands.keeps keeps_recordMountOptions) fun _ t stands => ?_
  exact yields_ret stands

theorem yields_nfs_createDataset (r : CreateRequest) :
    M.yields (Nfs.createDataset b.client v.datasetPath r)
      (Placed .nfs v (home v) (exportAt .nfs (w.appliance v.backend) (home v))) w := by
  unfold Nfs.createDataset
  split_ifs
  · exact yields_createEmpty here rfl
  · refine yields_bind (yields_cloneInto (p := .nfs) here r.sourceSnapshot) fun _ t stands => ?_
    exact yields_repairClone here _ _ _ stands

theorem yields_smb_createDataset (r : CreateRequest) :
    M.yields (Smb.createDataset b.client v.datasetPath r)
      (Placed .smb v (home v) (exportAt .smb (w.appliance v.backend) (home v))) w := by
  unfold Smb.createDataset
  split_ifs
  · exact yields_createEmpty here rfl
  · refine yields_bind (yields_cloneInto (p := .smb) here r.sourceSnapshot) fun _ t stands => ?_
    exact yields_repairClone here _ _ _ stands

omit here

theorem yields_identified {p : Protocol} {made : M (Option Dataset)} {c : Client} {id : Volume.Identity}
    (places : M.yields made (Placed p v mp share) w) :
    M.yields (made >>= fun ds => recordIdentity c v.datasetPath id >>= fun _ => pure ds)
      (Placed p v mp share) w := by
  refine yields_bind places fun ds t placed => ?_
  refine yields_bind (placed.2.keeps keeps_recordIdentity) fun _ u stands => ?_
  exact yields_ret ⟨placed.1, stands⟩

/-- Where the volume is or will be mounted. -/
def site (v : ID) (w : World) : String := mountpointOf (datasetOf v w) v.datasetPath

theorem asks_positiveCapacity (r : CreateRequest) : Asks (Filesystem.positiveCapacity r) w () := by
  unfold Filesystem.positiveCapacity
  split_ifs
  · exact ⟨rfl, .inr ⟨_, rfl⟩⟩
  · exact ⟨rfl, .inl rfl⟩

theorem asks_sameSize (r : CreateRequest) (existing : Dataset) :
    Asks (Filesystem.sameSize r existing) w () := by
  unfold Filesystem.sameSize
  split_ifs
  · exact ⟨rfl, .inr ⟨_, rfl⟩⟩
  · exact ⟨rfl, .inl rfl⟩

theorem standing_site (p : Protocol) {ds : Dataset} (found : datasetOf v w = some ds) :
    Standing p v (site v w) (exportAt p (w.appliance v.backend) (site v w)) w :=
  standing_iff.mpr ⟨by simp [mountpoint, site, found], rfl⟩

theorem site_mounted (mounted : mountpoint v w = some mp) : site v w = mp := by
  obtain ⟨ds, found, located⟩ := Option.map_eq_some_iff.mp mounted
  rw [site, found]
  exact located

theorem site_absent (absent : datasetOf v w = none) : site v w = home v := by
  simp [site, absent, mountpointOf, home]

include here

/-- Whichever way it went, a creation that succeeds ends with the dataset and its share. -/
theorem yields_nfs_create (names : r.id = v) :
    M.yields (Nfs.create b r) (fun _ t => Standing .nfs v (site v w)
      (some (ensured .nfs (exportAt .nfs (w.appliance v.backend) (site v w)))) t) w := by
  subst names
  unfold Nfs.create
  refine Fencing.asks_confine.yields_seq ((asks_positiveCapacity r).yields_seq ?_)
  cases Nfs.parseParams r.params with
  | error e => exact yields_fail
  | ok params =>
    rw [ofExcept_ok, ret_bind]
    refine (Fencing.asks_queryDataset here).yields_seq ?_
    cases found : datasetOf r.id w with
    | none =>
      rw [site_absent found]
      have provisioned : M.yields (Nfs.provision b.client r.id.datasetPath r)
          (Placed .nfs r.id (home r.id) (exportAt .nfs (w.appliance r.id.backend) (home r.id))) w :=
        yields_identified (yields_nfs_createDataset here r)
      refine yields_bind provisioned fun ds t placed => ?_
      rw [placed.1]
      exact yields_nfs_finish here rfl params placed.2
    | some ds =>
      have stands := standing_site .nfs found
      cases abandoned : abandonedCloneOf (some ds) r with
      | true =>
        generalize Volume.identityFrom r.params = identity
        have repaired : M.yields (Nfs.repairClone b.client r.id.datasetPath r.capacityBytes)
            (Placed .nfs r.id (site r.id w) (exportAt .nfs (w.appliance r.id.backend) (site r.id w))) w :=
          yields_repairClone here _ _ _ stands
        refine yields_bind repaired fun ds t placed => ?_
        refine yields_bind (placed.2.keeps keeps_recordIdentity) fun _ t stands => ?_
        rw [placed.1]
        exact yields_nfs_finish here rfl params stands
      | false =>
        refine (asks_sameSize r ds).yields_seq ?_
        have located : mountpointOf (some ds) r.id.datasetPath = site r.id w := by rw [site, found]
        rw [located]
        refine yields_bind (yields_nfs_ensureShare here params stands) fun _ t stands => ?_
        refine yields_bind (stands.keeps keeps_recordMountPolicy) fun _ t stands => ?_
        exact yields_ret stands

theorem yields_smb_create (names : r.id = v) :
    M.yields (Smb.create b r) (fun _ t => Standing .smb v (site v w)
      (some (ensured .smb (exportAt .smb (w.appliance v.backend) (site v w)))) t) w := by
  subst names
  unfold Smb.create
  refine Fencing.asks_confine.yields_seq ((asks_positiveCapacity r).yields_seq ?_)
  cases Smb.parseParams r.params with
  | error e => exact yields_fail
  | ok params =>
    rw [ofExcept_ok, ret_bind]
    refine (Fencing.asks_queryDataset here).yields_seq ?_
    cases found : datasetOf r.id w with
    | none =>
      rw [site_absent found]
      have provisioned : M.yields (Smb.provision b.client r.id.datasetPath r)
          (Placed .smb r.id (home r.id) (exportAt .smb (w.appliance r.id.backend) (home r.id))) w :=
        yields_identified (yields_smb_createDataset here r)
      refine yields_bind provisioned fun ds t placed => ?_
      rw [placed.1]
      exact yields_smb_finish here rfl params placed.2
    | some ds =>
      have stands := standing_site .smb found
      cases abandoned : abandonedCloneOf (some ds) r with
      | true =>
        generalize Volume.identityFrom r.params = identity
        have repaired : M.yields (Smb.repairClone b.client r.id.datasetPath r.capacityBytes)
            (Placed .smb r.id (site r.id w) (exportAt .smb (w.appliance r.id.backend) (site r.id w))) w :=
          yields_repairClone here _ _ _ stands
        refine yields_bind repaired fun ds t placed => ?_
        refine yields_bind (placed.2.keeps keeps_recordIdentity) fun _ t stands => ?_
        rw [placed.1]
        exact yields_smb_finish here rfl params stands
      | false =>
        refine (asks_sameSize r ds).yields_seq ?_
        have located : mountpointOf (some ds) r.id.datasetPath = site r.id w := by rw [site, found]
        rw [located]
        refine yields_bind (yields_smb_ensureShare here _ stands) fun _ t stands => ?_
        refine yields_bind (stands.keeps keeps_recordMountOptions) fun _ t stands => ?_
        exact yields_ret stands

end

/-- A created volume has a share of its own. -/
theorem yields_create {h : Handle} {v : ID} {w : World} (shared : Shared h.protocol)
    (here : h.server.client.name = v.backend) {r : CreateRequest} (names : r.id = v) :
    M.yields (h.create r) (fun _ t => Standing h.protocol v (site v w)
      (some (ensured h.protocol (exportAt h.protocol (w.appliance v.backend) (site v w)))) t) w := by
  unfold Handle.create
  rcases shared with nfs | smb
  · rw [nfs]
    exact yields_nfs_create here names
  · rw [smb]
    exact yields_smb_create here names

end TruenasCsi.Exports
