import TruenasCsi.Csi.CreateVolume
import TruenasCsi.Provisioning.Sizes

/-! What a creation does before the volume is made. -/

namespace TruenasCsi.Provisioning

open Appliance (DatasetOp DatasetType Storage)
open Csi Truenas Prog Volume Backend Appliance.Storage

/-- Kind and size of a clone of `zfsID`. -/
def shapeAt (zfsID source : String) (a : Appliance.State) : DatasetType × Int :=
  match a.storage.snapshot? zfsID with
  | some snap => (snap.type, snap.volSize)
  | none => ((gaugeAt source a).map fun g => (g.type, g.volSize)).getD (.filesystem, 0)

/-- The calls before the volume itself: the namespace's container and the source's snapshot. -/
def Preparing (container zfsID source : String) (_ : String) : DatasetOp → Prop
  | .create spec => spec.name = container ∧ spec.type = .filesystem
  | .update _ patch => patch.volSize = none ∧ patch.refQuota = none
  | .snapshotCreate dataset name recursive =>
    dataset = source ∧ dataset ++ "@" ++ name = zfsID ∧ recursive = false
  | _ => False

section

variable {container zfsID source path : String} {a : Appliance.State}

theorem shapeAt_congr {b : Appliance.State} (snapshots : b.storage.snapshots = a.storage.snapshots)
    (sized : gaugeAt source b = gaugeAt source a) :
    shapeAt zfsID source b = shapeAt zfsID source a := by
  simp only [shapeAt, snapshot?, snapshots, sized]

theorem keeps_container {spec : Appliance.DatasetSpec} (named : spec.name = container)
    (kind : spec.type = .filesystem) (elsewhere : path ≠ container) :
    (gaugeAt path (a.act (.dataset (.create spec))).2,
        shapeAt zfsID source (a.act (.dataset (.create spec))).2) =
      (gaugeAt path a, shapeAt zfsID source a) := by
  simp only [Appliance.State.act]
  cases refused : a.storage.refuseNew "pool.dataset.create" spec.name with
  | some e => simp only [act, refused]
  | none =>
    simp only [act, refused]
    have free : a.storage.datasets.get? spec.name = none := by
      by_contra there
      simp only [refuseNew, if_pos (Option.isSome_iff_ne_none.mpr there)] at refused
      cases refused
    refine Prod.ext ?_ ?_
    · simp [gaugeAt, put, named, Dict.get?_set_ne _ _ elsewhere]
    · by_cases same : source = spec.name
      · subst same
        simp [shapeAt, gaugeAt, put, snapshot?, free, gauge, newDataset, kind]
      · exact shapeAt_congr rfl (by simp [gaugeAt, put, Dict.get?_set_ne _ _ same])

theorem keeps_snapshot {name : String} (named : source ++ "@" ++ name = zfsID) :
    (gaugeAt path (a.act (.dataset (.snapshotCreate source name false))).2,
        shapeAt zfsID source (a.act (.dataset (.snapshotCreate source name false))).2) =
      (gaugeAt path a, shapeAt zfsID source a) := by
  simp only [Appliance.State.act, act]
  split_ifs with absent taken
  · rfl
  · rfl
  · refine Prod.ext rfl ?_
    have fresh : a.storage.snapshots.find? (fun snap => snap.id == zfsID) = none := by
      simpa [captured, named, snapshot?] using taken
    obtain ⟨d, found⟩ : ∃ d, a.storage.datasets.get? source = some d :=
      Option.ne_none_iff_exists'.mp (by simpa using absent)
    have now : (a.storage.snapshots ++ (a.storage.captured source false).map
        (a.storage.newSnapshot name)).find? (fun snap => snap.id == zfsID) =
          some (a.storage.newSnapshot name source) := by
      rw [List.find?_append, fresh]
      simp [captured, Appliance.SnapshotState.id, newSnapshot, named]
    simp [shapeAt, fresh, now, newSnapshot, found, gaugeAt, gauge, snapshot?]

/-- They change no size at the volume's path. -/
theorem keeps_prepared {α : Type} {p : M α} (within : M.Within (Preparing container zfsID source) p)
    (elsewhere : path ≠ container) :
    M.Keeps (fun a => (gaugeAt path a, shapeAt zfsID source a)) p := by
  refine within.keeps (fun a b same => by simp only [gaugeAt, shapeAt, same])
    fun backend op a prepares => ?_
  cases op with
  | create spec => exact keeps_container prepares.1 prepares.2 elsewhere
  | update id patch =>
    have kept (place : String) : gaugeAt place (a.act (.dataset (.update id patch))).2 =
        gaugeAt place a := gauge_update prepares a.storage place
    have snapshots : (a.act (.dataset (.update id patch))).2.storage.snapshots =
        a.storage.snapshots := by
      simp only [Appliance.State.act, act]
      split
      · rfl
      · split <;> rfl
    exact Prod.ext (kept path) (shapeAt_congr snapshots (kept source))
  | snapshotCreate dataset name recursive =>
    obtain ⟨rfl, named, rfl⟩ := prepares
    exact keeps_snapshot named
  | _ => cases prepares

end

section

variable {F : String → DatasetOp → Prop}

theorem within_registryClient {reg : Registry} {name : String} : M.Within F (reg.client name) :=
  emits_bind emits_ofExcept fun _ => emits_bind (emits_mapError.mpr within_client) fun _ => trivial

theorem within_withStatus {α : Type} {p : M α} (within : M.Within F p) :
    M.Within F (withStatus p) :=
  emits_mapError.mpr within

theorem within_datasetList (cl : Client) (start : String) : M.Within F (cl.datasetList start) :=
  emits_rows (within_dataset.mpr (.inl rfl))

theorem within_snapshotQuery {cl : Client} {id : String} : M.Within F (cl.snapshotQuery id) :=
  emits_first (within_dataset.mpr (.inl rfl))

variable (c : Controller) (name : String)

theorem within_datasetIfKnown (path : String) : M.Within F (c.datasetIfKnown name path) := by
  refine emits_bind (emits_attempt.mpr within_registryClient) fun client => ?_
  cases client with
  | error _ => trivial
  | ok cl =>
    refine emits_bind (emits_attempt.mpr within_datasetQuery) fun ds => ?_
    cases ds <;> trivial

theorem within_recordedFilesystem (dataset : String) :
    M.Within F (c.recordedFilesystem name dataset) := by
  refine emits_bind (within_datasetIfKnown c _ _) fun ds => ?_
  cases ds <;> trivial

theorem within_requireVolumeExists (id : ID) : M.Within F (c.requireVolumeExists id) := by
  refine emits_bind (within_withStatus within_registryClient) fun cl =>
    emits_bind (within_withStatus within_datasetQuery) fun ds => ?_
  cases ds <;> trivial

theorem within_requireRoomOutsideReserve (size : Int) :
    M.Within F (c.requireRoomOutsideReserve name size) := by
  refine emits_bind (within_withStatus emits_ofExcept) fun b =>
    emits_if (fun _ => trivial) fun _ =>
      emits_bind (within_withStatus within_registryClient) fun cl =>
        emits_option (within_withStatus within_datasetQuery) trivial fun root => ?_
  exact emits_if (fun _ => trivial) fun _ => trivial

theorem within_fromSnapshot (id : ID) (wantFS snapshotID : String) :
    M.Within F (c.fromSnapshot id wantFS snapshotID) := by
  have checked : M.Within F (c.requireSnapshotExists snapshotID) := by
    refine emits_bind (emits_mapError.mpr emits_ofExcept) fun parsed =>
      emits_bind (within_withStatus within_registryClient) fun cl =>
        emits_bind (within_withStatus within_snapshotQuery) fun snap => ?_
    cases snap <;> trivial
  have typed : M.Within F (c.snapshotSourceType snapshotID) := by
    unfold Controller.snapshotSourceType
    split
    · trivial
    · split
      · trivial
      · exact emits_bind (within_datasetIfKnown c _ _) fun _ => trivial
  refine emits_bind checked fun _ => emits_bind (emits_mapError.mpr emits_ofExcept) fun parsed =>
    emits_if (fun _ => trivial) fun _ => emits_bind typed fun type =>
      emits_bind emits_ofExcept fun _ =>
        emits_bind (within_recordedFilesystem c _ _) fun got =>
          emits_bind emits_ofExcept fun _ => trivial

theorem within_createSnapshot (reg : Registry) (source : ID) (name : String)
    (takes : ∀ backend, F backend (.snapshotCreate source.datasetPath name false)) :
    M.Within F (reg.createSnapshot source name) := by
  refine emits_bind within_registryClient fun cl => ?_
  have sized (snap : Option Appliance.Snapshot) (dataset : String) :
      M.Within F (provisionedBytes cl snap dataset) := by
    unfold provisionedBytes
    dsimp only
    split_ifs
    · trivial
    · refine emits_bind (emits_attempt.mpr within_datasetQuery) fun ds => ?_
      split <;> trivial
  refine emits_bind (emits_attempt.mpr within_snapshotQuery) fun existing => ?_
  split
  · exact emits_bind (sized _ _) fun _ => trivial
  · refine emits_bind (within_dataset.mpr (.inr (takes _))) fun created =>
      emits_bind (emits_attempt.mpr within_snapshotQuery) fun again => ?_
    split
    · exact emits_bind (sized _ _) fun _ => trivial
    · exact emits_bind (sized _ _) fun _ => trivial

end

variable (c : Controller) (id : ID) (req : CreateVolumeRequest)

theorem within_requireRoomInNamespaceQuota (size : Int)
    (zfsID source : String) : M.Within (Preparing id.parentPath zfsID source)
      (c.requireRoomInNamespaceQuota id size) := by
  refine emits_if (fun _ => trivial) fun namespaced => ?_
  have container : namespacePath id.pool id.parent id.ns = id.parentPath := by
    rw [ID.parentPath, if_neg namespaced]
    rfl
  refine emits_bind (within_withStatus emits_ofExcept) fun b =>
    emits_bind (within_withStatus within_registryClient) fun cl =>
      emits_bind (within_withStatus ?_) fun ns => emits_if (fun _ => trivial) fun _ => trivial
  refine emits_bind emits_ofExcept fun _ => ?_
  rw [container]
  have contained : M.Within (Preparing id.parentPath zfsID source)
      (namespaceContainer cl id.parentPath id.ns) := by
    refine emits_bind (emits_mapError.mpr within_datasetQuery) fun existing => ?_
    cases existing with
    | none =>
      refine emits_mapError.mpr (emits_bind (emits_attempt.mpr
        (within_dataset.mpr (.inr ⟨rfl, rfl⟩))) fun made => ?_)
      cases made with
      | ok ds => trivial
      | error e => exact emits_if (fun _ => trivial) fun _ => trivial
    | some ds => exact emits_bind emits_ofExcept fun _ => trivial
  have counted : M.Within (Preparing id.parentPath zfsID source)
      (provisionedUnder cl id.parentPath) := by
    refine emits_bind (emits_attempt.mpr (within_datasetList _ _)) fun children => ?_
    cases children <;> trivial
  have applied (quota : Int) : M.Within (Preparing id.parentPath zfsID source)
      (applyNamespaceQuota cl id.parentPath quota) :=
    emits_bind (emits_mapError.mpr (within_dataset.mpr (.inr ⟨rfl, rfl⟩))) fun _ =>
      emits_bind (emits_attempt.mpr (within_setUserProperty ⟨rfl, rfl⟩)) fun _ => trivial
  refine emits_bind contained fun ds => ?_
  have rest (provisioned quota : Int) : M.Within (Preparing id.parentPath zfsID source) (do
      if quota > 0 ∧ ds.used > quota then
        return (⟨id.parentPath, ds.used, provisioned, quota, true⟩ : NamespaceDataset)
      else
        if appliedQuota (localProperty ds namespaceQuotaProperty) ≠ some quota then
          applyNamespaceQuota cl id.parentPath quota
        return ⟨id.parentPath, ds.used, provisioned, quota, false⟩) :=
    emits_if (fun _ => trivial) fun _ =>
      emits_if (fun _ => emits_bind (applied quota) fun _ => trivial) fun _ => trivial
  exact emits_if (fun _ => emits_bind counted fun provisioned => rest provisioned _) fun _ => rest 0 _

theorem datasetPath_ne_parentPath : id.datasetPath ≠ id.parentPath := by
  intro same
  have lengths := congrArg (fun s => s.toList.length) (id.datasetPath_eq.symm.trans same)
  simp only [String.toList_append, List.length_append] at lengths
  have slash : "/".toList.length = 1 := rfl
  omega

def cloneName (name : String) : String := "csi-clone-" ++ sanitiseSnapshotName name

def sourceOf : Option (String × String) :=
  match req.contentSource with
  | none => none
  | some (.snapshot snapshotID) =>
    match parseSnapshotID snapshotID with
    | .error _ => none
    | .ok (_, zfsID) => some (zfsID, ((Text.cutFirst '@' zfsID).map Prod.fst).getD zfsID)
  | some (.volume sourceID) =>
    match parseID sourceID with
    | .error _ => none
    | .ok source => some (source.datasetPath ++ "@" ++ cloneName req.name, source.datasetPath)

theorem parseSnapshotID_nonempty {id backend zfsID : String}
    (parsed : parseSnapshotID id = .ok (backend, zfsID)) : zfsID ≠ "" := by
  unfold parseSnapshotID at parsed
  split at parsed
  · cases parsed
  · split_ifs at parsed with empty snapshot
    · cases parsed
    · obtain ⟨-, rfl⟩ := Prod.mk.inj (Except.ok.inj parsed)
      exact fun none => empty (.inr none)

theorem sourceOf_nonempty {req : CreateVolumeRequest} {zfsID source : String}
    (given : sourceOf req = some (zfsID, source)) : zfsID ≠ "" := by
  unfold sourceOf at given
  split at given
  · cases given
  · split at given
    · cases given
    · obtain ⟨rfl, -⟩ := Prod.mk.inj (Option.some.inj given)
      exact parseSnapshotID_nonempty ‹_›
  · split at given
    · cases given
    · obtain ⟨rfl, -⟩ := Prod.mk.inj (Option.some.inj given)
      simp [String.append_eq_empty_iff]

theorem yields_createSnapshot (reg : Registry) (source : ID) (name : String) {w : World} :
    M.yields (reg.createSnapshot source name) (fun snap _ => snap.id =
      snapshotID source.backend (source.datasetPath ++ "@" ++ name)) w := by
  refine yields_bind yields_trivial fun cl t _ => ?_
  have answers (snap : Option Appliance.Snapshot) (created : Option Moment) (t : World) :
      M.yields (do
        let size ← provisionedBytes cl snap source.datasetPath
        return (⟨snapshotID source.backend (source.datasetPath ++ "@" ++ name), source.string,
          size, created, true⟩ : Snapshot)) (fun snap _ => snap.id =
        snapshotID source.backend (source.datasetPath ++ "@" ++ name)) t :=
    yields_bind yields_trivial fun size u _ => yields_ret rfl
  refine yields_bind yields_trivial fun existing u _ => ?_
  split
  · exact answers _ _ _
  · refine yields_bind yields_trivial fun created v _ =>
      yields_bind yields_trivial fun again x _ => ?_
    split
    · exact answers _ _ _
    · exact answers _ _ _

theorem yields_sourceSnapshot {w : World} :
    M.yields (c.sourceSnapshot id req) (fun src _ =>
      src = ((sourceOf req).map Prod.fst).getD "") w := by
  unfold Controller.sourceSnapshot sourceOf
  generalize blockFilesystemFor id.protocol req.capabilities = wantFS
  cases req.contentSource with
  | none => exact yields_ret rfl
  | some content =>
    cases content with
    | snapshot snapshotID =>
      refine yields_bind yields_trivial fun _ t _ => ?_
      cases parsed : parseSnapshotID snapshotID with
      | error e => exact yields_fail
      | ok pair =>
        obtain ⟨backend, zfsID⟩ := pair
        simp only [ofExcept_ok, mapError_ret, ret_bind]
        split_ifs
        · exact yields_fail
        · refine yields_bind yields_trivial fun _ _ _ =>
            yields_bind yields_trivial fun _ _ _ =>
              yields_bind yields_trivial fun _ _ _ =>
                yields_bind yields_trivial fun _ _ _ => ?_
          exact yields_ret (by rw [parsed]; rfl)
    | volume sourceID =>
      unfold Controller.fromVolume
      dsimp only
      cases parsed : parseID sourceID with
      | error e => exact yields_fail
      | ok source =>
        have formed := (parseID_ok parsed).1
        simp only [ofExcept_ok, mapError_ret, ret_bind]
        split_ifs
        · exact yields_fail
        · refine yields_bind yields_trivial fun _ _ _ =>
            yields_bind yields_trivial fun _ _ _ =>
              yields_bind yields_trivial fun _ _ _ =>
                yields_bind yields_trivial fun _ _ _ => ?_
          refine yields_bind (yields_mapError (yields_createSnapshot _ _ _)) ?_
          intro snap t named
          have snapshot : '@' ∈ (source.datasetPath ++ "@" ++ cloneName req.name).toList := by simp
          rw [named]
          have split := parseSnapshotID_snapshotID formed.backend.nonempty
            formed.backend.slashless snapshot
          unfold cloneName at split ⊢
          rw [split]
          exact yields_ret rfl

/-- Finding the source takes at most one snapshot, of the source volume. -/
theorem within_sourceSnapshot
    (container : String) : M.Within (Preparing container (((sourceOf req).map Prod.fst).getD "")
      (((sourceOf req).map Prod.snd).getD "")) (c.sourceSnapshot id req) := by
  unfold Controller.sourceSnapshot sourceOf
  generalize blockFilesystemFor id.protocol req.capabilities = wantFS
  cases req.contentSource with
  | none => trivial
  | some content =>
    cases content with
    | snapshot snapshotID => exact within_fromSnapshot c id wantFS snapshotID
    | volume sourceID =>
      unfold Controller.fromVolume
      dsimp only
      cases parsed : parseID sourceID with
      | error e => trivial
      | ok source =>
        simp only [ofExcept_ok, mapError_ret, ret_bind]
        refine emits_if (fun _ => trivial) fun _ => emits_bind emits_ofExcept fun _ =>
          emits_bind (within_recordedFilesystem c _ _) fun _ =>
            emits_bind emits_ofExcept fun _ =>
              emits_bind (within_requireVolumeExists c source) fun _ =>
                emits_bind (within_withStatus ?_) fun snap =>
                  emits_bind (within_withStatus emits_ofExcept) fun _ => trivial
        exact within_createSnapshot _ _ _ fun _ => ⟨rfl, rfl, rfl⟩

end TruenasCsi.Provisioning
