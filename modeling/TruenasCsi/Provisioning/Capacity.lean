import TruenasCsi.Csi.DeleteVolume
import TruenasCsi.Provisioning.Preparation

/-!
# When a reported size is the size that was asked for and made

## Main result

`capacity_contract_iff`, for creations and growths.

## Proof strategy

`Provisioning.Sizes` says what each backend leaves at the path, `Provisioning.Preparation` that nothing
before it touches that size. The report repeats the request, so it is right exactly where the dataset has
that size.
-/

namespace TruenasCsi.Provisioning

open Appliance Backend Csi Prog
open Volume (ID)

/-- The size a backend is asked for: the default if none is, and at least its minimum. -/
def requestedSize (protocol : String) (required : Int) : Int :=
  max (if required ≤ 0 then defaultCapacityBytes else required)
    (if datasetTypeFor protocol = .volume then 0 else Filesystem.minimumCapacityBytes)

/-- Whether a creation ends with the requested size. -/
def Fits (kind : DatasetType) (size : Int) : Option Gauge → Option (DatasetType × Int) → Prop
  | some g, _ => g.capacity = size ∨ kind = .filesystem ∧ g.type = .filesystem
  | none, none => True
  | none, some shape => kind = .volume → shape.2 < size ∨ shape = (.volume, size)

/-- The dataset would end with the requested size. -/
def Matching (a : State) (id : ID) (req : CreateVolumeRequest) : Prop :=
  Fits (datasetTypeFor id.protocol) (requestedSize id.protocol req.requiredBytes)
    (gaugeAt id.datasetPath a) ((sourceOf req).map fun src => shapeAt src.1 src.2 a)

/-- The default size is within the limit. -/
def DefaultWithin (req : CreateVolumeRequest) : Prop :=
  req.requiredBytes = 0 → req.limitBytes = 0 ∨ defaultCapacityBytes ≤ req.limitBytes

/-- The reported size is real and in the range. -/
def Honoured (required limit reported : Int) (g : Option Gauge) : Prop :=
  g.map Gauge.capacity = some reported ∧ required ≤ reported ∧ (limit ≠ 0 → reported ≤ limit)

def kind : Protocol → DatasetType
  | .nfs | .smb => .filesystem
  | .iscsi | .nvme => .volume

variable {p : Protocol} {server : Server} {protocol : String}

theorem datasetTypeFor_of_factory
    (known : Protocol.factoryFor protocol = some p) : datasetTypeFor protocol = kind p := by
  have text : p.text = protocol := by
    have matched := List.find?_some known
    simpa using matched
  subst text
  cases p <;> decide

theorem minimum_eq
    (known : Protocol.factoryFor protocol = some p) : Handle.minimumCapacityBytes ⟨p, server⟩ =
      if datasetTypeFor protocol = .volume then 0 else Filesystem.minimumCapacityBytes := by
  rw [datasetTypeFor_of_factory known]
  cases p <;> rfl

/-- The size that is provisioned. -/
theorem sizeFor_range {id : ID}
    {req : CreateVolumeRequest} {size : Int} (known : Protocol.factoryFor id.protocol = some p)
    (nonnegative : 0 ≤ req.requiredBytes)
    (ordered : req.limitBytes = 0 ∨ req.requiredBytes ≤ req.limitBytes)
    (sized : sizeFor id (Handle.minimumCapacityBytes ⟨p, server⟩) req.requiredBytes
      req.limitBytes = .ok size) :
    size = requestedSize id.protocol req.requiredBytes ∧ 0 < size ∧ req.requiredBytes ≤ size ∧
      ((req.limitBytes ≠ 0 → size ≤ req.limitBytes) ↔ DefaultWithin req) := by
  unfold sizeFor at sized
  rw [minimum_eq known] at sized
  unfold requestedSize DefaultWithin
  have fallback : defaultCapacityBytes = 1073741824 := rfl
  have floor : Filesystem.minimumCapacityBytes = 1073741824 := rfl
  simp only [fallback, floor] at sized ⊢
  split_ifs at sized ⊢ <;> (try cases sized) <;> omega

def cloned (a : State) (snapshot source : String) : Option (DatasetType × Int) :=
  if snapshot = "" then none else some (shapeAt snapshot source a)

section

variable {a a' : State} {r : CreateRequest}

theorem fits_of_quota (sized : Quota r.id.datasetPath r.capacityBytes (gaugeAt r.id.datasetPath a) a')
    (shape : Option (DatasetType × Int)) : ∃ g, gaugeAt r.id.datasetPath a' = some g ∧
      (g.capacity = r.capacityBytes ↔
        Fits .filesystem r.capacityBytes (gaugeAt r.id.datasetPath a) shape) := by
  obtain ⟨g, here, quota, before⟩ := sized
  refine ⟨g, here, ?_⟩
  cases there : gaugeAt r.id.datasetPath a with
  | none =>
    rw [there] at before
    have kind : g.type = .filesystem := before
    cases shape <;> simp [Fits, Gauge.capacity, kind, quota]
  | some g₀ =>
    rw [there] at before
    obtain ⟨kind, size⟩ := before
    cases type : g₀.type with
    | filesystem => simp [Fits, Gauge.capacity, kind, type, quota]
    | volume => simp [Fits, Gauge.capacity, kind, type, size]

theorem fits_of_blocked {g : Gauge} (positive : 0 < r.capacityBytes) (blocked : Blocked a r g)
    (source : String) : g.capacity = r.capacityBytes ↔
      Fits .volume r.capacityBytes (gaugeAt r.id.datasetPath a)
        (cloned a r.sourceSnapshot source) := by
  unfold Blocked at blocked
  cases there : gaugeAt r.id.datasetPath a with
  | some g₀ =>
    rw [there] at blocked
    have same : g = g₀ := blocked
    simp [Fits, same]
  | none =>
    rw [there] at blocked
    dsimp only at blocked
    unfold cloned
    split_ifs at blocked ⊢ with blank
    · subst blocked
      simp [Fits, Gauge.capacity]
    · obtain ⟨snap, found, grows, rfl⟩ := blocked
      rw [show shapeAt r.sourceSnapshot source a = (snap.type, snap.volSize) by simp [shapeAt, found]]
      cases kind : snap.type with
      | volume =>
        simp only [Fits, Gauge.capacity, Prod.mk.injEq, true_and, forall_const]
        omega
      | filesystem =>
        -- A filesystem has no quota after the clone, and a smaller one would not grow.
        have large : ¬ snap.volSize < r.capacityBytes := fun less => by simp [kind] at grows; omega
        simp [Fits, Gauge.capacity, large]
        omega

end

variable {p : Protocol} {w : World}

/-- On every protocol a creation succeeds only if size and kind fit. -/
theorem yields_create_fits (server : Server) {r : CreateRequest}
    (positive : 0 < r.capacityBytes) (source : String) : M.yields (Handle.create ⟨p, server⟩ r) (fun v t =>
      v.id = r.id ∧ v.capacityBytes = r.capacityBytes ∧
      ∃ g, gaugeAt r.id.datasetPath (t.appliance server.client.name) = some g ∧
        (g.capacity = r.capacityBytes ↔ Fits (kind p) r.capacityBytes
          (gaugeAt r.id.datasetPath (w.appliance server.client.name))
          (cloned (w.appliance server.client.name) r.sourceSnapshot source))) w := by
  cases p with
  | nfs =>
    refine yields_mono (yields_nfs_create server r) ?_
    rintro v t ⟨named, reported, sized⟩
    exact ⟨named, reported, fits_of_quota sized _⟩
  | smb =>
    refine yields_mono (yields_smb_create server r) ?_
    rintro v t ⟨named, reported, sized⟩
    exact ⟨named, reported, fits_of_quota sized _⟩
  | iscsi =>
    refine yields_mono (yields_iscsi_create server positive) ?_
    rintro v t ⟨named, reported, g, here, blocked⟩
    exact ⟨named, reported, g, here, fits_of_blocked positive blocked source⟩
  | nvme =>
    refine yields_mono (yields_nvme_create server positive) ?_
    rintro v t ⟨named, reported, g, here, blocked⟩
    exact ⟨named, reported, g, here, fits_of_blocked positive blocked source⟩

theorem yields_expand_grown (server : Server) {id : ID} {bytes : Int}
    : M.yields (Handle.expand ⟨p, server⟩ id bytes) (fun n t => n = bytes ∧
      Grown (kind p) id.datasetPath bytes (w.appliance server.client.name)
        (t.appliance server.client.name)) w := by
  cases p with
  | nfs => exact yields_fs_expand
  | smb => exact yields_fs_expand
  | iscsi => exact yields_zvol_expand
  | nvme => exact yields_zvol_expand

section

variable (c : Controller) {w : World} {F : String → DatasetOp → Prop}

theorem within_recordFilesystem (id : ID) (fs : String) :
    M.Within Labels (c.recordFilesystem id fs) := by
  refine emits_if (fun _ => trivial) fun _ =>
    emits_bind (emits_attempt.mpr within_registryClient) fun client => ?_
  cases client with
  | error e => trivial
  | ok cl =>
    exact emits_bind (emits_attempt.mpr (Truenas.within_setUserProperty ⟨rfl, rfl⟩)) fun _ => trivial

theorem within_volumeDataset (id : ID) : M.Within F (c.volumeDataset id) := by
  unfold Controller.volumeDataset
  split
  · trivial
  · refine emits_bind (emits_mapError.mpr emits_ofExcept) fun _ =>
      emits_bind (within_withStatus within_registryClient) fun cl =>
        emits_bind (within_withStatus Truenas.within_datasetQuery) fun ds => ?_
    cases ds <;> trivial

theorem within_applyRequested (id : ID) (mod : Modification) :
    M.Within Labels (c.applyRequested id mod) := by
  refine emits_if (fun _ => trivial) fun _ => emits_bind (within_volumeDataset c id) fun ds => ?_
  refine emits_if (fun _ => trivial) fun _ => emits_bind emits_ofExcept fun _ =>
    emits_bind emits_ofExcept fun changes => emits_if (fun _ => trivial) fun _ => ?_
  refine emits_bind (within_withStatus within_registryClient) fun cl =>
    emits_bind (emits_mapError.mpr (within_dataset.mpr (.inr ⟨rfl, rfl⟩))) fun _ => trivial

theorem within_publishContext (h : Handle)
    (memory : Memory) (id : ID) : M.Within F (h.publishContext memory id) := by
  obtain ⟨p, server⟩ := h
  cases p with
  | nfs => exact Nfs.within_publishContext _ _ _
  | smb => exact Smb.within_publishContext _ _ _
  | iscsi => exact Iscsi.within_publishContext _ _
  | nvme => exact Nvme.within_publishContext _ _

theorem yields_provisionVolume {p : Protocol} (server : Server) (req : CreateVolumeRequest)
    (mod : Modification) {cr : CreateRequest} (positive : 0 < cr.capacityBytes) (source : String) :
    M.yields (c.provisionVolume ⟨p, server⟩ req mod cr) (fun info t =>
      info.volumeId = cr.id.string ∧ info.capacityBytes = cr.capacityBytes ∧
      ∃ g, gaugeAt cr.id.datasetPath (t.appliance server.client.name) = some g ∧
        (g.capacity = cr.capacityBytes ↔ Fits (kind p) cr.capacityBytes
          (gaugeAt cr.id.datasetPath (w.appliance server.client.name))
          (cloned (w.appliance server.client.name) cr.sourceSnapshot source))) w := by
  unfold Controller.provisionVolume
  generalize blockFilesystemFor cr.id.protocol req.capabilities = fs
  refine yields_bind (yields_mapError (yields_create_fits server positive source)) ?_
  rintro vol t ⟨named, reported, g, here, fits⟩
  refine yields_bind (yields_labels (within_recordFilesystem c _ _) here) fun _ t here => ?_
  refine yields_bind (yields_labels (within_applyRequested c _ _) here) fun _ t here => ?_
  refine yields_bind (yields_labels (emits_attempt.mpr (within_publishContext _ _ _)) here)
    fun _ t here => ?_
  exact yields_ret ⟨congrArg Volume.ID.string named, reported, g, here, fits⟩

def surroundings (id : ID) (req : CreateVolumeRequest) (a : State) :
    Option Gauge × (DatasetType × Int) :=
  (gaugeAt id.datasetPath a, shapeAt (((sourceOf req).map Prod.fst).getD "")
    (((sourceOf req).map Prod.snd).getD "") a)

theorem fits_surroundings {kind : DatasetType} {size : Int} {id : ID} {req : CreateVolumeRequest}
    {a a' : State} (kept : surroundings id req a' = surroundings id req a) :
    Fits kind size (gaugeAt id.datasetPath a')
        (cloned a' (((sourceOf req).map Prod.fst).getD "") (((sourceOf req).map Prod.snd).getD "")) ↔
      Fits kind size (gaugeAt id.datasetPath a) ((sourceOf req).map fun src => shapeAt src.1 src.2 a) := by
  obtain ⟨gauged, shaped⟩ := Prod.mk.inj kept
  rw [gauged]
  cases given : sourceOf req with
  | none => simp [cloned]
  | some src =>
    obtain ⟨zfsID, source⟩ := src
    rw [given] at shaped
    have whole : zfsID ≠ "" := sourceOf_nonempty given
    simp only [Option.map_some, Option.getD_some] at shaped ⊢
    rw [cloned, if_neg whole, shaped]

theorem honoured_iff {required limit reported : Int} {g : Gauge} :
    Honoured required limit reported (some g) ↔
    g.capacity = reported ∧ required ≤ reported ∧ (limit ≠ 0 → reported ≤ limit) := by
  simp [Honoured]

variable {id : ID} {req : CreateVolumeRequest}

theorem yields_handle (id : ID) :
    M.yields (withStatus (c.reg.handle id.backend id.protocol)) (fun h t =>
      t.appliance = w.appliance ∧ ∃ b p, Protocol.factoryFor id.protocol = some p ∧
        h = ⟨p, c.reg.server ⟨id.backend, b.host⟩ b⟩) w := by
  refine yields_mapError (yields_iff_wp.mpr (wp_mono (c.reg.wp_handle id.backend id.protocol) ?_))
  rintro r t ⟨same, answered⟩ h given
  obtain ⟨b, p, -, known, made⟩ := answered h given
  exact ⟨same, b, p, known, made⟩

/-- The report of a creation is the size it asked for. -/
theorem yields_createLocked (mod : Modification) (nonnegative : 0 ≤ req.requiredBytes)
    (ordered : req.limitBytes = 0 ∨ req.requiredBytes ≤ req.limitBytes) :
    M.yields (c.createLocked id req mod) (fun info t => info.volumeId = id.string ∧
      (Honoured req.requiredBytes req.limitBytes info.capacityBytes
          (gaugeAt id.datasetPath (t.appliance id.backend)) ↔
        DefaultWithin req ∧ Matching (w.appliance id.backend) id req)) w := by
  have elsewhere := datasetPath_ne_parentPath id
  have keeps {α : Type} {p : M α} (within : M.Within (Preparing id.parentPath
      (((sourceOf req).map Prod.fst).getD "") (((sourceOf req).map Prod.snd).getD "")) p) :
      M.Keeps (surroundings id req) p := keeps_prepared within elsewhere
  refine yields_bind (yields_handle c id) ?_
  rintro _ t ⟨same, b, p, known, rfl⟩
  have kept : surroundings id req (t.appliance id.backend) =
      surroundings id req (w.appliance id.backend) := by rw [same]
  refine yields_ofExcept_seq fun size sized => ?_
  obtain ⟨rfl, positive, enough, limited⟩ := sizeFor_range known nonnegative ordered sized
  refine yields_bind ((keeps (within_requireRoomOutsideReserve c _ _)).yields kept)
    fun _ t kept => ?_
  refine yields_bind ((keeps (within_requireRoomInNamespaceQuota c id _ _ _)).yields kept)
    fun _ t kept => ?_
  refine yields_bind ((keeps emits_ofExcept).yields kept) fun _ t kept => ?_
  refine yields_bind ((keeps emits_ofExcept).yields kept) fun _ t kept => ?_
  have sourced : M.yields (c.sourceSnapshot id req) (fun src u =>
      src = ((sourceOf req).map Prod.fst).getD "" ∧ surroundings id req (u.appliance id.backend) =
        surroundings id req (w.appliance id.backend)) t :=
    yields_and (yields_sourceSnapshot c id req)
      ((keeps (within_sourceSnapshot c id req _)).yields kept)
  refine yields_bind sourced ?_
  rintro _ u ⟨rfl, kept⟩
  refine yields_mono (yields_provisionVolume c _ req mod positive
    (((sourceOf req).map Prod.snd).getD "")) ?_
  rintro info v ⟨named, reported, g, here, fits⟩
  refine ⟨named, ?_⟩
  have matched : g.capacity = requestedSize id.protocol req.requiredBytes ↔
      Matching (w.appliance id.backend) id req := by
    unfold Matching
    rw [datasetTypeFor_of_factory known, ← fits_surroundings kept]
    exact fits
  rw [show gaugeAt id.datasetPath (v.appliance id.backend) = some g from here, reported,
    honoured_iff, matched, limited]
  constructor
  · rintro ⟨matching, -, within⟩
    exact ⟨within, matching⟩
  · rintro ⟨within, matching⟩
    exact ⟨matching, enough, within⟩

theorem yields_expandLocked {want : Int} : M.yields (c.expandLocked id want) (fun resp t =>
    resp.capacityBytes = want ∧ Grown (datasetTypeFor id.protocol) id.datasetPath want
      (w.appliance id.backend) (t.appliance id.backend)) w := by
  refine yields_bind (yields_handle c id) ?_
  rintro _ t ⟨same, b, p, known, rfl⟩
  refine yields_bind (yields_mapError (yields_expand_grown _)) ?_
  rintro n u ⟨rfl, grown⟩
  rw [← same, datasetTypeFor_of_factory known]
  exact yields_ret ⟨rfl, grown⟩

end

/-- For every controller, state and failures. A creation that succeeds reports the size that was made and
within its range, exactly if the default is within the limit and the dataset or source that was there has
the requested size. A growth that succeeds does so exactly if the dataset is of the kind of its protocol or
had that size. -/
theorem capacity_contract_iff (c : Controller) (w : World) (faults : List Fault) :
    (∀ (req : CreateVolumeRequest) (id : Volume.ID) (mod : Csi.Modification) (info : VolumeInfo)
        (t : World), 0 ≤ req.requiredBytes →
        (req.limitBytes = 0 ∨ req.requiredBytes ≤ req.limitBytes) →
        c.acceptRequest req = .ok (id, mod) →
        M.run (c.createVolume req) faults w = (.ok info, t) →
      info.volumeId = id.string ∧ (Honoured req.requiredBytes req.limitBytes info.capacityBytes
          (gaugeAt id.datasetPath (t.appliance id.backend)) ↔
        DefaultWithin req ∧ Matching (w.appliance id.backend) id req)) ∧
    (∀ (req : ExpandRequest) (id : Volume.ID) (required limit : Int) (resp : Csi.ExpandResponse)
        (t : World), req.capacityRange = some (required, limit) →
        (limit = 0 ∨ required ≤ limit) → Volume.parseID req.volumeId = .ok id →
        M.run (c.controllerExpandVolume req) faults w = (.ok resp, t) →
      ∃ g, gaugeAt id.datasetPath (w.appliance id.backend) = some g ∧
        (Honoured required limit resp.capacityBytes (gaugeAt id.datasetPath (t.appliance id.backend)) ↔
          g.type = datasetTypeFor id.protocol ∨ g.capacity = required)) := by
  constructor
  · intro req id mod info t nonnegative ordered accepted ran
    have created : M.yields (c.createVolume req) (fun info t => info.volumeId = id.string ∧
        (Honoured req.requiredBytes req.limitBytes info.capacityBytes
            (gaugeAt id.datasetPath (t.appliance id.backend)) ↔
          DefaultWithin req ∧ Matching (w.appliance id.backend) id req)) w := by
      unfold Controller.createVolume
      rw [accepted]
      refine yields_locked ?_ ?_
      · intro a t u same reached
        rw [same]
        exact reached
      · intro u same
        rw [← same]
        exact yields_createLocked c mod nonnegative ordered
    have reached := yields_run_ok created ran
    exact reached
  · intro req id required limit resp t range ordered parsed ran
    have expanded : M.yields (c.controllerExpandVolume req) (fun resp t =>
        resp.capacityBytes = required ∧ Grown (datasetTypeFor id.protocol) id.datasetPath required
          (w.appliance id.backend) (t.appliance id.backend)) w := by
      unfold Controller.controllerExpandVolume
      split_ifs
      · exact yields_fail
      · rw [range]
        dsimp only
        rw [parsed]
        simp only [ofExcept_ok, mapError_ret, ret_bind]
        split_ifs
        · exact yields_fail
        · refine yields_locked ?_ ?_
          · intro a t u same reached
            rw [same]
            exact reached
          · intro u same
            rw [← same]
            exact yields_expandLocked c
    -- The report is the request, so it is true exactly if the dataset ends with that size.
    obtain ⟨reported, g₀, g, before, after, grown⟩ := yields_run_ok expanded ran
    refine ⟨g₀, before, ?_⟩
    rw [after, reported, honoured_iff, grown]
    constructor
    · exact fun honoured => honoured.1
    · intro fits
      exact ⟨fits, le_refl _, fun limited => ordered.resolve_left limited⟩

def sampleController : Controller where
  reg := {
    backends := Dict.ofList [("nas", { pool := "tank", parentDataset := "k8s", host := "10.0.0.9" })]
    env := ⟨⟨2026, 1, 1, 0, 0, 0⟩, 0, "secret", fun _ => "0", id⟩ }
  nodes := kubeNodeResolver fun _ => .ok none

def sampleRequest (protocol : String) (required limit : Int) : CreateVolumeRequest where
  name := "pvc-1"
  capabilities := [⟨.mount "", .singleNodeWriter⟩]
  parameters := Dict.ofList [("protocol", protocol)]
  requiredBytes := required
  limitBytes := limit

def sampleId (protocol : String) : ID := ⟨"nas", protocol, "tank", "k8s", "", "pvc-1"⟩

variable (volumes : List (String × DatasetState))

def sampleDatasets : Dict DatasetState :=
  Dict.ofList ([("tank", { type := .filesystem }), ("tank/k8s", { type := .filesystem })] ++ volumes)

def sampleWorld : World where
  appliance _ := { storage := { datasets := sampleDatasets volumes } }

/-- A blank filesystem has the size that is reported. -/
theorem blank_filesystem_honoured : ∃ info t,
    M.run (sampleController.createVolume (sampleRequest "nfs" 2147483648 0)) [] (sampleWorld []) =
      (.ok info, t) ∧ Honoured 2147483648 0 info.capacityBytes
        (gaugeAt "tank/k8s/pvc-1" (t.appliance "nas")) := by
  have completes : (M.run (sampleController.createVolume (sampleRequest "nfs" 2147483648 0)) []
      (sampleWorld [])).1.isOk = true := by decide
  have accepted : sampleController.acceptRequest (sampleRequest "nfs" 2147483648 0) =
      .ok (sampleId "nfs", []) := rfl
  cases ran : M.run (sampleController.createVolume (sampleRequest "nfs" 2147483648 0)) []
      (sampleWorld []) with
  | mk answer t =>
    cases answer with
    | error e => rw [ran] at completes; cases completes
    | ok info =>
      refine ⟨info, t, rfl, ?_⟩
      have contract := (capacity_contract_iff sampleController (sampleWorld []) []).1
        (sampleRequest "nfs" 2147483648 0) (sampleId "nfs") [] info t (by decide) (.inl rfl) accepted ran
      refine contract.2.mpr ⟨fun wrong => absurd wrong (by decide), ?_⟩
      have empty : gaugeAt (sampleId "nfs").datasetPath ((sampleWorld []).appliance "nas") = none := by
        decide
      unfold Matching
      rw [show (sampleId "nfs").backend = "nas" from rfl, empty]
      trivial

/-- A zvol of half the size passes. -/
theorem adopted_zvol_misreported : ∃ info t,
    M.run (sampleController.createVolume (sampleRequest "iscsi" 2147483648 0)) []
        (sampleWorld [("tank/k8s/pvc-1", { type := .volume, volSize := 1073741824 })]) = (.ok info, t) ∧
      ¬Honoured 2147483648 0 info.capacityBytes (gaugeAt "tank/k8s/pvc-1" (t.appliance "nas")) := by
  have ends : (M.run (sampleController.createVolume (sampleRequest "iscsi" 2147483648 0)) []
        (sampleWorld [("tank/k8s/pvc-1", { type := .volume, volSize := 1073741824 })])).1.isOk = true ∧
      (gaugeAt "tank/k8s/pvc-1" ((M.run (sampleController.createVolume (sampleRequest "iscsi" 2147483648 0))
        [] (sampleWorld [("tank/k8s/pvc-1", { type := .volume, volSize := 1073741824 })])).2.appliance
          "nas")) = some ⟨.volume, 1073741824, 0⟩ := by decide
  obtain ⟨completes, left⟩ := ends
  cases ran : M.run (sampleController.createVolume (sampleRequest "iscsi" 2147483648 0)) []
      (sampleWorld [("tank/k8s/pvc-1", { type := .volume, volSize := 1073741824 })]) with
  | mk answer t =>
    rw [ran] at completes left
    cases answer with
    | error e => cases completes
    | ok info =>
      refine ⟨info, t, rfl, ?_⟩
      rw [show gaugeAt "tank/k8s/pvc-1" (t.appliance "nas") = some ⟨.volume, 1073741824, 0⟩ from left,
        honoured_iff]
      rintro ⟨same, enough, -⟩
      have small : info.capacityBytes = 1073741824 := same.symm
      omega

end TruenasCsi.Provisioning
