import TruenasCsi.Provisioning.Preparation
import TruenasCsi.Snapshots.Deletion
import TruenasCsi.Snapshots.Listing

/-! A requested name is mapped to one that ZFS accepts. -/

namespace TruenasCsi.Snapshots

open Appliance (Storage SnapshotState atOrBelow)
open Csi Truenas Prog Backend Volume

/-- Backend, dataset and name are read off an id. -/
theorem snapshotID_inj {b b' ds ds' name name' : String} (one : '/' ∉ b.toList)
    (two : '/' ∉ b'.toList) (clean : '@' ∉ name.toList) (clean' : '@' ∉ name'.toList) :
    snapshotID b (ds ++ "@" ++ name) = snapshotID b' (ds' ++ "@" ++ name') ↔
      b = b' ∧ ds = ds' ∧ name = name' := by
  constructor
  · intro same
    have cut : (some (b, ds ++ "@" ++ name) : Option (String × String)) =
        some (b', ds' ++ "@" ++ name') := by
      rw [← Text.cutFirst_append (ds ++ "@" ++ name) one,
        ← Text.cutFirst_append (ds' ++ "@" ++ name') two]
      exact congrArg _ same
    obtain ⟨rfl, rest⟩ := Prod.mk.inj (Option.some.inj cut)
    have parts := splitSnapshotID_append ds clean
    rw [rest, splitSnapshotID_append ds' clean'] at parts
    obtain ⟨rfl, rfl⟩ := Prod.mk.inj parts
    exact ⟨rfl, rfl, rfl⟩
  · rintro ⟨rfl, rfl, rfl⟩
    rfl

/-- The id that a request returns. -/
theorem createSnapshot_id (c : Controller) {req : CreateSnapshotRequest} {v : ID}
    (parsed : parseID req.sourceVolumeId = .ok v) {faults : List Fault} {w t : World}
    {info : SnapshotInfo} (created : M.run (c.createSnapshot req) faults w = (.ok info, t)) :
    info.snapshotId = snapshotID v.backend
      (v.datasetPath ++ "@" ++ sanitiseSnapshotName req.name) := by
  have answered : M.yields (c.createSnapshot req) (fun info _ => info.snapshotId =
      snapshotID v.backend (v.datasetPath ++ "@" ++ sanitiseSnapshotName req.name)) w := by
    unfold Controller.createSnapshot
    split_ifs
    · exact yields_fail
    · exact yields_fail
    · rw [parsed]
      simp only
      refine yields_bind yields_trivial fun _ t _ => ?_
      refine yields_bind (yields_mapError
        (Provisioning.yields_createSnapshot c.reg v (sanitiseSnapshotName req.name))) ?_
      intro snap u text
      exact yields_ret text
  have reached := yields_run_ok answered created
  exact reached

variable (b : Config) (s : Storage) (forClone : SnapshotState → Prop)

/-- A volume that was retired. -/
def Retired (dataset : String) : Prop :=
  retired b dataset = true ∨ ∃ ds, s.dataset? dataset = some ds ∧
    isRetired (localProperty ds deletedAtProperty) = true

/-- A snapshot that does not use a name up. -/
def Excused (snap : SnapshotState) : Prop :=
  atOrBelow b.root snap.dataset = false ∨ Retired b s snap.dataset ∨ forClone snap

/-- The name is in use for another source. -/
def Used (path name : String) : Prop :=
  ∃ snap ∈ s.snapshots, snap.name = name ∧ snap.dataset ≠ path ∧ ¬Excused b s forClone snap

def reuseError (name dataset : String) : Err :=
  .status .alreadyExists ("snapshot name " ++ Text.quote name ++
    " already exists for source volume " ++ dataset)

/-- The request fails because the name is in use. -/
def Refused (answer : Except Err SnapshotInfo) (name : String) : Prop :=
  ∃ dataset, answer = .error (reuseError name dataset)

section

variable {b : Config} {s : Storage} {forClone : SnapshotState → Prop} {path name : String}

theorem conflicts_of_used (used : Used b s forClone path name) : conflicts b s path name ≠ [] := by
  obtain ⟨snap, member, named, other, counts⟩ := used
  have inside : atOrBelow b.root snap.dataset = true := by
    by_contra outside
    exact counts (.inl (by simpa using outside))
  refine List.ne_nil_of_mem (List.mem_filter.mpr ⟨member, ?_⟩)
  simp [startsWith_of_atOrBelow inside, named, other]

variable {reg : Registry} {source : ID} {w : World}

theorem calm_createSnapshot_error (known : reg.backends.get? source.backend = some b) {e : Err}
    {t : World} (failed : M.calm (reg.createSnapshot source name) w = (.error e, t)) :
    e.code = none := by
  obtain ⟨u, dialled, -⟩ := reg.calm_client (w := w) known
  -- The answer itself never fails.
  have answers (snap : Option Appliance.Snapshot) (created : Option Moment) (u : World) :
      ∃ a, M.calm (do
        let size ← provisionedBytes ⟨source.backend, b.host⟩ snap source.datasetPath
        return (⟨snapshotID source.backend (source.datasetPath ++ "@" ++ name), source.string,
          size, created, true⟩ : Snapshot)) u = (.ok a, u) := by
    obtain ⟨size, sized⟩ := calm_provisionedBytes (w := u) ⟨source.backend, b.host⟩ snap
      source.datasetPath
    exact ⟨_, calm_bind_ok sized⟩
  have looked (u : World) : ∃ found, M.calm (Prog.attempt (Client.snapshotQuery
      ⟨source.backend, b.host⟩ (source.datasetPath ++ "@" ++ name))) u = (.ok (.ok found), u) :=
    ⟨_, calm_attempt.trans (by rw [Client.snapshotQuery, calm_first (calm_query rfl)])⟩
  unfold Registry.createSnapshot at failed
  rw [calm_bind_ok dialled] at failed
  obtain ⟨existing, asked⟩ := looked u
  rw [calm_bind_ok asked] at failed
  cases existing with
  | some snap =>
    obtain ⟨a, answered⟩ := answers (some snap) (creationTime snap) u
    simp only at failed
    rw [answered] at failed
    cases failed
  | none =>
    have made : M.calm (Client.snapshotCreate ⟨source.backend, b.host⟩ source.datasetPath name)
        u = _ := calm_middleware _ _
    simp only at failed
    cases act : ((u.appliance source.backend).act
        (.dataset (.snapshotCreate source.datasetPath name false))).1 with
    | error e' =>
      rw [act] at made
      rw [calm_bind_error made] at failed
      cases failed
      have refused : (Storage.act (.snapshotCreate source.datasetPath name false)
          (u.appliance source.backend).storage).1 = .error e := act
      simp only [Storage.act] at refused
      split_ifs at refused <;> cases refused <;> rfl
    | ok snap =>
      rw [act] at made
      rw [calm_bind_ok made] at failed
      obtain ⟨again, asked⟩ := looked (u.acted source.backend
        (.dataset (.snapshotCreate source.datasetPath name false)))
      rw [calm_bind_ok asked] at failed
      cases again with
      | none =>
        obtain ⟨a, answered⟩ := answers (some snap) (some (.clock reg.env.now)) (u.acted source.backend
          (.dataset (.snapshotCreate source.datasetPath name false)))
        simp only at failed
        rw [answered] at failed
        cases failed
      | some seen =>
        obtain ⟨a, answered⟩ := answers (some seen) (some ((creationTime seen).getD
          (.clock reg.env.now))) (u.acted source.backend
            (.dataset (.snapshotCreate source.datasetPath name false)))
        simp only at failed
        rw [answered] at failed
        cases failed

/-- The check compares the text listing below the parent. -/
theorem calm_rejectSnapshotNameReuse (name : String) (c : Controller)
    (known : c.reg.backends.get? source.backend = some b)
    (lawful : Lawful (w.appliance source.backend).storage) :
    ∃ t, t.appliance = w.appliance ∧
      ((conflicts b (w.appliance source.backend).storage source.datasetPath name = [] ∧
          M.calm (c.rejectSnapshotNameReuse source name) w = (.ok (), t)) ∨
        (conflicts b (w.appliance source.backend).storage source.datasetPath name ≠ [] ∧
          ∃ dataset, M.calm (c.rejectSnapshotNameReuse source name) w =
            (.error (reuseError name dataset), t))) := by
  obtain ⟨t, dialled, same⟩ := c.reg.calm_client (w := w) known
  have configured : c.reg.backend source.backend = .ok b := by
    simp only [Registry.backend, known]
  have listed : M.calm (withStatus (Client.snapshotList ⟨source.backend, b.host⟩
      b.root)) t = (.ok _, t) := calm_mapError_ok (calm_rows (calm_query rfl))
  have dialled' : M.calm (withStatus (c.reg.client source.backend)) w =
      (.ok ⟨source.backend, b.host⟩, t) := calm_mapError_ok dialled
  have read : withStatus (Prog.ofExcept (c.reg.backend source.backend)) = Prog.ret b := by
    rw [configured]
    rfl
  refine ⟨t, same, ?_⟩
  unfold Controller.rejectSnapshotNameReuse
  rw [calm_bind_ok dialled', read, ret_bind, calm_bind_ok listed]
  cases search : List.find? (fun s => snapshotNameOf s.id == name &&
      s.dataset != source.datasetPath) (((t.appliance source.backend).storage.snapshots.filter
        fun snap => Text.startsWith snap.dataset b.root).map Storage.snapshotView) with
  | none =>
    refine .inl ⟨List.filter_eq_nil_iff.mpr fun snap present taken => ?_, rfl⟩
    simp only [Bool.and_eq_true, bne_iff_ne, beq_iff_eq] at taken
    obtain ⟨⟨under, named⟩, other⟩ := taken
    refine List.find?_eq_none.mp search (Storage.snapshotView snap) (List.mem_map.mpr
      ⟨snap, List.mem_filter.mpr ⟨by rw [same]; exact present, under⟩, rfl⟩) ?_
    simp [Storage.snapshotView, snapshotNameOf_id (lawful snap present), named, other]
  | some view =>
    refine .inr ⟨?_, view.dataset, rfl⟩
    obtain ⟨snap, stored, rfl⟩ := List.mem_map.mp (List.mem_of_find?_eq_some search)
    obtain ⟨present, under⟩ := List.mem_filter.mp stored
    rw [same] at present
    refine List.ne_nil_of_mem (List.mem_filter.mpr ⟨present, ?_⟩)
    have matched := List.find?_some search
    simpa [Storage.snapshotView, snapshotNameOf_id (lawful snap present), under] using matched

/-- A name is refused iff one is in its way. -/
theorem refused_iff (c : Controller) {req : CreateSnapshotRequest}
    (parsed : parseID req.sourceVolumeId = .ok source) (named : req.name ≠ "")
    (known : c.reg.backends.get? source.backend = some b)
    (lawful : Lawful (w.appliance source.backend).storage) :
    Refused (M.calm (c.createSnapshot req) w).1 (sanitiseSnapshotName req.name) ↔
      conflicts b (w.appliance source.backend).storage source.datasetPath
        (sanitiseSnapshotName req.name) ≠ [] := by
  have given : req.sourceVolumeId ≠ "" := by
    intro none
    have text := (parseID_ok parsed).2
    rw [none, string_eq] at text
    simp [String.append_eq_empty_iff] at text
  unfold Controller.createSnapshot
  rw [if_neg named, if_neg given, parsed]
  simp only
  obtain ⟨t, same, ⟨free, passed⟩ | ⟨taken, dataset, refused⟩⟩ :=
    calm_rejectSnapshotNameReuse (sanitiseSnapshotName req.name) c known lawful
  · -- Past the check, the request succeeds or fails with another code.
    refine iff_of_false ?_ (by simp [free])
    rintro ⟨dataset, refused⟩
    rw [calm_bind_ok passed] at refused
    cases made : M.calm (c.reg.createSnapshot source (sanitiseSnapshotName req.name)) t with
    | mk r u =>
      have mapped : M.calm (withStatus (c.reg.createSnapshot source
          (sanitiseSnapshotName req.name))) t = (r.mapError toStatus, u) := by
        rw [withStatus, calm_mapError, made]
      cases r with
      | ok snap =>
        rw [calm_bind_ok mapped] at refused
        cases refused
      | error e =>
        rw [calm_bind_error mapped] at refused
        have code := congrArg Err.code (Except.error.inj refused)
        have bare := calm_createSnapshot_error known made
        simp only [toStatus, Err.hasChosenCode, bare, Bool.false_eq_true, if_false] at code
        split_ifs at code <;> cases code
  · refine iff_of_true ⟨dataset, ?_⟩ taken
    rw [calm_bind_error refused]

end

/-- Two parts, for every controller. First: two requests that succeeded, in any states and with any
failures, have different ids for different names exactly unless backend, dataset path and mapped
name agree. Second: a name in use by a snapshot that counts (`Used`: of another dataset at or below
the parent, neither retired nor made for a clone) is never accepted; and with all calls answered it
is refused exactly when it is in use, iff any conflict that the text listing shows comes with one
that counts. -/
theorem snapshot_names_iff (c : Csi.Controller) :
    (∀ (one two : CreateSnapshotRequest) (v v' : Volume.ID) (faults faults' : List Fault)
        (w w' t t' : World) (info info' : SnapshotInfo),
      Volume.parseID one.sourceVolumeId = .ok v → Volume.parseID two.sourceVolumeId = .ok v' →
      M.run (c.createSnapshot one) faults w = (.ok info, t) →
      M.run (c.createSnapshot two) faults' w' = (.ok info', t') →
      ((one.name ≠ two.name → info.snapshotId ≠ info'.snapshotId) ↔
        ¬(one.name ≠ two.name ∧ v.backend = v'.backend ∧ v.datasetPath = v'.datasetPath ∧
          sanitiseSnapshotName one.name = sanitiseSnapshotName two.name))) ∧
    ∀ (req : CreateSnapshotRequest) (v : Volume.ID) (b : Backend.Config) (w : World)
        (forClone : SnapshotState → Prop),
      req.name ≠ "" → Volume.parseID req.sourceVolumeId = .ok v →
      c.reg.backends.get? v.backend = some b → Lawful (w.appliance v.backend).storage →
      (∀ faults, Used b (w.appliance v.backend).storage forClone v.datasetPath
          (sanitiseSnapshotName req.name) →
        (M.run (c.createSnapshot req) faults w).1.isOk = false) ∧
      ((Refused (M.calm (c.createSnapshot req) w).1 (sanitiseSnapshotName req.name) ↔
          Used b (w.appliance v.backend).storage forClone v.datasetPath
            (sanitiseSnapshotName req.name)) ↔
        (conflicts b (w.appliance v.backend).storage v.datasetPath
            (sanitiseSnapshotName req.name) ≠ [] →
          Used b (w.appliance v.backend).storage forClone v.datasetPath
            (sanitiseSnapshotName req.name))) := by
  constructor
  · intro one two v v' faults faults' w w' t t' info info' parsed parsed' created created'
    have clean := sanitiseSnapshotName_clean
    rw [createSnapshot_id c parsed created, createSnapshot_id c parsed' created', ne_eq
      (snapshotID _ _), snapshotID_inj (parseID_ok parsed).1.backend.slashless
        (parseID_ok parsed').1.backend.slashless (clean _) (clean _)]
    exact not_and.symm
  · intro req v b w forClone named parsed known lawful
    constructor
    · intro faults used
    -- A request that succeeds has found no conflict, whatever failed.
      by_contra succeeded
      rw [Bool.not_eq_false] at succeeded
      obtain ⟨info, answered, -, ⟨b', known', free⟩, -⟩ := yields_run
        (yields_createSnapshot_request c parsed lawful) succeeded
      rw [known] at known'
      cases known'
      exact conflicts_of_used used free
    · rw [refused_iff c parsed named known lawful]
      exact ⟨fun same => same.mp, fun counts => ⟨counts, conflicts_of_used⟩⟩

def keepingController : Controller where
  reg := {
    backends := Dict.ofList [("nas", { pool := "tank", parentDataset := "k8s", grace := 3600 })]
    env := ⟨⟨2026, 1, 1, 0, 0, 0⟩, 0, "secret", fun _ => "0", id⟩ }
  nodes := kubeNodeResolver fun _ => .ok none

def retiredWorld : World where
  appliance _ := { storage := {
    datasets := mixedDatasets.set "tank/k8s/.trash/20260101T000000Z-old" { type := .filesystem }
    snapshots := [⟨"tank/k8s/.trash/20260101T000000Z-old", "daily", 1, 1700000000, 0,
      .filesystem⟩] } }

def crowdedWorld : World where
  appliance _ := { storage := {
    datasets := mixedDatasets.set "tank/k8s/.trash/20260101T000000Z-old" { type := .filesystem }
    snapshots := [
      ⟨"tank/k8s/.trash/20260101T000000Z-old", "daily", 1, 1700000000, 0, .filesystem⟩,
      ⟨"tank/k8s/disk", "daily", 2, 1700000060, 4096, .volume⟩] } }

/-- Two names of one volume get two ids, and a name that a retired and a live dataset use is
refused. -/
theorem snapshot_names_sample :
    (∃ info info' t t',
      M.run (sampleController.createSnapshot ⟨"a b", "nas/nfs/tank/k8s/data"⟩) [] mixedWorld =
        (.ok info, t) ∧
      M.run (sampleController.createSnapshot ⟨"weekly", "nas/nfs/tank/k8s/data"⟩) [] t =
        (.ok info', t') ∧ info.snapshotId ≠ info'.snapshotId) ∧
    Refused (M.calm (keepingController.createSnapshot shareRequest) crowdedWorld).1
      (sanitiseSnapshotName "daily") := by
  have source : Volume.parseID "nas/nfs/tank/k8s/data" =
      .ok ⟨"nas", "nfs", "tank", "k8s", "", "data"⟩ := by decide
  constructor
  · have succeeded : (M.run (sampleController.createSnapshot ⟨"a b", "nas/nfs/tank/k8s/data"⟩) []
          mixedWorld).1.isOk = true ∧
        (M.run (sampleController.createSnapshot ⟨"weekly", "nas/nfs/tank/k8s/data"⟩) []
          (M.run (sampleController.createSnapshot ⟨"a b", "nas/nfs/tank/k8s/data"⟩) []
            mixedWorld).2).1.isOk = true := by decide +kernel
    obtain ⟨info, first, -⟩ := yields_run (Q := fun _ _ => True) yields_trivial succeeded.1
    obtain ⟨info', second, -⟩ := yields_run (Q := fun _ _ => True) yields_trivial succeeded.2
    refine ⟨info, info', _, _, Prod.ext first rfl, Prod.ext second rfl, ?_⟩
    exact ((snapshot_names_iff sampleController).1 _ _ _ _ _ _ _ _ _ _ info info' source source
      (Prod.ext first rfl) (Prod.ext second rfl)).mpr (by decide) (by decide)
  · have used : Used { pool := "tank", parentDataset := "k8s", grace := 3600 }
        (crowdedWorld.appliance "nas").storage (fun _ => False) "tank/k8s/data"
        (sanitiseSnapshotName "daily") := by
      refine ⟨⟨"tank/k8s/disk", "daily", 2, 1700000060, 4096, .volume⟩,
        List.mem_cons_of_mem _ List.mem_cons_self, by decide, by decide, ?_⟩
      rintro (outside | (trashed | ⟨ds, found, stamped⟩) | cloned)
      · exact absurd outside (by decide)
      · exact absurd trashed (by decide)
      · have live : ∀ ds, (crowdedWorld.appliance "nas").storage.dataset? "tank/k8s/disk" = some ds →
            isRetired (localProperty ds deletedAtProperty) = false := by decide
        rw [live ds found] at stamped
        cases stamped
      · exact cloned
    have lawful : Lawful (crowdedWorld.appliance "nas").storage := by
      intro snap member
      rcases List.mem_pair.mp member with rfl | rfl <;> decide
    exact (((snapshot_names_iff keepingController).2 shareRequest _ _ crowdedWorld (fun _ => False)
      (by decide) source rfl lawful).2.mpr fun _ => used).mpr used

/-- One snapshot for two names, and a blocked name. -/
theorem snapshot_names_collide :
    ((M.run (sampleController.createSnapshot ⟨"a b", "nas/nfs/tank/k8s/data"⟩) [] mixedWorld).1.map
        (·.snapshotId) = .ok "nas/tank/k8s/data@a-b" ∧
      (M.run (sampleController.createSnapshot ⟨"a-b", "nas/nfs/tank/k8s/data"⟩) []
        (M.run (sampleController.createSnapshot ⟨"a b", "nas/nfs/tank/k8s/data"⟩) [] mixedWorld).2).1.map
        (·.snapshotId) = .ok "nas/tank/k8s/data@a-b") ∧
    Backend.retired { pool := "tank", parentDataset := "k8s", grace := 3600 }
      "tank/k8s/.trash/20260101T000000Z-old" = true ∧
    (M.run (keepingController.createSnapshot shareRequest) [] retiredWorld).1 =
      .error (reuseError "daily" "tank/k8s/.trash/20260101T000000Z-old") := by
  refine ⟨⟨by decide, by decide⟩, by decide, by decide⟩

end TruenasCsi.Snapshots
