import TruenasCsi.Csi.Snapshots
import TruenasCsi.Snapshots.Creation

/-! What a request for a snapshot of one volume leaves behind. -/

namespace TruenasCsi.Snapshots

open Appliance (Storage SnapshotState)
open Csi Prog Backend

theorem snapshotNameOf_id {snap : SnapshotState} (clean : '@' ∉ snap.name.toList) :
    snapshotNameOf snap.id = snap.name := by
  have cut := Text.cutLast_append snap.dataset clean
  rw [snapshotNameOf, SnapshotState.id, show "@" = String.singleton '@' from rfl, cut]

/-- The snapshots in the way of a name. -/
def conflicts (b : Config) (s : Storage) (path name : String) : List SnapshotState :=
  s.snapshots.filter fun snap => Text.startsWith snap.dataset b.root && snap.name == name &&
    snap.dataset != path

section

variable {reg : Registry} {source : Volume.ID} {name : String} {w : World}

/-- The dataset has a snapshot of the name. -/
def Holds (s : Storage) (path name : String) : Prop :=
  ∃ snap ∈ s.snapshots, snap.dataset = path ∧ snap.name = name

theorem yields_snapshotCreate (c : Truenas.Client) (path name : String) :
    M.yields (c.snapshotCreate path name) (fun _ t =>
      Holds (t.appliance c.name).storage path name) w := by
  refine yields_middleware fun snap taken => ?_
  rw [acted_dataset, stored_storage]
  have taken' : (Storage.act (.snapshotCreate path name false) (w.appliance c.name).storage).1 =
      .ok snap := taken
  simp only [Storage.act] at taken' ⊢
  split_ifs at taken' ⊢ with absent present
  refine ⟨(w.appliance c.name).storage.newSnapshot name path, ?_, rfl, rfl⟩
  simp [Storage.captured]

theorem yields_createSnapshot_held (clean : '@' ∉ name.toList)
    (lawful : Lawful (w.appliance source.backend).storage) :
    M.yields (reg.createSnapshot source name) (fun snap t =>
      snap.id = snapshotID source.backend (source.datasetPath ++ "@" ++ name) ∧
      Holds (t.appliance source.backend).storage source.datasetPath name) w := by
  have dialled : M.yields (reg.client source.backend) (fun cl t => cl.name = source.backend ∧
      t.appliance = w.appliance) w := by
    refine yields_iff_wp.mpr (wp_mono (reg.wp_client source.backend) ?_)
    rintro r t ⟨same, answered⟩ cl rfl
    obtain ⟨b, -, rfl⟩ := answered cl rfl
    exact ⟨rfl, same⟩
  refine yields_bind dialled ?_
  rintro cl t ⟨named, same⟩
  -- Whatever is reported, it is reported in a world that holds the snapshot.
  have answers (snap : Option Appliance.Snapshot) (created : Option Moment) {t : World}
      (held : Holds (t.appliance source.backend).storage source.datasetPath name) :
      M.yields (do
        let size ← provisionedBytes cl snap source.datasetPath
        return (⟨snapshotID source.backend (source.datasetPath ++ "@" ++ name), source.string,
          size, created, true⟩ : Snapshot)) (fun snap t => snap.id =
        snapshotID source.backend (source.datasetPath ++ "@" ++ name) ∧
        Holds (t.appliance source.backend).storage source.datasetPath name) t := by
    refine yields_bind (yields_provisionedBytes cl snap source.datasetPath) ?_
    rintro size u rfl
    exact yields_ret ⟨rfl, held⟩
  have looked := asks_snapshotQuery cl (source.datasetPath ++ "@" ++ name) (w := t)
  rw [named, same] at looked
  refine yields_bind (yields_attempt looked) ?_
  rintro existing u ⟨rfl, seen⟩
  split
  · next found =>
    -- It is there: an id tells the dataset and the name.
    rcases seen with answer | ⟨e, wrong⟩
    · have present := (Option.map_eq_some_iff.mp (Except.ok.inj answer).symm)
      obtain ⟨snap, stored, -⟩ := present
      have member := List.mem_of_find?_eq_some stored
      have sameID : snap.id = source.datasetPath ++ "@" ++ name := by
        simpa using List.find?_some stored
      obtain ⟨dataset, text⟩ := eq_of_id (lawful snap member) clean sameID
      refine answers _ _ ⟨snap, ?_, dataset, text⟩
      rw [same]
      exact member
    · cases wrong
  · refine yields_bind (yields_snapshotCreate cl source.datasetPath name) ?_
    rintro created v held
    rw [named] at held
    refine yields_bind (yields_attempt (asks_snapshotQuery cl _)) ?_
    rintro again x ⟨rfl, -⟩
    split
    · exact answers _ _ held
    · exact answers _ _ held

theorem yields_rejectSnapshotNameReuse (c : Controller)
    (lawful : Lawful (w.appliance source.backend).storage) :
    M.yields (c.rejectSnapshotNameReuse source name) (fun _ t => t.appliance = w.appliance ∧
      ∃ b, c.reg.backends.get? source.backend = some b ∧
        conflicts b (w.appliance source.backend).storage source.datasetPath name = []) w := by
  have dialled : M.yields (withStatus (c.reg.client source.backend)) (fun cl t =>
      t.appliance = w.appliance ∧
        ∃ b, c.reg.backends.get? source.backend = some b ∧ cl = ⟨source.backend, b.host⟩) w := by
    refine yields_mapError (yields_iff_wp.mpr (wp_mono (c.reg.wp_client source.backend) ?_))
    rintro r t ⟨same, answered⟩ cl rfl
    exact ⟨same, answered cl rfl⟩
  refine yields_bind dialled ?_
  rintro _ t ⟨same, b, known, rfl⟩
  have configured : c.reg.backend source.backend = .ok b := by
    simp only [Registry.backend, known]
  have listed : Truenas.Asks (withStatus
      (Truenas.Client.snapshotList ⟨source.backend, b.host⟩ b.root)) t _ :=
    (asks_snapshotList ⟨source.backend, b.host⟩ b.root).mapError _
  rw [configured, ofExcept_ok, withStatus, mapError_ret, ret_bind]
  refine listed.yields_seq ?_
  split
  · exact yields_fail
  · next free =>
    refine yields_ret ⟨same, b, known, ?_⟩
    rw [← same]
    refine List.filter_eq_nil_iff.mpr fun snap member taken => ?_
    simp only [Bool.and_eq_true, bne_iff_ne, beq_iff_eq] at taken
    obtain ⟨⟨under, text⟩, other⟩ := taken
    have missed := List.find?_eq_none.mp free (Storage.snapshotView snap)
      (List.mem_map.mpr ⟨snap, List.mem_filter.mpr ⟨member, under⟩, rfl⟩)
    refine missed ?_
    have read : snapshotNameOf snap.id = name := by
      rw [snapshotNameOf_id (lawful snap (by rw [← same]; exact member)), text]
    simpa [Storage.snapshotView, read] using other

/-- A request that succeeded leaves its snapshot, and found its name free elsewhere. -/
theorem yields_createSnapshot_request (c : Controller) {req : CreateSnapshotRequest}
    (parsed : Volume.parseID req.sourceVolumeId = .ok source)
    (lawful : Lawful (w.appliance source.backend).storage) :
    M.yields (c.createSnapshot req) (fun info t =>
      info.snapshotId = snapshotID source.backend
        (source.datasetPath ++ "@" ++ sanitiseSnapshotName req.name) ∧
      (∃ b, c.reg.backends.get? source.backend = some b ∧
        conflicts b (w.appliance source.backend).storage source.datasetPath
          (sanitiseSnapshotName req.name) = []) ∧
      Holds (t.appliance source.backend).storage source.datasetPath
        (sanitiseSnapshotName req.name)) w := by
  unfold Controller.createSnapshot
  split_ifs
  · exact yields_fail
  · exact yields_fail
  · rw [parsed]
    simp only
    refine yields_bind (yields_rejectSnapshotNameReuse c lawful) ?_
    rintro _ t ⟨same, known⟩
    refine yields_bind (yields_mapError (yields_createSnapshot_held
      (sanitiseSnapshotName_clean req.name) (by rw [same]; exact lawful))) ?_
    rintro snap u ⟨text, held⟩
    exact yields_ret ⟨text, known, held⟩

end

end TruenasCsi.Snapshots
