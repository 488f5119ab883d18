import TruenasCsi.Csi.GroupController

/-! What the calls on snapshots do. -/

namespace TruenasCsi.Snapshots

open Appliance Truenas Prog Appliance.Storage Text

/-- ZFS allows no `@` in the name of a snapshot. -/
def Lawful (s : Storage) : Prop := ∀ snap ∈ s.snapshots, '@' ∉ snap.name.toList

section

variable {snap : SnapshotState} (clean : '@' ∉ snap.name.toList)

include clean

theorem splitSnapshotID_id : Backend.splitSnapshotID snap.id = (snap.dataset, snap.name) :=
  Backend.splitSnapshotID_append _ clean

theorem eq_of_id {ds name : String} (nameClean : '@' ∉ name.toList)
    (same : snap.id = ds ++ "@" ++ name) : snap.dataset = ds ∧ snap.name = name := by
  have parts := splitSnapshotID_id clean
  rw [same, Backend.splitSnapshotID_append _ nameClean] at parts
  exact ⟨(congrArg Prod.fst parts).symm, (congrArg Prod.snd parts).symm⟩

theorem snapshotDataset_view : Backend.snapshotDataset (snapshotView snap) = snap.dataset := by
  unfold Backend.snapshotDataset
  split_ifs with unnamed
  · exact congrArg Prod.fst (splitSnapshotID_id clean)
  · rfl

theorem inGroup_view {parent name : String} :
    Backend.inGroup parent name (snapshotView snap) = true ↔
      snap.name = name ∧ atOrBelow parent snap.dataset = true := by
  have named : Backend.snapshotName (snapshotView snap).id = snap.name :=
    congrArg Prod.snd (splitSnapshotID_id clean)
  simp [Backend.inGroup, named, snapshotDataset_view clean]

end

/-- Storage that has lost the snapshots of these ids. -/
def without (ids : List String) (s : Storage) : Storage :=
  { s with snapshots := s.snapshots.filter fun snap => snap.id ∉ ids }

@[simp] theorem without_nil (s : Storage) : without [] s = s := by
  simp [without]

theorem without_without (first second : List String) (s : Storage) :
    without second (without first s) = without (first ++ second) s := by
  simp [without, List.filter_filter, Bool.and_comm]

variable {s : Storage} {w : World}

theorem mem_without {ids : List String} {snap : SnapshotState} :
    snap ∈ (without ids s).snapshots ↔ snap ∈ s.snapshots ∧ snap.id ∉ ids := by
  simp [without]

theorem Lawful.without (lawful : Lawful s) (ids : List String) : Lawful (without ids s) :=
  fun snap member => lawful snap (mem_without.mp member).1

theorem without_absent {id : String} (absent : s.snapshot? id = none) :
    without [id] s = s := by
  have none : ∀ snap ∈ s.snapshots, snap.id ≠ id := by
    simpa [snapshot?] using absent
  have all : s.snapshots.filter (fun snap => snap.id ∉ [id]) = s.snapshots :=
    List.filter_eq_self.mpr fun snap member => by simpa using none snap member
  rw [Snapshots.without, all]

def stored (w : World) (backend : String) (s : Storage) : World :=
  w.setAppliance backend { w.appliance backend with storage := s }

@[simp] theorem stored_storage (w : World) (backend : String) (s : Storage) :
    ((stored w backend s).appliance backend).storage = s := by
  simp [stored]

@[simp] theorem stored_same (w : World) (backend : String) :
    stored w backend (w.appliance backend).storage = w :=
  w.setAppliance_appliance backend

@[simp] theorem stored_stored (w : World) (backend : String) (s s' : Storage) :
    stored (stored w backend s) backend s' = stored w backend s' := by
  simp [stored, World.setAppliance]

theorem acted_dataset (w : World) (backend : String) (op : DatasetOp) :
    w.acted backend (.dataset op) = stored w backend (act op (w.appliance backend).storage).2 := rfl

variable (c : Client) (snaps : List Snapshot) (id : String)

/-- A deletion takes the one snapshot, or nothing. -/
theorem act_snapshotDelete (s : Storage) :
    (act (.snapshotDelete id) s).2 = without [id] s ∨
      (act (.snapshotDelete id) s).2 = s ∧
        ∃ e, (act (.snapshotDelete id) s).1 = .error e ∧ e.isNotFound = false := by
  by_cases absent : (s.snapshot? id).isNone = true
  · left
    rw [without_absent (Option.isNone_iff_eq_none.mp absent)]
    simp [act, absent]
  · by_cases cloned : (s.datasets.entries.any fun e => e.2.origin == id) = true
    · right
      simp only [act, if_neg absent, if_pos cloned, true_and]
      exact ⟨_, rfl, by decide⟩
    · left
      simp only [act, if_neg absent, if_neg cloned, without]
      simp [bne, BEq.beq]

theorem wp_snapshotDelete :
    M.wp (c.snapshotDelete id) (fun r t => ((∃ e, r = .error e) ∧ t = w) ∨
      t = stored w c.name (without [id] (w.appliance c.name).storage)) w := by
  refine wp_gone ?_
  unfold Client.dataset
  have acted : w.acted c.name (.dataset (.snapshotDelete id)) =
        stored w c.name (without [id] (w.appliance c.name).storage) ∨
      w.acted c.name (.dataset (.snapshotDelete id)) = w ∧
        ∃ e, ((w.appliance c.name).act (.dataset (.snapshotDelete id))).1 = .error e ∧
          e.isNotFound = false := by
    rw [acted_dataset]
    rcases act_snapshotDelete id (w.appliance c.name).storage with gone | ⟨kept, e, refused, present⟩
    · exact .inl (by rw [gone])
    · exact .inr ⟨by rw [kept, stored_same], e, refused, present⟩
  refine wp_middleware.mpr ⟨?_, ?_, ?_⟩
  · intro e
    refine ⟨.inl ⟨⟨_, rfl⟩, rfl⟩, ?_⟩
    rintro f ⟨⟩ notFound
    rw [e.notAbsence] at notFound
    cases notFound
  · intro e
    rcases acted with gone | ⟨kept, -⟩
    · exact ⟨.inr gone, fun _ _ _ => .inr gone⟩
    · refine ⟨.inl ⟨⟨_, rfl⟩, kept⟩, ?_⟩
      rintro f ⟨⟩ notFound
      rw [e.notAbsence] at notFound
      cases notFound
  · rcases acted with gone | ⟨kept, e, refused, present⟩
    · exact ⟨.inr gone, fun _ _ _ => .inr gone⟩
    · refine ⟨.inl ⟨⟨e, refused⟩, kept⟩, ?_⟩
      intro f failed notFound
      rw [refused] at failed
      cases failed
      rw [present] at notFound
      cases notFound

theorem yields_snapshotDelete :
    M.yields (c.snapshotDelete id) (fun _ t =>
      t = stored w c.name (without [id] (w.appliance c.name).storage)) w := by
  refine yields_iff_wp.mpr (wp_mono (wp_snapshotDelete c id) ?_)
  rintro r t (⟨⟨e, rfl⟩, -⟩ | gone) a answered
  · cases answered
  · exact gone

def idsOf : List String := snaps.map (·.id)

theorem stored_without_cons (w : World) (backend id : String) (ids : List String) :
    stored (stored w backend (without [id] (w.appliance backend).storage)) backend
        (without ids (without [id] (w.appliance backend).storage)) =
      stored w backend (without (id :: ids) (w.appliance backend).storage) := by
  rw [stored_stored, without_without, List.singleton_append]

/-- Snapshots deleted in turn, or some of them. -/
theorem wp_deleteSnapshots :
    M.wp (Backend.deleteSnapshots c snaps) (fun r t => ∃ done, done <+: idsOf snaps ∧
      t = stored w c.name (without done (w.appliance c.name).storage) ∧
      (r = .ok () → done = idsOf snaps)) w := by
  induction snaps generalizing w with
  | nil => exact ⟨[], List.nil_prefix, by simp, fun _ => rfl⟩
  | cons s rest ih =>
    refine wp_seq (wp_snapshotDelete c s.id) ?_ ?_
    · rintro e t (⟨-, rfl⟩ | rfl)
      · exact ⟨[], List.nil_prefix, by simp, nofun⟩
      · refine ⟨[s.id], ?_, rfl, nofun⟩
        exact List.cons_prefix_cons.mpr ⟨rfl, List.nil_prefix⟩
    · rintro a t (⟨⟨e, wrong⟩, -⟩ | rfl)
      · cases wrong
      · refine wp_mono ih ?_
        rintro r u ⟨done, start, rfl, all⟩
        refine ⟨s.id :: done, List.cons_prefix_cons.mpr ⟨rfl, start⟩, ?_, fun ok => ?_⟩
        · rw [stored_storage, stored_without_cons]
        · rw [all ok, idsOf, idsOf, List.map_cons]

theorem yields_removeNonMembers :
    M.yields (Backend.removeNonMembers c snaps) (fun _ t =>
      t = stored w c.name (without (idsOf snaps) (w.appliance c.name).storage)) w := by
  induction snaps generalizing w with
  | nil => exact yields_ret (by simp [idsOf])
  | cons s rest ih =>
    refine yields_bind (yields_mapError (yields_snapshotDelete c s.id)) ?_
    rintro _ t rfl
    refine yields_mono ih ?_
    rintro _ u rfl
    rw [stored_storage, stored_without_cons, idsOf, idsOf, List.map_cons]

theorem asks_snapshotQuery :
    Asks (c.snapshotQuery id) w (((w.appliance c.name).storage.snapshot? id).map snapshotView) := by
  have answer : ((w.appliance c.name).storage.snapshot? id).map snapshotView =
      (((w.appliance c.name).storage.snapshot? id).map snapshotView).toList.head? := by simp
  rw [answer]
  exact asks_first (wp_query rfl)

theorem asks_snapshotList (start : String) :
    Asks (c.snapshotList start) w
      (((w.appliance c.name).storage.snapshots.filter fun snap =>
        startsWith snap.dataset start).map snapshotView) :=
  asks_rows (wp_query rfl)

theorem startsWith_of_atOrBelow {parent path : String} (below : atOrBelow parent path = true) :
    startsWith path parent = true := by
  rcases Bool.or_eq_true _ _ |>.mp below with same | under
  · exact startsWith_iff.mpr ⟨"", by simpa using same⟩
  · obtain ⟨rest, rfl⟩ := startsWith_iff.mp under
    exact startsWith_iff.mpr ⟨"/" ++ rest, by rw [String.append_assoc]⟩

theorem listed_inGroup (lawful : Lawful s) (parent name : String) (keep : Snapshot → Bool) :
    ((s.snapshots.filter fun snap => startsWith snap.dataset parent).map
        snapshotView).filter (fun v => Backend.inGroup parent name v && keep v) =
      (s.snapshots.filter fun snap => snap.name == name && atOrBelow parent snap.dataset &&
        keep (snapshotView snap)).map snapshotView := by
  rw [List.filter_map, List.filter_filter]
  congr 1
  refine List.filter_congr fun snap member => ?_
  have group := @inGroup_view snap (lawful snap member) parent name
  rw [Bool.eq_iff_iff]
  simp only [Function.comp_apply, Bool.and_eq_true, beq_iff_eq, group]
  constructor
  · rintro ⟨⟨found, kept⟩, -⟩
    exact ⟨found, kept⟩
  · rintro ⟨found, kept⟩
    exact ⟨⟨found, kept⟩, startsWith_of_atOrBelow found.2⟩

end TruenasCsi.Snapshots
