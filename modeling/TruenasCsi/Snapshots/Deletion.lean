import TruenasCsi.Snapshots.Creation

/-!
# A deletion takes every snapshot of the group's name

## Main result

`group_deletion_exact_iff`: which deletions are exact, and that one that failed can be repeated.

## Proof strategy

The code deletes children first and the anchor last. `wp_deleteGroupSnapshot` says how far it can have got
(`Progress`); from each such state the same request completes (`completes_deleteVolumeGroupSnapshot`).
-/

namespace TruenasCsi.Snapshots

open Appliance Truenas Csi Prog
open Backend (Config snapshotID)
open Appliance.Storage

def found (parent name : String) (s : Storage) : List Snapshot :=
  (s.snapshots.filter fun snap => snap.name == name && atOrBelow parent snap.dataset).map
    snapshotView

section

variable {parent name : String} {s : Storage}

theorem mem_found (clean : '@' ∉ name.toList) (lawful : Lawful s) {snap : SnapshotState}
    (member : snap ∈ s.snapshots) : snap.id ∈ idsOf (found parent name s) ↔
      snap.name = name ∧ atOrBelow parent snap.dataset = true := by
  simp only [idsOf, found, List.mem_map, List.mem_filter, Bool.and_eq_true, beq_iff_eq]
  constructor
  · rintro ⟨-, ⟨other, ⟨present, named, below⟩, rfl⟩, same⟩
    obtain ⟨dataset, sameName⟩ := eq_of_id (lawful snap member) clean
      (same.symm.trans (by rw [← named]; rfl))
    exact ⟨sameName, dataset ▸ below⟩
  · intro here
    exact ⟨_, ⟨snap, ⟨member, here⟩, rfl⟩, rfl⟩

theorem size_found {v : Snapshot} (member : v ∈ found parent name s)
    (other : v.id ≠ parent ++ "@" ++ name) :
    (parent ++ "@" ++ name).utf8ByteSize < v.id.utf8ByteSize := by
  simp only [found, List.mem_map, List.mem_filter, Bool.and_eq_true, beq_iff_eq] at member
  obtain ⟨snap, ⟨-, named, below⟩, rfl⟩ := member
  have id : (snapshotView snap).id = snap.dataset ++ "@" ++ name := by rw [← named]; rfl
  rw [id] at other ⊢
  rcases Bool.or_eq_true _ _ |>.mp below with same | under
  · exact absurd (by rw [eq_of_beq same]) other
  · obtain ⟨rest, path⟩ := Text.startsWith_iff.mp under
    have slash : "/".utf8ByteSize = 1 := rfl
    rw [path]
    simp only [String.utf8ByteSize_append, slash]
    omega

end

section

variable (c : Client) {parent name : String} {w : World}

theorem asks_groupSnapshots (clean : '@' ∉ name.toList)
    (lawful : Lawful (w.appliance c.name).storage) :
    Asks (Backend.groupSnapshots c (parent ++ "@" ++ name)) w
      (found parent name (w.appliance c.name).storage) := by
  unfold Backend.groupSnapshots
  rw [Backend.splitSnapshotID_append _ clean]
  refine (asks_snapshotList c parent).bind (fun e => ⟨rfl, .inr ⟨e, rfl⟩⟩) ⟨rfl, .inl ?_⟩
  have listed := listed_inGroup lawful parent name fun _ => true
  simp only [Bool.and_true] at listed
  rw [listed, List.map_map]
  refine congrArg Except.ok (List.map_congr_left fun snap member => ?_)
  have dataset := snapshotDataset_view (lawful snap (List.mem_filter.mp member).1)
  rw [Function.comp_apply, dataset]
  rfl

theorem asks_datasetList (start : String) : Asks (c.datasetList start) w
    (((w.appliance c.name).storage.datasets.keys.filter fun p => Text.startsWith p start).filterMap
      (w.appliance c.name).storage.dataset?) :=
  asks_rows (wp_query rfl)

end

/-- The parent's own snapshot, the anchor, goes last. -/
theorem childrenFirst_sorted (snaps : List Snapshot) :
    (Backend.childrenFirst snaps).Pairwise fun a b => a.id.utf8ByteSize ≥ b.id.utf8ByteSize := by
  have : Std.Total fun a b : Snapshot => a.id.utf8ByteSize ≥ b.id.utf8ByteSize :=
    ⟨fun a b => le_total b.id.utf8ByteSize a.id.utf8ByteSize⟩
  have : IsTrans Snapshot fun a b => a.id.utf8ByteSize ≥ b.id.utf8ByteSize :=
    ⟨fun a b c first second => le_trans second first⟩
  exact List.pairwise_insertionSort _ _

theorem mem_childrenFirst {snaps : List Snapshot} {v : Snapshot} :
    v ∈ Backend.childrenFirst snaps ↔ v ∈ snaps :=
  List.mem_insertionSort _

theorem mem_idsOf_childrenFirst {snaps : List Snapshot} {id : String} :
    id ∈ idsOf (Backend.childrenFirst snaps) ↔ id ∈ idsOf snaps := by
  simp [idsOf, mem_childrenFirst]

/-- The anchor goes last. -/
theorem anchor_last {parent name : String} {s : Storage} {done : List String}
    (start : done <+: idsOf (Backend.childrenFirst (found parent name s)))
    (gone : parent ++ "@" ++ name ∈ done) :
    ∀ id ∈ idsOf (found parent name s), id ∈ done := by
  intro id member
  by_contra left
  have other : id ≠ parent ++ "@" ++ name := by
    rintro rfl
    exact left gone
  obtain ⟨rest, whole⟩ := start
  have behind : id ∈ rest := by
    have all := mem_idsOf_childrenFirst.mpr member
    rw [← whole] at all
    exact (List.mem_append.mp all).resolve_left left
  -- In the order of deletion what comes after the anchor is no longer than it.
  have sorted : (idsOf (Backend.childrenFirst (found parent name s))).Pairwise
      fun a b => a.utf8ByteSize ≥ b.utf8ByteSize :=
    List.pairwise_map.mpr (childrenFirst_sorted _)
  rw [← whole] at sorted
  have short := (List.pairwise_append.mp sorted).2.2 _ gone _ behind
  obtain ⟨v, listed, rfl⟩ := List.mem_map.mp member
  have long := size_found listed other
  omega

section

variable (reg : Backend.Registry) {backend parent name : String} {members : List String} {w : World}
  {t : World}

/-- A deletion takes some or all. -/
def Progress (w : World) (backend parent name : String) (r : Except Err Unit) (t : World) : Prop :=
  ∃ done, done <+: idsOf (Backend.childrenFirst (found parent name (w.appliance backend).storage)) ∧
    t.appliance = (stored w backend (without done (w.appliance backend).storage)).appliance ∧
    (r = .ok () → ∀ id ∈ idsOf (found parent name (w.appliance backend).storage), id ∈ done)

theorem Progress.failed {e : Err} (same : t.appliance = w.appliance) :
    Progress w backend parent name (.error e) t :=
  ⟨[], List.nil_prefix, by simpa using same, nofun⟩

theorem stored_appliance (same : t.appliance = w.appliance) (backend : String)
    (s : Storage) : (stored t backend s).appliance = (stored w backend s).appliance := by
  simp [stored, World.setAppliance, same]

theorem Progress.from {r : Except Err Unit} {u : World} (same : t.appliance = w.appliance)
    (progress : Progress t backend parent name r u) : Progress w backend parent name r u := by
  obtain ⟨done, start, ends, all⟩ := progress
  rw [stored_appliance same] at ends
  rw [same] at start ends all
  exact ⟨done, start, ends, all⟩

/-- Whatever fails, a first part of the name's snapshots is gone, the anchor last. -/
theorem wp_deleteGroupSnapshot (named : backend ≠ "") (slashless : '/' ∉ backend.toList)
    (clean : '@' ∉ name.toList) (lawful : Lawful (w.appliance backend).storage) :
    M.wp (reg.deleteGroupSnapshot (snapshotID backend (parent ++ "@" ++ name)) members)
      (Progress w backend parent name) w := by
  have parsed : Backend.parseSnapshotID (snapshotID backend (parent ++ "@" ++ name)) =
      .ok (backend, parent ++ "@" ++ name) :=
    Backend.parseSnapshotID_snapshotID named slashless (by simp)
  unfold Backend.Registry.deleteGroupSnapshot
  rw [parsed]
  simp only [ofExcept_ok, ret_bind]
  cases valid : Backend.validateGroupMembers (snapshotID backend (parent ++ "@" ++ name))
      backend (parent ++ "@" ++ name) members with
  | error e => exact Progress.failed rfl
  | ok _ =>
    simp only [ofExcept_ok, ret_bind]
    refine wp_seq (reg.wp_client backend) ?_ ?_
    · rintro e t ⟨same, -⟩
      exact Progress.failed same
    · rintro cl t ⟨same, answered⟩
      obtain ⟨b, -, rfl⟩ := answered cl rfl
      refine (asks_groupSnapshots ⟨backend, b.host⟩ clean (by rwa [same])).bind
        (fun e => Progress.failed same) ?_
      split_ifs with nothing
      · refine ⟨[], List.nil_prefix, by simpa using same, fun _ id member => ?_⟩
        rw [same] at nothing
        rw [nothing] at member
        cases member
      · refine (asks_datasetList ⟨backend, b.host⟩ _).bind (fun e => Progress.failed same) ?_
        split_ifs
        · exact Progress.failed same
        · refine wp_mono (wp_deleteSnapshots ⟨backend, b.host⟩ _) ?_
          rintro r u ⟨done, start, rfl, all⟩
          refine Progress.from same ⟨done, start, rfl, fun ok id member => ?_⟩
          rw [all ok]
          exact mem_idsOf_childrenFirst.mpr member

end

/-- No dataset is a clone of these snapshots. -/
def Unused (ids : List String) (s : Storage) : Prop :=
  ∀ path d, s.datasets.get? path = some d → d.origin ∉ ids

section

variable (reg : Backend.Registry) {backend parent name : String} {members : List String} {w : World}
  {b : Config}

variable (c : Client) (snaps : List Snapshot) (snap : Option Snapshot) (dataset : String)

theorem calm_snapshotDelete {id : String}
    (unused : Unused [id] (w.appliance c.name).storage) : M.calm (c.snapshotDelete id) w =
      (.ok (), stored w c.name (without [id] (w.appliance c.name).storage)) := by
  have free : ((w.appliance c.name).storage.datasets.entries.any fun e => e.2.origin == id) = false := by
    rw [List.any_eq_false]
    rintro ⟨path, d⟩ member
    have origin := unused path d (AList.mem_lookup_iff.mpr member)
    simpa using origin
  unfold Client.snapshotDelete gone
  rw [calm_bind_ok calm_attempt, Client.dataset, calm_middleware, acted_dataset]
  cases present : (w.appliance c.name).storage.snapshot? id with
  | none =>
    rw [without_absent present]
    simp only [State.act, act, present, Option.isNone_none, if_true, stored_same,
      missing_isNotFound]
    rfl
  | some snap =>
    simp only [State.act, act, present, Option.isNone_some, free, if_false, Bool.false_eq_true]
    refine congrArg (Prod.mk _) (congrArg (stored w c.name) ?_)
    simp [without, bne, BEq.beq]

theorem completes_deleteSnapshots (unused : Unused (idsOf snaps) (w.appliance c.name).storage) :
    Completes (Backend.deleteSnapshots c snaps) w := by
  induction snaps generalizing w with
  | nil => rfl
  | cons s rest ih =>
    refine .bind (calm_snapshotDelete c fun path d present => ?_) (ih fun path d present => ?_)
    · have fresh := unused path d present
      simp only [idsOf, List.map_cons, List.mem_cons, not_or] at fresh
      simpa using fresh.1
    · rw [stored_storage] at present
      have fresh := unused path d present
      simp only [idsOf, List.map_cons, List.mem_cons, not_or] at fresh
      exact fresh.2

theorem calm_groupSnapshots (clean : '@' ∉ name.toList)
    (lawful : Lawful (w.appliance c.name).storage) :
    M.calm (Backend.groupSnapshots c (parent ++ "@" ++ name)) w =
      (.ok (found parent name (w.appliance c.name).storage), w) := by
  have listed : M.calm (c.snapshotList parent) w = (.ok _, w) := calm_rows (calm_query rfl)
  have completes : (M.calm (Backend.groupSnapshots c (parent ++ "@" ++ name)) w).1.isOk = true := by
    unfold Backend.groupSnapshots
    rw [Backend.splitSnapshotID_append _ clean, calm_bind_ok listed]
    rfl
  cases ended : M.calm (Backend.groupSnapshots c (parent ++ "@" ++ name)) w with
  | mk r t =>
    obtain ⟨rfl, rfl | ⟨e, rfl⟩⟩ := calm_of_wp (asks_groupSnapshots c clean lawful) ended
    · rfl
    · rw [ended] at completes
      cases completes

theorem not_blocked {all : List Dataset} {snaps : List Snapshot}
    (unused : ∀ ds ∈ all, ds.origin ∉ idsOf snaps) : Backend.blockedBy all snaps = [] := by
  unfold Backend.blockedBy
  rw [List.flatMap_eq_nil_iff]
  intro s member
  rw [List.map_eq_nil_iff, List.filter_eq_nil_iff]
  intro ds listed
  have origin := unused ds listed
  simp only [Bool.and_eq_true, beq_iff_eq, not_and]
  intro _ clone
  rw [clone] at origin
  exact origin (List.mem_map_of_mem member)

theorem unused_listed {ids : List String} {s : Storage} (unused : Unused ids s) (start : String) :
    ∀ ds ∈ (s.datasets.keys.filter fun p => Text.startsWith p start).filterMap s.dataset?,
      ds.origin ∉ ids := by
  intro ds member
  obtain ⟨path, -, seen⟩ := List.mem_filterMap.mp member
  obtain ⟨d, present, rfl⟩ := Option.map_eq_some_iff.mp seen
  exact unused path d present

theorem completes_deleteGroupSnapshot
    (known : reg.backends.get? backend = some b) (named : backend ≠ "")
    (slashless : '/' ∉ backend.toList) (clean : '@' ∉ name.toList)
    (valid : Backend.validateGroupMembers (snapshotID backend (parent ++ "@" ++ name))
      backend (parent ++ "@" ++ name) members = .ok ())
    (lawful : Lawful (w.appliance backend).storage)
    (unused : Unused (idsOf (found parent name (w.appliance backend).storage))
      (w.appliance backend).storage) :
    Completes (reg.deleteGroupSnapshot (snapshotID backend (parent ++ "@" ++ name)) members) w := by
  have parsed : Backend.parseSnapshotID (snapshotID backend (parent ++ "@" ++ name)) =
      .ok (backend, parent ++ "@" ++ name) :=
    Backend.parseSnapshotID_snapshotID named slashless (by simp)
  obtain ⟨t, dialled, same⟩ := reg.calm_client (w := w) known
  rw [← same] at lawful unused
  unfold Backend.Registry.deleteGroupSnapshot
  rw [parsed]
  simp only [ofExcept_ok, ret_bind]
  rw [valid]
  simp only [ofExcept_ok, ret_bind]
  refine .bind dialled (.bind (calm_groupSnapshots ⟨backend, b.host⟩ clean lawful) ?_)
  split_ifs with nothing
  · rfl
  · have listed : M.calm ((⟨backend, b.host⟩ : Client).datasetList
        (Backend.poolOf (Backend.splitSnapshotID (parent ++ "@" ++ name)).1)) t = (.ok _, t) :=
      calm_rows (calm_query rfl)
    refine .bind listed ?_
    rw [not_blocked (unused_listed unused _), if_neg (by simp)]
    refine completes_deleteSnapshots _ _ fun path d present => ?_
    rw [mem_idsOf_childrenFirst]
    exact unused path d present

theorem completes_provisionedBytes : Completes (Backend.provisionedBytes c snap dataset) w := by
  unfold Backend.provisionedBytes
  simp only
  split_ifs
  · rfl
  · refine .bind (calm_attempt.trans (by rw [calm_datasetQuery])) ?_
    split <;> rfl

theorem calm_provisionedBytes :
    ∃ size, M.calm (Backend.provisionedBytes c snap dataset) w = (.ok size, w) := by
  have completes := completes_provisionedBytes (w := w) c snap dataset
  cases ended : M.calm (Backend.provisionedBytes c snap dataset) w with
  | mk r t =>
    cases r with
    | error e =>
      rw [Completes, ended] at completes
      cases completes
    | ok size =>
      have same := calm_of_wp (yields_iff_wp.mp (yields_provisionedBytes c snap dataset)) ended
      exact ⟨size, by rw [same size rfl]⟩

theorem completes_foundMembers : Completes (Backend.foundMembers c backend parent snaps) w := by
  induction snaps with
  | nil => rfl
  | cons s rest ih =>
    rw [Backend.foundMembers]
    split_ifs
    · exact ih
    · obtain ⟨size, sized⟩ := calm_provisionedBytes (w := w) c (some s) s.dataset
      exact .bind sized (.andThen ih fun _ _ _ => rfl)

theorem completes_getGroupSnapshot
    (known : reg.backends.get? backend = some b) (named : backend ≠ "")
    (slashless : '/' ∉ backend.toList) (clean : '@' ∉ name.toList)
    (lawful : Lawful (w.appliance backend).storage)
    (left : found parent name (w.appliance backend).storage ≠ []) :
    Completes (reg.getGroupSnapshot (snapshotID backend (parent ++ "@" ++ name)) []) w := by
  have parsed : Backend.parseSnapshotID (snapshotID backend (parent ++ "@" ++ name)) =
      .ok (backend, parent ++ "@" ++ name) :=
    Backend.parseSnapshotID_snapshotID named slashless (by simp)
  obtain ⟨t, dialled, same⟩ := reg.calm_client (w := w) known
  rw [← same] at lawful left
  unfold Backend.Registry.getGroupSnapshot
  rw [parsed]
  simp only [ofExcept_ok, ret_bind, Backend.validateGroupMembers]
  refine .bind dialled (.bind (calm_groupSnapshots ⟨backend, b.host⟩ clean lawful) ?_)
  rw [if_neg left]
  exact .andThen (completes_foundMembers _ _) fun _ _ _ => rfl

end

theorem completes_withGroupLock {α : Type} {key : String} {body : M α} {w : World}
    (free : "/" ++ key ∉ w.process.volumeLocks)
    (locked : ∀ t, t.appliance = w.appliance → Completes body t) :
    Completes (withGroupLock key body) w := by
  have acquired : M.calm (process (.tryAcquire ("/" ++ key))) w = (.ok true,
      { w with process := { w.process with volumeLocks := ("/" ++ key) :: w.process.volumeLocks } }) := by
    rw [calm_process]
    simp [Process.act, free]
  refine .bind acquired ?_
  rw [if_pos rfl]
  have done := locked { w with process := { w.process with
    volumeLocks := ("/" ++ key) :: w.process.volumeLocks } } rfl
  refine .bind calm_attempt (.bind (calm_process _) ?_)
  unfold Completes at done
  cases ended : (M.calm body { w with process := { w.process with
      volumeLocks := ("/" ++ key) :: w.process.volumeLocks } }).1 with
  | ok a => rfl
  | error e =>
    rw [ended] at done
    cases done

section

variable {c : Controller} {backend parent name : String} {members : List String} {w : World}

def groupID (backend parent name : String) : String :=
  snapshotID backend (parent ++ "@" ++ name)

theorem groupID_nonempty : groupID backend parent name ≠ "" := by
  intro empty
  have chars := congrArg String.toList empty
  simp [groupID, snapshotID] at chars

theorem wp_deleteVolumeGroupSnapshot (named : backend ≠ "") (slashless : '/' ∉ backend.toList)
    (clean : '@' ∉ name.toList) (lawful : Lawful (w.appliance backend).storage) :
    M.wp (c.deleteVolumeGroupSnapshot ⟨groupID backend parent name, members⟩)
      (Progress w backend parent name) w := by
  unfold Controller.deleteVolumeGroupSnapshot
  have parsed : Backend.parseSnapshotID (groupID backend parent name) =
      .ok (backend, parent ++ "@" ++ name) :=
    Backend.parseSnapshotID_snapshotID named slashless (by simp)
  simp only [if_neg groupID_nonempty, parsed]
  refine wp_locked ?_ (fun e => Progress.failed rfl) fun t same => ?_
  · rintro r t u same ⟨done, start, ends, all⟩
    exact ⟨done, start, same.trans ends, all⟩
  · refine wp_mapError.mpr (wp_mono (wp_deleteGroupSnapshot c.reg named
      slashless clean (by rwa [same])) ?_)
    intro r u progress
    obtain ⟨done, start, ends, all⟩ := Progress.from same progress
    refine ⟨done, start, ends, fun ok => all ?_⟩
    cases r with
    | ok a => rfl
    | error e => cases ok

theorem completes_deleteVolumeGroupSnapshot {b : Config}
    (known : c.reg.backends.get? backend = some b) (named : backend ≠ "")
    (slashless : '/' ∉ backend.toList) (clean : '@' ∉ name.toList)
    (valid : Backend.validateGroupMembers (groupID backend parent name) backend
      (parent ++ "@" ++ name) members = .ok ())
    (free : "/" ++ groupID backend parent name ∉ w.process.volumeLocks)
    (lawful : Lawful (w.appliance backend).storage)
    (unused : Unused (idsOf (found parent name (w.appliance backend).storage))
      (w.appliance backend).storage) :
    Completes (c.deleteVolumeGroupSnapshot ⟨groupID backend parent name, members⟩) w := by
  unfold Controller.deleteVolumeGroupSnapshot
  have parsed : Backend.parseSnapshotID (groupID backend parent name) =
      .ok (backend, parent ++ "@" ++ name) :=
    Backend.parseSnapshotID_snapshotID named slashless (by simp)
  simp only [if_neg groupID_nonempty, parsed]
  refine completes_withGroupLock free fun t same => .mapError _ ?_
  rw [← same] at lawful unused
  exact completes_deleteGroupSnapshot c.reg known named slashless clean valid lawful unused

def memberList (parent name : String) (sources : List Volume.ID) : List String :=
  (Backend.kept parent sources).map fun ds => ds ++ "@" ++ name

/-- Nobody else has a snapshot of the name. -/
def Alone (s : Storage) (parent name : String) (sources : List Volume.ID) : Prop :=
  ∀ snap ∈ s.snapshots, snap.name = name → atOrBelow parent snap.dataset = true →
    snap.dataset ∈ Backend.kept parent sources

variable {s : Storage} {sources : List Volume.ID} {done : List String}

theorem mem_memberList (clean : '@' ∉ name.toList)
    (lawful : Lawful s) {snap : SnapshotState} (member : snap ∈ s.snapshots) :
    snap.id ∈ memberList parent name sources ↔
      snap.name = name ∧ snap.dataset ∈ Backend.kept parent sources := by
  simp only [memberList, List.mem_map]
  constructor
  · rintro ⟨ds, kept, same⟩
    obtain ⟨rfl, named⟩ := eq_of_id (lawful snap member) clean same.symm
    exact ⟨named, kept⟩
  · rintro ⟨rfl, kept⟩
    exact ⟨_, kept, rfl⟩

theorem stored_inj {s' : Storage}
    (same : (stored w backend s).appliance = (stored w backend s').appliance) : s = s' := by
  have storages := congrArg (fun a => (a backend).storage) same
  simpa using storages

/-- Removing all of the name removes just the members exactly if nobody else has it. -/
theorem removed_iff_alone (clean : '@' ∉ name.toList) (lawful : Lawful s)
    (below : ∀ ds ∈ Backend.kept parent sources, atOrBelow parent ds = true)
    (taken : ∀ id, id ∈ done ↔ id ∈ idsOf (found parent name s)) :
    without done s = without (memberList parent name sources) s ↔ Alone s parent name sources := by
  constructor
  · intro same snap member named under
    by_contra foreign
    have kept : snap ∈ (without (memberList parent name sources) s).snapshots :=
      mem_without.mpr ⟨member, fun listed => foreign ((mem_memberList clean lawful member).mp listed).2⟩
    rw [← same] at kept
    exact (mem_without.mp kept).2 ((taken _).mpr ((mem_found clean lawful member).mpr ⟨named, under⟩))
  · intro alone
    unfold without
    congr 1
    refine List.filter_congr fun snap member => ?_
    have same : snap.id ∈ done ↔ snap.id ∈ memberList parent name sources := by
      rw [taken, mem_found clean lawful member, mem_memberList clean lawful member]
      constructor
      · rintro ⟨named, under⟩
        exact ⟨named, alone snap member named under⟩
      · rintro ⟨named, kept⟩
        exact ⟨named, below _ kept⟩
    simp only [same]

/-- A failed deletion leaves a group or nothing. -/
def Restartable (c : Controller) (backend parent name : String) (members : List String)
    (w t : World) : Prop :=
  (groupIds (t.appliance backend).storage parent name = ∅ ∨
    (∃ g, (M.run (c.reg.getGroupSnapshot (groupID backend parent name) []) [] t).1 = .ok g) ∧
      (parent ++ "@" ++ name ∈ groupIds (w.appliance backend).storage parent name →
        parent ++ "@" ++ name ∈ groupIds (t.appliance backend).storage parent name)) ∧
  ∀ u : World, u.appliance = t.appliance →
    "/" ++ groupID backend parent name ∉ u.process.volumeLocks →
    Unused (idsOf (found parent name (u.appliance backend).storage)) (u.appliance backend).storage →
    (M.run (c.deleteVolumeGroupSnapshot ⟨groupID backend parent name, members⟩) [] u).1 = .ok () ∧
      groupIds ((M.run (c.deleteVolumeGroupSnapshot ⟨groupID backend parent name, members⟩)
        [] u).2.appliance backend).storage parent name = ∅

theorem groupIds_without (clean : '@' ∉ name.toList)
    (lawful : Lawful s) (all : ∀ id ∈ idsOf (found parent name s), id ∈ done) :
    groupIds (without done s) parent name = ∅ := by
  refine Set.eq_empty_iff_forall_notMem.mpr ?_
  rintro id ⟨snap, member, named, below, rfl⟩
  obtain ⟨present, left⟩ := mem_without.mp member
  exact left (all _ ((mem_found clean lawful present).mpr ⟨named, below⟩))

theorem found_ne_nil {id : String} (member : id ∈ groupIds s parent name) :
    found parent name s ≠ [] := by
  obtain ⟨snap, present, named, below, -⟩ := member
  refine List.ne_nil_of_mem (a := snapshotView snap) (List.mem_map_of_mem ?_)
  simp [present, named, below]

/-- So the anchor still leads a second attempt to what is left. -/
theorem restartable_of_progress {b : Config} {r : Except Err Unit} {t : World}
    (known : c.reg.backends.get? backend = some b) (named : backend ≠ "")
    (slashless : '/' ∉ backend.toList) (clean : '@' ∉ name.toList)
    (valid : Backend.validateGroupMembers (groupID backend parent name) backend
      (parent ++ "@" ++ name) members = .ok ())
    (lawful : Lawful (w.appliance backend).storage)
    (progress : Progress w backend parent name r t) :
    Restartable c backend parent name members w t := by
  obtain ⟨done, start, ends, -⟩ := progress
  have storage : (t.appliance backend).storage = without done (w.appliance backend).storage := by
    rw [ends, stored_storage]
  have lawful' : Lawful (t.appliance backend).storage := storage ▸ lawful.without done
  refine ⟨?_, fun u same free unused => ?_⟩
  · by_cases empty : groupIds (t.appliance backend).storage parent name = ∅
    · exact .inl empty
    · obtain ⟨id, left⟩ := Set.nonempty_iff_ne_empty.mpr empty
      refine .inr ⟨?_, fun anchored => ?_⟩
      · exact (completes_getGroupSnapshot c.reg known named slashless clean lawful'
          (found_ne_nil left)).answer
      · by_contra gone
        obtain ⟨snap, present, isNamed, below, id⟩ := anchored
        have taken : parent ++ "@" ++ name ∈ done := by
          by_contra kept
          refine gone ⟨snap, ?_, isNamed, below, id⟩
          rw [storage]
          exact mem_without.mpr ⟨present, id ▸ kept⟩
        refine empty ?_
        rw [storage]
        exact groupIds_without clean lawful (anchor_last start taken)
  · rw [← same] at lawful'
    obtain ⟨a, answered⟩ := (completes_deleteVolumeGroupSnapshot known named slashless clean valid
      free lawful' unused).answer
    refine ⟨answered, ?_⟩
    obtain ⟨done', -, ends', all⟩ := wp_iff_run.mp
      (wp_deleteVolumeGroupSnapshot named slashless clean lawful') []
    rw [ends', stored_storage]
    exact groupIds_without clean lawful' (all answered)

/-- For the id of a group, valid members and any failures. A deletion that succeeds removes the snapshots of
the members and nothing else, exactly if no other dataset below the parent has a snapshot of the name. After
one that fails the group is still found or gone, and the same request completes it. -/
theorem group_deletion_exact_iff (c : Controller) (req : CreateGroupRequest)
    {sources : List Volume.ID} {parent backend : String}
    (parsed : Csi.parseSources req.sourceVolumeIds = .ok sources)
    (grouped : c.reg.groupParent sources = .ok parent)
    (together : ∀ v ∈ sources, v.backend = backend) (members : List String)
    (valid : Backend.validateGroupMembers (groupID backend parent (sanitiseSnapshotName req.name))
      backend (parent ++ "@" ++ sanitiseSnapshotName req.name) members = .ok ())
    (w : World) (lawful : Lawful (w.appliance backend).storage) (faults : List Fault) :
    ((M.run (c.deleteVolumeGroupSnapshot
        ⟨groupID backend parent (sanitiseSnapshotName req.name), members⟩) faults w).1 = .ok () →
      ((M.run (c.deleteVolumeGroupSnapshot
        ⟨groupID backend parent (sanitiseSnapshotName req.name), members⟩) faults w).2.appliance =
          (stored w backend (without (memberList parent (sanitiseSnapshotName req.name) sources)
            (w.appliance backend).storage)).appliance ↔
        Alone (w.appliance backend).storage parent (sanitiseSnapshotName req.name) sources)) ∧
    ∀ e, (M.run (c.deleteVolumeGroupSnapshot
        ⟨groupID backend parent (sanitiseSnapshotName req.name), members⟩) faults w).1 = .error e →
      Restartable c backend parent (sanitiseSnapshotName req.name) members w (M.run
        (c.deleteVolumeGroupSnapshot
          ⟨groupID backend parent (sanitiseSnapshotName req.name), members⟩) faults w).2 := by
  have clean := sanitiseSnapshotName_clean req.name
  obtain ⟨first, rest, b, shape, known, apart⟩ := groupParent_ok grouped
  have formed := parseSources_formed parsed
  have firstMember : first ∈ sources := shape ▸ List.mem_cons_self ..
  have onBackend : first.backend = backend := together first firstMember
  have component : Volume.Component backend := onBackend ▸ (formed first firstMember).backend
  have below : ∀ ds ∈ Backend.kept parent sources, atOrBelow parent ds = true := by
    intro ds member
    rcases List.mem_cons.mp member with rfl | member
    · exact atOrBelow_self _
    · obtain ⟨v, source, rfl⟩ := List.mem_map.mp member
      exact (apart v source).2 ▸ atOrBelow_datasetPath (formed v source)
  have progress := wp_iff_run.mp (@wp_deleteVolumeGroupSnapshot c backend parent _
    members w component.nonempty component.slashless clean lawful) faults
  constructor
  · intro succeeded
    obtain ⟨done, start, ends, all⟩ := progress
    -- A deletion that succeeded took all that it found.
    have taken : ∀ id, id ∈ done ↔ id ∈ idsOf (found parent (sanitiseSnapshotName req.name)
        (w.appliance backend).storage) := by
      refine fun id => ⟨fun member => ?_, all succeeded id⟩
      exact mem_idsOf_childrenFirst.mp (start.subset member)
    rw [ends, ← removed_iff_alone clean lawful below taken]
    exact ⟨stored_inj, fun same => by rw [same]⟩
  · intro e failed
    rw [onBackend] at known
    exact restartable_of_progress known component.nonempty component.slashless clean valid lawful
      progress

end


def snapshotOf (dataset : String) : SnapshotState := ⟨dataset, "backup", 1, 1700000000, 0, .filesystem⟩

def sampleGroup : World where
  appliance _ := { storage := {
    datasets := sampleDatasets
    snapshots := ["tank/k8s", "tank/k8s/data", "tank/k8s/wal"].map snapshotOf } }

/-- A group alone with its name goes exactly. -/
theorem group_deletion_exact_sample :
    (M.run (sampleController.deleteVolumeGroupSnapshot ⟨"nas/tank/k8s@backup", []⟩) []
      sampleGroup).2.appliance = (stored sampleGroup "nas" (without
        (memberList "tank/k8s" "backup" sampleSources)
        (sampleGroup.appliance "nas").storage)).appliance := by
  have lawful : Lawful (sampleGroup.appliance "nas").storage := by
    simp [Lawful, sampleGroup, snapshotOf]
  have alone : Alone (sampleGroup.appliance "nas").storage "tank/k8s" "backup" sampleSources := by
    have kept : Backend.kept "tank/k8s" sampleSources =
        ["tank/k8s", "tank/k8s/data", "tank/k8s/wal"] := by decide
    simp [Alone, kept, sampleGroup, snapshotOf]
  have exactly := (@group_deletion_exact_iff sampleController sampleRequest sampleSources "tank/k8s"
    "nas" (by decide +kernel) (by decide +kernel) (by decide) [] (by decide) sampleGroup lawful []).1
  have name : sanitiseSnapshotName sampleRequest.name = "backup" := by decide
  have id : groupID "nas" "tank/k8s" "backup" = "nas/tank/k8s@backup" := by decide
  rw [name, id] at exactly
  have completes : Completes (sampleController.deleteVolumeGroupSnapshot
      ⟨"nas/tank/k8s@backup", []⟩) sampleGroup := by
    unfold Completes M.calm
    decide +kernel
  obtain ⟨_, answered⟩ := completes.answer
  exact (exactly answered).mpr alone

def nestedDatasets : Dict DatasetState :=
  sampleDatasets.setAll [("tank/k8s/team-a", { type := .filesystem }),
    ("tank/k8s/team-a/db", { type := .filesystem })]

def nestedGroups : World :=
  (M.run (sampleController.createVolumeGroupSnapshot ⟨"backup", ["nas/nfs/tank/k8s/team-a/db"]⟩) []
    (M.run (sampleController.createVolumeGroupSnapshot sampleRequest) []
      ⟨fun _ => { storage := { datasets := nestedDatasets } }, {}⟩).2).2

/-- The inner group goes with the outer one. -/
theorem inner_group_deleted :
    (M.run (sampleController.deleteVolumeGroupSnapshot ⟨"nas/tank/k8s@backup", []⟩) []
        nestedGroups).1.isOk = true ∧
      (M.run (sampleController.deleteVolumeGroupSnapshot ⟨"nas/tank/k8s@backup", []⟩) []
        nestedGroups).2.appliance ≠ (stored nestedGroups "nas" (without
          (memberList "tank/k8s" "backup" sampleSources)
          (nestedGroups.appliance "nas").storage)).appliance := by
  have run : (M.run (sampleController.deleteVolumeGroupSnapshot ⟨"nas/tank/k8s@backup", []⟩) []
        nestedGroups).1.isOk = true ∧
      (((M.run (sampleController.deleteVolumeGroupSnapshot ⟨"nas/tank/k8s@backup", []⟩) []
        nestedGroups).2.appliance "nas").storage.snapshots.map (·.id)) = [] ∧
      ((without (memberList "tank/k8s" "backup" sampleSources)
        (nestedGroups.appliance "nas").storage).snapshots.map (·.id)) =
          ["tank/k8s/team-a/db@backup", "tank/k8s/team-a@backup"] := by decide +kernel
  refine ⟨run.1, fun same => ?_⟩
  have ids := congrArg (fun a => (a "nas").storage.snapshots.map (·.id)) same
  simp only [stored_storage] at ids
  rw [run.2.1, run.2.2] at ids
  cases ids

end TruenasCsi.Snapshots
