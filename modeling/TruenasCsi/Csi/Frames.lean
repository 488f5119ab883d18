import TruenasCsi.Csi.Snapshots
import TruenasCsi.Retention.Removal

/-! What removals, growths and deletions of snapshots leave alone. -/

namespace TruenasCsi.Csi

open Appliance Truenas Prog Backend Retention
open Volume hiding Dataset verifyOwned

/-- A call that destroys nothing, or the volume where protection is off, or an empty namespace. -/
def Spares (c : Controller) (volumeId : String) : Call → Prop
  | .api name (.dataset (.delete path recursive _)) => ∃ v b, parseID volumeId = .ok v ∧
      c.reg.backends.get? v.backend = some b ∧ name = v.backend ∧
      (path = v.datasetPath ∧ b.policy.on = false ∨
        path = namespacePath v.pool v.parent v.ns ∧ v.ns ≠ "" ∧ recursive = false)
  | _ => True

/-- Whatever is answered, a removal destroys no volume but its own, and not even that one under
delete protection. -/
theorem removal_spares_volumes (c : Controller) (volumeId : String) :
    (c.deleteVolume volumeId).Emits Truthful (Spares c volumeId) := by
  refine Emits.mono (within_deleteVolume c volumeId) fun call inside => ?_
  unfold Spares
  split
  · rcases inside with wrong | ⟨v, b, parsed, known, -, here, removes⟩
    · cases wrong
    · cases removes with
      | destroy off => exact ⟨v, b, parsed, known, here, .inl ⟨rfl, off⟩⟩
      | container named => exact ⟨v, b, parsed, known, here, .inr ⟨rfl, named, rfl⟩⟩
  · trivial

/-- The writes of a growth of `v`. -/
def Growing (v : ID) (op : DatasetOp) : Prop :=
  ∃ bytes, op = .update v.datasetPath { refQuota := some bytes } ∨
    op = .update v.datasetPath { volSize := some bytes }

theorem within_expand {F : String → DatasetOp → Prop} {h : Handle} {v : ID} (bytes : Int)
    (allowed : ∀ op, Growing v op → F h.server.client.name op) : M.Within F (h.expand v bytes) := by
  have quota : M.Within F (Filesystem.expand h.server v bytes) := by
    apply emits_bind (within_confine h.server v)
    intro _
    refine emits_option (within_queryDataset h.server v) trivial fun ds => ?_
    apply emits_bind emits_ofExcept
    refine fun _ => emits_if (fun _ => trivial) fun _ => emits_if (fun _ => trivial) fun _ => ?_
    exact emits_bind (emits_mapError.mpr (within_dataset.mpr (.inr (allowed _ ⟨bytes, .inl rfl⟩)))) fun _ => trivial
  have volume : M.Within F (Zvol.expand h.server v bytes) := by
    refine emits_option (emits_mapError.mpr within_datasetQuery) trivial fun ds =>
      emits_if (fun _ => trivial) fun _ => emits_if (fun _ => trivial) fun _ => ?_
    exact emits_bind (emits_mapError.mpr (within_dataset.mpr (.inr (allowed _ ⟨bytes, .inr rfl⟩)))) fun _ => trivial
  unfold Handle.expand
  split
  · exact quota
  · exact quota
  · exact volume
  · exact volume

theorem within_controllerExpandVolume (c : Controller) (req : ExpandRequest) :
    M.Within (fun backend op => ∃ v, parseID req.volumeId = .ok v ∧ backend = v.backend ∧ Growing v op)
      (c.controllerExpandVolume req) := by
  unfold Controller.controllerExpandVolume
  refine emits_if (fun _ => trivial) fun _ => ?_
  cases req.capacityRange with
  | none => trivial
  | some range =>
    cases parsed : parseID req.volumeId with
    | error e => trivial
    | ok v =>
      refine emits_if (fun _ => trivial) fun _ => within_withLock ?_
      cases known : c.reg.backends.get? v.backend with
      | none =>
        unfold Controller.expandLocked Registry.handle Registry.backend
        rw [known]
        trivial
      | some b =>
        apply emitsTo_then_status (emitsTo_handle c.reg v.backend known v.protocol)
        rintro h ⟨p, cl, here, rfl⟩
        refine emits_bind (emits_mapError.mpr (within_expand range.1 fun op grows => ?_)) fun _ => trivial
        exact ⟨v, rfl, here, grows⟩

/-- Storage in which one dataset has another size. -/
def Resized (path : String) (s s' : Storage) : Prop :=
  s'.snapshots = s.snapshots ∧ ∀ q, s'.datasets.get? q = s.datasets.get? q ∨
    q = path ∧ ∃ d volSize refQuota, s.datasets.get? q = some d ∧
      s'.datasets.get? q = some { d with volSize, refQuota }

theorem Resized.update {path : String} {s s' : Storage} (so : Resized path s s') {patch : DatasetPatch}
    {bytes : Int} (sized : patch = { refQuota := some bytes } ∨ patch = { volSize := some bytes }) :
    Resized path s (Storage.act (.update path patch) s').2 := by
  cases answer : (Storage.act (.update path patch) s').1 with
  | error e => rwa [Storage.act_error answer]
  | ok ds =>
    obtain ⟨d, present, -, done⟩ := Storage.act_update_ok (Prod.ext answer rfl)
    have after : (Storage.act (.update path patch) s').2 = s'.put path (Storage.patched d patch) := done
    have only : Storage.patched d patch = { d with
        volSize := (Storage.patched d patch).volSize, refQuota := (Storage.patched d patch).refQuota } := by
      rcases sized with rfl | rfl <;> rfl
    rw [after]
    refine ⟨so.1, fun q => ?_⟩
    rw [Storage.get?_put]
    split_ifs with here
    · subst here
      rcases so.2 q with same | ⟨-, d', volSize, refQuota, before, now⟩
      · exact .inr ⟨rfl, d, _, _, by rw [← same, present], congrArg some only⟩
      · rw [present] at now
        cases now
        exact .inr ⟨rfl, d', _, _, before, congrArg some only⟩
    · exact so.2 q

/-- Whatever fails, a growth changes nothing in storage but the size of the volume it names. -/
theorem growth_resizes_one_volume (c : Controller) (req : ExpandRequest) (faults : List Fault) (w : World)
    (backend : String) :
    ((M.run (c.controllerExpandVolume req) faults w).2.appliance backend).storage =
        (w.appliance backend).storage ∨
      ∃ v, parseID req.volumeId = .ok v ∧ backend = v.backend ∧ Resized v.datasetPath
        (w.appliance backend).storage
        ((M.run (c.controllerExpandVolume req) faults w).2.appliance backend).storage := by
  refine wp_iff_run.mp (Within.storage_invariant (within_controllerExpandVolume c req) (I := fun s =>
    s = (w.appliance backend).storage ∨ ∃ v, parseID req.volumeId = .ok v ∧ backend = v.backend ∧
      Resized v.datasetPath (w.appliance backend).storage s) ?_ (.inl rfl)) faults
  rintro op s ⟨v, parsed, here, bytes, sized⟩ so
  have before : Resized v.datasetPath (w.appliance backend).storage s := by
    rcases so with rfl | ⟨v', parsed', -, so⟩
    · exact ⟨rfl, fun _ => .inl rfl⟩
    · obtain rfl : v = v' := Except.ok.inj (parsed.symm.trans parsed')
      exact so
  refine .inr ⟨v, parsed, here, ?_⟩
  rcases sized with rfl | rfl
  · exact before.update (.inl rfl)
  · exact before.update (.inr rfl)

/-- Storage that has lost a snapshot without clones. -/
def Dropped (id : String) (s s' : Storage) : Prop :=
  (∀ path d, s.datasets.get? path = some d → d.origin ≠ id) ∧
    s' = { s with snapshots := s.snapshots.filter fun snap => snap.id != id }

/-- Whatever fails, deleting a snapshot takes that snapshot or nothing, and nothing at all while a
clone of it exists. -/
theorem snapshot_deletion_takes_one (c : Controller) (snapshotId : String) (faults : List Fault) (w : World)
    (backend : String) :
    ((M.run (c.deleteSnapshot snapshotId) faults w).2.appliance backend).storage =
        (w.appliance backend).storage ∨
      ∃ id, Backend.parseSnapshotID snapshotId = .ok (backend, id) ∧ Dropped id (w.appliance backend).storage
        ((M.run (c.deleteSnapshot snapshotId) faults w).2.appliance backend).storage := by
  have within : M.Within (fun name op => ∃ id, Backend.parseSnapshotID snapshotId = .ok (name, id) ∧
      op = .snapshotDelete id) (c.deleteSnapshot snapshotId) := by
    unfold Controller.deleteSnapshot
    refine emits_if (fun _ => trivial) fun _ => ?_
    cases parsed : Backend.parseSnapshotID snapshotId with
    | error e => trivial
    | ok parts =>
      obtain ⟨name, id⟩ := parts
      apply emits_mapError.mpr
      unfold Registry.deleteSnapshot
      rw [parsed]
      apply EmitsTo.seq (emitsTo_client c.reg name)
      intro cl named
      refine emits_option (emits_first (within_dataset.mpr (.inl rfl))) trivial fun snap => ?_
      refine emits_bind (emits_bind (emits_rows (within_dataset.mpr (.inl rfl))) fun _ => trivial)
        fun clones => emits_if (fun _ => trivial) fun _ => emits_gone (within_dataset.mpr (.inr ?_))
      exact ⟨id, by rw [named cl rfl], rfl⟩
  refine wp_iff_run.mp (Within.storage_invariant within (I := fun s => s = (w.appliance backend).storage ∨
    ∃ id, Backend.parseSnapshotID snapshotId = .ok (backend, id) ∧ Dropped id (w.appliance backend).storage s) ?_
    (.inl rfl)) faults
  rintro op s ⟨id, parsed, rfl⟩ so
  rcases so with rfl | ⟨id', parsed', free, rfl⟩
  · simp only [Storage.act]
    split_ifs with missing cloned
    · exact .inl rfl
    · exact .inl rfl
    · refine .inr ⟨id, parsed, fun path d found same => cloned ?_, rfl⟩
      exact List.any_eq_true.mpr ⟨⟨path, d⟩, AList.mem_lookup_iff.mp found, by simp [same]⟩
  · obtain rfl : id = id' := congrArg Prod.snd (Except.ok.inj (parsed.symm.trans parsed'))
    -- The snapshot is gone already, so a second deletion finds nothing.
    refine .inr ⟨id, parsed, free, ?_⟩
    simp [Storage.act, Storage.snapshot?]

end TruenasCsi.Csi
