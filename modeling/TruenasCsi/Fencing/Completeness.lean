import TruenasCsi.Fencing.Isolation

/-!
# What an unpublish takes back

## Main result

`unpublish_complete`: the addresses that a node's publishes added are gone after its unpublish, under
`Recording`.

## Proof strategy

A publish overwrites the record of its node, and one that fails can leave an address without a record. Under
`Recording` everything on the share is recorded (`Fence.Covered`), one step at a time (`covered_step`).
-/

namespace TruenasCsi.Fencing

open Backend
open Csi (Controller)

variable (s : Subject)

/-- The share was changed, or the access reported. -/
def Occurrence.wrote (o : Occurrence) : Prop :=
  o.ok = true ∨ hostsOf s.protocol s.id o.after ≠ hostsOf s.protocol s.id o.before

/-- The addresses put on the share for a node. -/
def added (s : Subject) : List Occurrence → String → Set String
  | [] => fun _ => ∅
  | o :: h => fun node => added s h node ∪
      {x | o.wrote s ∧ (∃ capability, o.attempt.request = .publish node capability) ∧
        x ∈ o.granted s node}

/-- All addresses that publishes added, for any node. -/
def addedAny (h : List Occurrence) : Set String := {x | ∃ node, x ∈ added s h node}

/-- The overwritten entry names nothing of its own. -/
def Replaces (node : String) (ref : NodeRef) (w : World) : Prop :=
  ∀ old, (view s.protocol s.id w).ledger node = some old → ∀ x ∈ old, x ∈ hostsOf s.protocol s.id w →
    x ∈ addresses s.protocol ref.addrs ∨
      ∃ m ≠ node, ∃ entry, (view s.protocol s.id w).ledger m = some entry ∧ x ∈ entry

/-- What would be granted is recorded already. -/
def GrantsNothingNew (ref : NodeRef) (w : World) : Prop :=
  ∀ x ∈ addresses s.protocol (grantedTo s.protocol s.id w ref), (view s.protocol s.id w).Records x

/-- Publishes that are bound to leave a record. -/
def Recording (_ : List Occurrence) (a : Attempt) (w : World) : Prop :=
  ∀ node capability ref, a.request = .publish node capability →
    a.controller.nodes.resolve node = .ok ref → Replaces s node ref w ∧
      (GrantsNothingNew s ref w ∨ a.faults = [] ∧ Ready a.controller s.protocol s.id node w)

section

variable {s : Subject} {h : List Occurrence} {w : World} {o : Occurrence} {node : String}
  {capability : Csi.VolumeCapability} {a : Attempt}

theorem addedAny_publish (request : o.attempt.request = .publish node capability) :
    addedAny s (o :: h) ⊆ addedAny s h ∪ o.granted s node := by
  rintro x ⟨n, before | ⟨-, ⟨capability', request'⟩, new⟩⟩
  · exact .inl ⟨n, before⟩
  · obtain ⟨rfl, -⟩ : node = n ∧ capability = capability' := by
      simpa using request.symm.trans request'
    exact .inr new

theorem addedAny_idle (idle : ¬o.wrote s) : addedAny s (o :: h) ⊆ addedAny s h := by
  rintro x ⟨n, before | ⟨wrote, -⟩⟩
  · exact ⟨n, before⟩
  · exact absurd wrote idle

theorem addedAny_unpublish
    (request : o.attempt.request = .unpublish node) : addedAny s (o :: h) ⊆ addedAny s h := by
  rintro x ⟨n, before | ⟨-, ⟨capability, request'⟩, -⟩⟩
  · exact ⟨n, before⟩
  · rw [request] at request'
    cases request'

/-- A publish that is ready succeeds or changes nothing, so none is left unrecorded. -/
theorem publish_atomic (request : a.request = .publish node capability) (calm : a.faults = [])
    (ready : Ready a.controller s.protocol s.id node w) :
    (a.perform s w).1 = true ∨ (a.perform s w).2.appliance = w.appliance := by
  unfold Attempt.perform
  rw [request, calm]
  exact atomic_controllerPublishVolume s.parsed s.known capability ready

theorem covered_idle (covered : Fence.Covered (view s.protocol s.id w) (addedAny s h))
    (failed : (a.perform s w).1 = false)
    (same : view s.protocol s.id (a.perform s w).2 = view s.protocol s.id w) :
    Fence.Covered (view s.protocol s.id (a.perform s w).2) (addedAny s (a.occurrence s w :: h)) := by
  rw [same]
  refine covered.mono (addedAny_idle ?_)
  rintro (ok | changed)
  · have wrong : (a.perform s w).1 = true := ok
    rw [failed] at wrong
    cases wrong
  · exact changed (congrArg Fence.State.hosts same)

/-- A publish records all it adds. -/
theorem covered_publish
    (request : a.request = .publish node capability) (clean : Clean s.protocol s.id w)
    (recording : Recording s h a w)
    (covered : Fence.Covered (view s.protocol s.id w) (addedAny s h)) :
    Fence.Covered (view s.protocol s.id (a.perform s w).2) (addedAny s (a.occurrence s w :: h)) := by
  rcases (publish_outcome request clean).2 with ⟨failed, same⟩ | ⟨ref, resolved, -, granting⟩
  · exact covered_idle covered failed (view_congr (by rw [same]))
  obtain ⟨replaces, bound⟩ := recording node capability ref request resolved
  have own : (a.occurrence s w).granted s node =
      addresses s.protocol (grantedTo s.protocol s.id w ref) := by
    simp [Occurrence.granted, Attempt.occurrence, resolved]
  have more := addedAny_publish (s := s) (h := h) (o := a.occurrence s w) request
  rw [own] at more
  -- What the fence looks like afterwards decides how the address is covered.
  generalize result : (a.perform s w).1 = ok at granting
  generalize reached : view s.protocol s.id (a.perform s w).2 = fence at granting
  cases granting with
  | untouched => exact reached ▸ covered_idle covered result reached
  | unrecorded =>
    rcases bound with nothingNew | ⟨calm, ready⟩
    · exact (covered.unrecorded nothingNew).mono more
    · rcases publish_atomic request calm ready with done | same
      · rw [result] at done
        cases done
      · rw [← reached]
        exact covered_idle covered result (view_congr (by rw [same]))
  | recorded =>
    have named : addresses s.protocol (grantedTo s.protocol s.id w ref) ⊆
        addresses s.protocol ref.addrs := addresses_mono (grantedTo_subset _ _ _ ref)
    exact (covered.recorded named replaces).mono more

theorem entry_subset_takenFrom (c : Controller) (m : String) {entry : Set String}
    (stored : (view s.protocol s.id w).ledger m = some entry) :
    entry ⊆ takenFrom c s.protocol s.id w m := by
  obtain ⟨addrs, listed, rfl⟩ := Option.map_eq_some_iff.mp stored
  have recorded : (ledgerOf s.id w).getD m [] = addrs := by simp [Dict.getD, listed]
  unfold takenFrom Controller.revoked
  rw [recorded]
  split
  · rename_i live resolved
    rw [addresses_union]
    exact Set.subset_union_left
  · exact subset_rfl

/-- Under `Recording` everything on the share stays recorded. -/
theorem covered_step (recording : Recording s h a w) (clean : Clean s.protocol s.id w)
    (covered : Fence.Covered (view s.protocol s.id w) (addedAny s h)) :
    Fence.Covered (view s.protocol s.id (a.perform s w).2) (addedAny s (a.occurrence s w :: h)) := by
  cases request : a.request with
  | publish node capability => exact covered_publish request clean recording covered
  | unpublish node =>
    have step := (unpublish_outcome request clean).2
    refine (covered.withdrawal step fun m _ entry stored => ?_).mono
      (addedAny_unpublish (o := a.occurrence s w) request)
    exact entry_subset_takenFrom a.controller m stored

/-- In such a run, what is on the share is recorded. -/
theorem run_covered (run : Run s (Recording s) h w) :
    Fence.Covered (view s.protocol s.id w) (addedAny s h) := by
  refine Run.invariant (I := fun h fence => Fence.Covered fence (addedAny s h)) ?_ ?_ run
  · rintro w x ⟨node, none⟩
    exact none.elim
  · intro h a w recording clean covered
    exact covered_step recording clean covered

/-- In every run whose publishes are bound to leave a record (`Recording`): after an unpublish of `node`
that succeeded, an address that its publishes put on the share is off the share, unless it is recorded for
another node. -/
theorem unpublish_complete {o : Occurrence} {node : String} (named : node ≠ "")
    (run : Run s (Recording s) (o :: h) w) (request : o.attempt.request = .unpublish node)
    (ok : o.ok = true) {x : String} (wasAdded : x ∈ added s (o :: h) node)
    (ours : ∀ m ≠ node, ∀ entry, (ledgerOf s.id w).get? m = some entry →
      x ∉ addresses s.protocol entry) : x ∉ hostsOf s.protocol s.id w := by
  intro listed
  have covered := run_covered run
  obtain ⟨v, -, -, ledger⟩ := run.unpublished request ok
  have gone : (view s.protocol s.id w).ledger node = none := by
    rw [ledger]
    exact Fence.struck_mem (by simp [withdrawn, Controller.targets, named])
  obtain ⟨m, other, entry, stored, present⟩ := covered.others gone x ⟨node, wasAdded⟩ listed
  obtain ⟨addrs, held, rfl⟩ := Option.map_eq_some_iff.mp stored
  exact ours m other addrs held present

end

/-- The sample appliance has an address; what is left is the room in the ledger. -/
theorem sample_ready {c : Controller} {p : Protocol} {v : Volume.ID} {node : String} {ref : NodeRef}
    {w : World} (config : c.reg = sampleController.reg) (here : v.backend = "nas")
    (share : p ≠ .iscsi) (resolved : c.nodes.resolve node = .ok ref)
    (fits : (Volume.Grants.encode ((ledgerOf v w).set node ref.addrs)).isOk = true) :
    Ready c p v node w where
  addressed := by
    intro b found
    have only : sampleController.reg.backends.get? "nas" =
        some { pool := "tank", parentDataset := "k8s", host := "10.0.0.9" } := rfl
    rw [config, here, only] at found
    cases found
    decide
  fits := by
    intro ref' resolved'
    cases resolved.symm.trans resolved'
    exact fits
  served := fun iscsi => absurd iscsi share

def publishedNfs : World := ((publishing "worker-1" .multiNodeMultiWriter).perform nfsVolume nfsWorld).2

def unpublishedNfs : Bool × World := (unpublishing "worker-1").perform nfsVolume publishedNfs

def movedCluster (node : String) : Except Err (Option NodeObject) :=
  if node = "worker-1" then .ok (some { addresses := [(.internalIP, "10.0.0.7")] })
  else sampleCluster node

def movedController : Controller where
  reg := sampleController.reg
  nodes := kubeNodeResolver movedCluster

def republishing : Attempt where
  controller := movedController
  request := .publish "worker-1" ⟨.mount "", .multiNodeMultiWriter⟩

def republishedNfs : World := (republishing.perform nfsVolume publishedNfs).2

def finalNfs : Bool × World :=
  ({ controller := movedController, request := .unpublish "worker-1" } : Attempt).perform nfsVolume
    republishedNfs

theorem completeness_runs :
    (Volume.Grants.encode ((ledgerOf nfsVolume.id nfsWorld).set "worker-1" ["10.0.0.1"])).isOk = true ∧
    (ledgerOf nfsVolume.id nfsWorld).nodes = [] ∧
    ((publishing "worker-1" .multiNodeMultiWriter).perform nfsVolume nfsWorld).1 = true ∧
    (unpublishedNfs.1 = true ∧ (ledgerOf nfsVolume.id unpublishedNfs.2).nodes = []) ∧
    (finalNfs.1 = true ∧ (ledgerOf nfsVolume.id finalNfs.2).nodes = [] ∧
      mountpoint nfsVolume.id finalNfs.2 = some "/mnt/tank/k8s/pvc-1" ∧
      "10.0.0.1" ∈ entriesAt .nfs (finalNfs.2.appliance "nas") "/mnt/tank/k8s/pvc-1") := by
  decide +kernel

theorem nfsWorld_ready : Ready sampleController .nfs nfsVolume.id "worker-1" nfsWorld :=
  sample_ready rfl rfl nofun (show sampleController.nodes.resolve "worker-1" =
    .ok ⟨"worker-1", ["10.0.0.1"], "", ""⟩ by decide) completeness_runs.1

theorem nfsWorld_granted : "10.0.0.1" ∈ ((publishing "worker-1" .multiNodeMultiWriter).occurrence
    nfsVolume nfsWorld).granted nfsVolume "worker-1" := by
  show "10.0.0.1" ∈ addresses .nfs (grantedTo .nfs nfsVolume.id nfsWorld
    ⟨"worker-1", ["10.0.0.1"], "", ""⟩)
  exact ⟨by decide, by decide⟩

theorem nfsWorld_unlisted (node : String) : (view .nfs nfsVolume.id nfsWorld).ledger node = none := by
  have empty := completeness_runs.2.1
  rw [view, Option.map_eq_none_iff]
  by_contra listed
  obtain ⟨entry, stored⟩ := Option.ne_none_iff_exists'.mp listed
  have member := Volume.Grants.mem_nodes.mpr ⟨entry, stored⟩
  rw [empty] at member
  cases member

theorem unpublish_complete_once : "10.0.0.1" ∉ hostsOf .nfs nfsVolume.id unpublishedNfs.2 := by
  have first : Run nfsVolume (Recording nfsVolume) _ publishedNfs :=
    .call (publishing "worker-1" .multiNodeMultiWriter) (.start nfsWorld_clean) (by
      rintro node capability ref ⟨⟩ -
      refine ⟨fun old stored => ?_, .inr ⟨rfl, nfsWorld_ready⟩⟩
      rw [show (view nfsVolume.protocol nfsVolume.id nfsWorld).ledger "worker-1" = none from
        nfsWorld_unlisted _] at stored
      cases stored)
  have second : Run nfsVolume (Recording nfsVolume) _ unpublishedNfs.2 :=
    .call (unpublishing "worker-1") first nofun
  obtain ⟨-, -, published, ⟨unpublished, nobody⟩, -⟩ := completeness_runs
  refine unpublish_complete (by decide) second rfl unpublished (.inl (.inr
    ⟨.inl published, ⟨_, rfl⟩, nfsWorld_granted⟩)) fun m _ entry stored => ?_
  have member := Volume.Grants.mem_nodes.mpr ⟨entry, stored⟩
  rw [nobody] at member
  cases member

/-- An old address stays on the share, in no entry. -/
theorem unpublish_leaves_old_address : ∃ o h, Run nfsVolume (fun _ _ _ => True) (o :: h) finalNfs.2 ∧
    o.attempt.request = .unpublish "worker-1" ∧ o.ok = true ∧
    "10.0.0.1" ∈ added nfsVolume (o :: h) "worker-1" ∧
    (ledgerOf nfsVolume.id finalNfs.2).nodes = [] ∧ "10.0.0.1" ∈ hostsOf .nfs nfsVolume.id finalNfs.2 := by
  have first : Run nfsVolume (fun _ _ _ => True) _ publishedNfs :=
    .call (publishing "worker-1" .multiNodeMultiWriter) (.start nfsWorld_clean) trivial
  have second : Run nfsVolume (fun _ _ _ => True) _ republishedNfs := .call republishing first trivial
  have third : Run nfsVolume (fun _ _ _ => True) _ finalNfs.2 :=
    .call { controller := movedController, request := .unpublish "worker-1" } second trivial
  obtain ⟨-, -, published, -, unpublished, nobody, mounted, listed⟩ := completeness_runs
  refine ⟨_, _, third, rfl, unpublished,
    .inl (.inl (.inr ⟨.inl published, ⟨_, rfl⟩, nfsWorld_granted⟩)), nobody, ?_⟩
  rw [hostsOf_at mounted]
  exact ⟨listed, by decide⟩

end TruenasCsi.Fencing
