import TruenasCsi.Fencing.Completeness
import TruenasCsi.Subsystems.Admission

/-! Volumes for one node. The publish of a single-node mode is refused while the ledger lists
another node; whether that keeps others away depends on what the ledger knows. -/

namespace TruenasCsi.Fencing

open Backend Csi Prog
open Appliance.Nvmet (Lists Registered)

variable (s : Subject) (reg : Registry) (o : Occurrence)

/-- The call succeeded, or left something behind. -/
def Occurrence.changed : Prop :=
  o.ok = true ∨ o.after.appliance ≠ o.before.appliance

/-- An unpublish that struck the node. -/
def Occurrence.releases (m : String) : Prop :=
  ∃ node, o.attempt.request = .unpublish node ∧ (node = m ∨ node = "") ∧
    (o.ok = true ∨ m ∈ (ledgerOf s.id o.before).nodes ∧ m ∉ (ledgerOf s.id o.after).nodes)

/-- The nodes published and not unpublished since. -/
def holding (s : Subject) : List Occurrence → Set String
  | [] => ∅
  | o :: h => {m | m ∈ holding s h ∧ ¬o.releases s m ∨
      o.changed ∧ ∃ capability, o.attempt.request = .publish m capability}

/-- Those published under a single-node mode. -/
def sole (s : Subject) : List Occurrence → Set String
  | [] => ∅
  | o :: h => {m | m ∈ sole s h ∧ ¬o.releases s m ∨ o.changed ∧ ∃ capability,
      o.attempt.request = .publish m capability ∧ singleNode capability.accessMode = true}

/-- What the appliance's objects for a block volume let in. `none` is the mapping or the port
binding itself, `some nqn` an entry of the subsystem's host list. -/
def blockGrants (w : World) : Set (Option String) :=
  match s.protocol with
  | .iscsi => {g | g = none ∧ Mapped reg s.id w}
  | .nvme => {g | g = none ∧ Bound reg s.id w ∨ ∃ nqn ≠ "", g = some nqn ∧
      ∃ row ∈ (w.appliance s.id.backend).nvmet.named (Nvme.subsystemName reg.env.sha256 s.id),
        Lists (w.appliance s.id.backend).nvmet row.id nqn}
  | _ => ∅

/-- The grants that publishes of a node made and that every call since has left there. -/
def left (s : Subject) (reg : Registry) : List Occurrence → String → Set (Option String)
  | [] => fun _ => ∅
  | o :: h => fun m => {g | g ∈ blockGrants s reg o.after ∧ (g ∈ left s reg h m ∨
      (∃ capability, o.attempt.request = .publish m capability) ∧ g ∉ blockGrants s reg o.before)}

/-- Calls under which a sole holder stays alone. -/
structure Leasing (h : List Occurrence) (a : Attempt) (w : World) : Prop where
  /-- Next to a sole holder only single-node modes are asked for, and the node is recorded. -/
  publish : ∀ node capability, a.request = .publish node capability →
    supportsAccessMode s.id.protocol capability.accessMode = true →
    ((∃ k ∈ sole s h, k ≠ node) → singleNode capability.accessMode = true) ∧
      (node ∈ (ledgerOf s.id w).nodes ∨ a.faults = [] ∧ Ready a.controller s.protocol s.id node w)
  /-- On a share no recorded address is forgotten. -/
  share : Shared s.protocol → Recording s h a w
  /-- The objects of a block volume keep their names. -/
  block : ¬Shared s.protocol → a.controller.reg = reg
  /-- An NVMe node is withdrawn under the NQN it was enrolled with. -/
  known : ∀ node, a.request = .unpublish node → s.protocol = .nvme →
    Registered (w.appliance s.id.backend).nvmet ∧
    ∀ m ∈ Controller.targets node (ledgerOf s.id w), ∀ nqn, some nqn ∈ left s reg h m →
      ∃ ref, a.controller.nodes.resolve m = .ok ref ∧ ref.nqn = nqn

section

variable {s : Subject} {reg : Registry} {h : List Occurrence} {w : World}

theorem mem_listed {p : Protocol} {v : Volume.ID} {m : String} :
    m ∈ (view p v w).listed ↔ m ∈ (ledgerOf v w).nodes := by
  rw [Volume.Grants.mem_nodes, ← Option.ne_none_iff_exists']
  simp [Fence.State.listed, view]

variable {o : Occurrence} {node : String} {capability : VolumeCapability} {a : Attempt}

theorem holding_publish
    (request : o.attempt.request = .publish node capability) (changed : o.changed) :
    holding s (o :: h) = insert node (holding s h) := by
  ext m
  simp only [holding, Occurrence.releases, request, changed, Set.mem_ofPred_eq, Set.mem_insert_iff]
  constructor
  · rintro (⟨before, -⟩ | ⟨-, capability', same⟩)
    · exact .inr before
    · cases same
      exact .inl rfl
  · rintro (rfl | before)
    · exact .inr ⟨trivial, capability, rfl⟩
    · exact .inl ⟨before, by rintro ⟨node, ⟨⟩, -⟩⟩

theorem sole_publish
    (request : o.attempt.request = .publish node capability) (changed : o.changed) :
    sole s (o :: h) = {k | k ∈ sole s h ∨ singleNode capability.accessMode = true ∧ k = node} := by
  ext m
  simp only [sole, Occurrence.releases, request, changed, Set.mem_ofPred_eq]
  constructor
  · rintro (⟨before, -⟩ | ⟨-, capability', same, single⟩)
    · exact .inl before
    · cases same
      exact .inr ⟨single, rfl⟩
  · rintro (before | ⟨single, rfl⟩)
    · exact .inl ⟨before, by rintro ⟨node, ⟨⟩, -⟩⟩
    · exact .inr ⟨trivial, capability, rfl, single⟩

theorem holding_idle (request : o.attempt.request = .publish node capability) (idle : ¬o.changed) :
    holding s (o :: h) = holding s h ∧ sole s (o :: h) = sole s h := by
  constructor <;> ext m <;> simp [holding, sole, Occurrence.releases, request, idle]

theorem holding_unpublish (request : o.attempt.request = .unpublish node) :
    holding s (o :: h) = holding s h \ {m | o.releases s m} ∧
      sole s (o :: h) = sole s h \ {m | o.releases s m} := by
  constructor <;> ext m <;> simp [holding, sole, request]

theorem publish_unsupported (request : a.request = .publish node capability)
    (unsupported : ¬supportsAccessMode s.id.protocol capability.accessMode = true) :
    (a.perform s w).1 = false ∧ (a.perform s w).2 = w := by
  unfold Attempt.perform
  rw [request]
  refine (wp_iff_run (Q := fun r t => r.isOk = false ∧ t = w)).mp ?_ a.faults
  unfold Controller.controllerPublishVolume
  dsimp only
  split_ifs
  · exact ⟨rfl, rfl⟩
  · exact ⟨rfl, rfl⟩
  · rw [s.parsed]
    refine wp_bind.mpr ?_
    show M.wp (if _ then _ else _) _ w
    rw [if_neg unsupported]
    exact ⟨rfl, rfl⟩

/-- A publish that is ready lists its node, or changed nothing. -/
theorem publish_listed
    (request : a.request = .publish node capability) (clean : Clean s.protocol s.id w)
    (bound : node ∈ (ledgerOf s.id w).nodes ∨
      a.faults = [] ∧ Ready a.controller s.protocol s.id node w) :
    ¬(a.occurrence s w).changed ∧ (a.perform s w).2.appliance = w.appliance ∨
      (view s.protocol s.id (a.perform s w).2).listed =
          insert node (view s.protocol s.id w).listed ∧
        (singleNode capability.accessMode = true → (view s.protocol s.id w).listed ⊆ {node}) := by
  have idle : (a.perform s w).1 = false → (a.perform s w).2.appliance = w.appliance →
      ¬(a.occurrence s w).changed := by
    rintro failed same (ok | changed)
    · exact Bool.false_ne_true (failed.symm.trans ok)
    · exact changed same
  rcases (publish_outcome request clean).2 with ⟨failed, same⟩ | ⟨ref, -, alone, granting⟩
  · exact .inl ⟨idle failed same, same⟩
  · have only : singleNode capability.accessMode = true →
        (view s.protocol s.id w).listed ⊆ {node} := by
      intro single m listed
      by_contra other
      have others := Volume.Grants.mem_others.mpr ⟨mem_listed.mp listed, other⟩
      rw [alone single] at others
      cases others
    rcases bound with listed | ⟨calm, ready⟩
    · exact .inr ⟨granting.listed (.inr (mem_listed.mpr listed)), only⟩
    · cases result : (a.perform s w).1 with
      | true =>
        rw [result] at granting
        exact .inr ⟨granting.listed (.inl rfl), only⟩
      | false =>
        have same := (publish_atomic request calm ready).resolve_left (by simp [result])
        exact .inl ⟨idle result same, same⟩

/-- A publish changed nothing, or it is recorded and was let in by the ledger. -/
theorem publish_cases (request : a.request = .publish node capability)
    (clean : Clean s.protocol s.id w) (leasing : Leasing s reg h a w) :
    ¬(a.occurrence s w).changed ∧ (a.perform s w).2.appliance = w.appliance ∨
      (view s.protocol s.id (a.perform s w).2).listed =
          insert node (view s.protocol s.id w).listed ∧
        (singleNode capability.accessMode = true → (view s.protocol s.id w).listed ⊆ {node}) ∧
        ((∃ k ∈ sole s h, k ≠ node) → singleNode capability.accessMode = true) := by
  by_cases supported : supportsAccessMode s.id.protocol capability.accessMode = true
  · obtain ⟨asks, bound⟩ := leasing.publish node capability request supported
    exact (publish_listed request clean bound).imp_right fun listed => ⟨listed.1, listed.2, asks⟩
  · obtain ⟨failed, same⟩ := publish_unsupported (s := s) (w := w) request supported
    refine .inl ⟨?_, congrArg World.appliance same⟩
    rintro (ok | changed)
    · exact Bool.false_ne_true (failed.symm.trans ok)
    · exact changed (congrArg World.appliance same)

/-- A node that an unpublish struck from the ledger was named by it. -/
theorem struck_named (request : a.request = .unpublish node) (clean : Clean s.protocol s.id w)
    {m : String} (before : m ∈ (view s.protocol s.id w).listed)
    (after : m ∉ (view s.protocol s.id (a.perform s w).2).listed) :
    m ∈ Controller.targets node (ledgerOf s.id w) ∧
      ledgerOf s.id (a.perform s w).2 ≠ ledgerOf s.id w := by
  refine ⟨(unpublish_outcome request clean).2.named before after, fun same => after ?_⟩
  rw [mem_listed, same]
  exact mem_listed.mp before

/-- Every holder is in the ledger, and a sole holder is alone there. -/
def Leased (s : Subject) (h : List Occurrence) (fence : Fence.State String String) : Prop :=
  Fence.Leases fence.listed (holding s h) (sole s h)

/-- A publish keeps the lease: next to a sole holder it is refused, -/
theorem leased_publish (request : a.request = .publish node capability)
    (clean : Clean s.protocol s.id w) (leasing : Leasing s reg h a w)
    (leased : Leased s h (view s.protocol s.id w)) :
    Leased s (a.occurrence s w :: h) (view s.protocol s.id (a.perform s w).2) := by
  unfold Leased
  by_cases changed : (a.occurrence s w).changed
  · rcases publish_cases request clean leasing with ⟨idle, -⟩ | ⟨listed, refused, asks⟩
    · exact absurd changed idle
    · rw [listed, holding_publish (o := a.occurrence s w) request changed,
        sole_publish (o := a.occurrence s w) request changed]
      exact leased.granted refused asks
  · -- A publish that failed and changed nothing at all.
    have same : (a.perform s w).2.appliance = w.appliance := by
      by_contra different
      exact changed (.inr different)
    have fence : view s.protocol s.id (a.perform s w).2 = view s.protocol s.id w :=
      view_congr (by rw [same])
    obtain ⟨holders, soles⟩ := holding_idle (s := s) (h := h) (o := a.occurrence s w) request changed
    rw [fence, holders, soles]
    exact leased

/-- and an unpublish does, since it frees whom it takes off the ledger. -/
theorem leased_unpublish (request : a.request = .unpublish node)
    (clean : Clean s.protocol s.id w) (leased : Leased s h (view s.protocol s.id w)) :
    Leased s (a.occurrence s w :: h) (view s.protocol s.id (a.perform s w).2) := by
  have step := (unpublish_outcome request clean).2
  obtain ⟨holders, soles⟩ := holding_unpublish (s := s) (h := h) (o := a.occurrence s w) request
  unfold Leased
  rw [holders, soles]
  refine leased.withdrawn ?_ step.listed_subset
  rintro m ⟨before, stays⟩
  by_contra after
  -- A node struck from the ledger was named, and has been released.
  have named := (struck_named request clean before after).1
  have who : node = m ∨ node = "" := by
    unfold Controller.targets at named
    split_ifs at named with everyone
    · exact .inr everyone
    · exact .inl (List.mem_singleton.mp named).symm
  exact stays ⟨node, request, who, .inr ⟨mem_listed.mp before, fun still =>
    after (mem_listed.mpr still)⟩⟩

/-- The lease holds along every run, -/
theorem run_leased (run : Run s (Leasing s reg) h w) : Leased s h (view s.protocol s.id w) := by
  refine Run.invariant (I := Leased s) ?_ ?_ run
  · intro w
    exact Fence.Leases.initial
  · intro h a w leasing clean leased
    cases request : a.request with
    | publish node capability => exact leased_publish request clean leasing leased
    | unpublish node => exact leased_unpublish request clean leased

theorem apart_iscsi : Apart Appliance.State.iscsi := fun _ _ _ _ => rfl

/-- Once an unpublish of an iSCSI volume has changed the ledger, the extent is not mapped. -/
theorem unmapped_of_struck (request : a.request = .unpublish node) (iscsi : s.protocol = .iscsi)
    (config : a.controller.reg = reg) {m : String}
    (named : m ∈ Controller.targets node (ledgerOf s.id w)) (there : datasetOf s.id w ≠ none)
    (struck : ledgerOf s.id (a.perform s w).2 ≠ ledgerOf s.id w) :
    ¬Mapped reg s.id (a.perform s w).2 := by
  subst config
  have spec : M.wp (a.controller.controllerUnpublishVolume ⟨s.handle, node⟩) _ w :=
    wp_unpublishing_part apart_iscsi s.parsed (iscsi ▸ s.known) (R := Iscsi.Unmapped)
      (P := fun _ t => ∀ b ∈ a.controller.reg.backends.get? s.id.backend,
        ¬Iscsi.Exported t (Iscsi.extentName a.controller.reg.env.sha256 s.id)
          (Iscsi.targetName b.pool b.parentDataset))
      (fun t => .refl t) (fun first second => first.trans second)
      (fun steps unmapped b found exported => unmapped b found (steps.exported exported)) ?_
  · have ended := wp_iff_run.mp spec a.faults
    unfold Attempt.perform at struck ⊢
    rw [request] at struck ⊢
    rintro ⟨b, found, exported⟩
    exact (ended.2 (.inr struck)).resolve_left there m named b found exported
  · intro b g m t found _
    have done : M.wp (Iscsi.unpublish (handleOf a.controller .iscsi s.id b).server s.id
      (a.controller.revoked g m)) _ t := Iscsi.wp_unpublish
    refine wp_mono done ?_
    rintro r u ⟨steps, unmapped⟩
    refine ⟨steps, fun ok b' found' => ?_⟩
    obtain rfl := Option.some.inj (found.symm.trans found')
    exact unmapped ok

/-- An NVMe volume with the NQNs that one controller resolves. -/
def settingOf (s : Subject) (nvme : s.protocol = .nvme) (c : Controller) : Subsystems.Setting where
  toSubject := s
  nvme := nvme
  sha256 := c.reg.env.sha256
  nqnOf node := match c.nodes.resolve node with
    | .ok ref => ref.nqn
    | .error _ => ""

theorem settingOf_honest (nvme : s.protocol = .nvme) :
    Subsystems.Honest (settingOf s nvme a.controller) a where
  digest := rfl
  reports := by
    intro node ref resolved
    simp [settingOf, resolved]

/-- Once an unpublish has struck a node from the ledger, none of its grants is left. -/
theorem grants_of_struck (request : a.request = .unpublish node) (leasing : Leasing s reg h a w)
    {m : String} (listed : m ∈ (ledgerOf s.id w).nodes)
    (named : m ∈ Controller.targets node (ledgerOf s.id w))
    (struck : ledgerOf s.id (a.perform s w).2 ≠ ledgerOf s.id w) {g : Option String}
    (mine : g ∈ left s reg h m) : g ∉ blockGrants s reg (a.perform s w).2 := by
  have there : datasetOf s.id w ≠ none := by
    intro gone
    obtain ⟨addrs, entry⟩ := Volume.Grants.mem_nodes.mp listed
    rw [ledgerOf_gone gone] at entry
    cases entry
  unfold blockGrants
  cases protocol : s.protocol with
  | nfs => exact Set.notMem_empty g
  | smb => exact Set.notMem_empty g
  | iscsi =>
    have config := leasing.block (by simp [Shared, protocol])
    rintro ⟨-, mapped⟩
    exact unmapped_of_struck request protocol config named there struck mapped
  | nvme =>
    obtain rfl := leasing.block (by simp [Shared, protocol])
    obtain ⟨registered, known⟩ := leasing.known node request protocol
    have present : (settingOf s protocol a.controller).Present w :=
      there_iff.mpr (Option.ne_none_iff_exists'.mp there)
    obtain ⟨steps, off⟩ := Subsystems.unpublish_step request (settingOf_honest protocol) present
      registered
    have gone := off (.inr struck) m named
    rintro (⟨-, row, found, served⟩ | ⟨nqn, notEmpty, rfl, row, found, enrolled⟩)
    · exact (gone row (steps.named.symm.trans found)).1 served
    · obtain ⟨ref, resolved, rfl⟩ := known m named nqn mine
      exact (gone row (steps.named.symm.trans found)).2 ref resolved notEmpty enrolled

/-- Whoever has a grant left is in the ledger. -/
def Accounted (s : Subject) (reg : Registry) (h : List Occurrence)
    (fence : Fence.State String String) : Prop :=
  ∀ m, ∀ g ∈ left s reg h m, m ∈ fence.listed

theorem accounted_step (leasing : Leasing s reg h a w) (clean : Clean s.protocol s.id w)
    (accounted : Accounted s reg h (view s.protocol s.id w)) :
    Accounted s reg (a.occurrence s w :: h) (view s.protocol s.id (a.perform s w).2) := by
  rintro m g ⟨present, mine⟩
  cases request : a.request with
  | publish node capability =>
    rcases publish_cases request clean leasing with ⟨-, same⟩ | ⟨listed, -⟩
    · have before : g ∈ left s reg h m := by
        refine mine.resolve_right fun new => new.2 ?_
        have still : blockGrants s reg (a.perform s w).2 = blockGrants s reg w := by
          simp only [blockGrants, Mapped, Bound, same]
        exact still ▸ present
      rw [view_congr (t := (a.perform s w).2) (w := w) (by rw [same])]
      exact accounted m g before
    · rw [listed]
      rcases mine with before | ⟨⟨capability', asked⟩, -⟩
      · exact Set.mem_insert_of_mem node (accounted m g before)
      · obtain ⟨rfl, -⟩ : node = m ∧ capability = capability' := by
          simpa using request.symm.trans asked
        exact Set.mem_insert node _
  | unpublish node =>
    have before : g ∈ left s reg h m := by
      refine mine.resolve_right ?_
      rintro ⟨⟨capability, asked⟩, -⟩
      cases request.symm.trans asked
    have listed := accounted m g before
    by_contra after
    obtain ⟨named, struck⟩ := struck_named request clean listed after
    exact grants_of_struck request leasing (mem_listed.mp listed) named struck before present

/-- and so does that who has a grant left is in the ledger. -/
theorem run_accounted (run : Run s (Leasing s reg) h w) :
    Accounted s reg h (view s.protocol s.id w) := by
  refine Run.invariant (I := Accounted s reg) ?_ ?_ run
  · rintro w m g none
    exact none.elim
  · intro h a w leasing clean accounted
    exact accounted_step leasing clean accounted

/-- In every run that meets `Leasing`, while `n` holds the volume under a single-node mode no other
node `m` does, and none is in the ledger. An address that a publish of `m` put on the share is
there only if it is recorded for `n`, and no mapping, port binding or host entry of a block volume
is left from `m`. -/
theorem single_node_exclusive (run : Run s (Leasing s reg) h w) {n m : String}
    (single : n ∈ sole s h) (other : m ≠ n) :
    m ∉ holding s h ∧ m ∉ (ledgerOf s.id w).nodes ∧
      (∀ x ∈ added s h m, x ∈ hostsOf s.protocol s.id w →
        x ∈ addresses s.protocol ((ledgerOf s.id w).getD n [])) ∧
      left s reg h m = ∅ := by
  have leased := run_leased run
  have unlisted : ∀ k ≠ n, k ∉ (view s.protocol s.id w).listed :=
    fun k different listed => different (leased.alone n single listed)
  refine ⟨fun holds => unlisted m other (leased.recorded holds),
    fun listed => unlisted m other (mem_listed.mpr listed), ?_, ?_⟩
  · intro x isAdded listed
    by_cases shared : Shared s.protocol
    · obtain ⟨k, entry, stored, present⟩ :=
        run_covered (run.mono fun h a w leasing => leasing.share shared) x ⟨m, isAdded⟩ listed
      obtain rfl : k = n := by
        by_contra different
        exact unlisted k different (by simp [Fence.State.listed, stored])
      obtain ⟨addrs, recorded, rfl⟩ := Option.map_eq_some_iff.mp stored
      simpa [Dict.getD, recorded] using present
    · rw [hostsOf_block shared] at listed
      exact listed.elim
  · by_contra some
    obtain ⟨g, mine⟩ := Set.nonempty_iff_ne_empty.mpr some
    exact unlisted m other (run_accounted run m g mine)

end

/-- A publish by the sample controller that is recorded for a node new to the ledger. -/
theorem sample_leasing {s : Subject} {h : List Occurrence} {w : World} {a : Attempt} {node : String}
    {capability : VolumeCapability} (request : a.request = .publish node capability)
    (calm : a.faults = []) (config : a.controller.reg = sampleController.reg)
    (single : singleNode capability.accessMode = true ∨ h = [])
    (ready : Ready a.controller s.protocol s.id node w) (new : node ∉ (ledgerOf s.id w).nodes) :
    Leasing s sampleController.reg h a w where
  publish := by
    rintro node' capability' asked -
    cases request.symm.trans asked
    refine ⟨?_, .inr ⟨calm, ready⟩⟩
    rintro ⟨k, isSole, -⟩
    rcases single with single | rfl
    · exact single
    · exact isSole.elim
  share := by
    rintro - node' capability' ref asked -
    cases request.symm.trans asked
    refine ⟨fun old stored => ?_, .inr ⟨calm, ready⟩⟩
    have listed : node ∈ (view s.protocol s.id w).listed := by simp [Fence.State.listed, stored]
    exact absurd (mem_listed.mp listed) new
  block := fun _ => config
  known := by
    intro node' asked
    cases request.symm.trans asked

theorem sample_unpublishing {h : List Occurrence} {w : World} (node : String) :
    Leasing nfsVolume sampleController.reg h (unpublishing node) w where
  publish := nofun
  share := fun _ _ _ _ asked => nomatch asked
  block := fun _ => rfl
  known := fun _ _ nvme => nomatch nvme

/-- An NFS volume: to worker-1 under a multi-node mode and back, then to worker-2 alone. -/
def passedOn : Bool × World :=
  (publishing "worker-2" .singleNodeWriter).perform nfsVolume unpublishedNfs.2

def passedOnHistory : List Occurrence :=
  [(publishing "worker-2" .singleNodeWriter).occurrence nfsVolume unpublishedNfs.2,
    (unpublishing "worker-1").occurrence nfsVolume publishedNfs,
    (publishing "worker-1" .multiNodeMultiWriter).occurrence nfsVolume nfsWorld]

def publishedSole : Bool × World := (publishing "worker-1" .singleNodeWriter).perform nfsVolume nfsWorld

def timeout : Failure where
  err := .plain "i/o timeout"
  notAbsence := rfl
  bare := rfl

/-- A publish whose ledger write is refused. -/
def unrecordedPublish (mode : AccessMode) : Attempt :=
  { publishing "worker-1" mode with faults := List.replicate 10 .none ++ [.refused timeout] }

def publishedUnrecorded : World := ((unrecordedPublish .singleNodeWriter).perform nfsVolume nfsWorld).2

/-- After the address change of a node that has been unpublished since. -/
def passedOnMoved : Bool × World :=
  (publishing "worker-2" .singleNodeWriter).perform nfsVolume finalNfs.2

theorem exclusive_runs :
    (passedOn.1 = true ∧ (ledgerOf nfsVolume.id unpublishedNfs.2).nodes = [] ∧
      (ledgerOf nfsVolume.id passedOn.2).getD "worker-2" [] = ["10.0.0.2"] ∧
      (Volume.Grants.encode
        ((ledgerOf nfsVolume.id unpublishedNfs.2).set "worker-2" ["10.0.0.2"])).isOk = true) ∧
    (publishedSole.1 = true ∧
      ((publishing "worker-2" .multiNodeMultiWriter).perform nfsVolume publishedSole.2).1 = true) ∧
    (entriesAt .nfs (publishedUnrecorded.appliance "nas") "/mnt/tank/k8s/pvc-1" ≠
        entriesAt .nfs (nfsWorld.appliance "nas") "/mnt/tank/k8s/pvc-1" ∧
      ((publishing "worker-2" .singleNodeWriter).perform nfsVolume publishedUnrecorded).1 = true) ∧
    passedOnMoved.1 = true ∧ "10.0.0.1" ∈ hostsOf .nfs nfsVolume.id passedOnMoved.2 ∧
    "10.0.0.1" ∉ (ledgerOf nfsVolume.id passedOnMoved.2).getD "worker-2" [] := by
  decide +kernel

open Subsystems (sampleSetting sampleWorld mixedCluster)

theorem mixedCluster_runs :
    (mixedCluster.three.ok = true ∧
      (ledgerOf sampleSetting.id mixedCluster.two.after).nodes = [] ∧
      (ledgerOf sampleSetting.id sampleWorld).nodes = []) ∧
    (Volume.Grants.encode
      ((ledgerOf sampleSetting.id sampleWorld).set "worker-1" ["10.0.0.1"])).isOk = true ∧
    (Volume.Grants.encode
      ((ledgerOf sampleSetting.id mixedCluster.two.after).set "worker-2" ["10.0.0.1"])).isOk = true ∧
    (∀ host ∈ (mixedCluster.one.after.appliance "nas").nvmet.hosts,
      host.hostNQN = sampleSetting.nqnOf "worker-1") ∧
    (∃ row ∈ (mixedCluster.one.after.appliance "nas").nvmet.named "csi-pvc-1",
      Lists (mixedCluster.one.after.appliance "nas").nvmet row.id (sampleSetting.nqnOf "worker-1")) ∧
    (mixedCluster.one.before.appliance "nas").nvmet.hosts = [] := by
  decide +kernel

/-- An NFS volume and an NVMe volume, each taken over by the sole worker-2: the address and the NQN
that worker-1 was granted are gone. -/
theorem single_node_exclusive_of_two :
    (Run nfsVolume (Leasing nfsVolume sampleController.reg) passedOnHistory passedOn.2 ∧
      "worker-2" ∈ sole nfsVolume passedOnHistory ∧
      "10.0.0.1" ∈ added nfsVolume passedOnHistory "worker-1" ∧
      "10.0.0.1" ∉ hostsOf .nfs nfsVolume.id passedOn.2) ∧
    ∃ h w, Run sampleSetting.toSubject (Leasing sampleSetting.toSubject sampleController.reg) h w ∧
      some (sampleSetting.nqnOf "worker-1") ∈
        left sampleSetting.toSubject sampleController.reg [mixedCluster.one] "worker-1" ∧
      left sampleSetting.toSubject sampleController.reg h "worker-1" = ∅ := by
  constructor
  · obtain ⟨⟨passed, nobody, entry, fits⟩, -⟩ := exclusive_runs
    have first : Run nfsVolume (Leasing nfsVolume sampleController.reg) _ publishedNfs :=
      .call (publishing "worker-1" .multiNodeMultiWriter) (.start nfsWorld_clean)
        (sample_leasing rfl rfl rfl (.inr rfl) nfsWorld_ready (by
          rw [show (ledgerOf nfsVolume.id nfsWorld).nodes = [] from completeness_runs.2.1]
          exact List.not_mem_nil))
    have second : Run nfsVolume (Leasing nfsVolume sampleController.reg) _ unpublishedNfs.2 :=
      .call (unpublishing "worker-1") first (sample_unpublishing _)
    have third : Run nfsVolume (Leasing nfsVolume sampleController.reg) passedOnHistory passedOn.2 :=
      .call (publishing "worker-2" .singleNodeWriter) second
        (sample_leasing rfl rfl rfl (.inl rfl) (sample_ready rfl rfl (by decide)
          (show sampleController.nodes.resolve "worker-2" =
            .ok ⟨"worker-2", ["10.0.0.2"], "", ""⟩ by decide) fits) (by
            rw [nobody]
            exact List.not_mem_nil))
    have single : "worker-2" ∈ sole nfsVolume passedOnHistory := Or.inr ⟨.inl passed, _, rfl, rfl⟩
    have granted : "10.0.0.1" ∈ added nfsVolume passedOnHistory "worker-1" :=
      Or.inl (.inl (.inr ⟨.inl completeness_runs.2.2.1, ⟨_, rfl⟩, nfsWorld_granted⟩))
    refine ⟨third, single, granted, fun listed => ?_⟩
    have own := (single_node_exclusive third single (show "worker-1" ≠ "worker-2" by decide)).2.2.1
      _ granted listed
    rw [entry] at own
    exact absurd own.1 (by decide)
  · obtain ⟨⟨passed, nobody, empty⟩, fits, fits', only, listed, unlisted⟩ := mixedCluster_runs
    have first : Run sampleSetting.toSubject (Leasing sampleSetting.toSubject sampleController.reg)
        [mixedCluster.one] mixedCluster.one.after :=
      .call mixedCluster.first (.start (clean_block (by simp [Shared, sampleSetting]) _ _))
        (sample_leasing rfl rfl rfl (.inr rfl) (sample_ready rfl rfl (by decide) rfl fits) (by
          rw [empty]
          exact List.not_mem_nil))
    have registered := (Subsystems.Run.call mixedCluster.first Subsystems.sample_start
      Subsystems.request_honest).sound.2
    have second : Run sampleSetting.toSubject (Leasing sampleSetting.toSubject sampleController.reg)
        [mixedCluster.two, mixedCluster.one] mixedCluster.two.after :=
      .call mixedCluster.second first {
        publish := by rintro _ _ ⟨⟩
        share := by rintro _ _ _ _ ⟨⟩
        block := fun _ => rfl
        known := by
          rintro node ⟨⟩ -
          refine ⟨registered, fun m named nqn mine => ?_⟩
          obtain rfl : m = "worker-1" := List.mem_singleton.mp named
          obtain ⟨⟨wrong, -⟩ | ⟨nqn', -, same, row, -, hs, -, -, host, member, -, rfl⟩, -⟩ := mine
          · cases wrong
          · cases same
            exact ⟨_, rfl, (only host member).symm⟩ }
    have third : Run sampleSetting.toSubject (Leasing sampleSetting.toSubject sampleController.reg)
        [mixedCluster.three, mixedCluster.two, mixedCluster.one] mixedCluster.three.after :=
      .call mixedCluster.third second
        (sample_leasing rfl rfl rfl (.inl rfl) (sample_ready rfl rfl (by decide) rfl fits') (by
          rw [nobody]
          exact List.not_mem_nil))
    refine ⟨_, _, third, ⟨.inr ⟨_, by decide, rfl, listed⟩, .inr ⟨⟨_, rfl⟩, ?_⟩⟩,
      (single_node_exclusive third (.inr ⟨.inl passed, _, rfl, rfl⟩)
        (show "worker-1" ≠ "worker-2" by decide)).2.2.2⟩
    rintro (⟨wrong, -⟩ | ⟨nqn, -, -, row, -, hs, -, -, host, member, -⟩)
    · cases wrong
    · have none : host ∈ (mixedCluster.one.before.appliance "nas").nvmet.hosts := member
      rw [unlisted] at none
      cases none

/-- The ways a sole holder gets company: a later publish under a multi-node mode, a grant the
ledger does not know, and an address of another node that its ledger entry has lost. -/
theorem single_node_shared :
    (∃ h w, Run nfsVolume (fun _ a _ => a.faults = []) h w ∧
      "worker-1" ∈ sole nfsVolume h ∧ "worker-2" ∈ holding nfsVolume h) ∧
    (∃ h w, Run nfsVolume (fun _ a _ => ∀ node capability, a.request = .publish node capability →
        singleNode capability.accessMode = true) h w ∧
      "worker-1" ∈ sole nfsVolume h ∧ "worker-2" ∈ holding nfsVolume h) ∧
    ∃ h w, Run nfsVolume (fun _ a _ => a.faults = []) h w ∧ "worker-2" ∈ sole nfsVolume h ∧
      "10.0.0.1" ∈ added nfsVolume h "worker-1" ∧ "10.0.0.1" ∈ hostsOf .nfs nfsVolume.id w ∧
      "10.0.0.1" ∉ (ledgerOf nfsVolume.id w).getD "worker-2" [] := by
  obtain ⟨-, ⟨published, joined⟩, ⟨differ, slipped⟩, moved, stays, foreign⟩ := exclusive_runs
  refine ⟨?_, ?_, ?_⟩
  · have first : Run nfsVolume (fun _ a _ => a.faults = []) _ publishedSole.2 :=
      .call (publishing "worker-1" .singleNodeWriter) (.start nfsWorld_clean) rfl
    have second := Run.call (publishing "worker-2" .multiNodeMultiWriter) first rfl
    refine ⟨_, _, second, .inl ⟨.inr ⟨.inl published, _, rfl, rfl⟩, ?_⟩,
      Or.inr ⟨.inl joined, _, rfl⟩⟩
    rintro ⟨node, ⟨⟩, -⟩
  · have first : Run nfsVolume (fun _ a _ => ∀ node capability,
        a.request = .publish node capability → singleNode capability.accessMode = true)
        _ publishedUnrecorded :=
      .call (unrecordedPublish .singleNodeWriter) (.start nfsWorld_clean)
        (by rintro node capability ⟨⟩; rfl)
    have second := Run.call (publishing "worker-2" .singleNodeWriter) first
      (by rintro node capability ⟨⟩; rfl)
    have changed : publishedUnrecorded.appliance ≠ nfsWorld.appliance := by
      intro same
      exact differ (by rw [same])
    refine ⟨_, _, second, .inl ⟨.inr ⟨.inr changed, _, rfl, rfl⟩, ?_⟩, Or.inr ⟨.inl slipped, _, rfl⟩⟩
    rintro ⟨node, ⟨⟩, -⟩
  · have first : Run nfsVolume (fun _ a _ => a.faults = []) _ publishedNfs :=
      .call (publishing "worker-1" .multiNodeMultiWriter) (.start nfsWorld_clean) rfl
    have second : Run nfsVolume (fun _ a _ => a.faults = []) _ republishedNfs :=
      .call republishing first rfl
    have third : Run nfsVolume (fun _ a _ => a.faults = []) _ finalNfs.2 :=
      .call { controller := movedController, request := .unpublish "worker-1" } second rfl
    have fourth : Run nfsVolume (fun _ a _ => a.faults = []) _ passedOnMoved.2 :=
      .call (publishing "worker-2" .singleNodeWriter) third rfl
    exact ⟨_, _, fourth, .inr ⟨.inl moved, _, rfl, rfl⟩,
      .inl (.inl (.inl (.inr ⟨.inl completeness_runs.2.2.1, ⟨_, rfl⟩, nfsWorld_granted⟩))),
      stays, foreign⟩

end TruenasCsi.Fencing
