import TruenasCsi.Replicas.Revocation

/-!
# Every interleaving of a publish with a revocation

## Main result

`revocation_not_lost`: if no write overtakes another, both take effect.

## Proof strategy

Rely and guarantee (`Support.Rely`): each program is proved to end well among any steps that keep the
other's `Promise`, and each step of it keeps its own.
-/

namespace TruenasCsi.Replicas

open Backend Csi Fencing
open PodFencing (fencerOf ownAddresses)
open Volume

/-- The two ways to take a node's access away. -/
inductive Revocation where
  | fence
  | unpublish
deriving DecidableEq

def Revocation.program (c : Controller) (handle : String) (v : ID) (nodeID : String) :
    Revocation → M Unit
  | .fence => (fencerOf c).fence v nodeID
  | .unpublish => c.controllerUnpublishVolume ⟨handle, nodeID⟩

def publishing (c : Controller) (handle nodeID : String) (capability : VolumeCapability) : M Unit := do
  let _ ← c.controllerPublishVolume ⟨handle, nodeID, some capability⟩

abbrev Flight := Pool Party State Call Call.Answer Err

/-- Two programs on one state, each with the memory of its own process. -/
def system : Threads Party State (Party × Fault) Call Call.Answer Err where
  handler := State.handle
  ready _ _ := True
  programs _ _ := False

instance (c : Call) (s : State) : Decidable (system.ready c s) := isTrue trivial

/-- Each process makes its own calls, in any order. -/
def Turn (_ : Flight) (i : Party) (o : Party × Fault) : Prop := o.1 = i

/-- Neither overwrites what the other wrote since. -/
def Undisturbed (pool : Flight) (i : Party) (o : Party × Fault) : Prop :=
  o.1 = i ∧ ∀ c k, pool.threads i = .call c k →
    ∀ r : Record, r.writes c = true → overtaken i r pool.state.log = false

/-- Both are about to start. -/
def begun (w : World) (processes : Party → Process) (publish revoke : M Unit) : Flight where
  state := ⟨w.appliance, processes, []⟩
  threads
    | .publisher => publish
    | .revoker => revoke

section

variable {c₁ c₂ : Controller} {p : Protocol} {v : ID} {handle a b : String} {w : World}
  {capability : VolumeCapability} {kind : Revocation} {node : NodeRef} {x : Contest}
  {processes : Party → Process} {s : State} {pool : Flight}

theorem among_publishing (parsed : parseID handle = .ok x.volume)
    (known : Protocol.factoryFor x.volume.protocol = some x.protocol) (shared : Shared x.protocol)
    (apart : Disjoint x.off x.on) (different : x.revoked ≠ x.published)
    (resolved : c₁.nodes.resolve x.published = .ok node)
    (gives : x.on = addresses x.protocol (grantedTo x.protocol x.volume x.start node))
    (base : x.Base s) : (publishing c₁ handle x.published capability).Among x.discipline .publisher
      (Contest.Succeeds x.Granted) s := by
  have published := Contest.among_controllerPublishVolume known shared apart different resolved gives
    parsed capability base
  exact Contest.among_then published fun _ t granted u later _ =>
    Contest.steady_granted.lasts later (granted rfl)

theorem among_revocation (parsed : parseID handle = .ok x.volume)
    (known : Protocol.factoryFor x.volume.protocol = some x.protocol) (shared : Shared x.protocol)
    (apart : Disjoint x.off x.on) (different : x.revoked ≠ x.published) (named : x.revoked ≠ "")
    (takes : x.off = ownAddresses c₂ x.protocol x.volume x.revoked x.start)
    (unlisted : kind = .fence → (ledgerOf x.volume x.start).get? x.revoked = none)
    (base : x.Base s) (entered : x.Entered s) :
    (kind.program c₂ handle x.volume x.revoked).Among x.discipline .revoker
      (Contest.Succeeds x.Withdrawn) s := by
  cases kind with
  | fence => exact Contest.among_fence known shared apart takes (unlisted rfl) base entered
  | unpublish =>
    exact Contest.among_controllerUnpublishVolume known shared apart takes named different parsed base
      entered

/-- Two processes, one publishing to `b` and one revoking `a`, on a share whose entries have no blanks and
with no address in common. If both succeed and no write overtakes another (`Undisturbed`): the addresses of
`a` are off the share, those of `b` on it, and the ledger lists `b` and not `a`. -/
theorem revocation_not_lost (parsed : Volume.parseID handle = .ok v)
    (known : Protocol.factoryFor v.protocol = some p) (shared : Shared p) (different : a ≠ b)
    (named : a ≠ "") (resolved : c₁.nodes.resolve b = .ok node) (clean : Clean p v w)
    (apart : Disjoint (ownAddresses c₂ p v a w) (addresses p (grantedTo p v w node)))
    (unlisted : kind = .fence → a ∉ (ledgerOf v w).nodes)
    (run : Pool.Reaches system Undisturbed (· = begun w processes
      (publishing c₁ handle b capability) (kind.program c₂ handle v a)) pool)
    (published : (pool.threads .publisher).succeeded = true)
    (revoked : (pool.threads .revoker).succeeded = true) :
    Disjoint (ownAddresses c₂ p v a w) (hostsOf p v pool.state.seen) ∧
      addresses p (grantedTo p v w node) ⊆ hostsOf p v pool.state.seen ∧
      b ∈ (ledgerOf v pool.state.seen).nodes ∧ a ∉ (ledgerOf v pool.state.seen).nodes := by
  let x : Contest := ⟨p, v, w, b, a, addresses p (grantedTo p v w node), ownAddresses c₂ p v a w⟩
  have base : x.Base ⟨w.appliance, processes, []⟩ := ⟨rfl, fun _ => rfl, clean⟩
  have absent : kind = .fence → (ledgerOf v w).get? a = none := by
    intro fenced
    cases entry : (ledgerOf v w).get? a with
    | none => rfl
    | some addrs => exact absurd (Grants.mem_nodes.mpr ⟨addrs, entry⟩) (unlisted fenced)
  -- Both programs keep the discipline, so each ends as it would among any steps of the other.
  have both := run.among (d := x.discipline) (Q := fun
      | .publisher => Contest.Succeeds x.Granted
      | .revoker => Contest.Succeeds x.Withdrawn) rfl
    (fun pool i o c k next allowed => ⟨allowed.1, allowed.2 c k next⟩) ?_ (fun _ _ none => False.elim none)
  · obtain ⟨_, granted⟩ := (both .publisher).succeeded published
    obtain ⟨_, withdrawn⟩ := (both .revoker).succeeded revoked
    obtain ⟨listed, addrs, entry⟩ := granted rfl
    obtain ⟨off, struck⟩ := withdrawn rfl
    refine ⟨off, listed, Grants.mem_nodes.mpr ⟨addrs, entry⟩, fun member => ?_⟩
    obtain ⟨addrs', entry'⟩ := Grants.mem_nodes.mp member
    cases struck.symm.trans entry'
  · rintro pool rfl i
    cases i with
    | publisher =>
      exact among_publishing (x := x) parsed known shared apart different resolved rfl base
    | revoker =>
      exact among_revocation (x := x) parsed known shared apart different named rfl absent base rfl

end

open Fencing (nfsVolume sampleController publishedNfs)

def sampleFlight (kind : Revocation) : Flight :=
  begun publishedNfs (fun _ => {})
    (publishing sampleController nfsVolume.handle "worker-2" ⟨.mount "", .multiNodeMultiWriter⟩)
    (kind.program sampleController nfsVolume.handle nfsVolume.id "worker-1")

/-- A plan of how many calls each party makes in turn. -/
def turns (plan : List (Party × Nat)) : List (Party × (Party × Fault)) :=
  plan.flatMap fun turn => List.replicate turn.2 (turn.1, (turn.1, .none))

variable (pool : Flight) (i : Party) (o : Party × Fault)

def undisturbed : Bool :=
  o.1 == i && match pool.threads i with
    | .call c _ => [Record.ledger, Record.hosts].all fun r => !r.writes c || !overtaken i r pool.state.log
    | _ => true

theorem undisturbed_sound (checked : undisturbed pool i o = true) : Undisturbed pool i o := by
  obtain ⟨own, rest⟩ := Bool.and_eq_true_iff.mp checked
  refine ⟨eq_of_beq own, fun c k next r writes => ?_⟩
  rw [next] at rest
  have each := List.all_eq_true.mp rest r (by cases r <;> simp)
  simpa [writes] using each

theorem publishedNfs_clean : Clean .nfs nfsVolume.id publishedNfs := by
  intro mp found
  have mounted : mountpoint nfsVolume.id publishedNfs = some "/mnt/tank/k8s/pvc-1" := by
    decide +kernel
  obtain rfl := Option.some.inj (found.symm.trans mounted)
  have tidy : ∀ h ∈ entriesAt .nfs (publishedNfs.appliance "nas") "/mnt/tank/k8s/pvc-1",
      letsIn .nfs h = true → Text.trimSpace h = h := by
    decide +kernel
  exact tidy

theorem sample_addresses :
    ownAddresses sampleController .nfs nfsVolume.id "worker-1" publishedNfs = {"10.0.0.1"} ∧
      addresses .nfs (grantedTo .nfs nfsVolume.id publishedNfs ⟨"worker-2", ["10.0.0.2"], "", ""⟩) =
        {"10.0.0.2"} := by
  have one : ∀ a : String, Text.trimSpace a = a → letsIn .nfs a = true →
      addresses .nfs [a] = {a} := by
    intro a trimmed client
    ext h
    simp only [addresses, List.map_cons, List.map_nil, trimmed, List.mem_singleton,
      Set.mem_ofPred_eq, Set.mem_singleton_iff, and_iff_left_iff_imp]
    rintro rfl
    exact client
  have lists : (ledgerOf nfsVolume.id publishedNfs).getD "worker-1" [] = ["10.0.0.1"] ∧
      grantedTo .nfs nfsVolume.id publishedNfs ⟨"worker-2", ["10.0.0.2"], "", ""⟩ = ["10.0.0.2"] := by
    decide +kernel
  have live : sampleController.nodes.resolve "worker-1" = .ok ⟨"worker-1", ["10.0.0.1"], "", ""⟩ := rfl
  constructor
  · simp only [ownAddresses, lists.1, live, one "10.0.0.1" (by decide) (by decide), Set.union_self]
  · rw [lists.2, one "10.0.0.2" (by decide) (by decide)]

/-- The unpublish runs while the publish waits. -/
theorem revocation_not_lost_of_two : ∃ pool : Flight,
    "10.0.0.1" ∉ hostsOf .nfs nfsVolume.id pool.state.seen ∧
      "10.0.0.2" ∈ hostsOf .nfs nfsVolume.id pool.state.seen ∧
      "worker-2" ∈ (ledgerOf nfsVolume.id pool.state.seen).nodes ∧
      "worker-1" ∉ (ledgerOf nfsVolume.id pool.state.seen).nodes := by
  let plan := turns [(.publisher, 2), (.revoker, 9), (.publisher, 10)]
  have both : (((sampleFlight .unpublish).replay system undisturbed plan).map fun pool =>
      ((pool.threads .publisher).succeeded, (pool.threads .revoker).succeeded)) =
      some (true, true) := by
    decide +kernel
  obtain ⟨pool, runs, ended⟩ := Option.map_eq_some_iff.mp both
  obtain ⟨published, revoked⟩ := Prod.mk.inj ended
  have run : Pool.Reaches system Undisturbed (· = sampleFlight .unpublish) pool :=
    Pool.Reaches.replay undisturbed_sound (.initial rfl) runs
  obtain ⟨own, granted⟩ := sample_addresses
  have apart : Disjoint (ownAddresses sampleController .nfs nfsVolume.id "worker-1" publishedNfs)
      (addresses .nfs (grantedTo .nfs nfsVolume.id publishedNfs ⟨"worker-2", ["10.0.0.2"], "", ""⟩)) := by
    rw [own, granted]
    simp
  have kept := revocation_not_lost (p := .nfs) nfsVolume.parsed nfsVolume.known (.inl rfl) (by decide)
    (by decide) rfl publishedNfs_clean apart (by decide) run published revoked
  rw [own, granted] at kept
  exact ⟨pool, Set.disjoint_singleton_left.mp kept.1, Set.singleton_subset_iff.mp kept.2.1, kept.2.2⟩

def outcome : (Bool × Bool) × (Bool × Bool) :=
  (((pool.threads .publisher).succeeded, (pool.threads .revoker).succeeded),
    (decide ("10.0.0.1" ∈ hostsOf .nfs nfsVolume.id pool.state.seen),
      decide ("worker-1" ∈ (ledgerOf nfsVolume.id pool.state.seen).nodes)))

/-- The revoked node is back. -/
theorem revocation_lost :
    (∃ pool, Pool.Reaches system Turn (· = sampleFlight .unpublish) pool ∧
      (pool.threads .publisher).succeeded = true ∧ (pool.threads .revoker).succeeded = true ∧
      "10.0.0.1" ∈ hostsOf .nfs nfsVolume.id pool.state.seen ∧
      "worker-1" ∈ (ledgerOf nfsVolume.id pool.state.seen).nodes) ∧
    ∃ pool, Pool.Reaches system Turn (· = sampleFlight .fence) pool ∧
      (pool.threads .publisher).succeeded = true ∧ (pool.threads .revoker).succeeded = true ∧
      "worker-1" ∈ (ledgerOf nfsVolume.id pool.state.seen).nodes := by
  have own : ∀ (pool : Flight) (i : Party) (o : Party × Fault), (o.1 == i) = true → Turn pool i o :=
    fun pool i o same => eq_of_beq same
  constructor
  · have ends : ((sampleFlight .unpublish).replay system (fun _ i o => o.1 == i)
        (turns [(.publisher, 8), (.revoker, 9), (.publisher, 4)])).map outcome =
        some ((true, true), (true, true)) := by
      decide +kernel
    obtain ⟨pool, runs, ended⟩ := Option.map_eq_some_iff.mp ends
    obtain ⟨both, left⟩ := Prod.mk.inj ended
    exact ⟨pool, Pool.Reaches.replay own (.initial rfl) runs, (Prod.mk.inj both).1, (Prod.mk.inj both).2,
      of_decide_eq_true (Prod.mk.inj left).1, of_decide_eq_true (Prod.mk.inj left).2⟩
  · have ends : ((sampleFlight .fence).replay system (fun _ i o => o.1 == i)
        (turns [(.publisher, 12), (.revoker, 4)])).map outcome =
        some ((true, true), (false, true)) := by
      decide +kernel
    obtain ⟨pool, runs, ended⟩ := Option.map_eq_some_iff.mp ends
    obtain ⟨both, left⟩ := Prod.mk.inj ended
    exact ⟨pool, Pool.Reaches.replay own (.initial rfl) runs, (Prod.mk.inj both).1, (Prod.mk.inj both).2,
      of_decide_eq_true (Prod.mk.inj left).2⟩

end TruenasCsi.Replicas
