import TruenasCsi.Subsystems.Runs
import TruenasCsi.Fencing.Isolation

/-!
# Whom a subsystem admits

## Main results

`publish_admits_iff`: what a publish gives its node. `withdrawn_stays_out`: what an unpublish takes for
good.

## Proof strategy

A publish takes `Grant` steps and an unpublish `Revoke` steps (`Subsystems.Runs`), so each fact on the
tables is checked for the six kinds of rows, and carried along a run by induction.
-/

namespace TruenasCsi.Subsystems

open Appliance (Nvmet)
open Appliance.Nvmet (Serves Lists Registered Grants Revokes)
open Csi (Controller)
open Fencing

/-- The cluster reported an NQN for the node. -/
def Reported (o : Occurrence) (node : String) : Prop :=
  ∃ ref, o.attempt.controller.nodes.resolve node = .ok ref ∧ ref.nqn ≠ ""

section

variable (s : Setting) (w : World)

def Bound : Prop := ∃ row ∈ (s.tables w).named s.name, Serves (s.tables w) row.id

def Listed (node : String) : Prop :=
  ∃ row ∈ (s.tables w).named s.name, Lists (s.tables w) row.id (s.nqnOf node)

def AnyHost : Prop := (s.tables w).Open s.name

/-- The node may connect, by the host list. -/
def Admits (node : String) : Prop := Listed s w node ∨ AnyHost s w

instance : Decidable (Bound s w) :=
  inferInstanceAs (Decidable (∃ row ∈ (s.tables w).named s.name, Serves (s.tables w) row.id))

instance (node : String) : Decidable (Listed s w node) :=
  inferInstanceAs (Decidable (∃ row ∈ (s.tables w).named s.name,
    Lists (s.tables w) row.id (s.nqnOf node)))

instance : Decidable (AnyHost s w) := inferInstanceAs (Decidable ((s.tables w).Open s.name))

instance (node : String) : Decidable (Admits s w node) :=
  inferInstanceAs (Decidable (Listed s w node ∨ AnyHost s w))

end

section

variable {s : Setting} {h : List Occurrence} {w : World} {o : Occurrence} {node : String}
  {capability : Csi.VolumeCapability}

/-- In every run: a publish that succeeded leaves the subsystem on its port, and the node admitted exactly
if its NQN was known or it was admitted before. -/
theorem publish_admits_iff (run : Run s h w) (member : o ∈ h)
    (request : o.attempt.request = .publish node capability) (ok : o.ok = true) :
    Bound s o.after ∧ (Admits s o.after node ↔ Reported o node ∨ Admits s o.before node) := by
  obtain ⟨earlier, a, v, -, honest, rfl⟩ := run.occurred member
  have succeeded : (a.perform s.toSubject v).1 = true := ok
  have asked : a.request = .publish node capability := request
  rcases publish_step (w := v) asked honest with ⟨failed, -⟩ | ⟨ref, resolved, row, found, published⟩
  · rw [succeeded] at failed
    cases failed
  rw [succeeded] at published
  obtain ⟨row', found', same, -⟩ := Nvmet.Grants.named published.grants found
  have bound : Serves (s.tables (a.perform s.toSubject v).2) row'.id := by
    rw [same]
    exact published.serves rfl
  refine ⟨⟨row', found', bound⟩, ?_⟩
  by_cases unknown : ref.nqn = ""
  · -- Without an NQN the publish leaves the admission as it was.
    have notReported : ¬Reported (a.occurrence s.toSubject v) node := by
      rintro ⟨ref', resolved', reported⟩
      obtain rfl := Except.ok.inj (resolved.symm.trans resolved')
      exact reported unknown
    have grants := published.grants
    rw [unknown] at grants
    obtain ⟨subsystems, hosts, entries⟩ := Nvmet.Grants.unnamed grants
    have admission : Admits s (a.perform s.toSubject v).2 node ↔ Admits s v node := by
      simp only [Admits, Listed, AnyHost, Nvmet.Lists, Nvmet.Open, Nvmet.named, subsystems, hosts, entries]
    exact admission.trans (or_iff_right notReported).symm
  · have own : ref.nqn = s.nqnOf node := (honest.reports resolved).resolve_left unknown
    have listed := (published.admits rfl unknown).1
    rw [own, ← same] at listed
    exact iff_of_true (.inl ⟨row', found', listed⟩) (.inl ⟨ref, resolved, unknown⟩)

end

def sampleSetting : Setting where
  handle := "nas/nvme/tank/k8s/pvc-1"
  id := ⟨"nas", "nvme", "tank", "k8s", "", "pvc-1"⟩
  protocol := .nvme
  parsed := by decide
  known := by decide
  nvme := rfl
  sha256 _ := "0"
  nqnOf node := "nqn.2014-08.org.nvmexpress:uuid:" ++ node

def sampleWorld : World where
  appliance _ := {
    storage := sampleStorage .volume
    nvmet := {
      subsystems := [⟨1, "csi-pvc-1", "nqn.2011-06.com.truenas:csi-pvc-1", "serial1", true⟩]
      namespaces := [⟨2, 1, "zvol/tank/k8s/pvc-1", some true⟩]
      ports := [⟨3, "TCP", "10.0.0.9", 4420, some true⟩]
      nextID := 4 } }

def request (there annotated : List String) (request : Request) : Attempt where
  controller := { sampleController with
    nodes := Backend.kubeNodeResolver fun node =>
      if node ∈ there then .ok (some {
        addresses := [(.internalIP, "10.0.0.1")]
        nqn := if node ∈ annotated then sampleSetting.nqnOf node else "" })
      else .ok none }
  request

theorem request_honest {there annotated : List String} {asked : Request} :
    Honest sampleSetting (request there annotated asked) where
  digest := rfl
  reports := by
    intro node ref resolved
    simp only [request, Backend.kubeNodeResolver] at resolved
    split_ifs at resolved
    all_goals (try cases resolved)
    · exact .inr rfl
    · exact .inl rfl

theorem sample_start : Run sampleSetting [] sampleWorld := by
  refine .start ?_ ?_
  · show datasetsThere _ _ = true
    decide
  · constructor <;> intro host none <;> cases none

def publishTo (node : String) : Request := .publish node ⟨.mount "", .singleNodeWriter⟩

structure Trio where
  first : Attempt
  second : Attempt
  third : Attempt

namespace Trio

variable (calls : Trio)

def one : Occurrence := calls.first.occurrence sampleSetting.toSubject sampleWorld

def two : Occurrence := calls.second.occurrence sampleSetting.toSubject calls.one.after

def three : Occurrence := calls.third.occurrence sampleSetting.toSubject calls.two.after

variable {calls}

theorem run (first : Honest sampleSetting calls.first) (second : Honest sampleSetting calls.second)
    (third : Honest sampleSetting calls.third) :
    Run sampleSetting [calls.three, calls.two, calls.one] calls.three.after :=
  .call _ (.call _ (.call _ sample_start first) second) third

end Trio

/-- A node that reports no NQN beside one that does. -/
def mixedCluster : Trio where
  first := request ["worker-1"] ["worker-1"] (publishTo "worker-1")
  second := request ["worker-1"] ["worker-1"] (.unpublish "worker-1")
  third := request ["worker-2"] [] (publishTo "worker-2")

theorem mixedCluster_run : Run sampleSetting [mixedCluster.three, mixedCluster.two, mixedCluster.one]
    mixedCluster.three.after :=
  Trio.run request_honest request_honest request_honest

/-- The node with the NQN is admitted by its publish. -/
theorem publish_admits_reported : Bound sampleSetting mixedCluster.one.after ∧
    (Admits sampleSetting mixedCluster.one.after "worker-1" ↔
      Reported mixedCluster.one "worker-1" ∨ Admits sampleSetting mixedCluster.one.before "worker-1") :=
  publish_admits_iff mixedCluster_run (by simp) rfl (by decide +kernel)

/-- The node without one is not admitted. -/
theorem publish_leaves_node_out : ∃ h w, Run sampleSetting h w ∧ ∃ o ∈ h,
    o.attempt.request = publishTo "worker-2" ∧ o.ok = true ∧ Bound sampleSetting o.after ∧
    ¬Admits sampleSetting o.after "worker-2" := by
  refine ⟨_, _, mixedCluster_run, mixedCluster.three, by simp, rfl, ?_⟩
  decide +kernel

/-- An unpublish that succeeded and took the node off the ledger. -/
def Withdraws (s : Setting) (o : Occurrence) (node : String) : Prop :=
  o.ok = true ∧ ∃ m, o.attempt.request = .unpublish m ∧ node ∈ Controller.targets m (ledgerOf s.id o.before)

/-- A successful publish with a known NQN. -/
def Closes (o : Occurrence) : Prop :=
  o.ok = true ∧ ∃ m capability, o.attempt.request = .publish m capability ∧ Reported o m

section

variable {s : Setting} {h later earlier : List Occurrence} {w v : World} {o : Occurrence} {a : Attempt}
  {node : String}

/-- No request opens a subsystem, -/
theorem anyHost_step (honest : Honest s a) (run : Run s h v)
    (after : AnyHost s (a.perform s.toSubject v).2) : AnyHost s v := by
  obtain ⟨row', found', isOpen⟩ := after
  cases request : a.request with
  | publish m capability =>
    rcases publish_step (w := v) request honest with ⟨-, same⟩ | ⟨ref, -, row, found, published⟩
    · rw [same] at found'
      exact ⟨row', found', isOpen⟩
    · obtain ⟨row'', found'', -, closed⟩ := Nvmet.Grants.named published.grants found
      obtain rfl := Option.some.inj (found'.symm.trans found'')
      exact ⟨row, found, closed isOpen⟩
  | unpublish m =>
    have steps := (unpublish_step request honest run.sound.1 run.sound.2).1
    rw [steps.named] at found'
    exact ⟨row', found', isOpen⟩

/-- A subsystem that is closed stays closed. -/
theorem closed_since (run : Run s (later ++ o :: earlier) w)
    (first : ∀ a v, o = a.occurrence s.toSubject v → Honest s a → Run s earlier v →
      ¬AnyHost s (a.perform s.toSubject v).2) : ¬AnyHost s w := by
  refine Run.since (I := fun w => ¬AnyHost s w) run first ?_ ?_
  · intro a h v _ honest before closed after
    exact closed (anyHost_step honest before after)
  · rintro v t other closed ⟨row, found, isOpen⟩
    exact closed ⟨row, other.named.symm.trans found, isOpen⟩

/-- so one that a publish closed stays closed. -/
theorem closed_of_closes (run : Run s h w) (member : o ∈ h) (closes : Closes o) : ¬AnyHost s w := by
  obtain ⟨later, earlier, rfl⟩ := List.append_of_mem member
  apply closed_since run
  rintro a v rfl honest before
  obtain ⟨ok, m, capability, request, ref', resolved', reported⟩ := closes
  have succeeded : (a.perform s.toSubject v).1 = true := ok
  have asked : a.request = .publish m capability := request
  rcases publish_step (w := v) asked honest with ⟨failed, -⟩ | ⟨ref, resolved, row, found, published⟩
  · rw [succeeded] at failed
    cases failed
  · obtain rfl := Except.ok.inj (resolved.symm.trans resolved')
    exact (published.admits succeeded reported).2

/-- Only a publish of its NQN puts a node on the list. -/
theorem listed_step (honest : Honest s a) (run : Run s h v)
    (others : ∀ m capability, a.request = .publish m capability → s.nqnOf m ≠ s.nqnOf node)
    (after : Listed s (a.perform s.toSubject v).2 node) : Listed s v node := by
  obtain ⟨row', found', listed⟩ := after
  cases request : a.request with
  | publish m capability =>
    rcases publish_step (w := v) request honest with ⟨-, same⟩ | ⟨ref, resolved, row, found, published⟩
    · rw [same] at found' listed
      exact ⟨row', found', listed⟩
    · obtain ⟨row'', found'', same, -⟩ := Nvmet.Grants.named published.grants found
      obtain rfl := Option.some.inj ((Option.mem_def.mp found').symm.trans found'')
      rw [same] at listed
      refine ⟨row, found, ?_⟩
      rcases honest.reports resolved with unknown | own
      · have grants := published.grants
        rw [unknown] at grants
        obtain ⟨-, hosts, entries⟩ := Nvmet.Grants.unnamed grants
        simpa only [Nvmet.Lists, hosts, entries] using listed
      · refine Nvmet.Grants.lists published.grants run.sound.2 ?_ listed
        rw [own]
        exact (others m capability request).symm
  | unpublish m =>
    have steps := (unpublish_step request honest run.sound.1 run.sound.2).1
    rw [steps.named] at found'
    exact ⟨row', found', steps.lists listed⟩

/-- No unpublish binds. -/
theorem bound_step (honest : Honest s a) (run : Run s h v) {m : String}
    (request : a.request = .unpublish m) (after : Bound s (a.perform s.toSubject v).2) : Bound s v := by
  obtain ⟨row, found, served⟩ := after
  have steps := (unpublish_step request honest run.sound.1 run.sound.2).1
  rw [steps.named] at found
  exact ⟨row, found, steps.serves served⟩

/-- After an unpublish of `node` that succeeded, as long as neither it nor a node with its NQN is
published again: until the next publish no port serves the subsystem; if its NQN was known or not on the
host list, it stays off the list; and the subsystem stays closed if it was, or if any publish closed it. -/
theorem withdrawn_stays_out (run : Run s (later ++ o :: earlier) w) (out : Withdraws s o node)
    (notAgain : ∀ q ∈ later, ∀ m capability, q.attempt.request = .publish m capability →
      s.nqnOf m ≠ s.nqnOf node) :
    ((∀ q ∈ later, ∃ m, q.attempt.request = .unpublish m) → ¬Bound s w) ∧
    (Reported o node ∨ ¬Listed s o.before node → ¬Listed s w node) ∧
    (¬AnyHost s o.before ∨ (∃ q ∈ later ++ o :: earlier, Closes q) → ¬AnyHost s w) := by
  obtain ⟨ok, m, request, named⟩ := out
  -- What the unpublish itself did.
  have off : ∀ a v, o = a.occurrence s.toSubject v → Honest s a → Run s earlier v →
      Revokes (s.tables v) (s.tables (a.perform s.toSubject v).2) ∧
      Off s a.controller (s.tables v) node (s.tables (a.perform s.toSubject v).2) := by
    rintro a v rfl honest before
    have asked : a.request = .unpublish m := request
    obtain ⟨steps, done⟩ := unpublish_step asked honest before.sound.1 before.sound.2
    exact ⟨steps, done (.inl ok) node named⟩
  refine ⟨?_, ?_, ?_⟩
  · intro onlyUnpublishes
    refine Run.since (I := fun w => ¬Bound s w) run ?_ ?_ ?_
    · rintro a v same honest before ⟨row, found, served⟩
      obtain ⟨steps, gone⟩ := off a v same honest before
      exact (gone row (steps.named.symm.trans found)).1 served
    · intro a h v member honest before unbound after
      obtain ⟨k, asked⟩ := onlyUnpublishes _ member
      exact unbound (bound_step honest before asked after)
    · rintro v t other unbound ⟨row, found, served⟩
      have was := other.named.symm.trans found
      exact unbound ⟨row, was, (other.serves was).mp served⟩
  · intro known
    refine Run.since (I := fun w => ¬Listed s w node) run ?_ ?_ ?_
    · rintro a v rfl honest before ⟨row, found, listed⟩
      obtain ⟨steps, gone⟩ := off a v rfl honest before
      have was := steps.named.symm.trans found
      rcases known with ⟨ref, resolved, reported⟩ | unlisted
      · have own := (honest.reports resolved).resolve_left reported
        rw [← own] at listed
        exact (gone row was).2 ref resolved reported listed
      · exact unlisted ⟨row, was, steps.lists listed⟩
    · intro a h v member honest before unlisted after
      exact unlisted (listed_step honest before (notAgain _ member) after)
    · rintro v t other unlisted ⟨row, found, listed⟩
      have was := other.named.symm.trans found
      exact unlisted ⟨row, was, (other.lists was).mp listed⟩
  · rintro (closed | ⟨q, member, closes⟩)
    · apply closed_since run
      rintro a v rfl honest before after
      exact closed (anyHost_step honest before after)
    · exact closed_of_closes run member closes

end

/-- A node unpublished with its NQN known stays out. -/
theorem withdrawn_stays_out_reported : ¬Listed sampleSetting mixedCluster.three.after "worker-1" ∧
    ¬AnyHost sampleSetting mixedCluster.three.after := by
  have closing : Closes mixedCluster.one := ⟨by decide +kernel, _, _, rfl, _, rfl, by decide⟩
  have out : Withdraws sampleSetting mixedCluster.two "worker-1" :=
    ⟨by decide +kernel, "worker-1", rfl, by decide +kernel⟩
  obtain ⟨-, listed, closed⟩ := @withdrawn_stays_out _ [mixedCluster.three] [mixedCluster.one] _ _ _
    mixedCluster_run out (by
      intro q member m capability asked
      obtain rfl := List.mem_singleton.mp member
      cases asked
      decide)
  exact ⟨listed (.inl ⟨_, rfl, by decide⟩), closed (.inr ⟨_, by simp, closing⟩)⟩

def plainCluster : Trio where
  first := request ["worker-1"] [] (publishTo "worker-1")
  second := request ["worker-1"] [] (.unpublish "worker-1")
  third := request ["worker-2"] [] (publishTo "worker-2")

def lostNode : Trio where
  first := request ["worker-1"] ["worker-1"] (publishTo "worker-1")
  second := request ["worker-2"] ["worker-2"] (.unpublish "worker-1")
  third := request ["worker-2"] ["worker-2"] (publishTo "worker-2")

/-- A node may connect again. -/
theorem withdrawn_admitted_again :
    (∃ h w, Run sampleSetting h w ∧ h = [plainCluster.three, plainCluster.two, plainCluster.one] ∧
      Withdraws sampleSetting plainCluster.two "worker-1" ∧ Bound sampleSetting w ∧
      AnyHost sampleSetting w) ∧
    ∃ h w, Run sampleSetting h w ∧ h = [lostNode.three, lostNode.two, lostNode.one] ∧
      Withdraws sampleSetting lostNode.two "worker-1" ∧ Bound sampleSetting w ∧
      Listed sampleSetting w "worker-1" := by
  constructor
  · refine ⟨_, _, Trio.run request_honest request_honest request_honest, rfl, ?_⟩
    exact ⟨⟨by decide +kernel, "worker-1", rfl, by decide +kernel⟩, by decide +kernel⟩
  · refine ⟨_, _, Trio.run request_honest request_honest request_honest, rfl, ?_⟩
    exact ⟨⟨by decide +kernel, "worker-1", rfl, by decide +kernel⟩, by decide +kernel⟩

end TruenasCsi.Subsystems
