import TruenasCsi.Fencing.Parts
import TruenasCsi.Fencing.Runs
import TruenasCsi.Subsystems.Calls

/-! Any sequence of publishes and unpublishes of an NVMe volume, with any failures. -/

namespace TruenasCsi.Subsystems

open Appliance
open Appliance.Nvmet (Serves Lists Registered Grants Revokes)
open Backend.Nvme
open Csi (Controller)
open Fencing Prog Backend

/-- An NVMe volume and what is fixed around it. -/
structure Setting extends Subject where
  nvme : protocol = .nvme
  sha256 : String → String
  nqnOf : String → String

namespace Setting

variable (s : Setting)

def name : String := subsystemName s.sha256 s.id

def tables (w : World) : Nvmet := (w.appliance s.id.backend).nvmet

/-- The dataset of the volume exists. -/
def Present (w : World) : Prop := datasetsThere (w.appliance s.id.backend) s.id.datasetPath = true

end Setting

/-- The volume's names, and a node's own NQN or none. -/
structure Honest (s : Setting) (a : Attempt) : Prop where
  digest : a.controller.reg.env.sha256 = s.sha256
  reports : ∀ {node ref}, a.controller.nodes.resolve node = .ok ref →
    ref.nqn = "" ∨ ref.nqn = s.nqnOf node

/-- A change elsewhere. -/
structure Elsewhere (s : Setting) (w t : World) : Prop where
  present : s.Present w → s.Present t
  registered : Registered (s.tables w) → Registered (s.tables t)
  named : (s.tables t).named s.name = (s.tables w).named s.name
  serves : ∀ {row}, (s.tables w).named s.name = some row →
    (Serves (s.tables t) row.id ↔ Serves (s.tables w) row.id)
  lists : ∀ {row nqn}, (s.tables w).named s.name = some row →
    (Lists (s.tables t) row.id nqn ↔ Lists (s.tables w) row.id nqn)

inductive Run (s : Setting) : List Occurrence → World → Prop where
  | start {w : World} (present : s.Present w) (registered : Registered (s.tables w)) : Run s [] w
  | call {h : List Occurrence} {w : World} (a : Attempt) (run : Run s h w) (honest : Honest s a) :
      Run s (a.occurrence s.toSubject w :: h) (a.perform s.toSubject w).2
  | elsewhere {h : List Occurrence} {w t : World} (run : Run s h w) (other : Elsewhere s w t) :
      Run s h t

section

variable {s : Setting} {a : Attempt} {w : World} {b : Config} {node : String} {t : World}

theorem apart_nvmet : Apart State.nvmet := fun _ _ _ _ => rfl

theorem factoryFor_nvme (s : Setting) : Protocol.factoryFor s.id.protocol = some .nvme := by
  rw [s.known, s.nvme]

/-- What a publish has done by the end. -/
def PublishEnd (s : Setting) (t : Nvmet) (ref : NodeRef) (ok : Bool) (u : Nvmet) : Prop :=
  ok = false ∧ u = t ∨ ∃ row, t.named s.name = some row ∧ Published s.name row.id ref.nqn t ok u

theorem wp_publish_backend {ref : NodeRef}
    (honest : Honest s a) (same : t.appliance = w.appliance) :
    M.wp ((handleOf a.controller .nvme s.id b).publish s.id ref) (fun r u =>
      PublishEnd s (s.tables w) ref r.isOk (u.appliance s.id.backend).nvmet) t := by
  have before : s.tables t = s.tables w := by
    unfold Setting.tables
    rw [same]
  have spec : M.wp (publish (handleOf a.controller .nvme s.id b).server s.id ref) _ t := wp_publish
  refine wp_mono spec ?_
  rintro r u (⟨unchanged, refused⟩ | ⟨row, found, published⟩)
  · exact .inl ⟨refused, unchanged.trans before⟩
  · right
    rw [← before, Setting.name, ← honest.digest]
    exact ⟨row, found, published⟩

/-- A publish writes nothing or takes `Grants` steps, -/
theorem publish_step {capability : Csi.VolumeCapability}
    (request : a.request = .publish node capability) (honest : Honest s a) :
    (a.perform s.toSubject w).1 = false ∧ s.tables (a.perform s.toSubject w).2 = s.tables w ∨
    ∃ ref, a.controller.nodes.resolve node = .ok ref ∧
      ∃ row, (s.tables w).named s.name = some row ∧
        Published s.name row.id ref.nqn (s.tables w) (a.perform s.toSubject w).1
          (s.tables (a.perform s.toSubject w).2) := by
  have spec : M.wp (a.controller.controllerPublishVolume ⟨s.handle, node, some capability⟩) _ w :=
    wp_publishing_part apart_nvmet s.parsed (factoryFor_nvme s)
      (fun b ref t _ same => wp_publish_backend honest same) ?_ capability
  · have ended := wp_iff_run.mp spec a.faults
    unfold Attempt.perform
    rw [request]
    rcases ended with refused | ⟨ref, resolved, refused | ⟨row, found, published⟩⟩
    · exact .inl refused
    · exact .inl refused
    · exact .inr ⟨ref, resolved, row, found, published⟩
  · rintro ref t (⟨wrong, -⟩ | ⟨row, found, published⟩)
    · cases wrong
    · exact .inr ⟨row, found, published.grants, nofun, nofun⟩

/-- A node is off the subsystem. -/
def Off (s : Setting) (c : Controller) (t : Nvmet) (node : String) (u : Nvmet) : Prop :=
  ∀ row, t.named s.name = some row → ¬Serves u row.id ∧
    ∀ ref, c.nodes.resolve node = .ok ref → ref.nqn ≠ "" → ¬Lists u row.id ref.nqn

theorem wp_unpublish_backend {g : Volume.Grants} {m : String}
    (honest : Honest s a) (registered : Registered (s.tables w))
    (steps : Revokes (s.tables w) (s.tables t)) :
    M.wp ((handleOf a.controller .nvme s.id b).unpublish s.id (a.controller.revoked g m))
      (fun r u => Revokes (s.tables t) (s.tables u) ∧
        (r = .ok () → Off s a.controller (s.tables w) m (s.tables u))) t := by
  have spec : M.wp (unpublish (handleOf a.controller .nvme s.id b).server s.id
    (a.controller.revoked g m)) _ t := wp_unpublish
  refine wp_mono spec ?_
  rintro r u ⟨more, done⟩
  refine ⟨more, fun ok row found => ?_⟩
  have here : subsystemOf (handleOf a.controller .nvme s.id b).server s.id t = some row := by
    have still : (s.tables t).named s.name = some row := steps.named.trans found
    rw [Setting.name, ← honest.digest] at still
    exact still
  obtain ⟨unbound, withdrawn⟩ := done ok row here
  refine ⟨unbound, fun ref resolved reported => ?_⟩
  have own : (a.controller.revoked g m).nqn = ref.nqn := by
    simp only [Controller.revoked, resolved]
  rw [own] at withdrawn
  exact withdrawn (steps.registered registered) reported

/-- and an unpublish takes `Revokes` steps. -/
theorem unpublish_step (request : a.request = .unpublish node) (honest : Honest s a)
    (present : s.Present w) (registered : Registered (s.tables w)) :
    Revokes (s.tables w) (s.tables (a.perform s.toSubject w).2) ∧
    ((a.perform s.toSubject w).1 = true ∨
        ledgerOf s.id (a.perform s.toSubject w).2 ≠ ledgerOf s.id w →
      ∀ m ∈ Controller.targets node (ledgerOf s.id w),
        Off s a.controller (s.tables w) m (s.tables (a.perform s.toSubject w).2)) := by
  have spec : M.wp (a.controller.controllerUnpublishVolume ⟨s.handle, node⟩) _ w :=
    wp_unpublishing_part apart_nvmet s.parsed (factoryFor_nvme s)
      (R := Revokes) (P := Off s a.controller (s.tables w)) (fun _ => .refl)
      (fun first second => first.trans second) ?_
      (fun b g m t _ steps => wp_unpublish_backend honest registered steps)
  · have ended := wp_iff_run.mp spec a.faults
    unfold Attempt.perform
    rw [request]
    refine ⟨ended.1, fun done => (ended.2 done).resolve_left ?_⟩
    obtain ⟨ds, there⟩ := there_iff.mp present
    intro gone
    rw [datasetOf, there] at gone
    cases gone
  · intro m x y steps off row found
    obtain ⟨unbound, withdrawn⟩ := off row found
    refine ⟨fun served => unbound (steps.serves served), fun ref resolved reported listed => ?_⟩
    exact withdrawn ref resolved reported (steps.lists listed)

theorem present_step (present : s.Present w) : s.Present (a.perform s.toSubject w).2 := by
  unfold Setting.Present Attempt.perform at *
  cases request : a.request with
  | publish node capability =>
    have kept : M.wp (a.controller.controllerPublishVolume ⟨s.handle, node, some capability⟩) _ w :=
      wp_publish_datasets s.parsed s.known capability
    exact (congrFun (wp_iff_run.mp kept a.faults) _).trans present
  | unpublish node =>
    have kept : M.wp (a.controller.controllerUnpublishVolume ⟨s.handle, node⟩) _ w :=
      wp_unpublish_datasets s.parsed s.known
    exact (congrFun (wp_iff_run.mp kept a.faults) _).trans present

theorem registered_step (honest : Honest s a) (present : s.Present w)
    (registered : Registered (s.tables w)) : Registered (s.tables (a.perform s.toSubject w).2) := by
  cases request : a.request with
  | publish node capability =>
    rcases publish_step request honest with ⟨-, same⟩ | ⟨ref, -, row, -, published⟩
    · rw [same]
      exact registered
    · exact published.grants.registered registered
  | unpublish node =>
    exact (unpublish_step request honest present registered).1.registered registered

end

section

variable {s : Setting} {h : List Occurrence} {w : World} {o : Occurrence}

/-- Along a run the dataset exists and the hosts are in order. -/
theorem Run.sound (run : Run s h w) : s.Present w ∧ Registered (s.tables w) := by
  induction run with
  | start present registered => exact ⟨present, registered⟩
  | call a run honest ih => exact ⟨present_step ih.1, registered_step honest ih.1 ih.2⟩
  | elsewhere run other ih => exact ⟨other.present ih.1, other.registered ih.2⟩

theorem Run.occurred (run : Run s h w) (member : o ∈ h) :
    ∃ earlier a v, Run s earlier v ∧ Honest s a ∧ o = a.occurrence s.toSubject v := by
  induction run with
  | start present registered => cases member
  | call a run honest ih =>
    rcases List.mem_cons.mp member with rfl | before
    · exact ⟨_, a, _, run, honest, rfl⟩
    · exact ih before
  | elsewhere run other ih => exact ih member

/-- Invariant rule from an occurrence on. -/
theorem Run.since {later earlier : List Occurrence} {I : World → Prop}
    (run : Run s (later ++ o :: earlier) w)
    (first : ∀ a v, o = a.occurrence s.toSubject v → Honest s a → Run s earlier v →
      I (a.perform s.toSubject v).2)
    (step : ∀ a h v, a.occurrence s.toSubject v ∈ later → Honest s a → Run s h v → I v →
      I (a.perform s.toSubject v).2)
    (elsewhere : ∀ v t, Elsewhere s v t → I v → I t) : I w := by
  generalize history : later ++ o :: earlier = h at run
  induction run generalizing later with
  | start present registered =>
    have empty := congrArg List.length history
    simp at empty
  | call a run honest ih =>
    cases later with
    | nil =>
      obtain ⟨rfl, rfl⟩ := List.cons.inj history
      exact first a _ rfl honest run
    | cons q rest =>
      obtain ⟨rfl, rfl⟩ := List.cons.inj history
      refine step a _ _ List.mem_cons_self honest run (@ih rest ?_ rfl)
      intro a h v member
      exact step a h v (List.mem_cons_of_mem _ member)
  | elsewhere run other ih => exact elsewhere _ _ other (ih step history)

end

end TruenasCsi.Subsystems
