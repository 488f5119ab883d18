import TruenasCsi.Fencing.Atomic

/-! Runs of publishes and unpublishes of one volume. -/

namespace TruenasCsi.Fencing

open Backend Csi

/-- A volume as its handle names it. -/
structure Subject where
  handle : String
  id : Volume.ID
  protocol : Protocol
  parsed : Volume.parseID handle = .ok id
  known : Protocol.factoryFor id.protocol = some protocol

/-- A request about the volume. -/
inductive Request where
  | publish (node : String) (capability : VolumeCapability)
  | unpublish (node : String)

/-- A request, its controller and its calls. -/
structure Attempt where
  controller : Controller
  request : Request
  faults : List Fault := []

variable (s : Subject) (a : Attempt) (w : World)

/-- One RPC on one world: whether it succeeded, and the world after it. -/
def Attempt.perform : Bool × World :=
  match a.request with
  | .publish node capability =>
    let ended := M.run (a.controller.controllerPublishVolume ⟨s.handle, node, some capability⟩)
      a.faults w
    (ended.1.isOk, ended.2)
  | .unpublish node =>
    let ended := M.run (a.controller.controllerUnpublishVolume ⟨s.handle, node⟩) a.faults w
    (ended.1.isOk, ended.2)

/-- An attempt with the worlds around it. -/
structure Occurrence where
  attempt : Attempt
  before : World
  ok : Bool
  after : World

def Attempt.occurrence : Occurrence :=
  ⟨a, w, (a.perform s w).1, (a.perform s w).2⟩

/-- A run with its history of `allowed` attempts. -/
inductive Run (s : Subject) (allowed : List Occurrence → Attempt → World → Prop) :
    List Occurrence → World → Prop where
  | start {w : World} (clean : Clean s.protocol s.id w) : Run s allowed [] w
  | call {h : List Occurrence} {w : World} (a : Attempt) (run : Run s allowed h w)
      (may : allowed h a w) : Run s allowed (a.occurrence s w :: h) (a.perform s w).2
  | undisturbed {h : List Occurrence} {w t : World} (run : Run s allowed h w)
      (fence : view s.protocol s.id t = view s.protocol s.id w) (clean : Clean s.protocol s.id t) :
      Run s allowed h t

section

variable {s : Subject} {allowed : List Occurrence → Attempt → World → Prop} {h : List Occurrence}
  {w : World} {a : Attempt} {o : Occurrence} {node : String}

/-- A publish is a step of the fence, and so is an unpublish. -/
theorem publish_outcome {capability : VolumeCapability}
    (request : a.request = .publish node capability) (clean : Clean s.protocol s.id w) :
    PublishOutcome a.controller s.protocol s.id node capability.accessMode w
      (a.perform s w).1 (a.perform s w).2 := by
  unfold Attempt.perform
  rw [request]
  exact Prog.wp_iff_run.mp (wp_controllerPublishVolume s.parsed s.known clean capability) a.faults

theorem unpublish_outcome (request : a.request = .unpublish node)
    (clean : Clean s.protocol s.id w) :
    UnpublishOutcome a.controller s.protocol s.id node w (a.perform s w).1 (a.perform s w).2 := by
  unfold Attempt.perform
  rw [request]
  exact Prog.wp_iff_run.mp (wp_controllerUnpublishVolume s.parsed s.known clean) a.faults

theorem perform_clean (a : Attempt) (clean : Clean s.protocol s.id w) :
    Clean s.protocol s.id (a.perform s w).2 := by
  cases request : a.request with
  | publish node capability => exact (publish_outcome request clean).1
  | unpublish node => exact (unpublish_outcome request clean).1

/-- Shares stay clean along a run. -/
theorem Run.clean (run : Run s allowed h w) : Clean s.protocol s.id w := by
  induction run with
  | start clean => exact clean
  | call a run may ih => exact perform_clean a ih
  | undisturbed run fence clean ih => exact clean

theorem Run.mono {more : List Occurrence → Attempt → World → Prop}
    (weaker : ∀ h a w, allowed h a w → more h a w) (run : Run s allowed h w) : Run s more h w := by
  induction run with
  | start clean => exact .start clean
  | call a run may ih => exact .call a ih (weaker _ _ _ may)
  | undisturbed run fence clean ih => exact .undisturbed ih fence clean

/-- Invariant rule over allowed attempts. -/
theorem Run.invariant {I : List Occurrence → Fence.State String String → Prop}
    (initial : ∀ w, I [] (view s.protocol s.id w))
    (step : ∀ h a w, allowed h a w → Clean s.protocol s.id w → I h (view s.protocol s.id w) →
      I (a.occurrence s w :: h) (view s.protocol s.id (a.perform s w).2))
    (run : Run s allowed h w) : I h (view s.protocol s.id w) := by
  induction run with
  | start clean => exact initial _
  | call a run may ih => exact step _ a _ may run.clean ih
  | undisturbed run fence clean ih =>
    rw [fence]
    exact ih

theorem Run.last (run : Run s allowed (o :: h) w) :
    ∃ a v, o = a.occurrence s v ∧ Run s allowed h v ∧ allowed h a v ∧
      view s.protocol s.id w = view s.protocol s.id (a.perform s v).2 := by
  generalize history : o :: h = full at run
  induction run with
  | start clean => cases history
  | call a run may ih =>
    cases history
    exact ⟨a, _, rfl, run, may, rfl⟩
  | undisturbed run fence clean ih =>
    obtain ⟨a, v, same, before, may, reached⟩ := ih history
    exact ⟨a, v, same, before, may, fence.trans reached⟩

theorem Run.unpublished (run : Run s allowed (o :: h) w)
    (request : o.attempt.request = .unpublish node) (ok : o.ok = true) :
    ∃ v, Run s allowed h v ∧ allowed h o.attempt v ∧
      (view s.protocol s.id w).ledger =
        Fence.struck (view s.protocol s.id v).ledger (withdrawn s.id node v) := by
  obtain ⟨a, v, rfl, before, may, fence⟩ := run.last
  refine ⟨v, before, may, ?_⟩
  have step : Fence.Withdrawal (view s.protocol s.id v) (withdrawn s.id node v)
      (takenFrom a.controller s.protocol s.id v) (a.perform s v).1
      (view s.protocol s.id (a.perform s v).2) := (unpublish_outcome request before.clean).2
  rw [show (a.perform s v).1 = true from ok, ← fence] at step
  exact step.ledger

end

/-- The addresses that a publish of the node is to put on the share. -/
def Occurrence.granted (s : Subject) (o : Occurrence) (node : String) : Set String :=
  match o.attempt.controller.nodes.resolve node with
  | .ok ref => addresses s.protocol (grantedTo s.protocol s.id o.before ref)
  | .error _ => ∅

/-- What each node was given and still has. -/
def held (s : Subject) : List Occurrence → String → Set String
  | [] => fun _ => ∅
  | o :: h =>
    match o.attempt.request with
    | .publish node _ => if o.ok then Function.update (held s h) node (o.granted s node) else held s h
    | .unpublish node => fun m => held s h m \
        Fence.taken (takenFrom o.attempt.controller s.protocol s.id o.before)
          (withdrawn s.id node o.before)

section

variable {s : Subject} {h : List Occurrence} {w : World} {o : Occurrence} {node : String}

theorem held_publish {capability : VolumeCapability}
    (request : o.attempt.request = .publish node capability) : held s (o :: h) =
      if o.ok then Function.update (held s h) node (o.granted s node) else held s h := by
  rw [held, request]

theorem held_unpublish (request : o.attempt.request = .unpublish node) :
    held s (o :: h) = fun m => held s h m \
      Fence.taken (takenFrom o.attempt.controller s.protocol s.id o.before)
        (withdrawn s.id node o.before) := by
  rw [held, request]

/-- One request keeps what each node was granted and not taken. -/
theorem kept_step (a : Attempt) (clean : Clean s.protocol s.id w)
    (kept : Fence.Kept (view s.protocol s.id w) (held s h)) :
    Fence.Kept (view s.protocol s.id (a.perform s w).2) (held s (a.occurrence s w :: h)) := by
  cases request : a.request with
  | publish node capability =>
    have outcome := publish_outcome request clean
    rw [held_publish (o := a.occurrence s w) request]
    rcases outcome.2 with ⟨failed, same⟩ | ⟨ref, resolved, -, granting⟩
    · have fence : view s.protocol s.id (a.perform s w).2 = view s.protocol s.id w :=
        view_congr (by rw [same])
      rw [fence, if_neg (show ¬(a.occurrence s w).ok = true by simp [Attempt.occurrence, failed])]
      exact kept
    · obtain ⟨still, granted⟩ := kept.granting granting
      split_ifs with ok
      · intro m
        by_cases same : m = node
        · subst same
          rw [Function.update_self]
          simp only [Occurrence.granted, Attempt.occurrence, resolved]
          exact granted ok
        · rw [Function.update_of_ne same]
          exact still m
      · exact still
  | unpublish node =>
    have outcome := unpublish_outcome request clean
    rw [held_unpublish (o := a.occurrence s w) request]
    exact kept.withdrawal outcome.2

/-- Held addresses stay on the share, in every run. -/
theorem run_kept {allowed : List Occurrence → Attempt → World → Prop} (run : Run s allowed h w) :
    Fence.Kept (view s.protocol s.id w) (held s h) := by
  refine Run.invariant (I := fun h fence => Fence.Kept fence (held s h)) ?_ ?_ run
  · intro w m a none
    exact none.elim
  · intro h a w _ clean kept
    exact kept_step a clean kept

end

end TruenasCsi.Fencing
