import TruenasCsi.Migration.Runs

/-!
# What a reported success is worth

## Main result

`success_means_migrated`: in an orderly history every report of success is true.

## Proof strategy

An invariant on the chronicle (`Sound`): the claims of a job are bound to the volumes it was created for.
Jobs are named after claims, so it is lost when a claim is made anew under its name, which `Orderly`
excludes.
-/

namespace TruenasCsi.Migration

open Prog

/-- A cluster with its history. -/
structure Chronicle where
  world : World
  /-- The plans handed out so far. -/
  plans : List Plan := []
  /-- The volumes each Job was created for. -/
  origin : Nat → Option (Volume × Volume) := fun _ => none

inductive Event where
  | plan (m : Migrator) (r : Request) (faults : List Fault)
  | run (p : Plan) (faults : List Fault)
  /-- A pod starts with what its claims are bound to. -/
  | start (uid created : Nat)
  /-- The script of a pod comes to its end. -/
  | finish (index bytes : Nat)
  /-- The Job controller settles a Job. -/
  | settle (uid : Nat) (how : JobCondition)
  | deleteJob (uid : Nat)
  | deletePods (gone : Pod → Bool)
  /-- Claims and volumes change in any way. -/
  | meanwhile (claims : List Claim) (volumes : List PersistentVolume) (classes : List StorageClass)
      (storage : Appliance.Storage) (files : Volume → Files)

def Plan.volumePair (p : Plan) : Volume × Volume := (p.source.volume, p.target.volume)

variable (w : World) (number : String)

def World.mounts (spec : JobSpec) : Option (Volume × Volume) := do
  let source ← w.resolve spec.ns (← spec.claimAt sourceMountPath)
  let target ← w.resolve spec.ns (← spec.claimAt targetMountPath)
  return (source, target)

def ended (sha256 : String → String) (files : Volume → Files) (bytes : Nat) (pod : Pod) : Pod :=
  if pod.phase ≠ .running then pod
  else
    let summary := compareVolumes sha256 (files pod.source) (files pod.target) bytes
    { pod with
      phase := if summary.verified then .succeeded else .failed
      containerStatuses := [{ name := containerName, terminated := some summary.text }] }

def settled (pods : List Pod) (how : JobCondition) (job : Job) : Job :=
  match how with
  | .complete =>
    if pods.any (fun pod => pod.owner == job.uid && pod.phase == .succeeded) then
      { job with conditions := (.complete, true) :: job.conditions }
    else job
  | .failed => { job with failed := job.failed + 1, conditions := (.failed, true) :: job.conditions }
  | .suspended => { job with conditions := (.suspended, true) :: job.conditions }

namespace Chronicle

variable (sha256 : String → String)

variable (s : Chronicle)

def planned (m : Migrator) (r : Request) (faults : List Fault) : Chronicle :=
  { s with
    world := (G.run (m.plan r) faults s.world).2
    plans := (G.run (m.plan r) faults s.world).1.toOption.toList ++ s.plans }

/-- A run adds no Job but one for the plan's volumes. -/
def ran (p : Plan) (faults : List Fault) : Chronicle :=
  let after := (G.run (Migration.run (some p)) faults s.world).2
  { s with
    world := after
    origin := if after.nextUid = s.world.nextUid then s.origin
      else Function.update s.origin s.world.nextUid (some p.volumePair) }

def started (uid created : Nat) : Chronicle :=
  match s.world.jobs.find? (·.uid == uid) with
  | none => s
  | some job =>
    if finished job .complete ∨ finished job .failed then s
    else
      match s.world.mounts job.spec with
      | none => s
      | some (source, target) =>
        { s with world := { s.world with pods := s.world.pods ++
            [{ ns := job.spec.ns, jobName := job.spec.name, owner := uid, created, source, target }] } }

def next : Event → Chronicle
  | .plan m r faults => s.planned m r faults
  | .run p faults => if p ∈ s.plans then s.ran p faults else s
  | .start uid created => s.started uid created
  | .finish index bytes =>
    { s with world := { s.world with
        pods := s.world.pods.modify index (ended sha256 s.world.files bytes) } }
  | .settle uid how =>
    { s with world := { s.world with jobs := s.world.jobs.map fun job =>
        if job.uid = uid then settled s.world.pods how job else job } }
  | .deleteJob uid =>
    { s with world := { s.world with jobs := s.world.jobs.filter (·.uid ≠ uid) } }
  | .deletePods gone => { s with world := { s.world with pods := s.world.pods.filter (!gone ·) } }
  | .meanwhile claims volumes classes storage files =>
    { s with world := { s.world with claims, volumes, classes, storage, files } }

def after (events : List Event) : Chronicle := events.foldl (next sha256) s

def start : Chronicle := { world := { w with jobs := [], pods := [] } }

end Chronicle

/-- The reported migration has taken place. -/
structure Happened (s : Chronicle) (p : Plan) (rep : Report) (job : Job) (pod : Pod) : Prop where
  rests : RestsOn p rep s.world job pod
  origin : s.origin job.uid = some p.volumePair
  owner : pod.owner = job.uid
  mounted : (pod.source, pod.target) = p.volumePair

/-- If the run reports success, a job copied this plan's source volume to its target volume. -/
def Truthful (s : Chronicle) (p : Plan) (faults : List Fault) : Prop :=
  ∀ rep, (G.run (run (some p)) faults s.world).1 = .ok rep → rep.phase = .succeeded →
    ∃ job pod, Happened (s.ran p faults) p rep job pod

def Honest (sha256 : String → String) : Chronicle → List Event → Prop
  | _, [] => True
  | s, e :: rest =>
    (∀ p faults, e = .run p faults → p ∈ s.plans → Truthful s p faults) ∧
      Honest sha256 (s.next sha256 e) rest

/-- Claims, Job and pods are of the plan's volumes. -/
structure Current (p : Plan) (w : World) : Prop where
  source : w.resolve p.ns p.source.claim = some p.source.volume
  target : w.resolve p.ns p.target.claim = some p.target.volume
  same : ∀ job ∈ w.job? p.ns p.jobName,
    job.spec.claimAt sourceMountPath = some p.source.claim ∧
      job.spec.claimAt targetMountPath = some p.target.claim
  alone : w.job? p.ns p.jobName = none → w.podsOf p.ns p.jobName = []

instance (p : Plan) (w : World) : Decidable (Current p w) :=
  decidable_of_iff (w.resolve p.ns p.source.claim = some p.source.volume ∧
      w.resolve p.ns p.target.claim = some p.target.volume ∧
      (∀ job ∈ w.job? p.ns p.jobName, job.spec.claimAt sourceMountPath = some p.source.claim ∧
        job.spec.claimAt targetMountPath = some p.target.claim) ∧
      (w.job? p.ns p.jobName = none → w.podsOf p.ns p.jobName = []))
    ⟨fun ⟨source, target, same, alone⟩ => ⟨source, target, same, alone⟩,
      fun current => ⟨current.source, current.target, current.same, current.alone⟩⟩

/-- Plans are run while current. -/
def OrderlyStep (s : Chronicle) : Event → Prop
  | .run p _ => p ∈ s.plans → Current p s.world
  | .meanwhile claims volumes _ _ _ => ∀ job ∈ s.world.jobs,
      ({ s.world with claims, volumes } : World).mounts job.spec = s.world.mounts job.spec
  | _ => True

instance (s : Chronicle) : (e : Event) → Decidable (OrderlyStep s e)
  | .run p _ => inferInstanceAs (Decidable (p ∈ s.plans → Current p s.world))
  | .meanwhile claims volumes _ _ _ => inferInstanceAs (Decidable (∀ job ∈ s.world.jobs,
      ({ s.world with claims, volumes } : World).mounts job.spec = s.world.mounts job.spec))
  | .plan _ _ _ | .start _ _ | .finish _ _ | .settle _ _ | .deleteJob _ | .deletePods _ =>
    isTrue trivial

def Orderly (sha256 : String → String) : Chronicle → List Event → Prop
  | _, [] => True
  | s, e :: rest => OrderlyStep s e ∧ Orderly sha256 (s.next sha256 e) rest

instance (sha256 : String → String) : (s : Chronicle) → (events : List Event) →
    Decidable (Orderly sha256 s events)
  | _, [] => isTrue trivial
  | s, e :: rest =>
    have := instDecidableOrderly sha256 (s.next sha256 e) rest
    inferInstanceAs (Decidable (OrderlyStep s e ∧ Orderly sha256 (s.next sha256 e) rest))

/-- Jobs and pods are about their volumes. -/
structure Sound (s : Chronicle) : Prop where
  plans : ∀ p ∈ s.plans, p.job = some (buildJob p)
  below : ∀ job ∈ s.world.jobs, job.uid < s.world.nextUid
  uids : ∀ job ∈ s.world.jobs, ∀ other ∈ s.world.jobs, job.uid = other.uid → job.spec = other.spec
  names : ∀ job ∈ s.world.jobs, ∀ other ∈ s.world.jobs, job.spec.ns = other.spec.ns →
    job.spec.name = other.spec.name → job.uid = other.uid
  -- The claims of a Job are bound to the volumes it was created for.
  origin : ∀ job ∈ s.world.jobs, ∃ pair, s.world.mounts job.spec = some pair ∧
    s.origin job.uid = some pair
  -- A pod that carries the name of a Job is its pod and mounts those volumes.
  pods : ∀ job ∈ s.world.jobs, ∀ pod ∈ s.world.pods, pod.ns = job.spec.ns →
    pod.jobName = job.spec.name →
      pod.owner = job.uid ∧ s.origin job.uid = some (pod.source, pod.target)

theorem sound_start : Sound (Chronicle.start w) where
  plans _ handed := absurd handed List.not_mem_nil
  below _ stored := absurd stored List.not_mem_nil
  uids _ stored := absurd stored List.not_mem_nil
  names _ stored := absurd stored List.not_mem_nil
  origin _ stored := absurd stored List.not_mem_nil
  pods _ stored := absurd stored List.not_mem_nil

theorem Sound.weaken {s t : Chronicle} (sound : Sound s) (plans : t.plans = s.plans)
    (origin : t.origin = s.origin) (uid : t.world.nextUid = s.world.nextUid)
    (jobs : ∀ job ∈ t.world.jobs, ∃ old ∈ s.world.jobs, old.uid = job.uid ∧ old.spec = job.spec)
    (pods : ∀ pod ∈ t.world.pods, ∃ old ∈ s.world.pods, old.ns = pod.ns ∧
      old.jobName = pod.jobName ∧ old.owner = pod.owner ∧ old.source = pod.source ∧
      old.target = pod.target)
    (mounts : ∀ job ∈ s.world.jobs, t.world.mounts job.spec = s.world.mounts job.spec) : Sound t where
  plans := plans ▸ sound.plans
  below := by
    intro job stored
    obtain ⟨old, held, same, -⟩ := jobs job stored
    rw [uid, ← same]
    exact sound.below old held
  uids := by
    intro job stored other stored' equal
    obtain ⟨old, held, same, spec⟩ := jobs job stored
    obtain ⟨old', held', same', spec'⟩ := jobs other stored'
    rw [← spec, ← spec']
    exact sound.uids old held old' held' (by rw [same, same', equal])
  names := by
    intro job stored other stored' ns name
    obtain ⟨old, held, same, spec⟩ := jobs job stored
    obtain ⟨old', held', same', spec'⟩ := jobs other stored'
    rw [← same, ← same']
    exact sound.names old held old' held' (by rw [spec, spec', ns]) (by rw [spec, spec', name])
  origin := by
    intro job stored
    obtain ⟨old, held, same, spec⟩ := jobs job stored
    obtain ⟨pair, mounted, made⟩ := sound.origin old held
    exact ⟨pair, by rw [← spec, mounts old held, mounted], by rw [origin, ← same, made]⟩
  pods := by
    intro job stored pod listed ns name
    obtain ⟨old, held, same, spec⟩ := jobs job stored
    obtain ⟨was, there, ns', name', owner, source, target⟩ := pods pod listed
    have known := sound.pods old held was there (by rw [ns', ns, spec]) (by rw [name', name, spec])
    rw [owner, source, target, same] at known
    rw [origin]
    exact known

theorem ended_tag (sha256 : String → String) (files : Volume → Files) (bytes : Nat) (pod : Pod) :
    (ended sha256 files bytes pod).ns = pod.ns ∧ (ended sha256 files bytes pod).jobName = pod.jobName ∧
      (ended sha256 files bytes pod).owner = pod.owner ∧
      (ended sha256 files bytes pod).source = pod.source ∧
      (ended sha256 files bytes pod).target = pod.target := by
  unfold ended
  split_ifs <;> exact ⟨rfl, rfl, rfl, rfl, rfl⟩

theorem settled_tag (pods : List Pod) (how : JobCondition) (job : Job) :
    (settled pods how job).uid = job.uid ∧ (settled pods how job).spec = job.spec := by
  cases how with
  | complete =>
    unfold settled
    split_ifs <;> exact ⟨rfl, rfl⟩
  | failed => exact ⟨rfl, rfl⟩
  | suspended => exact ⟨rfl, rfl⟩

section

variable {s : Chronicle} (sound : Sound s) {p : Plan}

include sound

theorem Sound.planned (m : Migrator) (r : Request) (faults : List Fault) :
    Sound (s.planned m r faults) := by
  have untouched : (G.run (m.plan r) faults s.world).2 = s.world :=
    wp_iff_run.mp (wp_looks (looks_plan m r) s.world) faults
  have handed : ∀ p ∈ (s.planned m r faults).plans, p.job = some (buildJob p) := by
    intro p listed
    rcases List.mem_append.mp listed with made | earlier
    · cases answer : (G.run (m.plan r) faults s.world).1 with
      | error e =>
        rw [answer] at made
        cases made
      | ok q =>
        rw [answer] at made
        obtain rfl : p = q := by simpa [Except.toOption] using made
        exact (yields_run_ok (yields_plan m r s.world) (Prod.ext answer rfl)).2
    · exact sound.plans p earlier
  have same : (s.planned m r faults).world = s.world := untouched
  exact
    { plans := handed
      below := by rw [same]; exact sound.below
      uids := by rw [same]; exact sound.uids
      names := by rw [same]; exact sound.names
      origin := by rw [same]; exact sound.origin
      pods := by rw [same]; exact sound.pods }

theorem Sound.created (current : Current p s.world) (free : s.world.job? p.ns p.jobName = none) :
    Sound { s with
      world := (s.world.createJob (buildJob p)).2
      origin := Function.update s.origin s.world.nextUid (some p.volumePair) } := by
  rw [createJob_of_none (show s.world.job? (buildJob p).ns (buildJob p).name = none from free)]
  have unnamed : ∀ job ∈ s.world.jobs, job.spec.ns = p.ns → job.spec.name = p.jobName → False := by
    intro job stored ns name
    have other := List.find?_eq_none.mp free job stored
    simp [Job.isNamed, ns, name] at other
  have kept : ∀ job ∈ s.world.jobs, Function.update s.origin s.world.nextUid (some p.volumePair)
      job.uid = s.origin job.uid := by
    intro job stored
    exact Function.update_of_ne (Nat.ne_of_lt (sound.below job stored)) _ _
  have bound : s.world.mounts (buildJob p) = some p.volumePair := by
    have source : s.world.resolve (buildJob p).ns p.source.claim = some p.source.volume :=
      current.source
    have target : s.world.resolve (buildJob p).ns p.target.claim = some p.target.volume :=
      current.target
    simp [World.mounts, source, target, Plan.volumePair]
  refine
    { plans := sound.plans
      below := ?_
      uids := ?_
      names := ?_
      origin := ?_
      pods := ?_ }
  · intro job stored
    rcases List.mem_append.mp stored with old | new
    · exact Nat.lt_succ_of_lt (sound.below job old)
    · obtain rfl := List.mem_singleton.mp new
      exact Nat.lt_succ_self _
  · intro job stored other stored' equal
    rcases List.mem_append.mp stored with old | new <;>
      rcases List.mem_append.mp stored' with old' | new'
    · exact sound.uids job old other old' equal
    · obtain rfl := List.mem_singleton.mp new'
      exact absurd equal (Nat.ne_of_lt (sound.below job old))
    · obtain rfl := List.mem_singleton.mp new
      exact absurd equal.symm (Nat.ne_of_lt (sound.below other old'))
    · obtain rfl := List.mem_singleton.mp new
      obtain rfl := List.mem_singleton.mp new'
      rfl
  · intro job stored other stored' ns name
    rcases List.mem_append.mp stored with old | new <;>
      rcases List.mem_append.mp stored' with old' | new'
    · exact sound.names job old other old' ns name
    · obtain rfl := List.mem_singleton.mp new'
      exact (unnamed job old ns name).elim
    · obtain rfl := List.mem_singleton.mp new
      exact (unnamed other old' ns.symm name.symm).elim
    · obtain rfl := List.mem_singleton.mp new
      obtain rfl := List.mem_singleton.mp new'
      rfl
  · intro job stored
    rcases List.mem_append.mp stored with old | new
    · obtain ⟨pair, mounted, made⟩ := sound.origin job old
      exact ⟨pair, mounted, (kept job old).trans made⟩
    · obtain rfl := List.mem_singleton.mp new
      exact ⟨p.volumePair, bound, Function.update_self ..⟩
  · intro job stored pod listed ns name
    rcases List.mem_append.mp stored with old | new
    · obtain ⟨owner, mounted⟩ := sound.pods job old pod listed ns name
      exact ⟨owner, (kept job old).trans mounted⟩
    · -- No pod carries the name before there is a Job of that name.
      obtain rfl := List.mem_singleton.mp new
      have none_left := List.filter_eq_nil_iff.mp (current.alone free) pod listed
      have carries : pod.isOf p.ns p.jobName = true := by
        simp only [Pod.isOf, Bool.and_eq_true, beq_iff_eq]
        exact ⟨ns, name⟩
      exact absurd carries none_left

theorem Sound.ran (listed : p ∈ s.plans) (current : Current p s.world)
    (faults : List Fault) : Sound (s.ran p faults) := by
  have effect : Adds (buildJob p) s.world (G.run (run (some p)) faults s.world).2 :=
    wp_iff_run.mp (wp_run (sound.plans p listed) s.world) faults
  unfold Chronicle.ran
  rcases effect with same | ⟨free, added⟩
  · simp only [same, if_true]
    exact sound
  · have grown : (s.world.createJob (buildJob p)).2.nextUid ≠ s.world.nextUid := by
      rw [createJob_of_none free]
      exact Nat.succ_ne_self _
    simp only [added, if_neg grown]
    exact sound.created current free

theorem Sound.started (uid created : Nat) : Sound (s.started uid created) := by
  unfold Chronicle.started
  split
  · exact sound
  · rename_i job found
    have stored := List.mem_of_find?_eq_some found
    have same : job.uid = uid := by simpa using List.find?_some found
    split_ifs
    · exact sound
    · split
      · exact sound
      · rename_i source target mounted
        refine
          { plans := sound.plans
            below := sound.below
            uids := sound.uids
            names := sound.names
            origin := sound.origin
            pods := ?_ }
        intro other stored' pod listed ns name
        rcases List.mem_append.mp listed with old | new
        · exact sound.pods other stored' pod old ns name
        · obtain rfl := List.mem_singleton.mp new
          have its := sound.names job stored other stored' ns name
          obtain ⟨pair, bound, made⟩ := sound.origin job stored
          rw [mounted] at bound
          cases bound
          exact ⟨same ▸ its, its ▸ made⟩

/-- An orderly step keeps jobs and pods about their volumes. -/
theorem Sound.next (sha256 : String → String) {e : Event} (orderly : OrderlyStep s e) :
    Sound (s.next sha256 e) := by
  have sameJobs : ∀ job ∈ s.world.jobs, ∃ old ∈ s.world.jobs, old.uid = job.uid ∧
      old.spec = job.spec := fun job stored => ⟨job, stored, rfl, rfl⟩
  have samePods : ∀ pod ∈ s.world.pods, ∃ old ∈ s.world.pods, old.ns = pod.ns ∧
      old.jobName = pod.jobName ∧ old.owner = pod.owner ∧ old.source = pod.source ∧
      old.target = pod.target := fun pod listed => ⟨pod, listed, rfl, rfl, rfl, rfl, rfl⟩
  cases e with
  | plan m r faults => exact sound.planned m r faults
  | run p faults =>
    unfold Chronicle.next
    dsimp only
    split_ifs with listed
    · exact sound.ran listed (orderly listed) faults
    · exact sound
  | start uid created => exact sound.started uid created
  | finish index bytes =>
    refine sound.weaken rfl rfl rfl sameJobs ?_ fun _ _ => rfl
    intro pod listed
    obtain ⟨i, bound, here⟩ := List.mem_iff_getElem.mp listed
    have short : i < s.world.pods.length := by simpa [Chronicle.next] using bound
    refine ⟨s.world.pods[i], List.getElem_mem short, ?_⟩
    -- Finishing changes what a pod reports, not whose it is.
    have value : pod = s.world.pods[i] ∨ pod = ended sha256 s.world.files bytes s.world.pods[i] := by
      rw [← here]
      simp only [Chronicle.next, List.getElem_modify]
      split_ifs
      · exact .inr rfl
      · exact .inl rfl
    rcases value with rfl | rfl
    · exact ⟨rfl, rfl, rfl, rfl, rfl⟩
    · obtain ⟨ns, name, owner, source, target⟩ := ended_tag sha256 s.world.files bytes s.world.pods[i]
      exact ⟨ns.symm, name.symm, owner.symm, source.symm, target.symm⟩
  | settle uid how =>
    refine sound.weaken rfl rfl rfl ?_ samePods fun _ _ => rfl
    intro job stored
    obtain ⟨old, held, rfl⟩ := List.mem_map.mp stored
    refine ⟨old, held, ?_⟩
    split_ifs
    · obtain ⟨uids, specs⟩ := settled_tag s.world.pods how old
      exact ⟨uids.symm, specs.symm⟩
    · exact ⟨rfl, rfl⟩
  | deleteJob uid =>
    refine sound.weaken rfl rfl rfl ?_ samePods fun _ _ => rfl
    exact fun job stored => ⟨job, List.mem_of_mem_filter stored, rfl, rfl⟩
  | deletePods gone =>
    refine sound.weaken rfl rfl rfl sameJobs ?_ fun _ _ => rfl
    exact fun pod listed => ⟨pod, List.mem_of_mem_filter listed, rfl, rfl, rfl, rfl, rfl⟩
  | meanwhile claims volumes classes storage files =>
    -- The one step that can rebind a claim; `Orderly` keeps the mounts of jobs.
    exact sound.weaken rfl rfl rfl sameJobs samePods orderly

end

theorem mem_of_newestSucceeded {best pod : Option Pod} {pods : List Pod}
    (newest : newestSucceeded best pods = pod) : pod = best ∨ ∃ p ∈ pods, pod = some p := by
  induction pods generalizing best with
  | nil => exact .inl newest.symm
  | cons first rest ih =>
    have later : ∀ {b : Option Pod}, newestSucceeded b rest = pod → b = best ∨ b = some first →
        pod = best ∨ ∃ p ∈ first :: rest, pod = some p := by
      intro b found origin
      rcases ih found with rfl | ⟨p, listed, rfl⟩
      · rcases origin with rfl | rfl
        · exact .inl rfl
        · exact .inr ⟨first, List.mem_cons_self, rfl⟩
      · exact .inr ⟨p, List.mem_cons_of_mem _ listed, rfl⟩
    unfold newestSucceeded at newest
    split_ifs at newest with other
    · exact later newest (.inl rfl)
    · cases best with
      | none => exact later newest (.inr rfl)
      | some b =>
        refine later newest ?_
        split_ifs
        · exact .inr rfl
        · exact .inl rfl

variable {s : Chronicle} {p : Plan}

/-- Behind every success there is a job that ran. -/
theorem ran_of_success {faults : List Fault} {rep : Report} (rendered : p.job = some (buildJob p))
    (answered : (G.run (run (some p)) faults s.world).1 = .ok rep) (succeeded : rep.phase = .succeeded) :
    s.ran p faults = s ∧ ∃ job pod, RestsOn p rep s.world job pod := by
  obtain ⟨same, rests⟩ := yields_run_ok (yields_run rendered s.world)
    (Prod.ext answered rfl) succeeded
  refine ⟨?_, rests⟩
  unfold Chronicle.ran
  simp only [same, if_true]

/-- In a sound state a success is about the plan. -/
theorem truthful_of_current (sound : Sound s) (listed : p ∈ s.plans)
    (current : Current p s.world) (faults : List Fault) : Truthful s p faults := by
  intro rep answered succeeded
  obtain ⟨unchanged, job, pod, rests⟩ := ran_of_success (sound.plans p listed) answered succeeded
  rw [unchanged]
  have stored := List.mem_of_find?_eq_some rests.stored
  obtain ⟨ns, name⟩ : job.spec.ns = p.ns ∧ job.spec.name = p.jobName := by
    simpa [Job.isNamed] using List.find?_some rests.stored
  -- The claims of the Job are those of the plan, which are bound to the plan's volumes.
  have origin : s.origin job.uid = some p.volumePair := by
    obtain ⟨pair, mounted, made⟩ := sound.origin job stored
    obtain ⟨source, target⟩ := current.same job rests.stored
    simp only [World.mounts, source, target, ns, current.source, current.target,
      Option.bind_eq_bind, Option.bind_some, Option.pure_def, Option.some.injEq] at mounted
    rw [made, ← mounted]
    rfl
  obtain wrong | ⟨found, carries, same'⟩ := mem_of_newestSucceeded rests.read
  · cases wrong
  · obtain rfl := Option.some.inj same'
    obtain ⟨within, tagged⟩ := List.mem_filter.mp carries
    obtain ⟨podNs, podName⟩ : pod.ns = p.ns ∧ pod.jobName = p.jobName := by
      simpa [Pod.isOf] using tagged
    obtain ⟨owner, mounted⟩ := sound.pods job stored pod within (podNs.trans ns.symm)
      (podName.trans name.symm)
    exact ⟨job, pod, rests, origin, owner, Option.some.inj (mounted.symm.trans origin)⟩

theorem honest_of_sound (sha256 : String → String) (sound : Sound s)
    {events : List Event} (orderly : Orderly sha256 s events) : Honest sha256 s events := by
  induction events generalizing s with
  | nil => trivial
  | cons e rest ih =>
    refine ⟨?_, ih (sound.next sha256 orderly.1) orderly.2⟩
    rintro p faults rfl listed
    exact truthful_of_current sound listed (orderly.1 listed) faults

/-- In every history whose steps are orderly, each run of a plan made in it that reports success has moved
the data and switched the claim (`Truthful`). -/
theorem success_means_migrated (sha256 : String → String) (w : World) (events : List Event)
    (orderly : Orderly sha256 (Chronicle.start w) events) :
    Honest sha256 (Chronicle.start w) events :=
  honest_of_sound sha256 (sound_start w) orderly

namespace Sample

def digest (text : String) : String := "d" ++ toString text.length

def migrator : Migrator where
  sha256 := digest
  backend := "nas1"
  pool := "Pool0"
  parentDataset := "k8s"

def request : Request where
  sourceNamespace := "apps"
  sourcePVC := "data-src"
  targetPVC := "data-dst"

def storage : Appliance.Storage where
  datasets := Dict.ofList (["pvc-1", "pvc-2"].map fun name => ("Pool0/k8s/" ++ name,
    { type := .filesystem
      userProperties := Dict.ofList (TruenasCsi.Volume.stampProperties ("Pool0/k8s/" ++ name)) }))

def claims : List Claim :=
  [{ ns := "apps", name := "data-src", phase := .bound, volumeName := "pv-src-" ++ number },
    { ns := "apps", name := "data-dst", phase := .bound, volumeName := "pv-dst-" ++ number }]

def volumes : List PersistentVolume :=
  [{ name := "pv-src-" ++ number, csi := some ⟨"driver.longhorn.io", "longhorn-vol-" ++ number⟩ },
    { name := "pv-dst-" ++ number
      csi := some ⟨"csi.truenas.watteel.com", "nas1/nfs/Pool0/k8s/pvc-" ++ number⟩ }]

def cluster : World where
  claims := claims "1"
  volumes := volumes "1"
  storage := storage
  files _ := [("a.txt", "aaa")]

def planOf : Plan :=
  planFor digest request
    { ns := "apps", claim := "data-src", persistentVol := "pv-src-" ++ number
      driver := "driver.longhorn.io", handle := "longhorn-vol-" ++ number }
    { ns := "apps", claim := "data-dst", persistentVol := "pv-dst-" ++ number
      driver := "csi.truenas.watteel.com", handle := "nas1/nfs/Pool0/k8s/pvc-" ++ number }
    ⟨"nas1", "nfs", "Pool0", "k8s", "", "pvc-" ++ number⟩

def migration : List Event :=
  [.plan migrator request [], .run (planOf "1") [], .start 0 10, .finish 0 4096,
    .settle 0 .complete]

def recreation : List Event :=
  [.meanwhile (claims "2") (volumes "2") [] storage
      (fun v => if v = .csi "driver.longhorn.io" "longhorn-vol-2" then [("b.txt", "bbb")] else []),
    .plan migrator request []]

end Sample

open Sample

def reported (events : List Event) (p : Plan) : Option Report :=
  (G.run (run (some p)) [] ((Chronicle.start cluster).after digest events).world).1.toOption

theorem honest_after {sha256 : String → String} {s : Chronicle} {first rest : List Event}
    (honest : Honest sha256 s (first ++ rest)) : Honest sha256 (s.after sha256 first) rest := by
  induction first generalizing s with
  | nil => exact honest
  | cons e first ih => exact ih honest.2

/-- A migration whose Job is complete. -/
theorem migrated_claims_verified :
    (reported migration (planOf "1")).map (fun r => (r.phase, r.verified)) = some (.succeeded, true) ∧
      Honest digest (Chronicle.start cluster) (migration ++ [.run (planOf "1") []]) :=
  ⟨by decide +kernel, success_means_migrated digest cluster _ (by decide +kernel)⟩

/-- The second pair passes for the first. -/
theorem recreated_claims_verified :
    planOf "2" ∈ ((Chronicle.start cluster).after digest (migration ++ recreation)).plans ∧
      (reported (migration ++ recreation) (planOf "2")).map (fun r => (r.phase, r.verified)) =
        some (.succeeded, true) ∧
      ¬ Honest digest (Chronicle.start cluster)
        (migration ++ recreation ++ [.run (planOf "2") []]) := by
  have listed : planOf "2" ∈ ((Chronicle.start cluster).after digest (migration ++ recreation)).plans := by
    decide +kernel
  have success : (reported (migration ++ recreation) (planOf "2")).map (fun r => (r.phase, r.verified)) =
      some (.succeeded, true) := by
    decide +kernel
  refine ⟨listed, success, fun honest => ?_⟩
  have truthful := (honest_after honest).1 _ _ rfl listed
  obtain ⟨rep, answered, phase, -⟩ : ∃ rep, (G.run (run (some (planOf "2"))) []
      ((Chronicle.start cluster).after digest (migration ++ recreation)).world).1 = .ok rep ∧
        rep.phase = .succeeded ∧ rep.verified = true := by
    unfold reported at success
    cases answer : (G.run (run (some (planOf "2"))) []
        ((Chronicle.start cluster).after digest (migration ++ recreation)).world).1 with
    | error e =>
      rw [answer] at success
      cases success
    | ok rep =>
      rw [answer] at success
      simp only [Except.toOption, Option.map_some, Option.some.injEq, Prod.mk.injEq] at success
      exact ⟨rep, rfl, success⟩
  obtain ⟨job, pod, happened⟩ := truthful rep answered phase
  -- The only Job is the one that was created for the first pair.
  rw [(ran_of_success rfl answered phase).1] at happened
  have uid : (((Chronicle.start cluster).after digest (migration ++ recreation)).world.job?
      (planOf "2").ns (planOf "2").jobName).map Job.uid = some 0 := by
    decide +kernel
  have first : ((Chronicle.start cluster).after digest (migration ++ recreation)).origin 0 ≠
      some (planOf "2").volumePair := by
    decide +kernel
  rw [happened.rests.stored] at uid
  have origin := happened.origin
  rw [show job.uid = 0 from Option.some.inj uid] at origin
  exact first origin

end TruenasCsi.Migration
