import TruenasCsi.PodFencing.Controller

/-! The order of a fence, whatever the counterparts answer. -/

namespace TruenasCsi.PodFencing

open Podmon Prog Volume

abbrev Log := List (Exchange Call Call.Answer ApiError)

/-- The calls that change an object, events apart. -/
def Call.mutates : Call → Bool
  | .patchTaints .. | .deleteAttachment _ | .deletePod .. => true
  | _ => false

def Call.resolves : Call → Bool
  | .getClaim .. | .getVolume _ => true
  | _ => false

variable (c : Controller) (pod : Pod) (log : Log)

/-- What may still be asked once access is gone. -/
def Call.clears : Call → Bool
  | .deletePod ns name uid => ns == pod.ns && name == pod.name && uid == pod.uid
  | .check .. | .fence .. => false
  | _ => true

def Call.fences : Call → Option ID
  | .fence id _ => some id
  | _ => none

/-- Nothing was changed. -/
def Untouched : Prop := ∀ e ∈ log, e.call.mutates = false

/-- A claim was read, and is bound to none but these. -/
def Resolved (ns : String) (ids : List ID) (log : Log) (vol : PodVolume) : Prop :=
  ∀ claimName, vol.persistentVolumeClaim = some claimName →
    ∃ pvc, ⟨.getClaim ns claimName, .ok pvc⟩ ∈ log ∧
      (pvc.volumeName = "" ∨ ∃ pv, ⟨.getVolume pvc.volumeName, .ok pv⟩ ∈ log ∧
        ∀ csi, pv.csi = some csi → csi.driver = c.theDriverName →
          ∃ id ∈ ids, parseID csi.volumeHandle = .ok id)

def fenced (nodeID : String) (id : ID) : Exchange Call Call.Answer ApiError :=
  ⟨.fence id nodeID, .ok ()⟩

/-- The transcript of a complete handling. -/
def Fenced : Prop :=
  ∃ node live reads ids reports rest,
    log = ⟨.getNode pod.nodeName, .ok node⟩ :: ⟨.getPod pod.ns pod.name, .ok live⟩ ::
      (reads ++ ⟨.check live.nodeName ids, .ok reports⟩ :: (ids.map (fenced live.nodeName) ++ rest)) ∧
    live.uid = pod.uid ∧
    (∀ e ∈ reads, e.call.resolves = true ∧ ∃ a, e.answer = .ok a) ∧
    (∀ vol ∈ live.volumes, Resolved c live.ns ids reads vol) ∧
    (safeToFence reports).1 = true ∧
    ∀ e ∈ rest, e.call.clears live = true

theorem untouched_nil : Untouched [] := by
  intro e mem
  cases mem

theorem untouched_single {e : Exchange Call Call.Answer ApiError} (calm : e.call.mutates = false) :
    Untouched [e] := by
  intro e' mem
  obtain rfl : e' = e := by simpa using mem
  exact calm

theorem Untouched.append {front back : Log} (first : Untouched front) (second : Untouched back) :
    Untouched (front ++ back) := by
  intro e mem
  rcases List.mem_append.mp mem with before | after
  · exact first e before
  · exact second e after

variable {f : ApiError → ApiError} {log : Log}

theorem Resolved.mono {c : Controller} {ns : String} {ids more : List ID} {longer : Log}
    {vol : PodVolume} (resolved : Resolved c ns ids log vol) (ids' : ids ⊆ more)
    (log' : log ⊆ longer) : Resolved c ns more longer vol := by
  intro claimName named
  obtain ⟨pvc, read, bound⟩ := resolved claimName named
  refine ⟨pvc, log' read, ?_⟩
  rcases bound with unbound | ⟨pv, seen, ours⟩
  · exact .inl unbound
  · refine .inr ⟨pv, log' seen, ?_⟩
    intro csi source driver
    obtain ⟨id, mem, parsed⟩ := ours csi source driver
    exact ⟨id, ids' mem, parsed⟩

theorem untouched_of_resolves (reads : ∀ e ∈ log, e.call.resolves = true) : Untouched log := by
  intro e mem
  have read := reads e mem
  cases call : e.call <;> simp_all [Call.resolves, Call.mutates]

theorem transcript_asked {call : Call} {r : Except ApiError call.Answer}
    (said : ((issue call : K call.Answer).mapError f).Transcript log r) :
    ∃ answer, log = [⟨call, answer⟩] ∧ r = answer.mapError f := by
  obtain ⟨answer, asked, rfl⟩ := transcript_mapError.mp said
  exact ⟨answer, transcript_issue.mp asked, rfl⟩

theorem mapError_ok {α : Type} {answer : Except ApiError α} {a : α}
    (ok : answer.mapError f = .ok a) : answer = .ok a := by
  cases answer with
  | error e => cases ok
  | ok b => exact ok

namespace Controller

variable {c : Controller} {pod : Pod} {log : Log} {vols : List PodVolume} {ns : String}

/-- Resolving a volume only reads. -/
structure Looked (c : Controller) (ns : String) (vols : List PodVolume) (log : Log)
    (r : Except ApiError (List ID)) : Prop where
  reads : ∀ e ∈ log, e.call.resolves = true
  answered : ∀ ids, r = .ok ids → ∀ e ∈ log, ∃ a, e.answer = .ok a
  resolved : ∀ ids, r = .ok ids → ∀ vol ∈ vols, Resolved c ns ids log vol

theorem looked_failed {e : ApiError}
    (reads : ∀ e ∈ log, e.call.resolves = true) : Looked c ns vols log (.error e) :=
  ⟨reads, nofun, nofun⟩

theorem handleOf_ok {pv : PersistentVolume} {found : Option ID}
    (handled : c.handleOf pv = .ok found) {csi : CSISource} (source : pv.csi = some csi)
    (driver : csi.driver = c.theDriverName) :
    ∃ id, found = some id ∧ parseID csi.volumeHandle = .ok id := by
  unfold handleOf at handled
  simp only [source, driver, ne_eq, not_true_eq_false, if_false] at handled
  cases parsed : parseID csi.volumeHandle with
  | ok id =>
    simp only [parsed, Except.ok.injEq] at handled
    exact ⟨id, handled.symm, rfl⟩
  | error e => simp [parsed] at handled

theorem volumeOf_looked {vol : PodVolume} {r : Except ApiError (Option ID)}
    (said : (c.volumeOf ns vol).Transcript log r) :
    Looked c ns [vol] log (r.map Option.toList) := by
  unfold volumeOf at said
  cases named : vol.persistentVolumeClaim with
  | none =>
    simp only [named] at said
    obtain ⟨rfl, rfl⟩ := said
    refine ⟨nofun, fun _ _ => nofun, ?_⟩
    intro ids _ vol' mem claimName claimed
    obtain rfl : vol' = vol := by simpa using mem
    simp [named] at claimed
  | some claimName =>
    simp only [named] at said
    rcases transcript_bind.mp said with ⟨e, failed, rfl⟩ | ⟨pvc, front, back, rfl, read, rest⟩
    · obtain ⟨answer, rfl, -⟩ := transcript_asked failed
      exact looked_failed (by simp [Call.resolves])
    · obtain ⟨answer, rfl, same⟩ := transcript_asked read
      obtain rfl := mapError_ok same.symm
      by_cases unbound : pvc.volumeName = ""
      · simp only [unbound, if_true] at rest
        obtain ⟨rfl, rfl⟩ := rest
        refine ⟨by simp [Call.resolves], ?_, ?_⟩
        · intro _ _ e mem
          obtain rfl := List.mem_singleton.mp mem
          exact ⟨pvc, rfl⟩
        · intro ids _ vol' mem claimName' claimed
          obtain rfl : vol' = vol := by simpa using mem
          obtain rfl : claimName = claimName' := by simpa [named] using claimed
          exact ⟨pvc, List.mem_singleton.mpr rfl, .inl unbound⟩
      · simp only [unbound, if_false] at rest
        rcases transcript_bind.mp rest with ⟨e, failed, rfl⟩ | ⟨pv, front', back', rfl, seen, last⟩
        · obtain ⟨answer, rfl, -⟩ := transcript_asked failed
          exact looked_failed (by simp [Call.resolves])
        · obtain ⟨answer, rfl, same'⟩ := transcript_asked seen
          obtain rfl := mapError_ok same'.symm
          obtain ⟨rfl, rfl⟩ := transcript_ofExcept.mp last
          refine ⟨by simp [Call.resolves], ?_, ?_⟩
          · intro _ _ e mem
            rcases List.mem_cons.mp mem with rfl | mem
            · exact ⟨pvc, rfl⟩
            · obtain rfl : e = _ := by simpa using mem
              exact ⟨pv, rfl⟩
          · intro ids handled vol' mem claimName' claimed
            obtain rfl : vol' = vol := by simpa using mem
            obtain rfl : claimName = claimName' := by simpa [named] using claimed
            refine ⟨pvc, by simp, .inr ⟨pv, by simp, ?_⟩⟩
            intro csi source driver
            cases found : c.handleOf pv with
            | error e => simp [found, Except.map] at handled
            | ok o =>
              obtain ⟨id, rfl, parsed⟩ := handleOf_ok found source driver
              obtain rfl : [id] = ids := by simpa [found, Except.map] using handled
              exact ⟨id, by simp, parsed⟩

/-- Resolving only reads, and finds every volume of the driver or fails. -/
theorem volumesIn_looked {r : Except ApiError (List ID)}
    (said : (c.volumesIn ns vols).Transcript log r) : Looked c ns vols log r := by
  induction vols generalizing log r with
  | nil =>
    obtain ⟨rfl, rfl⟩ := said
    exact ⟨nofun, fun _ _ => nofun, fun _ _ => nofun⟩
  | cons vol rest ih =>
    rw [volumesIn] at said
    rcases transcript_bind.mp said with ⟨e, failed, rfl⟩ | ⟨id, front, more, rfl, first, next⟩
    · exact looked_failed (volumeOf_looked failed).reads
    · have one := volumeOf_looked first
      rcases transcript_bind.mp next with ⟨e, failed, rfl⟩ | ⟨ids, mid, back, rfl, others, last⟩
      · refine looked_failed ?_
        intro e mem
        exact (List.mem_append.mp mem).elim (one.reads e) ((ih failed).reads e)
      · obtain ⟨rfl, rfl⟩ := last
        have all := ih others
        rw [List.append_nil]
        constructor
        · intro e mem
          exact (List.mem_append.mp mem).elim (one.reads e) (all.reads e)
        · intro _ _ e mem
          exact (List.mem_append.mp mem).elim (one.answered _ rfl e) (all.answered _ rfl e)
        · intro ids' same vol' mem
          obtain rfl : id.toList ++ ids = ids' := by simpa using same
          rcases List.mem_cons.mp mem with rfl | older
          · have resolved := one.resolved _ rfl vol' (List.mem_singleton.mpr rfl)
            exact resolved.mono (List.subset_append_left _ _) (List.subset_append_left _ _)
          · have resolved := all.resolved _ rfl vol' older
            exact resolved.mono (List.subset_append_right _ _) (List.subset_append_right _ _)

/-- A loop that succeeded has fenced every volume, in order. -/
theorem fenceAll_transcript {ids : List ID} {r : Except ApiError Unit}
    (said : (fenceAll pod ids).Transcript log r) :
    log = ids.map (fenced pod.nodeName) ∧ r = .ok () ∨ Untouched log ∧ ∃ e, r = .error e := by
  induction ids generalizing log with
  | nil =>
    obtain ⟨rfl, rfl⟩ := said
    exact .inl ⟨rfl, rfl⟩
  | cons id rest ih =>
    rw [fenceAll] at said
    rcases transcript_bind.mp said with ⟨e, failed, -⟩ | ⟨answer, front, back, rfl, asked, next⟩
    · obtain ⟨result, -, absurd⟩ := transcript_attempt.mp failed
      cases absurd
    · obtain ⟨result, issued, same⟩ := transcript_attempt.mp asked
      cases same
      obtain rfl := transcript_issue.mp issued
      cases answer with
      | ok a =>
        rcases ih next with ⟨rfl, rfl⟩ | ⟨untouched, failed⟩
        · exact .inl ⟨rfl, rfl⟩
        · exact .inr ⟨(untouched_single rfl).append untouched, failed⟩
      | error e =>
        refine .inr ?_
        rcases transcript_bind.mp next with ⟨e', failed, rfl⟩ | ⟨a, mid, last, rfl, event, thrown⟩
        · obtain rfl := transcript_issue.mp failed
          exact ⟨(untouched_single rfl).append (untouched_single rfl), e', rfl⟩
        · obtain rfl := transcript_issue.mp event
          obtain ⟨rfl, rfl⟩ := thrown
          exact ⟨(untouched_single rfl).append ((untouched_single rfl).append untouched_nil), _, rfl⟩

section

/-- A program that checks and fences nothing and deletes no other pod. -/
abbrev Clears {α : Type} (pod : Pod) (p : K α) : Prop :=
  p.Emits (fun _ _ => True) (·.clears pod = true)

theorem clears_taintNode (pod : Pod) (node : Node) : Clears pod (taintNode node) :=
  emits_if (fun _ => emits_ret) fun _ => emits_issue.mpr rfl

theorem clears_attachmentMatches (pod : Pod) (handles : List String) (va : VolumeAttachment) :
    Clears pod (attachmentMatches handles va) := by
  unfold attachmentMatches
  rcases va.inlineVolume with _ | csi
  · rcases va.persistentVolumeName with _ | name
    · exact emits_ret
    · refine emits_bind (emits_attempt.mpr (emits_issue.mpr rfl)) ?_
      rintro (e | ⟨name, _ | csi⟩) <;> exact emits_ret
  · exact emits_ret

theorem clears_deleteAttachment (pod : Pod) (c : Controller) (nodeName : String)
    (handles : List String) (va : VolumeAttachment) :
    Clears pod (c.deleteAttachment nodeName handles va) := by
  refine emits_if (fun _ => emits_ret) fun _ => ?_
  refine emits_bind (clears_attachmentMatches pod handles va) fun found => ?_
  refine emits_if (fun _ => ?_) fun _ => emits_ret
  refine emits_bind (emits_attempt.mpr (emits_issue.mpr rfl)) ?_
  rintro (e | a) <;> exact emits_ret

theorem clears_deleteEach (pod : Pod) (c : Controller) (nodeName : String)
    (handles : List String) (list : List VolumeAttachment) :
    Clears pod (c.deleteEach nodeName handles list) := by
  induction list with
  | nil => exact emits_ret
  | cons va rest ih =>
    refine emits_bind (clears_deleteAttachment pod c nodeName handles va) fun _ => ?_
    exact emits_bind ih fun _ => emits_ret

theorem clears_deleteAttachments (pod : Pod) (c : Controller) (nodeName : String)
    (ids : List ID) : Clears pod (c.deleteAttachments nodeName ids) := by
  refine emits_bind (emits_issue.mpr rfl) fun list => ?_
  refine emits_bind (clears_deleteEach pod c nodeName _ list) ?_
  rintro (_ | ⟨e, rest⟩)
  · exact emits_ret
  · exact emits_fail

theorem clears_forceDelete (pod : Pod) : Clears pod (forceDelete pod) := by
  refine emits_bind (emits_attempt.mpr (emits_issue.mpr (by simp [Call.clears]))) ?_
  rintro (e | a)
  · exact emits_if (fun _ => emits_ret) fun _ => emits_fail
  · exact emits_ret

/-- What is after the fence only clears. -/
theorem clears_cleanUp (c : Controller) (node : Node) (failureReason : String) (pod : Pod)
    (ids : List ID) : Clears pod (c.cleanUp node failureReason pod ids) := by
  refine emits_bind (emits_attempt.mpr (clears_taintNode pod node)) fun _ => ?_
  refine emits_bind (emits_attempt.mpr (clears_deleteAttachments pod c pod.nodeName ids)) fun _ => ?_
  exact emits_bind (emits_mapError.mpr (clears_forceDelete pod)) fun _ => emits_issue.mpr rfl

end

/-- The pod is fenced in order or left alone. -/
theorem evict_transcript {node : Node} {failureReason : String} {r : Except ApiError Unit}
    (said : (c.evict node failureReason pod).Transcript log r) :
    Untouched log ∨ ∃ reads ids reports rest,
      log = reads ++ ⟨.check pod.nodeName ids, .ok reports⟩ ::
        (ids.map (fenced pod.nodeName) ++ rest) ∧
      (∀ e ∈ reads, e.call.resolves = true ∧ ∃ a, e.answer = .ok a) ∧
      (∀ vol ∈ pod.volumes, Resolved c pod.ns ids reads vol) ∧
      (safeToFence reports).1 = true ∧
      ∀ e ∈ rest, e.call.clears pod = true := by
  unfold evict at said
  rcases transcript_bind.mp said with ⟨e, failed, -⟩ | ⟨answer, reads, back, rfl, asked, next⟩
  · obtain ⟨result, -, absurd⟩ := transcript_attempt.mp failed
    cases absurd
  · obtain ⟨result, looked, same⟩ := transcript_attempt.mp asked
    cases same
    -- Resolving has only read.
    have looked := volumesIn_looked looked
    have calm := untouched_of_resolves looked.reads
    cases answer with
    | error e =>
      refine .inl (calm.append ?_)
      rcases transcript_bind.mp next with ⟨e', failed, -⟩ | ⟨a, front, last, rfl, event, thrown⟩
      · obtain rfl := transcript_issue.mp failed
        exact untouched_single rfl
      · obtain rfl := transcript_issue.mp event
        obtain ⟨rfl, -⟩ := thrown
        exact (untouched_single rfl).append untouched_nil
    | ok ids =>
      by_cases none : ids = []
      · simp only [none, if_true] at next
        obtain ⟨rfl, -⟩ := next
        exact .inl (calm.append untouched_nil)
      · simp only [none, if_false] at next
        rcases transcript_bind.mp next with ⟨e, failed, -⟩ | ⟨reports, front, more, rfl, check, acted⟩
        · obtain rfl := transcript_issue.mp failed
          exact .inl (calm.append (untouched_single rfl))
        · obtain rfl := transcript_issue.mp check
          by_cases safe : (safeToFence reports).1 = true
          · simp only [safe, if_true] at acted
            rcases transcript_bind.mp acted with ⟨e, failed, -⟩ | ⟨a, fences, rest, rfl, done, clean⟩
            -- A fence that fails ends the handling before anything is deleted.
            · rcases fenceAll_transcript failed with ⟨-, absurd⟩ | ⟨untouched, -⟩
              · cases absurd
              · exact .inl (calm.append ((untouched_single rfl).append untouched))
            · rcases fenceAll_transcript done with ⟨rfl, -⟩ | ⟨-, e, absurd⟩
              · refine .inr ⟨reads, ids, reports, rest, rfl, ?_, ?_, safe, ?_⟩
                · intro e mem
                  exact ⟨looked.reads e mem, looked.answered ids rfl e mem⟩
                · exact looked.resolved ids rfl
                · exact (clears_cleanUp c node failureReason pod ids).transcript clean
              · cases absurd
          · simp only [safe] at acted
            obtain rfl := transcript_issue.mp acted
            exact .inl (calm.append ((untouched_single rfl).append (untouched_single rfl)))

/-- For every pod and whatever is answered: the handling changes nothing, or it read the live pod, resolved
all its volumes, was told that fencing is safe, fenced every volume, and only then deleted. -/
theorem pod_deleted_after_fencing {c : Controller} {pod : Pod} {log : Log}
    {r : Except ApiError Unit} (said : (c.handle pod).Transcript log r) :
    Untouched log ∨ Fenced c pod log := by
  unfold handle at said
  split_ifs at said with unlabelled settled
  · obtain ⟨rfl, -⟩ := said
    exact .inl untouched_nil
  · obtain ⟨rfl, -⟩ := said
    exact .inl untouched_nil
  · rcases transcript_bind.mp said with ⟨e, failed, -⟩ | ⟨node, front, back, rfl, read, next⟩
    · obtain ⟨answer, rfl, -⟩ := transcript_asked failed
      exact .inl (untouched_single rfl)
    · obtain ⟨answer, rfl, same⟩ := transcript_asked read
      obtain rfl := mapError_ok same.symm
      have first : Untouched [(⟨.getNode pod.nodeName, .ok node⟩ :
          Exchange Call Call.Answer ApiError)] := untouched_single rfl
      cases failure : nodeHasFailed node with
      | none =>
        simp only [failure] at next
        obtain ⟨rfl, -⟩ := next
        exact .inl (first.append untouched_nil)
      | some failureReason =>
        simp only [failure] at next
        rcases transcript_bind.mp next with ⟨e, failed, -⟩ | ⟨answer, mid, rest, rfl, asked, last⟩
        · obtain ⟨result, -, absurd⟩ := transcript_attempt.mp failed
          cases absurd
        · obtain ⟨result, issued, same⟩ := transcript_attempt.mp asked
          cases same
          obtain rfl := transcript_issue.mp issued
          cases answer with
          | error e =>
            have nothing : rest = [] := by
              by_cases gone : e.reason = .notFound
              · simp only [gone, if_true] at last
                exact last.1
              · simp only [gone, if_false] at last
                exact last.1
            subst nothing
            exact .inl (first.append ((untouched_single rfl).append untouched_nil))
          | ok live =>
            have second : Untouched [(⟨.getPod pod.ns pod.name, .ok live⟩ :
                Exchange Call Call.Answer ApiError)] := untouched_single rfl
            -- A pod of the same name that was made since is left alone.
            by_cases other : live.uid ≠ pod.uid
            · simp only [other, ne_eq, not_false_eq_true, if_true] at last
              obtain ⟨rfl, -⟩ := last
              exact .inl (first.append (second.append untouched_nil))
            · have uid : live.uid = pod.uid := not_not.mp other
              simp only [uid, ne_eq, not_true_eq_false, if_false] at last
              rcases evict_transcript last with untouched |
                ⟨reads, ids, reports, more, rfl, read, resolved, safe, clears⟩
              · exact .inl (first.append (second.append untouched))
              · exact .inr ⟨node, live, reads, ids, reports, more, rfl, uid, read, resolved, safe,
                  clears⟩

def stuckPod : Pod where
  ns := "default"
  name := "db-0"
  uid := "uid-1"
  nodeName := "node-a"
  labels := [(PodFencing.driverName ++ "/fence", "true")]
  volumes := [⟨"data", some "data-db-0", false⟩, ⟨"scratch", none, true⟩]

/-- A cluster whose node is gone. -/
def clusterAnswer : (call : Call) → Except ApiError call.Answer
  | .getNode name => .ok { name, taints := [⟨"node.kubernetes.io/unreachable", "", "NoExecute"⟩] }
  | .getPod .. => .ok stuckPod
  | .getClaim _ name => .ok ⟨"pv-" ++ name⟩
  | .getVolume name => .ok ⟨name, some ⟨PodFencing.driverName, "nas/nfs/tank/k8s/" ++ name⟩⟩
  | .check nodeID ids => .ok (ids.map fun id =>
      { nodeID, volumeID := id.string, signals := [⟨.nfsLease, .disconnected, "gone", -1⟩] })
  | .listAttachments => .ok []
  | .patchTaints .. => .error ⟨.other, "forbidden"⟩
  | .fence .. | .deleteAttachment _ | .deletePod .. | .event .. => .ok ()

def stuckLog : Log := (((⟨"", "", ""⟩ : Controller).handle stuckPod).converse clusterAnswer).1

theorem stuck_pod_deleted_after_fencing : Untouched stuckLog ∨ Fenced ⟨"", "", ""⟩ stuckPod stuckLog :=
  pod_deleted_after_fencing (transcript_converse clusterAnswer _)

/-- The pod is deleted with one of two claims fenced. -/
theorem pod_deleted_in_spite_of_error :
    Call.patchTaints "node-a" [⟨"node.kubernetes.io/unreachable", "", "NoExecute"⟩,
        ⟨taintKey, "true", "NoSchedule"⟩] ∈ stuckLog.map (·.call) ∧
    (∀ taints, clusterAnswer (.patchTaints "node-a" taints) = .error ⟨.other, "forbidden"⟩) ∧
    Call.deletePod "default" "db-0" "uid-1" ∈ stuckLog.map (·.call) ∧
    stuckLog.filterMap (fun e => Call.fences e.call) =
      [⟨"nas", "nfs", "tank", "k8s", "", "pv-data-db-0"⟩] ∧
    clusterAnswer (.getClaim "default" "db-0-scratch") = .ok ⟨"pv-db-0-scratch"⟩ ∧
    clusterAnswer (.getVolume "pv-db-0-scratch") =
      .ok ⟨"pv-db-0-scratch", some ⟨PodFencing.driverName, "nas/nfs/tank/k8s/pv-db-0-scratch"⟩⟩ := by
  refine ⟨by decide, fun _ => rfl, by decide, by decide, ?_, ?_⟩
  · exact congrArg (fun s => Except.ok (Claim.mk s)) (by decide)
  · exact congrArg (fun s => Except.ok (PersistentVolume.mk _ (some ⟨_, s⟩))) (by decide)

end Controller

end TruenasCsi.PodFencing
