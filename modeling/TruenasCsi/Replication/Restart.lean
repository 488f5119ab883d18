import TruenasCsi.Replication.Footprint
import TruenasCsi.Replication.Promotion

/-! The engine records `FailingOver` before it touches the target. -/

namespace TruenasCsi.Replication

open Prog
open Volume (ID parseID)
open Manager

/-- Phases in which nothing is promoted. -/
def Phase.engaged : Phase → Bool
  | .failingOver => true
  | .failedOver => true
  | .failingBack => true
  | _ => false

def Phase.over : Phase → Bool
  | .failingOver => true
  | .failedOver => true
  | _ => false

/-- A status update that reached the API server. -/
def persists : Call × Fault → Bool
  | (.updateStatus _, .refused _) => false
  | (.updateStatus _, _) => true
  | _ => false

/-- The process starts again. -/
def World.restarted (w : World) (spg : StorageProtectionGroup) : World :=
  { w with connected := [], records := ∅, copy := spg }

/-- A failover that changes nothing. -/
def Idle (r : Except Err State) (log : List (Call × Fault)) : Prop :=
  (∀ x ∈ log, x.1.Looks) ∧
    (refusedAs .failoverIncomplete r = true ∨ ∃ st, r = .ok st ∧ st.phase = .failedOver)

def Remembered (m : Manager) (g : Group) (faults : List Fault) (w : World) : Prop :=
  Idle (R.run (m.failover g false) faults w).1 (Prog.log World.handle (m.failover g false) faults w)

def ResourceStatus.Readable (status : ResourceStatus) : Prop :=
  ∀ v ∈ status.volumes, ∃ id, parseID v.handle = .ok id

theorem recordedVolumes_ok_iff {marks clones : Dict String} {volumes : List VolumeStatus} :
    (∃ r, recordedVolumes marks clones volumes = .ok r) ↔
      ∀ v ∈ volumes, ∃ id, parseID v.handle = .ok id := by
  induction volumes generalizing marks clones with
  | nil => simp [recordedVolumes]
  | cons v rest ih =>
    rw [List.forall_mem_cons]
    cases parsed : parseID v.handle with
    | error e => simp [recordedVolumes, parsed]
    | ok id => simp [recordedVolumes, parsed, ih]

variable {status : ResourceStatus} {st : State}

theorem loadedState_phase (loaded : loadedState status = .ok st) : st.phase = status.phase := by
  unfold loadedState at loaded
  split at loaded
  · cases loaded
  · cases loaded
    rfl

theorem readable_iff : status.Readable ↔ ∃ st, loadedState status = .ok st := by
  unfold ResourceStatus.Readable loadedState
  rw [← @recordedVolumes_ok_iff ∅ ∅ status.volumes]
  cases recordedVolumes ∅ ∅ status.volumes with
  | error e => simp
  | ok r => simp

theorem mem_updateLast {α : Type} {p : α → Bool} {f : α → α} {l : List α} {a : α}
    (member : a ∈ updateLast p f l) : a ∈ l ∨ ∃ b ∈ l, a = f b := by
  induction l with
  | nil => cases member
  | cons b rest ih =>
    rw [updateLast] at member
    split_ifs at member with last
    · obtain rfl | later := List.mem_cons.mp member
      · exact .inr ⟨b, List.mem_cons_self, rfl⟩
      · exact .inl (List.mem_cons_of_mem b later)
    · obtain rfl | later := List.mem_cons.mp member
      · exact .inl List.mem_cons_self
      · obtain there | ⟨c, there, rfl⟩ := ih later
        · exact .inl (List.mem_cons_of_mem b there)
        · exact .inr ⟨c, List.mem_cons_of_mem b there, rfl⟩

theorem readable_savedVolume {volumes : List VolumeStatus} (handle : String)
    (readable : ∀ v ∈ volumes, ∃ id, parseID v.handle = .ok id) :
    ∀ v ∈ savedVolume st volumes handle, ∃ id, parseID v.handle = .ok id := by
  intro v member
  unfold savedVolume at member
  split at member
  · exact readable v member
  · rename_i id parsed
    dsimp only at member
    split_ifs at member
    · obtain there | ⟨u, there, rfl⟩ := mem_updateLast member
      · exact readable v there
      · exact readable u there
    · obtain there | new := List.mem_append.mp member
      · exact readable v there
      · rw [List.mem_singleton.mp new]
        exact ⟨id, parsed⟩

theorem readable_savedStatus {spec : Spec}
    (readable : status.Readable) : (savedStatus spec status st).Readable := by
  show ∀ v ∈ spec.volumeHandles.foldl (savedVolume st) status.volumes, _
  have start : ∀ v ∈ status.volumes, ∃ id, parseID v.handle = .ok id := readable
  generalize status.volumes = volumes at start
  induction spec.volumeHandles generalizing volumes with
  | nil => exact start
  | cons handle rest ih => exact ih _ (readable_savedVolume handle start)

section

variable {m : Manager} {g : Group} {w : World} {α : Type} {p : R α} {backend root : String}
  {force : Bool} {e : Err}

theorem run_of_wpLogged {Q : Except Err α → List (Call × Fault) → Prop}
    (spec : R.wpLogged p (fun r s => Q r s.2) (w, [])) (faults : List Fault) :
    Q (R.run p faults w).1 (Prog.log World.handle p faults w) := by
  have reached := wp_iff_run.mp spec faults
  rwa [run_logged, List.nil_append] at reached

theorem looks_load (store : Store) (group : String) : (store.load group).Emits Any Call.Looks :=
  Store.emits_load trivial trivial

/-- A phase on record makes the next failover leave the group alone; -/
theorem remembered_of_over (recorded : m.store.recorded g.name w = .ok st)
    (beyond : st.phase.over = true) (faults : List Fault) : Remembered m g faults w := by
  refine run_of_wpLogged (Q := Idle) ?_ faults
  unfold failover
  have loaded : R.wp (m.store.load g.name) (fun r _ => r = .ok st) w := Store.wp_load.mpr recorded
  refine wp_seq (wp_logged handle_any loaded (looks_load _ _)) ?_ ?_
  · rintro e s ⟨same, -⟩
    cases same
  · rintro st' ⟨t, l⟩ ⟨same, more, rfl, looks⟩
    cases same
    split_ifs with done
    · exact ⟨looks, .inr ⟨_, rfl, done⟩⟩
    · have midway : st.phase = .failingOver := by
        cases phase : st.phase <;> simp_all [Phase.over]
      have refused : refuseFailover g false st = .error (incomplete
          ("group " ++ Text.quote g.name ++ " is in phase " ++ st.phase.text ++ " (" ++
            st.message ++ "); confirm no promotion is in flight, then force")) := by
        simp [refuseFailover, midway]
      unfold failoverFrom
      rw [refused]
      exact ⟨looks, .inl rfl⟩

theorem logged_stage {β : Type} {f : α → R β} {P : Except Err α → World → Prop}
    {Q : Except Err β → World × List (Call × Fault) → Prop} {l : List (Call × Fault)}
    (spec : R.wp p P w) (failed : ∀ e s, P (.error e) s.1 → Q (.error e) s)
    (rest : ∀ a t l', P (.ok a) t → R.wpLogged (f a) Q (t, l')) : R.wpLogged (p >>= f) Q (w, l) := by
  refine wp_seq (wp_logged_state spec) failed ?_
  rintro a ⟨t, l'⟩ reached
  exact rest a t l' reached

/-- An error other than that refusal. -/
def Otherwise (e : Err) : Prop := e.isA .failoverIncomplete = false

theorem Foreign.otherwise (foreign : Foreign e) : Otherwise e := by
  by_contra found
  have same := foreign .failoverIncomplete (by simpa [Otherwise, Err.isA] using found)
  cases same

theorem otherwise_of_mild (mild : R.Mild p) : R.FailsBy Otherwise p :=
  fails_mono mild fun _ foreign => Foreign.otherwise foreign

theorem otherwise_promoteMember (id : ID) (st : State) :
    R.FailsBy Otherwise (promoteMember (caller backend) g root force id st) := by
  unfold promoteMember
  generalize targetDataset root id = target
  have owned : R.FailsBy Otherwise (verifyOwned (caller backend) target) := by
    rw [verifyOwned_eq]
    refine fails_bind (otherwise_of_mild ?_) fun found => fails_ofExcept fun e refused => ?_
    · exact fails_bind (mild_absentAsEmpty mild_caller) fun _ => fails_ret _
    · simp [Otherwise, Err.isA, ownedDataset_error refused]
  refine fails_bind (fails_mapError owned fun _ kind => kind) fun ds => ?_
  refine fails_bind (otherwise_of_mild (fails_bind (fails_bind (mild_absentAsEmpty mild_caller)
    fun _ => fails_ret _) fun _ => fails_ret _)) fun latest => ?_
  refine fails_bind (fails_ofExcept ?_) fun _ => fails_bind (otherwise_of_mild (mild_mapError
    (fails_bind mild_caller fun _ => fails_ret _) _)) fun _ => fails_bind ?_ fun _ => fails_ret _
  · intro e refused
    unfold requireSnapshot at refused
    split_ifs at refused
    cases refused
    rfl
  · unfold promoteClone
    split_ifs
    · exact fails_ret ()
    · exact otherwise_of_mild (mild_mapError mild_caller _)

theorem otherwise_promoteMembers (volumes : List ID) (st : State) :
    R.FailsBy Otherwise (promoteMembers (caller backend) g root force volumes st) := by
  induction volumes generalizing st with
  | nil => exact fails_ret st
  | cons id rest ih => exact fails_bind (otherwise_promoteMember id st) fun st' => ih st'

theorem wp_trivial (p : R α) (w : World) : R.wp p (fun _ _ => True) w :=
  wp_iff_run.mpr fun _ => trivial

theorem logged_promoteMember (id : ID) (st : State) (l : List (Call × Fault)) :
    R.wpLogged (promoteMember (caller backend) g root force id st)
      (fun r s => ∀ a, r = .ok a → ∃ x ∈ s.2, ¬ x.1.Looks) (w, l) := by
  unfold promoteMember
  generalize targetDataset root id = target
  have failed : ∀ (e : Err) (s : World × List (Call × Fault)), True →
      ∀ a, (.error e : Except Err State) = .ok a → ∃ x ∈ s.2, ¬ x.1.Looks := by
    intro e s _ a wrong
    cases wrong
  refine logged_stage (wp_trivial _ w) failed fun ds t₁ l₁ _ => ?_
  refine logged_stage (wp_trivial _ t₁) failed fun latest t₂ l₂ _ => ?_
  refine logged_stage (wp_trivial _ t₂) failed fun _ t₃ l₃ _ => ?_
  -- The call itself, and what it leaves in the log however the rest goes.
  have updates : R.wpLogged ((updateDataset (caller backend) target writable).mapError
      fun e => e.wrap ("promoting " ++ target ++ ": ")) (fun _ s => ∃ x ∈ s.2, ¬ x.1.Looks)
      (t₃, l₃) := by
    refine wp_mapError.mpr (wp_bind.mpr ?_)
    refine wp_issue.mpr fun fault => ?_
    have logged : ∃ x ∈ l₃ ++ [(Call.api backend (.dataset (.update target writable)), fault)],
        ¬ x.1.Looks := by
      refine ⟨_, List.mem_append_right _ List.mem_cons_self, ?_⟩
      intro looks
      cases looks
    simp only [Prog.logged]
    cases (World.handle fault (Call.api backend (.dataset (.update target writable))) t₃).1 with
    | ok ds => exact logged
    | error e => exact logged
  refine wp_seq updates (fun e s _ a wrong => by cases wrong) ?_
  rintro _ s ⟨x, member, changes⟩
  refine wp_mono (logged_grows _ s) ?_
  rintro r s' ⟨more, grown⟩ a _
  exact ⟨x, by rw [grown]; exact List.mem_append_left _ member, changes⟩

/-- A failover at work. -/
def AtWork (r : Except Err State) (log : List (Call × Fault)) : Prop :=
  (∀ e, r = .error e → Otherwise e) ∧ ∀ st, r = .ok st → ∃ x ∈ log, ¬ x.1.Looks

theorem AtWork.not_idle {r : Except Err State} {log : List (Call × Fault)} (works : AtWork r log) :
    ¬ Idle r log := by
  rintro ⟨looks, refused | ⟨st, rfl, -⟩⟩
  · cases r with
    | ok st => cases refused
    | error e =>
      have other : e.isA .failoverIncomplete = false := works.1 e rfl
      rw [refusedAs, other] at refused
      cases refused
  · obtain ⟨x, member, changes⟩ := works.2 st rfl
    exact changes (looks x member)

theorem atWork_error (other : Otherwise e) (log : List (Call × Fault)) : AtWork (.error e) log := by
  constructor
  · intro e' same
    cases same
    exact other
  · intro st wrong
    cases wrong

theorem logged_promoteMembers_atWork {volumes : List ID}
    (members : volumes ≠ []) (st : State) (l : List (Call × Fault)) :
    R.wpLogged (promoteMembers (caller backend) g root force volumes st)
      (fun r s => AtWork r s.2) (w, l) := by
  refine wp_mono (wp_and (wp_logged_state
    ((otherwise_promoteMembers volumes st).wp w)) ?_) fun r s both => both
  cases volumes with
  | nil => exact absurd rfl members
  | cons id rest =>
    refine wp_seq (logged_promoteMember id st l) ?_ ?_
    · intro e s _ st' wrong
      cases wrong
    · intro st₁ s promoted
      obtain ⟨x, member, changes⟩ := promoted st₁ rfl
      refine wp_mono (logged_grows _ s) ?_
      rintro r s' ⟨more, grown⟩ st' _
      exact ⟨x, by rw [grown]; exact List.mem_append_left _ member, changes⟩

theorem logged_failoverFrom_fresh (fresh : st.phase.engaged = false)
    (members : g.volumes ≠ []) (l : List (Call × Fault)) :
    R.wpLogged (m.failoverFrom g false st) (fun r s => AtWork r s.2) (w, l) := by
  unfold failoverFrom
  cases phase : refuseFailover g false st with
  | error e =>
    refine atWork_error ?_ _
    unfold refuseFailover at phase
    split_ifs at phase with beyond back rehearsal
    · simp [beyond.1, Phase.engaged] at fresh
    · simp [back.1, Phase.engaged] at fresh
    · cases phase
      rfl
  | ok _ =>
  simp only [ofExcept_ok, ret_bind]
  refine logged_stage (m.wp_clients g w) ?_ ?_
  · rintro e s ⟨-, ⟨same, -⟩ | ⟨e', same, foreign⟩⟩
    · cases same
    · cases same
      exact atWork_error (Foreign.otherwise foreign) _
  rintro ⟨src, dst⟩ t l₁ ⟨-, ⟨same, ⟨srcCfg, source⟩, dstCfg, target⟩ | ⟨e, same, -⟩⟩
  swap
  · cases same
  cases same
  rw [m.roots_eq source target]
  simp only [pure_eq, ret_bind]
  -- From here on only the members matter: each is made writable before anything else.
  generalize ({ st with phase := .failingOver, message := "promoting " ++ g.targetBackend } : State) =
    started
  have saves : ∀ st u, R.wp (m.store.save g.name st) (fun r _ => r = .ok ()) u :=
    fun st u => Store.wp_save.mpr rfl
  refine logged_stage (saves started t) (fun e s wrong => by cases wrong) fun _ t₂ l₂ _ => ?_
  refine logged_stage (wp_setTransfers started t₂) ?_ ?_
  · rintro e s ⟨taskID, done, same, -⟩
    cases same
  rintro ⟨st', done⟩ t₃ l₃ ⟨taskID, done', same, foreign⟩
  cases same
  cases required : requireStopped g false done with
  | error e =>
    refine atWork_error ?_ _
    cases done with
    | ok _ => cases required
    | error e' =>
      cases required
      exact Foreign.otherwise (foreign e' rfl)
  | ok _ =>
  simp only [ofExcept_ok, ret_bind]
  refine wp_seq (logged_promoteMembers_atWork members _ l₃) ?_ ?_
  · intro e s works
    exact atWork_error (works.1 e rfl) _
  · rintro st₄ s works
    refine wp_seq (wp_and (logged_grows _ s) (wp_logged_state (saves _ s.1))) ?_ ?_
    · rintro e s' ⟨-, wrong⟩
      cases wrong
    · rintro _ s' ⟨⟨more, grown⟩, -⟩
      refine ⟨?_, fun st' _ => ?_⟩
      · intro e wrong
        cases wrong
      obtain ⟨x, member, changes⟩ := works.2 st₄ rfl
      exact ⟨x, by rw [grown]; exact List.mem_append_left _ member, changes⟩

/-- without it, the members are promoted again. -/
theorem not_remembered_of_fresh (unread : ∀ st, m.store.recorded g.name w = .ok st →
    st.phase.engaged = false) (members : g.volumes ≠ []) (faults : List Fault) :
    ¬ Remembered m g faults w := by
  refine AtWork.not_idle (run_of_wpLogged (Q := AtWork) ?_ faults)
  unfold failover
  refine logged_stage (P := fun r t => t = w ∧ r = m.store.recorded g.name w)
    (Store.wp_load.mpr ⟨rfl, rfl⟩) ?_ ?_
  · rintro e s ⟨-, same⟩
    refine atWork_error ?_ _
    simp [Otherwise, Err.isA, Store.recorded_error same.symm]
  · rintro st t l ⟨rfl, same⟩
    have fresh := unread st same.symm
    have pending : st.phase ≠ .failedOver := by
      intro beyond
      simp [beyond, Phase.engaged] at fresh
    rw [if_neg pending]
    exact logged_failoverFrom_fresh fresh members l

end

end TruenasCsi.Replication
