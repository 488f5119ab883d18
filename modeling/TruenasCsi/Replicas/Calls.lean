import TruenasCsi.Fencing.Calls
import TruenasCsi.Replicas.System

/-! Questions, and answers as old as the question. -/

namespace TruenasCsi.Replicas.Contest

open Appliance (Op)
open Backend Fencing
open Truenas (Client)
open Prog

variable {x : Contest} {i : Party} {s t u : State} {I : State → Prop} {α β : Type}

theorem Steady.lasts (steady : Steady x i I) (later : x.discipline.Meanwhile i s t) (holds : I s) :
    I t :=
  Discipline.Meanwhile.lasts later steady.others holds

/-- A call that leaves all appliances as they are. -/
abbrev Idle : Call → Prop := Call.Keeps fun a => a

variable {p : M α} {r : Record} {Q : Except Err α → Prop} {answer : State → α} {f : α → M β}

theorem among_idle (emits : p.EmitsTo Truthful Idle Q)
    (steady : Steady x i I) (holds : I s) : p.Among x.discipline i (fun r t => I t ∧ Q r) s := by
  refine emits.among (fun o c s => handle_truthful o.2 c (s.world o.1)) steady.others ?_ holds
  rintro ⟨j, fault⟩ c s idle ⟨rfl, -⟩ before
  have same : (State.handle (j, fault) c s).2.appliance = s.appliance :=
    funext fun backend => idle.handle fault (s.world j) backend
  exact ⟨promise_quiet same rfl, steady.quiet _ _ c same rfl before⟩

theorem among_idle_seq
    {Q' : Except Err β → State → Prop} (emits : p.EmitsTo Truthful Idle Q) (steady : Steady x i I)
    (holds : I s) (failed : ∀ e t, I t → Q' (.error e) t)
    (rest : ∀ a t, Q (.ok a) → I t → (f a).Among x.discipline i Q' t) :
    (p >>= f).Among x.discipline i Q' s :=
  Among.seq (among_idle emits steady holds)
    (fun e _ ended u later => failed e u (steady.lasts later ended.1))
    fun a t ended => rest a t ended.2 ended.1

/-- It failed, or its answer was true when asked. -/
def Answered (x : Contest) (i : Party) (r : Record) (I : State → Prop) (answer : State → α)
    (res : Except Err α) (t : State) : Prop :=
  I t ∧ ((∃ e : Failure, res = .error e.err) ∨
    ∃ u, I u ∧ ReadBy i r u ∧ Since x i u t ∧ res = .ok (answer u))

theorem Answered.lasts {res : Except Err α} (steady : Steady x i I)
    (answered : Answered x i r I answer res s) (later : x.discipline.Meanwhile i s t) :
    Answered x i r I answer res t := by
  refine ⟨steady.lasts later answered.1, answered.2.imp_right ?_⟩
  rintro ⟨u, earlier, read, since, given⟩
  exact ⟨u, earlier, read, fun J steady' before => steady'.lasts later (since J steady' before), given⟩

/-- An answer is as old as the question: it may be out of date when it is used. -/
theorem among_query {backend : String} (op : Op) (answer : Appliance.State → op.Answer)
    (readOnly : ∀ a : Appliance.State, a.act op = (.ok (answer a), a))
    (reads : r.reads (.api backend op) = true) (steady : Steady x i I) (holds : I s) :
    (middleware backend op).Among x.discipline i
      (Answered x i r I fun u => answer (u.appliance backend)) s := by
  refine among_issue.mpr ?_
  rintro t later ⟨j, fault⟩ ⟨rfl, -⟩
  have idle : Idle (.api backend op) := fun a => by rw [readOnly]
  have same : (State.handle (j, fault) (.api backend op) t).2.appliance = t.appliance :=
    funext fun backend => idle.handle fault (t.world j) backend
  refine ⟨promise_quiet same rfl, fun u later' => ?_⟩
  have still : I (State.handle (j, fault) (.api backend op) t).2 :=
    steady.quiet _ _ _ same rfl (steady.lasts later holds)
  refine Answered.lasts steady ⟨still, ?_⟩ later'
  cases fault with
  | refused e => exact .inl ⟨e, rfl⟩
  | lost e => exact .inl ⟨e, rfl⟩
  | none =>
    refine .inr ⟨_, still, ⟨_, List.mem_cons_self, reads⟩, fun J _ before => before, ?_⟩
    have answered : ((t.appliance backend).act op).1 = .ok (answer (t.appliance backend)) := by
      rw [readOnly]
    refine answered.trans ?_
    show _ = Except.ok (answer ((State.handle (j, .none) (.api backend op) t).2.appliance backend))
    rw [same]

theorem among_first {query : M (List α)} {answer : State → List α}
    (steady : Steady x i I) (asks : query.Among x.discipline i (Answered x i r I answer) s) :
    (Truenas.first query).Among x.discipline i (Answered x i r I fun u => (answer u).head?) s := by
  refine Among.attempt_seq asks fun res t answered => ?_
  obtain ⟨holds, ⟨e, rfl⟩ | ⟨u, earlier, read, since, rfl⟩⟩ := answered
  · show Among _ _ (if e.err.isNotFound then _ else _) _ t
    rw [e.notAbsence]
    exact fun t' later => ⟨steady.lasts later holds, .inl ⟨e, rfl⟩⟩
  · exact fun t' later => Answered.lasts steady ⟨holds, .inr ⟨u, earlier, read, since, rfl⟩⟩ later

theorem among_answer {g : Err → Err} {Q : Except Err β → State → Prop} (steady : Steady x i I)
    (asks : p.Among x.discipline i (Answered x i r I answer) s)
    (failed : ∀ e t, I t → Q (.error e) t) (rest : ∀ u t, I u → I t → ReadBy i r u → Since x i u t →
      (f (answer u)).Among x.discipline i Q t) :
    (p.mapError g >>= f).Among x.discipline i Q s := by
  have mapped : (p.mapError g).Among x.discipline i (fun res t => I t ∧ ∀ a, res = .ok a →
      ∃ u, I u ∧ ReadBy i r u ∧ Since x i u t ∧ a = answer u) s := by
    refine among_mapError.mpr (among_mono asks ?_)
    rintro res t ⟨holds, ⟨e, rfl⟩ | ⟨u, earlier, read, since, rfl⟩⟩
    · exact ⟨holds, nofun⟩
    · exact ⟨holds, fun a given => ⟨u, earlier, read, since, (Except.ok.inj given).symm⟩⟩
  refine Among.seq mapped (fun e t ended u later => failed e u (steady.lasts later ended.1)) ?_
  rintro a t ⟨holds, given⟩
  obtain ⟨u, earlier, read, since, rfl⟩ := given a rfl
  exact rest u t earlier holds read since

section

variable {cl : Client} (here : cl.name = x.volume.backend) (steady : Steady x i I)

include here steady

theorem among_datasetQuery (holds : I s) : (cl.datasetQuery x.volume.datasetPath).Among x.discipline i
    (Answered x i .ledger I fun u => datasetOf x.volume u.seen) s := by
  have found : (fun u : State => datasetOf x.volume u.seen) = fun u =>
      ((u.appliance cl.name).storage.dataset? x.volume.datasetPath).toList.head? := by
    simp [datasetOf, State.seen, here]
  rw [found]
  exact among_first steady (among_query (.dataset (.query x.volume.datasetPath))
    (fun a => (a.storage.dataset? x.volume.datasetPath).toList) (fun a => rfl) rfl steady holds)

/-- The share at a path, in the table of either protocol. -/
theorem among_share {query : M (List α)} (shares : Appliance.State → List α) {sought : α → Bool}
    (asks : query.Among x.discipline i
      (Answered x i .hosts I fun u => (shares (u.appliance cl.name)).filter sought) s) :
    (Truenas.first query).Among x.discipline i
      (Answered x i .hosts I fun u => (shares (u.appliance x.volume.backend)).find? sought) s := by
  simp only [← here, ← List.head?_filter]
  exact among_first steady asks

theorem among_nfsShare (mp : String) (holds : I s) :
    (Nfs.shareByPath cl mp).Among x.discipline i
      (Answered x i .hosts I fun u => (u.appliance x.volume.backend).nfs.byPath mp) s :=
  among_share here steady (fun a => a.nfs.shares) (among_query (.nfs (.query mp)) _
    (fun _ => rfl) rfl steady holds)

theorem among_smbShare (mp : String) (holds : I s) :
    (Smb.shareByPath cl mp).Among x.discipline i
      (Answered x i .hosts I fun u => (u.appliance x.volume.backend).smb.byPath mp) s :=
  among_share here steady (fun a => a.smb.shares) (among_query (.smb (.query mp)) _
    (fun _ => rfl) rfl steady holds)

end

theorem among_single {c : Call} {k : Except Err c.Answer → M α} (shape : p = .call c k)
    (ends : ∀ r, (k r).finished = true) {Q : Except Err α → State → Prop}
    (spec : ∀ t, x.discipline.Meanwhile i s t →
      (∀ r : Record, r.writes c = true → overtaken i r t.log = false) →
      M.wp p (fun res w => x.Promise i t (t.after i c w) ∧
        ∀ u, x.discipline.Meanwhile i (t.after i c w) u → Q res u) (t.world i)) :
    p.Among x.discipline i Q s := by
  subst shape
  rintro t later ⟨j, fault⟩ ⟨rfl, fresh⟩
  have outcome := spec t later fresh fault
  show x.Promise j t (State.handle (j, fault) c t).2 ∧
    (k (State.handle (j, fault) c t).1).Among x.discipline j Q (State.handle (j, fault) c t).2
  have ended := ends (State.handle (j, fault) c t).1
  have same : (State.handle (j, fault) c t).1 = (World.handle fault c (t.world j)).1 := rfl
  rw [same] at ended ⊢
  cases last : k (World.handle fault c (t.world j)).1 with
  | ret a =>
    rw [last] at outcome
    exact outcome
  | fail e =>
    rw [last] at outcome
    exact outcome
  | call c' k' =>
    rw [last] at ended
    cases ended

/-- What a process does to the host list. -/
structure Change (x : Contest) (i : Party) (change : Set String → Set String) (D : State → Prop) :
    Prop where
  steady : Steady x i D
  kind : ∀ s t : State, ledgerOf x.volume t.seen = ledgerOf x.volume s.seen →
    hostsOf x.protocol x.volume t.seen = change (hostsOf x.protocol x.volume s.seen) → x.Kind i s t
  achieves : ∀ s t : State,
    hostsOf x.protocol x.volume t.seen = change (hostsOf x.protocol x.volume s.seen) → D t

theorem change_granting (apart : Disjoint x.off x.on) :
    Change x .publisher (· ∪ x.on) fun s => x.on ⊆ hostsOf x.protocol x.volume s.seen where
  steady := steady_on
  kind := by
    rintro s t ledger hosts
    refine ⟨?_, by rw [ledger]⟩
    rw [hosts]
    rintro a ⟨revoked, listed | granted⟩
    · exact listed
    · exact absurd granted (Set.disjoint_left.mp apart revoked)
  achieves := by
    intro s t hosts
    rw [hosts]
    exact Set.subset_union_right

theorem change_revoking (apart : Disjoint x.off x.on) :
    Change x .revoker (· \ x.off) fun s => Disjoint x.off (hostsOf x.protocol x.volume s.seen) where
  steady := steady_off
  kind := by
    rintro s t ledger hosts
    refine ⟨?_, by rw [ledger]⟩
    rw [hosts]
    rintro a ⟨granted, listed⟩
    exact ⟨listed, fun revoked => Set.disjoint_left.mp apart revoked granted⟩
  achieves := by
    intro s t hosts
    rw [hosts]
    exact Set.disjoint_sdiff_right

/-- Writing the list back is safe unless it was overtaken. -/
theorem among_shareWrite {change : Set String → Set String} {D J : State → Prop}
    (changes : Change x i change D) (sturdy : Sturdy x i I) (base : ∀ s, I s → x.Base s)
    (steady : Steady x i J) {c : Call} {k : Except Err c.Answer → M α}
    (shape : p = .call c k) (ends : ∀ r, (k r).finished = true)
    (writes : Record.hosts.writes c = true) (holds : I s) (known : J s)
    (spec : ∀ t, I t → J t → overtaken i .hosts t.log = false → M.wp p (fun res w =>
      (∃ e, res = .error e) ∧ w = t.world i ∨
        (w.appliance x.volume.backend).storage = (t.appliance x.volume.backend).storage ∧
          Wrote x.protocol x.volume (t.world i) w change) (t.world i)) :
    p.Among x.discipline i (fun res t => I t ∧ (res.isOk = true → D t)) s := by
  refine among_single shape ends fun t later fresh => ?_
  have before : I t := sturdy.lasts later holds
  refine wp_mono (spec t before (steady.lasts later known) (fresh .hosts writes)) ?_
  rintro res w (⟨⟨e, rfl⟩, rfl⟩ | ⟨storage, wrote⟩)
  · refine ⟨promise_quiet rfl rfl, fun u later' => ?_⟩
    exact ⟨sturdy.lasts later' (sturdy.quiet t _ c rfl rfl before), nofun⟩
  · have clean := (base t before).clean
    have mild : x.Mild t (t.after i c w) :=
      ⟨mountpoint_congr storage, grantedTo_congr storage, wrote.clean⟩
    have hosts := wrote.hosts clean
    have promise : x.Promise i t (t.after i c w) := by
      refine ⟨c, rfl, fun r spared => ?_, mild, changes.kind t _ wrote.ledger hosts⟩
      cases r with
      | ledger => exact storage
      | hosts =>
        rw [writes] at spared
        cases spared
    refine ⟨promise, fun u later' => ⟨?_, fun _ => ?_⟩⟩
    · exact sturdy.lasts later' (sturdy.shares _ _ c rfl storage mild before)
    · exact changes.steady.lasts later' (changes.achieves t _ hosts)

end TruenasCsi.Replicas.Contest
