import TruenasCsi.Replicas.Calls

/-! Publishing and unpublishing a shared filesystem next to the other replica. -/

namespace TruenasCsi.Replicas.Contest

open Backend Fencing Truenas Prog Volume

variable {x : Contest} {i : Party} {s t u : State} {I : State → Prop} {b : Server}

theorem emitsTo_confine : (b.confine x.volume).EmitsTo Truthful Idle fun _ => True :=
  emits_mapError.mpr emits_ofExcept

theorem emits_queryDataset (v : ID) : (Filesystem.queryDataset b v).Emits Truthful Idle :=
  emits_mapError.mpr (emits_first (emits_issue.mpr fun _ => rfl))

theorem Base.mountpoint_of (base : x.Base u) {ds : Appliance.Dataset}
    (found : datasetOf x.volume u.seen = some ds) :
    mountpoint x.volume x.start = some (mountpointOf (some ds) x.volume.datasetPath) := by
  rw [← base.mounted]
  simp [mountpoint, found]

theorem Base.mountpoint_at (base : x.Base t) (i : Party) :
    mountpoint x.volume (t.world i) = mountpoint x.volume x.start :=
  base.mounted

theorem among_dataset {α : Type} {f : Option Appliance.Dataset → M α}
    {Q : Except Err α → State → Prop} (here : b.client.name = x.volume.backend)
    (steady : Steady x i I) (holds : I s) (failed : ∀ e t, I t → Q (.error e) t)
    (rest : ∀ u t, I u → I t → Since x i u t →
      (f (datasetOf x.volume u.seen)).Among x.discipline i Q t) :
    (b.confine x.volume >>= fun _ => Filesystem.queryDataset b x.volume >>= f).Among
      x.discipline i Q s := by
  refine among_idle_seq emitsTo_confine steady holds failed fun _ t _ holds => ?_
  exact among_answer steady (among_datasetQuery here steady holds) failed
    fun u t earlier now _ since => rest u t earlier now since

/-- The invariant, and after a success the addresses. -/
abbrev Put (x : Contest) (I : State → Prop) {α : Type} (res : Except Err α) (t : State) : Prop :=
  I t ∧ (res.isOk = true → x.on ⊆ hostsOf x.protocol x.volume t.seen)

abbrev Taken (x : Contest) (I : State → Prop) {α : Type} (res : Except Err α) (t : State) : Prop :=
  I t ∧ (res.isOk = true → Disjoint x.off (hostsOf x.protocol x.volume t.seen))

theorem put_failed {α : Type} {e : Err} (now : I t) : x.Put I (.error e : Except Err α) t :=
  ⟨now, fun wrong => by cases wrong⟩

section

variable (here : b.client.name = x.volume.backend) (apart : Disjoint x.off x.on)
  (sturdy : Sturdy x .publisher I) (base : ∀ s, I s → x.Base s) {node : NodeRef} {mp : String}
  {granted : List String}

include apart sturdy base

/-- A write of the publisher to a share it has read. -/
theorem among_put {p : Protocol} (shared : Shared p) (same : x.protocol = p)
    (mounted : mountpoint x.volume x.start = some mp) (gives : x.on = addresses p granted)
    {α : Type} {f : M α} {c : Call} {k : Except Err c.Answer → M α} (shape : f = .call c k)
    (ends : ∀ r, (k r).finished = true) (writes : Record.hosts.writes c = true) (now : I t)
    (known : Recollects x .publisher .hosts u t)
    (spec : ∀ t', Recollects x .publisher .hosts u t' → overtaken .publisher .hosts t'.log = false →
      M.wp f (Unless (t'.world .publisher) fun w => Rewrote p x.volume (t'.world .publisher) w mp
        (entriesAt p ((t'.world .publisher).appliance x.volume.backend) mp ++ granted))
        (t'.world .publisher)) :
    f.Among x.discipline .publisher (x.Put I) t := by
  refine among_shareWrite (change_granting apart) sturdy base steady_recollects shape ends writes now
    known fun t' now' recollects fresh => ?_
  refine wp_mono (spec t' recollects fresh) fun r w ended => ended.imp_right fun rewrote => ?_
  rw [same, gives]
  exact ⟨rewrote.storage,
    wrote_granted shared (((base t' now').mountpoint_at _).trans mounted) rewrote⟩

include here

theorem among_nfs_grant (nfs : x.protocol = .nfs) {cache : Nfs.Cache}
    (mounted : mountpoint x.volume x.start = some mp)
    (gives : x.on = addresses .nfs granted) (holds : I s) :
    (Nfs.grant b cache x.volume node mp granted).Among x.discipline .publisher (x.Put I) s := by
  refine among_answer sturdy.toSteady (among_nfsShare here sturdy.toSteady mp holds)
    (fun e t now => put_failed now) fun u t earlier now read since => ?_
  have known := since.recollects read
  -- At the time of the write the share is the one that was read.
  have current : ∀ t', Recollects x .publisher .hosts u t' →
      overtaken .publisher .hosts t'.log = false →
      (t'.appliance x.volume.backend).nfs.byPath mp = (u.appliance x.volume.backend).nfs.byPath mp :=
    fun t' recollects fresh => by rw [(recollects.2 fresh).1]
  cases lookup : (u.appliance x.volume.backend).nfs.byPath mp with
  | none =>
    refine among_put apart sturdy base (.inl rfl) nfs mounted gives rfl
      (fun r => by cases r <;> rfl) rfl now known fun t' recollects fresh => ?_
    have absent := (current t' recollects fresh).trans lookup
    have before : entriesAt .nfs ((t'.world .publisher).appliance x.volume.backend) mp = [] := by
      simp [entriesAt, State.world, absent]
    rw [before, List.nil_append]
    exact Unless.seq (Unless.mapError (wp_createShare here absent) _) fun _ _ => rfl
  | some share =>
    by_cases serving : Nfs.serving share = true
    · simp only [serving, if_true]
      refine among_put apart sturdy base (.inl rfl) nfs mounted gives rfl
        (fun r => by cases r <;> rfl) rfl now known fun t' recollects fresh => ?_
      have present := (current t' recollects fresh).trans lookup
      have before : entriesAt .nfs ((t'.world .publisher).appliance x.volume.backend) mp =
          share.hosts := by
        simp [entriesAt, State.world, present]
      rw [before]
      exact Unless.mapError (wp_setHosts here present) _
    · simp only [serving]
      exact fun t' later => put_failed (sturdy.lasts later now)

theorem among_smb_grant (smb : x.protocol = .smb) {cache : Smb.Cache}
    (mounted : mountpoint x.volume x.start = some mp)
    (gives : x.on = addresses .smb node.addrs) (holds : I s) :
    (Smb.grant b cache x.volume node mp).Among x.discipline .publisher (x.Put I) s := by
  refine among_answer sturdy.toSteady (among_smbShare here sturdy.toSteady mp holds)
    (fun e t now => put_failed now) fun u t earlier now read since => ?_
  have known := since.recollects read
  have current : ∀ t', Recollects x .publisher .hosts u t' →
      overtaken .publisher .hosts t'.log = false →
      (t'.appliance x.volume.backend).smb.byPath mp = (u.appliance x.volume.backend).smb.byPath mp :=
    fun t' recollects fresh => by rw [(recollects.2 fresh).2]
  cases lookup : (u.appliance x.volume.backend).smb.byPath mp with
  | none =>
    refine among_put apart sturdy base (.inr rfl) smb mounted gives rfl
      (fun r => by cases r <;> rfl) rfl now known fun t' recollects fresh => ?_
    have absent := (current t' recollects fresh).trans lookup
    have before : entriesAt .smb ((t'.world .publisher).appliance x.volume.backend) mp = [] := by
      simp [entriesAt, State.world, absent]
    rw [before, List.nil_append]
    exact Unless.seq (Unless.mapError (wp_createSmbShare here absent) _) fun _ _ => rfl
  | some share =>
    by_cases serving : Smb.serving share = true
    · simp only [serving, if_true]
      refine among_put apart sturdy base (.inr rfl) smb mounted gives rfl
        (fun r => by cases r <;> rfl) rfl now known fun t' recollects fresh => ?_
      have present := (current t' recollects fresh).trans lookup
      have before : entriesAt .smb ((t'.world .publisher).appliance x.volume.backend) mp =
          Smb.hostsAllow share := by
        simp [entriesAt, State.world, present]
      rw [before]
      exact Unless.mapError (wp_setHostsAllow here present) _
    · simp only [serving]
      exact fun t' later => put_failed (sturdy.lasts later now)

end

theorem emits_nfs_publishContext (cache : Nfs.Cache) (v : ID) :
    (Nfs.publishContext b cache v).Emits Truthful Idle := by
  refine emits_bind (emits_mapError.mpr emits_ofExcept) fun _ =>
    emits_option (emits_queryDataset v) trivial fun ds => ?_
  exact emits_if (fun _ => trivial) fun _ => trivial

theorem emits_smb_publishContext (cache : Smb.Cache) (v : ID) :
    (Smb.publishContext b cache v).Emits Truthful Idle := by
  refine emits_bind (emits_mapError.mpr emits_ofExcept) fun _ =>
    emits_option (emits_queryDataset v) trivial fun ds => ?_
  refine emits_bind (emits_attempt.mpr (emits_first (emits_issue.mpr fun _ => rfl))) fun share => ?_
  exact emits_if (fun _ => trivial) fun _ => trivial

section

variable (here : b.client.name = x.volume.backend) (apart : Disjoint x.off x.on)
  (sturdy : Sturdy x .publisher I) (base : ∀ s, I s → x.Base s) {node : NodeRef}
  (gives : x.on = addresses x.protocol (grantedTo x.protocol x.volume x.start node))

include sturdy

theorem among_refused {α : Type} (now : I t) (e : Err) :
    (fail e : M α).Among x.discipline .publisher (x.Put I) t :=
  fun _ later => put_failed (sturdy.lasts later now)

/-- What comes after the grant only asks. -/
theorem among_granted {α β : Type} {f : M α} {g : α → M β}
    (grants : f.Among x.discipline .publisher (x.Put I) t)
    (asks : ∀ a, (g a).Emits Truthful Idle) :
    (f >>= g).Among x.discipline .publisher (x.Put I) t := by
  refine Among.seq grants ?_ ?_
  · exact fun e t' ended u' later => put_failed (sturdy.lasts later ended.1)
  · rintro a t' ⟨now', listed⟩
    refine among_mono (among_idle (asks a) (sturdy.toSteady.and steady_on) ⟨now', listed rfl⟩) ?_
    exact fun res u' ended => ⟨ended.1.1, fun _ => ended.1.2⟩

include here apart base gives

/-- A publish among the steps of a revocation, -/
theorem among_nfs_publish (nfs : x.protocol = .nfs) (holds : I s) :
    (Nfs.publish b {} x.volume node).Among x.discipline .publisher (x.Put I) s := by
  refine among_dataset here sturdy.toSteady holds
    (fun e t now => put_failed now) fun u t earlier now since => ?_
  cases found : datasetOf x.volume u.seen with
  | none => exact among_refused sturdy now _
  | some ds =>
    have mounted := (base u earlier).mountpoint_of found
    have gives' := (base u earlier).granted node
    rw [nfs] at gives gives'
    cases accepted : Nfs.grantHosts node.addrs
        (Text.commaList (localProperty ds networksProperty)) with
    | error e =>
      dsimp only
      rw [accepted]
      exact among_refused sturdy now e
    | ok granted =>
      have same : grantedTo .nfs x.volume u.seen node = granted := by
        simp [grantedTo, found, accepted, Except.toOption]
      dsimp only
      rw [accepted]
      show (if granted = [] then _ else _ : M (List (String × String))).Among _ _ _ t
      split_ifs
      · exact among_refused sturdy now _
      · exact among_granted sturdy (among_nfs_grant here apart sturdy base nfs mounted
          (by rw [gives, ← gives', same]) now) fun _ => emits_nfs_publishContext _ _

theorem among_smb_publish (smb : x.protocol = .smb) (holds : I s) :
    (Smb.publish b {} x.volume node).Among x.discipline .publisher (x.Put I) s := by
  refine among_dataset here sturdy.toSteady holds
    (fun e t now => put_failed now) fun u t earlier now since => ?_
  cases found : datasetOf x.volume u.seen with
  | none => exact among_refused sturdy now _
  | some ds =>
    have mounted := (base u earlier).mountpoint_of found
    have gives' := (base u earlier).granted node
    rw [smb] at gives gives'
    have same : grantedTo .smb x.volume u.seen node = node.addrs := by simp [grantedTo, found]
    split_ifs
    · exact among_refused sturdy now _
    · exact among_granted sturdy (among_smb_grant here apart sturdy base smb mounted
        (by rw [gives, ← gives', same]) now) fun _ => emits_smb_publishContext _ _

end

variable {v : ID} {p : Protocol} {w : World}

theorem hostsOf_unmounted (none : mountpoint v w = none) : hostsOf p v w = ∅ := by
  simp [hostsOf, none]

theorem hostsOf_unlisted {mp : String}
    (mounted : mountpoint v w = some mp) (empty : entriesAt p (w.appliance v.backend) mp = []) :
    hostsOf p v w = ∅ := by
  simp [hostsOf, mounted, hostsAt, empty]

/-- With nobody on the list nothing is taken off. -/
theorem among_unshared (sturdy : Sturdy x .revoker I) (empty : hostsOf x.protocol x.volume u.seen = ∅)
    (now : I t) (since : Since x .revoker u t) :
    (ret () : M Unit).Among x.discipline .revoker (x.Taken I) t := by
  have off := since _ steady_off (by rw [empty]; exact Set.disjoint_empty _)
  exact fun t' later => ⟨sturdy.lasts later now, fun _ => steady_off.lasts later off⟩

section

variable (here : b.client.name = x.volume.backend) (apart : Disjoint x.off x.on)
  (sturdy : Sturdy x .revoker I) (base : ∀ s, I s → x.Base s) {node : NodeRef}
  (takes : x.off = addresses x.protocol node.addrs)

include here apart sturdy base takes

/-- and a revocation among those of a publish. -/
theorem among_nfs_unpublish (nfs : x.protocol = .nfs) (holds : I s) :
    (Nfs.unpublish b x.volume node).Among x.discipline .revoker (x.Taken I) s := by
  refine among_dataset here sturdy.toSteady holds
    (fun e t now => ⟨now, nofun⟩) fun u t earlier now since => ?_
  cases found : datasetOf x.volume u.seen with
  | none =>
    have unmounted : mountpoint x.volume u.seen = none := by simp [mountpoint, found]
    exact among_unshared sturdy (hostsOf_unmounted unmounted) now since
  | some ds =>
    have mounted := (base u earlier).mountpoint_of found
    refine among_answer sturdy.toSteady (among_nfsShare here sturdy.toSteady _ now)
      (fun e t now => ⟨now, nofun⟩) fun u' t earlier now read since => ?_
    cases lookup : (u'.appliance x.volume.backend).nfs.byPath
        (mountpointOf (some ds) x.volume.datasetPath) with
    | none =>
      have empty : hostsOf x.protocol x.volume u'.seen = ∅ :=
        hostsOf_unlisted ((base u' earlier).mounted.trans mounted)
          (by rw [nfs]; simp [entriesAt, State.seen, lookup])
      exact among_unshared sturdy empty now since
    | some share =>
      refine among_shareWrite (change_revoking apart) sturdy base steady_recollects rfl
        (fun r => by cases r <;> rfl) rfl now (since.recollects read)
        fun t' now' recollects fresh => ?_
      have present : (t'.appliance x.volume.backend).nfs.byPath
          (mountpointOf (some ds) x.volume.datasetPath) = some share := by
        rw [(recollects.2 fresh).1, lookup]
      have before : entriesAt .nfs ((t'.world .revoker).appliance x.volume.backend)
          (mountpointOf (some ds) x.volume.datasetPath) = share.hosts := by
        simp [entriesAt, State.world, present]
      refine wp_mono (Unless.mapError (wp_setHosts here present) _) fun r w ended =>
        ended.imp_right fun rewrote => ?_
      have stripped : Stripped .nfs x.volume (t'.world .revoker) node.addrs w :=
        stripped_written (.inl rfl) (((base t' now').mountpoint_at _).trans mounted)
          (by rw [before]; exact rewrote)
      rw [takes, nfs]
      exact ⟨rewrote.storage, stripped.wrote⟩

theorem among_smb_unpublish (smb : x.protocol = .smb) (holds : I s) :
    (Smb.unpublish b x.volume node).Among x.discipline .revoker (x.Taken I) s := by
  refine among_dataset here sturdy.toSteady holds
    (fun e t now => ⟨now, nofun⟩) fun u t earlier now since => ?_
  cases found : datasetOf x.volume u.seen with
  | none =>
    have unmounted : mountpoint x.volume u.seen = none := by simp [mountpoint, found]
    exact among_unshared sturdy (hostsOf_unmounted unmounted) now since
  | some ds =>
    have mounted := (base u earlier).mountpoint_of found
    refine among_answer sturdy.toSteady (among_smbShare here sturdy.toSteady _ now)
      (fun e t now => ⟨now, nofun⟩) fun u' t earlier now read since => ?_
    cases lookup : (u'.appliance x.volume.backend).smb.byPath
        (mountpointOf (some ds) x.volume.datasetPath) with
    | none =>
      have empty : hostsOf x.protocol x.volume u'.seen = ∅ :=
        hostsOf_unlisted ((base u' earlier).mounted.trans mounted)
          (by rw [smb]; simp [entriesAt, State.seen, lookup])
      exact among_unshared sturdy empty now since
    | some share =>
      refine among_shareWrite (change_revoking apart) sturdy base steady_recollects rfl
        (fun r => by cases r <;> rfl) rfl now (since.recollects read)
        fun t' now' recollects fresh => ?_
      have present : (t'.appliance x.volume.backend).smb.byPath
          (mountpointOf (some ds) x.volume.datasetPath) = some share := by
        rw [(recollects.2 fresh).2, lookup]
      have before : entriesAt .smb ((t'.world .revoker).appliance x.volume.backend)
          (mountpointOf (some ds) x.volume.datasetPath) = Smb.hostsAllow share := by
        simp [entriesAt, State.world, present]
      refine wp_mono (Unless.mapError (wp_setHostsAllow here present) _) fun r w ended =>
        ended.imp_right fun rewrote => ?_
      have stripped : Stripped .smb x.volume (t'.world .revoker) node.addrs w :=
        stripped_written (.inr rfl) (((base t' now').mountpoint_at _).trans mounted)
          (by rw [before]; exact rewrote)
      rw [takes, smb]
      exact ⟨rewrote.storage, stripped.wrote⟩

end

end TruenasCsi.Replicas.Contest
