import TruenasCsi.PodFencing.Fencer
import TruenasCsi.Replicas.Backends

/-! One replica publishes while the other revokes. -/

namespace TruenasCsi.Replicas.Contest

open Backend Csi Fencing
open PodFencing (fencerOf ownAddresses)
open Truenas Prog Volume

variable {x : Contest} {i : Party} {s t u : State} {I D : State → Prop} {α β : Type}
  {P : Except Err α → State → Prop} {p : M α} {f : α → M β}

/-- If it succeeds, then so. -/
def Succeeds (D : State → Prop) (res : Except Err α) (t : State) : Prop := res.isOk = true → D t

theorem succeeds_error {e : Err} : Succeeds D (.error e : Except Err α) t := nofun

theorem among_then (first : p.Among x.discipline i P s)
    (rest : ∀ a t, P (.ok a) t → (f a).Among x.discipline i (Succeeds D) t) :
    (p >>= f).Among x.discipline i (Succeeds D) s :=
  first.seq (fun _ _ _ _ _ => succeeds_error) rest

theorem among_status_then (first : p.Among x.discipline i P s)
    (rest : ∀ a t, P (.ok a) t → (f a).Among x.discipline i (Succeeds D) t) :
    (withStatus p >>= f).Among x.discipline i (Succeeds D) s := by
  have mapped : (withStatus p).Among x.discipline i (fun res t => ∀ a, res = .ok a → P (.ok a) t) s := by
    refine among_mapError.mpr (among_mono first fun res t ended a given => ?_)
    cases res with
    | ok b => exact Except.ok.inj given ▸ ended
    | error e => cases given
  exact among_then mapped fun a t ended => rest a t (ended a rfl)

/-- A locked program among others. -/
theorem among_withLock {key what : String} {body : M α} (steady : Steady x i I)
    (lasting : Steady x i D) (holds : I s)
    (locked : ∀ t, I t → body.Among x.discipline i (Succeeds D) t) :
    (withLock key what body).Among x.discipline i (Succeeds D) s := by
  have acquire : (process (.tryAcquire key)).Emits Truthful Idle := emits_issue.mpr trivial
  refine among_then (among_idle acquire steady holds) fun free t now => ?_
  cases free with
  | false => exact fun _ _ => succeeds_error
  | true =>
    refine Among.attempt_seq (locked t now.1) fun res t ended => ?_
    have release : (process (.release key)).Emits Truthful Idle := emits_issue.mpr trivial
    have kept : Steady x i (Succeeds D res) :=
      ⟨fun j s t other kept before ok => lasting.others j s t other kept (before ok),
        fun s t c same log before ok => lasting.quiet s t c same log (before ok)⟩
    refine among_then (among_idle release kept ended) fun _ t now => ?_
    exact among_ofExcept.mpr fun u later => kept.lasts later now.1

theorem emitsTo_client (r : Registry) (name : String) : (r.client name).EmitsTo Truthful Idle
    fun answer => ∀ c, answer = .ok c → c.name = name := by
  unfold Registry.client Registry.backend
  cases r.backends.get? name with
  | none => exact nofun
  | some b =>
    simp only [ofExcept_ok, ret_bind]
    refine emitsTo_bind.mpr (emitsTo_mapError.mpr ?_)
    refine emitsTo_issue.mpr ⟨trivial, fun answer _ => ?_⟩
    cases answer with
    | error e => exact nofun
    | ok _ =>
      rintro c ⟨⟩
      rfl

theorem emitsTo_handle (r : Registry) (name protocol : String) :
    (r.handle name protocol).EmitsTo Truthful Idle fun answer => ∀ h, answer = .ok h →
      Protocol.factoryFor protocol = some h.protocol ∧ h.server.client.name = name := by
  unfold Registry.handle Registry.backend
  cases r.backends.get? name with
  | none => exact nofun
  | some b =>
    cases known : Protocol.factoryFor protocol with
    | none => exact nofun
    | some p =>
      simp only [ofExcept_ok, ret_bind]
      refine emitsTo_bind.mpr (emitsTo_mono (emitsTo_client r name) ?_)
      intro answer named
      cases answer with
      | error e => exact nofun
      | ok c =>
        rintro h ⟨⟩
        exact ⟨rfl, named c rfl⟩

theorem emits_requireVolumeExists (c : Controller) (v : ID) :
    (c.requireVolumeExists v).Emits Truthful Idle := by
  refine emits_bind (emits_mapError.mpr (emitsTo_client _ _).emits) fun cl => ?_
  refine emits_bind (emits_mapError.mpr (emits_first (emits_issue.mpr fun _ => rfl))) fun ds => ?_
  cases ds <;> trivial

section

variable {cl : Client} (here : cl.name = x.volume.backend)

include here

theorem among_readGrants (steady : Steady x i I) (holds : I s) :
    (readGrants cl x.volume).Among x.discipline i (fun res t => I t ∧
      ((∃ u, I u ∧ ReadBy i .ledger u ∧ Since x i u t ∧ res = .ok (ledgerOf x.volume u.seen)) ∨
        ∃ e, res = .error e ∧
          (e.isA .volumeGone = true → ∃ u, I u ∧ datasetOf x.volume u.seen = none))) s := by
  unfold readGrants
  refine Among.seq (P := fun res t => I t ∧ ((∃ e : Err, res = .error e ∧ e.Bare) ∨
    ∃ u, I u ∧ ReadBy i .ledger u ∧ Since x i u t ∧ res = .ok (datasetOf x.volume u.seen))) ?_ ?_ ?_
  · refine among_mapError.mpr (among_mono (among_datasetQuery here steady holds) ?_)
    rintro res t ⟨now, ⟨e, rfl⟩ | ⟨u, earlier, read, since, rfl⟩⟩
    · exact ⟨now, .inl ⟨_, rfl, e.bare⟩⟩
    · exact ⟨now, .inr ⟨u, earlier, read, since, rfl⟩⟩
  · rintro e t ⟨now, ⟨e', same, bare⟩ | ⟨u, -, -, -, wrong⟩⟩ u' later
    · obtain rfl := Except.error.inj same
      exact ⟨steady.lasts later now, .inr ⟨e, rfl, fun gone => by rw [bare.not_isA] at gone; cases gone⟩⟩
    · cases wrong
  · rintro ds t ⟨now, ⟨e', wrong, -⟩ | ⟨u, earlier, read, since, given⟩⟩
    · cases wrong
    obtain rfl := Except.ok.inj given
    cases found : datasetOf x.volume u.seen with
    | none =>
      exact fun t' later => ⟨steady.lasts later now, .inr ⟨_, rfl, fun _ => ⟨u, earlier, found⟩⟩⟩
    | some ds =>
      refine among_ofExcept.mpr fun t' later => ⟨steady.lasts later now, ?_⟩
      cases decoded : decodeGrants (localProperty ds publishedProperty) with
      | ok g =>
        refine .inl ⟨u, earlier, read, fun J lasting before => lasting.lasts later (since J lasting before), ?_⟩
        simp [ledgerOf, found, ledgerText, decoded]
      | error e =>
        have bare : e.Bare := decodeGrants_plain decoded
        exact .inr ⟨e, rfl, fun gone => by rw [bare.not_isA] at gone; cases gone⟩

theorem promise_ledger {c : Call} {text : String} (spares : ∀ r : Record, r.writes c = false → r = .hosts)
    (kind : x.Kind i t (t.after i c
      (withProperty cl (t.world i) x.volume.datasetPath publishedProperty text))) :
    x.Promise i t (t.after i c
      (withProperty cl (t.world i) x.volume.datasetPath publishedProperty text)) := by
  refine ⟨c, rfl, fun r unwritten => ?_, ⟨?_, ?_, ?_⟩, kind⟩
  · obtain rfl := spares r unwritten
    exact withProperty_shares here _ _
  · exact mountpoint_withProperty here _ _
  · exact grantedTo_withProperty here _ (by decide)
  · exact clean_withProperty here _ _

theorem among_saveGrants {g : Grants} (steady : Steady x i I) (lasting : Steady x i D)
    (stores : ∀ s t, I s → overtaken i .ledger s.log = false →
      hostsOf x.protocol x.volume t.seen = hostsOf x.protocol x.volume s.seen →
      (∀ node, (ledgerOf x.volume t.seen).get? node = g.get? node) → x.Kind i s t ∧ D t)
    (holds : I s) : (saveGrants cl x.volume g).Among x.discipline i (Succeeds D) s := by
  unfold saveGrants
  cases encoded : g.encode with
  | error e => exact fun _ _ => succeeds_error
  | ok text =>
    refine among_mapError.mpr (among_single rfl (fun r => by cases r <;> rfl) fun t later fresh => ?_)
    have now := steady.lasts later holds
    let write : Call := .api cl.name (.dataset (.update x.volume.datasetPath
      { userPropertiesUpdate := [(publishedProperty, text)] }))
    have spares : ∀ r : Record, r.writes write = false → r = .hosts := by
      intro r unwritten
      cases r with
      | ledger => cases unwritten
      | hosts => rfl
    have hosts := hostsOf_withProperty here publishedProperty text
      (w := t.world i) (p := x.protocol)
    rcases ledgerOf_saved here encoded (w := t.world i) with ⟨same, refused⟩ | stored
    · have ledger := ledgerOf_of_text (congrArg ledgerText same)
      have promise := promise_ledger here spares (kind_same hosts ledger)
      refine wp_setUserProperty (fun e => ⟨promise_quiet rfl rfl, fun _ _ => nofun⟩)
        (fun e => ⟨promise, fun _ _ => nofun⟩) fun accepted => ?_
      rw [here] at accepted
      exact absurd (accepted.symm.trans refused) (by decide)
    · obtain ⟨kind, done⟩ := stores t (t.after i write (withProperty cl (t.world i)
        x.volume.datasetPath publishedProperty text)) now (fresh .ledger rfl) hosts stored
      have promise := promise_ledger here spares kind
      exact wp_setUserProperty (fun e => ⟨promise_quiet rfl rfl, fun _ _ => nofun⟩)
        (fun e => ⟨promise, fun _ _ => nofun⟩)
        fun _ => ⟨promise, fun u later' _ => lasting.lasts later' done⟩

end

/-- The node is on the share and in the ledger. -/
def Granted (x : Contest) (s : State) : Prop :=
  x.on ⊆ hostsOf x.protocol x.volume s.seen ∧
    ∃ addrs, (ledgerOf x.volume s.seen).get? x.published = some addrs

theorem steady_granted : Steady x .publisher x.Granted where
  others := by
    rintro j s t other kept ⟨listed, addrs, entry⟩
    refine ⟨steady_on.others j s t other kept listed, addrs, ?_⟩
    obtain ⟨c, -, -, -, kind⟩ := kept
    cases j with
    | publisher => exact absurd rfl other
    | revoker => exact kind.2.trans entry
  quiet := by
    intro s t c same log granted
    rwa [Granted, show t.seen = s.seen by simp [State.seen, same]]

theorem among_publish {h : Handle} (shared : Shared h.protocol) (served : x.protocol = h.protocol)
    (here : h.server.client.name = x.volume.backend) (apart : Disjoint x.off x.on)
    (sturdy : Sturdy x .publisher I) (base : ∀ s, I s → x.Base s) {node : NodeRef}
    (gives : x.on = addresses x.protocol (grantedTo x.protocol x.volume x.start node)) (holds : I s) :
    (h.publish x.volume node).Among x.discipline .publisher (fun res t =>
      I t ∧ (res.isOk = true → x.on ⊆ hostsOf x.protocol x.volume t.seen)) s := by
  unfold Handle.publish
  rcases shared with nfs | smb
  · rw [nfs]
    exact among_nfs_publish here apart sturdy base gives (served.trans nfs) holds
  · rw [smb]
    exact among_smb_publish here apart sturdy base gives (served.trans smb) holds

section

variable {c : Controller} (known : Protocol.factoryFor x.volume.protocol = some x.protocol)
  (shared : Shared x.protocol) (apart : Disjoint x.off x.on) (different : x.revoked ≠ x.published)
  {node : NodeRef} (resolved : c.nodes.resolve x.published = .ok node)
  (gives : x.on = addresses x.protocol (grantedTo x.protocol x.volume x.start node))

include known shared apart different resolved gives

theorem among_publishLocked {mode : AccessMode} (holds : x.Base s) :
    (c.publishLocked x.volume x.published mode).Among x.discipline .publisher
      (Succeeds x.Granted) s := by
  have base := (sturdy_base (x := x) (i := .publisher)).toSteady
  unfold Controller.publishLocked
  refine among_then (among_idle (emits_requireVolumeExists c x.volume) base holds) fun _ s now => ?_
  replace now := now.1
  have named : node.id = x.published := c.nodes.named resolved
  unfold Controller.resolve
  rw [resolved]
  refine among_status_then (among_idle (emitsTo_client c.reg _) base now) fun cl s now => ?_
  obtain ⟨now, client⟩ := now
  have here := client cl rfl
  refine among_status_then (among_readGrants here base now) fun grants s now => ?_
  obtain ⟨now, ⟨u, earlier, read, since, given⟩ | ⟨e, wrong, -⟩⟩ := now
  swap
  · cases wrong
  obtain rfl := Except.ok.inj given
  have recollects := since.recollects read
  cases Controller.exclusive x.volume mode node.id (ledgerOf x.volume u.seen) with
  | error e => exact fun _ _ => succeeds_error
  | ok _ =>
    have sturdy : Sturdy x .publisher fun s => x.Base s ∧ Recollects x .publisher .ledger u s :=
      sturdy_base.and sturdy_recollects
    refine among_status_then (among_idle (emitsTo_handle c.reg _ _) sturdy.toSteady
      ⟨now, recollects⟩) fun h s now => ?_
    obtain ⟨now, handle⟩ := now
    obtain ⟨known', here'⟩ := handle h rfl
    have served : x.protocol = h.protocol := Option.some.inj (known.symm.trans known')
    refine among_status_then (among_publish (served ▸ shared) served here' apart sturdy
      (fun s both => both.1) gives now) fun pc s now => ?_
    refine among_status_then (among_saveGrants here
      (I := fun s => (x.Base s ∧ Recollects x .publisher .ledger u s) ∧
        x.on ⊆ hostsOf x.protocol x.volume s.seen)
      (sturdy.toSteady.and steady_on) steady_granted ?_ ⟨now.1, now.2 rfl⟩) fun _ s granted => ?_
    · rintro s t ⟨⟨-, recollects⟩, listed⟩ fresh hosts stored
      have ledger : ledgerOf x.volume s.seen = ledgerOf x.volume u.seen :=
        ledgerOf_congr (recollects.2 fresh)
      refine ⟨⟨?_, ?_⟩, ?_, node.addrs, ?_⟩
      · rw [hosts]
        exact Set.inter_subset_right
      · rw [stored, ledger, Dict.get?_set_ne _ _ (by rw [named]; exact different)]
      · rw [hosts]
        exact listed
      · rw [stored, named, Dict.get?_set_self]
    · exact fun t later _ => steady_granted.lasts later (granted rfl)

/-- The publish RPC next to a revocation, -/
theorem among_controllerPublishVolume {handle : String} (parsed : parseID handle = .ok x.volume)
    (capability : VolumeCapability) (holds : x.Base s) :
    (c.controllerPublishVolume ⟨handle, x.published, some capability⟩).Among x.discipline .publisher
      (Succeeds x.Granted) s := by
  unfold Controller.controllerPublishVolume
  dsimp only
  split_ifs
  · exact fun _ _ => succeeds_error
  · exact fun _ _ => succeeds_error
  · rw [parsed]
    show Among _ _ (if supportsAccessMode x.volume.protocol capability.accessMode = true
      then _ else _) _ s
    split_ifs
    · exact among_withLock sturdy_base.toSteady steady_granted holds fun t now =>
        among_publishLocked known shared apart different resolved gives now
    · exact fun _ _ => succeeds_error

end

/-- The node is off the share and the ledger. -/
def Withdrawn (x : Contest) (s : State) : Prop :=
  Disjoint x.off (hostsOf x.protocol x.volume s.seen) ∧
    (ledgerOf x.volume s.seen).get? x.revoked = none

theorem steady_withdrawn : Steady x .revoker x.Withdrawn where
  others := by
    rintro j s t other kept ⟨off, entry⟩
    refine ⟨steady_off.others j s t other kept off, ?_⟩
    obtain ⟨c, -, -, -, kind⟩ := kept
    cases j with
    | revoker => exact absurd rfl other
    | publisher => exact kind.2.trans entry
  quiet := by
    intro s t c same log withdrawn
    rwa [Withdrawn, show t.seen = s.seen by simp [State.seen, same]]

/-- The ledger has of the revoked node what it had at the start. -/
def Entered (x : Contest) (s : State) : Prop :=
  (ledgerOf x.volume s.seen).get? x.revoked = (ledgerOf x.volume x.start).get? x.revoked

theorem sturdy_entered : Sturdy x .revoker x.Entered where
  others := by
    rintro j s t other ⟨c, -, -, -, kind⟩ entered
    cases j with
    | revoker => exact absurd rfl other
    | publisher => exact kind.2.trans entered
  quiet := by
    intro s t c same log entered
    rwa [Entered, show t.seen = s.seen by simp [State.seen, same]]
  shares := by
    intro s t c log same mild entered
    have ledger : ledgerOf x.volume t.seen = ledgerOf x.volume s.seen := ledgerOf_congr same
    rwa [Entered, ledger]

theorem among_unpublish {h : Handle} (shared : Shared h.protocol) (served : x.protocol = h.protocol)
    (here : h.server.client.name = x.volume.backend) (apart : Disjoint x.off x.on)
    (sturdy : Sturdy x .revoker I) (base : ∀ s, I s → x.Base s) {node : NodeRef}
    (takes : x.off = addresses x.protocol node.addrs) (holds : I s) :
    (h.unpublish x.volume node).Among x.discipline .revoker (fun res t =>
      I t ∧ (res.isOk = true → Disjoint x.off (hostsOf x.protocol x.volume t.seen))) s := by
  unfold Handle.unpublish
  rcases shared with nfs | smb
  · rw [nfs]
    exact among_nfs_unpublish here apart sturdy base takes (served.trans nfs) holds
  · rw [smb]
    exact among_smb_unpublish here apart sturdy base takes (served.trans smb) holds

section

variable {c : Controller} (known : Protocol.factoryFor x.volume.protocol = some x.protocol)
  (shared : Shared x.protocol) (apart : Disjoint x.off x.on)
  (takes : x.off = ownAddresses c x.protocol x.volume x.revoked x.start)

include known shared apart takes

theorem among_fence (unlisted : (ledgerOf x.volume x.start).get? x.revoked = none)
    (base : x.Base s) (entered : x.Entered s) :
    ((fencerOf c).fence x.volume x.revoked).Among x.discipline .revoker (Succeeds x.Withdrawn) s := by
  unfold PodFencing.RegistryFencer.fence fencerOf
  dsimp only
  cases resolved : c.nodes.resolve x.revoked with
  | error e => exact fun _ _ => succeeds_error
  | ok live =>
    have all : x.off = addresses x.protocol live.addrs := by
      rw [takes]
      simp [ownAddresses, resolved, Dict.getD, unlisted, addresses]
    have sturdy : Sturdy x .revoker fun s => x.Base s ∧ x.Entered s := sturdy_base.and sturdy_entered
    show Among _ _ ((c.reg.handle x.volume.backend x.volume.protocol).mapError _ >>= _) _ s
    refine among_then (P := fun res t => (x.Base t ∧ x.Entered t) ∧ ∀ h, res = .ok h →
      Protocol.factoryFor x.volume.protocol = some h.protocol ∧
        h.server.client.name = x.volume.backend) ?_ ?_
    · refine among_mapError.mpr (among_mono (among_idle (emitsTo_handle c.reg _ _)
        sturdy.toSteady ⟨base, entered⟩) ?_)
      rintro res t ⟨now, handle⟩
      cases res with
      | ok h => exact ⟨now, handle⟩
      | error e => exact ⟨now, fun h wrong => by cases wrong⟩
    rintro h s ⟨now, handle⟩
    obtain ⟨known', here⟩ := handle h rfl
    have served : x.protocol = h.protocol := Option.some.inj (known.symm.trans known')
    have revoking := among_unpublish (served ▸ shared) served here apart sturdy (fun s both => both.1)
      all now
    refine Among.attempt_seq (revoking.and_emitsTo (PodFencing.bare_unpublish h)
      fun o c s => handle_impersonal o.2 c (s.world o.1)) ?_
    rintro res t ⟨⟨now, off⟩, bare⟩
    cases res with
    | ok _ =>
      exact fun u later _ => steady_withdrawn.lasts later ⟨off rfl, now.2.trans unlisted⟩
    | error e =>
      show Among _ _ (if e.isA .volumeGone = true then _ else _) _ t
      rw [(bare e rfl).not_isA]
      exact fun _ _ => succeeds_error

theorem among_unpublishLocked (named : x.revoked ≠ "") (different : x.revoked ≠ x.published)
    (base : x.Base s) (entered : x.Entered s) :
    (c.unpublishLocked x.volume x.revoked).Among x.discipline .revoker (Succeeds x.Withdrawn) s := by
  have sturdy : Sturdy x .revoker fun s => x.Base s ∧ x.Entered s := sturdy_base.and sturdy_entered
  unfold Controller.unpublishLocked
  refine among_status_then (among_idle (emitsTo_client c.reg _) sturdy.toSteady ⟨base, entered⟩)
    fun cl s now => ?_
  obtain ⟨now, client⟩ := now
  have here := client cl rfl
  refine Among.attempt_seq (among_readGrants here sturdy.toSteady now) fun res s now => ?_
  obtain ⟨now, ⟨u, earlier, read, since, rfl⟩ | ⟨e, rfl, gone⟩⟩ := now
  · have recollects := since.recollects read
    have ledger : Sturdy x .revoker fun s =>
        (x.Base s ∧ x.Entered s) ∧ Recollects x .revoker .ledger u s := sturdy.and sturdy_recollects
    show Among _ _ (c.unpublishFrom x.volume cl x.revoked (ledgerOf x.volume u.seen)) _ s
    unfold Controller.unpublishFrom
    rw [show Controller.targets x.revoked (ledgerOf x.volume u.seen) = [x.revoked] from if_neg named]
    simp only [List.cons_ne_nil, if_false]
    refine among_status_then (among_idle (emitsTo_handle c.reg _ _) ledger.toSteady
      ⟨now, recollects⟩) fun h s now => ?_
    obtain ⟨now, handle⟩ := now
    obtain ⟨known', here'⟩ := handle h rfl
    have served : x.protocol = h.protocol := Option.some.inj (known.symm.trans known')
    -- The publisher does not touch the revoked node's entry, so an old answer still has it.
    have all : x.off = addresses x.protocol (c.revoked (ledgerOf x.volume u.seen) x.revoked).addrs := by
      rw [takes, PodFencing.addresses_revoked earlier.2]
    unfold Controller.revokeAll
    rw [bind_assoc]
    refine among_status_then (among_unpublish (served ▸ shared) served here' apart ledger
      (fun s both => both.1.1) all now) fun _ s now => ?_
    refine among_mapError.mpr (among_mono (among_saveGrants here
      (ledger.toSteady.and steady_off) steady_withdrawn ?_ ⟨now.1, now.2 rfl⟩) ?_)
    · rintro s t ⟨⟨-, recollects⟩, off⟩ fresh hosts stored
      -- The write is not overtaken: the ledger is still the one that was read.
      have same : ledgerOf x.volume s.seen = ledgerOf x.volume u.seen :=
        ledgerOf_congr (recollects.2 fresh)
      refine ⟨⟨?_, ?_⟩, ?_, ?_⟩
      · rw [hosts]
        exact Set.inter_subset_right
      · rw [stored, same, Dict.get?_delete, if_neg different.symm]
      · rwa [hosts]
      · rw [stored, Dict.get?_delete_self]
    · intro res t done
      cases res with
      | ok _ => exact done
      | error e => exact succeeds_error
  · show Among _ _ (if e.isA .volumeGone = true then _ else _) _ s
    split_ifs with reported
    · obtain ⟨u, ⟨base', entered'⟩, absent⟩ := gone reported
      refine fun t later _ => ?_
      have now' := sturdy.lasts later now
      refine ⟨?_, ?_⟩
      · have unmounted : mountpoint x.volume t.seen = none := by
          rw [now'.1.mounted, ← base'.mounted]
          simp [mountpoint, absent]
        rw [hostsOf_unmounted unmounted]
        exact Set.disjoint_empty _
      · rw [now'.2, ← entered']
        exact ledgerOf_gone absent _
    · exact fun _ _ => succeeds_error

/-- and the unpublish RPC next to a publish. -/
theorem among_controllerUnpublishVolume (named : x.revoked ≠ "") (different : x.revoked ≠ x.published)
    {handle : String} (parsed : parseID handle = .ok x.volume)
    (base : x.Base s) (entered : x.Entered s) :
    (c.controllerUnpublishVolume ⟨handle, x.revoked⟩).Among x.discipline .revoker
      (Succeeds x.Withdrawn) s := by
  have sturdy : Sturdy x .revoker fun s => x.Base s ∧ x.Entered s := sturdy_base.and sturdy_entered
  unfold Controller.controllerUnpublishVolume
  rw [parsed]
  split_ifs
  · exact fun _ _ => succeeds_error
  · exact among_withLock sturdy.toSteady steady_withdrawn ⟨base, entered⟩ fun t now =>
      among_unpublishLocked known shared apart takes named different now.1 now.2

end

end TruenasCsi.Replicas.Contest
