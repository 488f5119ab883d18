import TruenasCsi.Fencing.Calls

/-!
# A publish in which no call fails

## Main result

`atomic_controllerPublishVolume`: with all calls answered a publish succeeds, or it fails and changes no
appliance.

## Proof strategy

Each helper is evaluated with all calls answered: those before the first write only ask (`Steady`), those
after it complete (`Completes`).
-/

namespace TruenasCsi.Fencing

open Backend Truenas Appliance
open Volume (ID)
open Csi Appliance.Storage

section

variable {b : Server} {v : ID} {w : World}

theorem calm_confine : M.calm (b.confine v) w =
    ((Volume.confine v b.pool b.parent).mapError fun e => .status .invalidArgument e.text, w) := by
  unfold Server.confine
  rw [calm_mapError]
  simp [M.calm]

theorem calm_queryDataset : M.calm (Filesystem.queryDataset b v) w =
    (.ok ((w.appliance b.client.name).storage.dataset? v.datasetPath), w) :=
  calm_mapError_ok (calm_datasetQuery b.client v.datasetPath)

theorem calm_nfsShare (mp : String) : M.calm (Nfs.shareByPath b.client mp) w =
    (.ok ((w.appliance b.client.name).nfs.shares.filter fun share => share.path == mp).head?, w) :=
  calm_first (calm_query rfl)

theorem calm_smbShare (mp : String) : M.calm (Smb.shareByPath b.client mp) w =
    (.ok ((w.appliance b.client.name).smb.shares.filter fun share => share.path == mp).head?, w) :=
  calm_first (calm_query rfl)

variable (host : b.client.host ≠ "")

/-- The volume is there and the driver's. -/
structure Present (b : Server) (v : ID) (w : World) : Prop where
  confined : Volume.confine v b.pool b.parent = .ok ()
  found : ∃ ds, (w.appliance b.client.name).storage.dataset? v.datasetPath = some ds

theorem Present.after {α : Type} {p : M α} {r : Except Err α} {t : World} (present : Present b v w)
    (within : M.Within (fun _ _ => False) p) (ended : M.calm p w = (r, t)) : Present b v t where
  confined := present.confined
  found := by
    rw [within.keeps_storage.calm ended b.client.name]
    exact present.found

include host

theorem completes_nfs_publishContext (present : Present b v w) :
    Completes (Nfs.publishContext b {} v) w := by
  obtain ⟨ds, found⟩ := present.found
  refine .bind (calm_confine.trans (by rw [present.confined]; rfl)) ?_
  refine .bind (calm_queryDataset.trans (by rw [found])) ?_
  simp [Completes, M.calm, host, Except.isOk, Except.toBool]

theorem completes_smb_publishContext (present : Present b v w) :
    Completes (Smb.publishContext b {} v) w := by
  obtain ⟨ds, found⟩ := present.found
  refine .bind (calm_confine.trans (by rw [present.confined]; rfl)) ?_
  refine .bind (calm_queryDataset.trans (by rw [found])) ?_
  refine .bind (calm_attempt.trans (by rw [calm_smbShare])) ?_
  simp [Completes, M.calm, host, Smb.serverFor, Smb.recallParams, Except.isOk, Except.toBool]

omit host in
/-- A grant asks for the share and then makes one write, or refuses. -/
theorem atomic_share_grant {α β : Type} {query : M (Option α)} {found : Option α} {wrap : Err → Err}
    {serving : α → Bool} {rewrite : α → M Unit} {create : M β} {refused : Err} {rest : Option α → M Unit}
    (asks : M.calm query w = (.ok found, w))
    (present : ∀ share, rest (some share) = if serving share = true then rewrite share else Prog.fail refused)
    (absent : rest none = create >>= fun _ => Prog.ret ()) (rewrites : ∀ share t, Atomic (rewrite share) t)
    (creates : ∀ t, Atomic create t) : Atomic (query.mapError wrap >>= rest) w := by
  refine .after ((steady_of_calm asks).mapError _) fun share t _ _ => ?_
  cases share with
  | some share =>
    rw [present]
    split_ifs
    · exact rewrites share t
    · exact .inr steady_fail
  | none =>
    rw [absent]
    exact (creates t).andThen fun _ _ _ => rfl

omit host in
theorem atomic_nfs_grant (cache : Nfs.Cache) (node : NodeRef) (mp : String)
    (granted : List String) : Atomic (Nfs.grant b cache v node mp granted) w :=
  atomic_share_grant (calm_nfsShare mp) (fun _ => rfl) rfl (fun _ _ => atomic_middleware.mapError _)
    fun _ => atomic_middleware.mapError _

omit host in
theorem atomic_smb_grant (cache : Smb.Cache) (node : NodeRef) (mp : String) :
    Atomic (Smb.grant b cache v node mp) w :=
  atomic_share_grant (calm_smbShare mp) (fun _ => rfl) rfl (fun _ _ => atomic_middleware.mapError _)
    fun _ => atomic_middleware.mapError _

omit host in
theorem present_of_answers (confined : ((Volume.confine v b.pool b.parent).mapError
      fun e => Err.status .invalidArgument e.text) = .ok ()) {ds : Dataset}
    (found : (w.appliance b.client.name).storage.dataset? v.datasetPath = some ds) :
    Present b v w := by
  refine ⟨?_, ds, found⟩
  cases accepted : Volume.confine v b.pool b.parent with
  | ok _ => rfl
  | error e =>
    rw [accepted] at confined
    cases confined

/-- With all calls answered, an NFS publish succeeds or changes nothing. -/
theorem atomic_nfs_publish (node : NodeRef) : Atomic (Nfs.publish b {} v node) w := by
  refine .ask calm_confine fun _ confined => .ask calm_queryDataset fun ds found => ?_
  cases ds with
  | none => exact .inr steady_fail
  | some ds =>
    have present := present_of_answers confined (Except.ok.inj found)
    refine .ask (calm_ofExcept _) fun granted _ => ?_
    split_ifs
    · exact .inr steady_fail
    · refine (atomic_nfs_grant _ _ _ _).andThen fun _ t ended => ?_
      exact completes_nfs_publishContext host (present.after (Nfs.within_grant _ _ _ _ _ _) ended)

theorem atomic_smb_publish (node : NodeRef) : Atomic (Smb.publish b {} v node) w := by
  refine .ask calm_confine fun _ confined => .ask calm_queryDataset fun ds found => ?_
  cases ds with
  | none => exact .inr steady_fail
  | some ds =>
    have present := present_of_answers confined (Except.ok.inj found)
    split_ifs
    · exact .inr steady_fail
    · refine (atomic_smb_grant _ _ _).andThen fun _ t ended => ?_
      exact completes_smb_publishContext host (present.after (Smb.within_grant _ _ _ _ _) ended)

end

namespace Iscsi

open Backend.Iscsi

variable {b : Server} {c : Client} {v : ID} {w : World}

abbrev service (c : Client) (w : World) : Iscsi := (w.appliance c.name).iscsi

theorem calm_listPortals : M.calm (listPortals c) w = (.ok (service c w).portals, w) :=
  calm_mapError_ok (calm_query rfl)

variable (name : String) (ds : Dataset) (target : Nat) {id : Nat}

theorem calm_queryTarget : M.calm (queryTarget c name) w =
    (.ok ((service c w).targets.filter fun row => row.name == name).head?, w) :=
  calm_mapError_ok (calm_first (calm_query rfl))

theorem calm_queryExtent : M.calm (queryExtent c name) w =
    (.ok ((service c w).extents.filter fun row => row.name == name).head?, w) :=
  calm_mapError_ok (calm_first (calm_query rfl))

theorem calm_globalConfig {f : Err → Err} : M.calm ((iscsi c .globalConfig).mapError f) w =
    (.ok (service c w).config, w) :=
  calm_mapError_ok (calm_query rfl)

theorem calm_targetIQN : M.calm (targetIQN c name) w =
    (.ok ((service c w).config.basename ++ ":" ++ name), w) := by
  unfold targetIQN
  rw [calm_bind_ok calm_globalConfig]
  rfl

theorem calm_targetExtentList (f : Err → Err) :
    M.calm ((targetExtentList c target).mapError f) w =
      (.ok ((service c w).targetExtents.filter fun row => row.target == target), w) :=
  calm_mapError_ok (calm_rows (calm_query rfl))

theorem calm_findPortal : ∃ id, M.calm (findPortal c) w = (.ok id, w) ∧
    (id > 0 → ∃ po ∈ (service c w).portals, po.id = id) := by
  refine ⟨_, calm_bind_ok calm_listPortals, ?_⟩
  cases found : (service c w).portals.find? fun po => po.comment == portalComment with
  | none => intro positive; cases positive
  | some po => exact fun _ => ⟨po, List.mem_of_find?_eq_some found, rfl⟩

theorem addressIn_listed (host : c.host ≠ "") {portals : List Portal} (port : Nat)
    (listed : ∃ po ∈ portals, po.id = id) : ∃ addr, addressIn c id port portals = some addr := by
  induction portals with
  | nil =>
    obtain ⟨po, member, -⟩ := listed
    cases member
  | cons po rest ih =>
    unfold addressIn
    by_cases same : po.id = id
    · rw [if_neg (not_not.mpr same)]
      cases po.listen.find? fun ip => ip != "" && !isWildcardAddress ip with
      | some ip => exact ⟨_, rfl⟩
      | none => exact ⟨Net.joinHostPort c.host port, by simp [host]⟩
    · rw [if_pos same]
      obtain ⟨other, member, found⟩ := listed
      rcases List.mem_cons.mp member with rfl | later
      · exact absurd found same
      · exact ih ⟨other, later, found⟩

/-- The portal that is found or made is listed afterwards. -/
theorem calm_ensurePortal (p : Params)
    (listed : p.portalID > 0 → ∃ po ∈ (service c w).portals, po.id = p.portalID) :
    ∃ id t, M.calm (ensurePortal c p) w = (.ok id, t) ∧
      (∃ po ∈ (service c t).portals, po.id = id) ∧ (service c t).auths = (service c w).auths := by
  unfold ensurePortal
  by_cases given : p.portalID > 0
  · rw [if_pos given]
    exact ⟨_, _, rfl, listed given, rfl⟩
  rw [if_neg given]
  obtain ⟨found, asked, known⟩ := calm_findPortal (c := c) (w := w)
  rw [calm_bind_ok asked]
  by_cases named : found > 0
  · rw [if_pos named]
    exact ⟨_, _, rfl, known named, rfl⟩
  · rw [if_neg named]
    have made : M.calm (iscsi c (.portalCreate portalComment ["0.0.0.0"])).attempt w =
        (.ok (.ok ⟨(service c w).nextID, portalComment, ["0.0.0.0"]⟩),
          w.acted c.name (.iscsi (.portalCreate portalComment ["0.0.0.0"]))) :=
      calm_attempt.trans (by unfold iscsi; rw [calm_middleware]; rfl)
    rw [calm_bind_ok made]
    refine ⟨_, _, rfl, ?_, ?_⟩
    · simp [service, World.acted, State.act, Iscsi.act]
    · simp [service, World.acted, State.act, Iscsi.act]

theorem completes_portalAddress (host : c.host ≠ "")
    (listed : ∃ po ∈ (service c w).portals, po.id = id) : Completes (portalAddress c id) w := by
  refine .bind calm_listPortals (.bind calm_globalConfig ?_)
  obtain ⟨addr, found⟩ := addressIn_listed host
    (if (service c w).config.port = 0 then 3260 else (service c w).config.port) listed
  unfold Completes
  simp only [found]
  rfl

theorem calm_portalAddress_world (id : Nat) : (M.calm (portalAddress c id) w).2 = w := by
  unfold portalAddress
  rw [calm_bind_ok calm_listPortals, calm_bind_ok calm_globalConfig]
  split <;> rfl

theorem completes_ensureCHAP (env : Env) {user : String}
    (readable : ∀ auth ∈ (service c w).auths, auth.user = user → isRedacted auth.secret = false) :
    Completes (ensureCHAP c env user) w := by
  have asked : M.calm ((first (iscsi c (.authQuery user))).mapError
      fun e => e.wrap "querying CHAP credentials: ") w =
        (.ok ((service c w).auths.filter fun row => row.user == user).head?, w) :=
    calm_mapError_ok (calm_first (calm_query rfl))
  unfold ensureCHAP
  cases found : ((service c w).auths.filter fun row => row.user == user).head? with
  | some auth =>
    have member : auth ∈ (service c w).auths ∧ auth.user = user := by
      simpa using List.mem_filter.mp (List.mem_of_mem_head? found)
    have known : M.calm (findAuth c user) w = (.ok (some auth), w) := by
      unfold findAuth
      rw [calm_bind_ok (asked.trans (by rw [found]))]
      simp only [readable auth member.1 member.2]
      rfl
    exact .bind known rfl
  | none =>
    have unknown : M.calm (findAuth c user) w = (.ok none, w) := by
      unfold findAuth
      rw [calm_bind_ok (asked.trans (by rw [found]))]
      rfl
    have listed : M.calm ((rows (iscsi c .authList)).mapError
        fun e => e.wrap "querying CHAP credentials: ") w = (.ok (service c w).auths, w) :=
      calm_mapError_ok (calm_rows (calm_query rfl))
    refine .bind unknown (.bind (calm_bind_ok listed) ?_)
    refine .bind (calm_attempt.trans (by unfold iscsi; rw [calm_middleware])) ?_
    rfl

theorem completes_contextFor (host : b.client.host ≠ "") {p : Params} (iqn naa : String)
    (lun : Option Nat)
    (portal : p.portalID > 0 → ∃ po ∈ (service b.client w).portals, po.id = p.portalID)
    (secret : p.chap = true → ∀ auth ∈ (service b.client w).auths,
      auth.user = targetName p.pool p.parent → isRedacted auth.secret = false) :
    Completes (contextFor b p iqn naa lun) w := by
  obtain ⟨id, t, ensured, listed, auths⟩ := calm_ensurePortal p portal
  refine .bind ensured ((completes_portalAddress host listed).andThen fun addr u asked => ?_)
  obtain rfl : t = u := by
    rw [← calm_portalAddress_world (c := b.client) (w := t) id, asked]
  split_ifs with chap
  · rw [← auths] at secret
    exact (completes_ensureCHAP b.env (secret chap)).andThen fun _ _ _ => rfl
  · rfl

theorem calm_bestEffort (p : M Unit) : M.calm (Zvol.bestEffort p) w = (.ok (), (M.calm p w).2) := by
  unfold Zvol.bestEffort
  rw [calm_bind_ok calm_attempt]
  rfl

theorem steady_allocateLUN : Steady (allocateLUN c target) w := by
  refine steady_process.bind fun _ t _ => .bind ?_ fun r u _ =>
    steady_process.bind fun _ z _ => steady_ofExcept r
  unfold Steady
  rw [calm_attempt]
  refine Steady.bind (steady_of_calm (calm_targetExtentList target _)) fun mappings u _ =>
    steady_process.bind fun reserved z _ => ?_
  split
  · exact steady_process.bind fun _ _ _ => steady_ret _
  · exact steady_fail

theorem steady_claimLUN (used : List Nat) : Steady (claimLUN c ds target used) w := by
  unfold claimLUN
  split
  · split_ifs
    · exact steady_allocateLUN target
    · exact steady_ret _
  · exact steady_allocateLUN target

/-- A LUN that cannot be mapped leaves the tables alone. -/
theorem atomic_mapExtent (extent : Nat) : Atomic (mapExtent c ds target extent) w := by
  refine .ask (calm_targetExtentList target _) fun mappings _ => ?_
  split
  · exact .inl (.bind (calm_bestEffort _) rfl)
  · refine .after (steady_claimLUN ds target _) fun lun t _ _ => Or.inl ?_
    refine .bind (calm_attempt.trans (by unfold iscsi; rw [calm_middleware])) ?_
    exact .bind (calm_bestEffort _) rfl

theorem keeps_mapExtent (extent : Nat) :
    M.Keeps (fun a => (a.iscsi.portals, a.iscsi.auths)) (mapExtent c ds target extent) :=
  emits_mapExtent (fun _ => trivial) (fun _ => rfl) (fun _ _ => rfl) fun _ _ => rfl

/-- What the target must offer for a context. -/
def Ready (b : Server) (a : State) : Prop :=
  ∀ target, (a.iscsi.targets.filter fun row => row.name == targetName b.pool b.parent).head? =
      some target →
    ((targetParams b target).portalID > 0 →
      ∃ po ∈ a.iscsi.portals, po.id = (targetParams b target).portalID) ∧
    ((targetParams b target).chap = true → ∀ auth ∈ a.iscsi.auths,
      auth.user = targetName b.pool b.parent → isRedacted auth.secret = false)

theorem targetParams_names (target : Target) :
    (targetParams b target).pool = b.pool ∧ (targetParams b target).parent = b.parent := by
  unfold targetParams
  split <;> exact ⟨rfl, rfl⟩

theorem atomic_publish (host : b.client.host ≠ "") (ready : Ready b (w.appliance b.client.name))
    (node : NodeRef) : Atomic (publish b v node) w := by
  refine .ask (calm_mapError_ok (calm_datasetQuery b.client v.datasetPath)) fun ds _ => ?_
  cases ds with
  | none => exact .inr steady_fail
  | some ds =>
    refine .ask (calm_queryExtent _) fun extent _ => ?_
    cases extent with
    | none => exact .inr steady_fail
    | some extent =>
      show Atomic (if extent.serving = true then _ else _) w
      split_ifs
      swap
      · exact .inr steady_fail
      refine .ask (calm_queryTarget _) fun target found => ?_
      cases target with
      | none => exact .inr steady_fail
      | some target =>
        obtain ⟨portal, secret⟩ := ready target (Except.ok.inj found)
        obtain ⟨pool, parent⟩ := targetParams_names (b := b) target
        refine .ask (calm_targetIQN _) fun iqn _ =>
          (atomic_mapExtent ds target.id extent.id).andThen fun lun t ended => ?_
        obtain ⟨portals, auths⟩ := Prod.mk.inj
          ((keeps_mapExtent ds target.id extent.id).calm ended b.client.name)
        refine completes_contextFor host iqn extent.naa (some lun) ?_ ?_
        · rw [show (service b.client t).portals = _ from portals]
          exact portal
        · rw [show (service b.client t).auths = _ from auths, pool, parent]
          exact secret

end Iscsi

namespace Nvme

open Backend.Nvme

variable {b : Server} {c : Client} {v : ID} {w : World}

abbrev service (c : Client) (w : World) : Nvmet := (w.appliance c.name).nvmet

theorem calm_querySubsystem (name : String) : M.calm (querySubsystem c name) w =
    (.ok ((service c w).subsystems.filter fun row => row.name == name).head?, w) :=
  calm_mapError_ok (calm_first (calm_query rfl))

theorem calm_listPorts : M.calm (listPorts c) w = (.ok (service c w).ports, w) :=
  calm_mapError_ok (calm_rows (calm_query rfl))

theorem steady_portFor (ds : Dataset) : Steady (portFor c ds) w := by
  refine (steady_of_calm calm_listPorts).bind fun ports t _ => ?_
  dsimp only
  split
  · exact steady_ret _
  · exact steady_ret _
  · exact steady_fail

theorem atomic_bindPort (port subsys : Nat) : Atomic (bindPort c port subsys) w := by
  have listed : M.calm (portSubsysList c subsys) w =
      (.ok ((service c w).portSubsys.filter fun row => row.subsys == subsys), w) :=
    calm_rows (calm_query rfl)
  refine .ask (calm_mapError_ok listed) fun bindings answer => ?_
  obtain rfl := Except.ok.inj answer
  show Atomic (if _ then _ else _) w
  split_ifs with bound
  · exact .inl rfl
  · -- The binding is not there, so the appliance has no reason to refuse it.
    have free : ((service c w).portSubsys.any fun row => row.port == port && row.subsys == subsys) =
        false := by
      simp only [List.any_filter, Bool.not_eq_true] at bound
      simpa [Bool.and_comm] using bound
    refine .inl (.bind (calm_attempt.trans (by unfold nvmet; rw [calm_middleware])) ?_)
    simp only [State.act, Nvmet.act, free]
    rfl

theorem keeps_bindPort (port subsys : Nat) :
    M.Keeps (fun a => a.nvmet.subsystems) (bindPort c port subsys) := by
  refine emits_bindPort (fun _ => rfl) fun a => ?_
  simp only [State.act, Nvmet.act]
  split_ifs <;> rfl

theorem calm_ensureHost (nqn : String) : ∃ host t, M.calm (ensureHost c nqn) w = (.ok host, t) ∧
    (service c t).subsystems = (service c w).subsystems := by
  have asked : M.calm ((hostByNQN c nqn).mapError fun e => e.wrap ("querying host " ++ nqn ++ ": ")) w =
      (.ok ((service c w).hosts.filter fun row => row.hostNQN == nqn).head?, w) :=
    calm_mapError_ok (calm_first (calm_query rfl))
  unfold ensureHost
  cases found : ((service c w).hosts.filter fun row => row.hostNQN == nqn).head? with
  | some host =>
    rw [found] at asked
    exact ⟨host, w, calm_bind_ok asked, rfl⟩
  | none =>
    rw [found] at asked
    refine ⟨⟨(service c w).nextID, nqn⟩, w.acted c.name (.nvmet (.hostCreate nqn)), ?_, ?_⟩
    · have made : M.calm (nvmet c (.hostCreate nqn)).attempt w =
          (.ok (.ok ⟨(service c w).nextID, nqn⟩), w.acted c.name (.nvmet (.hostCreate nqn))) :=
        calm_attempt.trans (by unfold nvmet; rw [calm_middleware]; rfl)
      rw [calm_bind_ok asked]
      exact calm_bind_ok made
    · simp [service, World.acted, State.act, Nvmet.act]

theorem calm_admitNode (subsys : Nat) (nqn : String) (host : NvmeHost) :
    ∃ t, M.calm (admitNode c subsys nqn host) w = (.ok (), t) ∧
      (service c t).subsystems = (service c w).subsystems := by
  have listed : M.calm ((hostSubsysList c subsys).mapError fun e => e.wrap "listing host ACLs: ") w =
      (.ok ((service c w).hostSubsys.filter fun row => row.subsys == subsys), w) :=
    calm_mapError_ok (calm_rows (calm_query rfl))
  unfold admitNode
  rw [calm_bind_ok listed]
  split_ifs with admitted
  · exact ⟨w, rfl, rfl⟩
  · have free : ((service c w).hostSubsys.any fun row => row.host == host.id && row.subsys == subsys) =
        false := by
      simp only [List.any_filter, Bool.not_eq_true] at admitted
      simpa [Bool.and_comm] using admitted
    refine ⟨w.acted c.name (.nvmet (.hostSubsysCreate host.id subsys)), ?_, ?_⟩
    · rw [calm_bind_ok (calm_attempt.trans (by unfold nvmet; rw [calm_middleware]))]
      simp only [State.act, Nvmet.act, free]
      rfl
    · simp [service, World.acted, State.act, Nvmet.act, free]

theorem completes_grantHost {subsys : Subsystem} (node : NodeRef)
    (present : subsys ∈ (service c w).subsystems) : Completes (grantHost c subsys node) w := by
  unfold grantHost
  split
  · rfl
  · obtain ⟨host, t, registered, sameSubsystems⟩ := calm_ensureHost (c := c) (w := w) node.nqn
    obtain ⟨u, admitted, stillSame⟩ := calm_admitNode (c := c) (w := t) subsys.id node.nqn host
    refine .bind registered (.bind admitted ?_)
    split_ifs
    · refine Completes.mapError _ ?_
      have known : ((service c u).subsystems.any fun row => row.id == subsys.id) = true := by
        rw [stillSame, sameSubsystems]
        exact List.any_eq_true.mpr ⟨subsys, present, by simp⟩
      unfold Completes nvmet
      rw [calm_middleware]
      simp only [State.act, Nvmet.act, known, if_true]
      rfl
    · rfl

theorem atomic_publish (host : b.client.host ≠ "") (node : NodeRef) : Atomic (publish b v node) w := by
  refine .ask (calm_mapError_ok (calm_datasetQuery b.client v.datasetPath)) fun ds _ => ?_
  cases ds with
  | none => exact .inr steady_fail
  | some ds =>
    refine .ask (calm_querySubsystem _) fun subsys found => ?_
    cases subsys with
    | none => exact .inr steady_fail
    | some subsys =>
      have present : subsys ∈ (service b.client w).subsystems :=
        (List.mem_filter.mp (List.mem_of_mem_head? (Except.ok.inj found))).1
      refine .ask (calm_mapError_ok (calm_first (calm_query rfl))) fun ns _ => ?_
      show Atomic (if _ then _ else _) w
      split_ifs
      swap
      · exact .inr steady_fail
      refine .after (steady_portFor ds) fun port t _ same => ?_
      refine (atomic_bindPort port.id subsys.id).andThen fun _ u bound => ?_
      have still : subsys ∈ (service b.client u).subsystems := by
        rw [show (service b.client u).subsystems = _ from
          (keeps_bindPort port.id subsys.id).calm bound b.client.name, same]
        exact present
      refine (completes_grantHost node still).andThen fun _ z _ => ?_
      have addressed : ∃ addr, portalAddress b.client port = .ok addr := by
        unfold portalAddress
        dsimp only
        split_ifs <;> exact ⟨_, rfl⟩
      obtain ⟨addr, found⟩ := addressed
      exact .bind ((calm_ofExcept _).trans (by rw [found])) rfl

end Nvme

/-- Which datasets exist. -/
def datasetsThere (a : State) (path : String) : Bool := (a.storage.datasets.get? path).isSome

theorem datasetsThere_setProperty (a : State) (id key value : String) :
    datasetsThere (a.act (.dataset (.update id { userPropertiesUpdate := [(key, value)] }))).2 =
      datasetsThere a := by
  funext path
  simp only [datasetsThere, State.act]
  rcases act_setProperty a.storage id key value with ⟨same, -⟩ | ⟨d, present, changed⟩
  · rw [same]
  · rw [changed]
    by_cases here : path = id
    · subst here
      simp [put, present]
    · simp [put, Dict.get?_set_ne _ _ here]

theorem keeps_datasets {α : Type} {p : M α} (within : M.Within SparesLedgers p) :
    M.Keeps datasetsThere p := by
  refine within.keeps (fun a b same => by funext path; simp only [datasetsThere, same])
    fun backend op a spares => ?_
  obtain ⟨id, key, value, -, rfl⟩ := spares
  exact datasetsThere_setProperty a id key value

theorem within_publish_spares (h : Handle) (v : ID) (node : NodeRef) :
    M.Within SparesLedgers (h.publish v node) := by
  by_cases shared : Shared h.protocol
  · unfold Handle.publish
    rcases shared with nfs | smb
    · rw [nfs]
      exact Nfs.within_publish _ _ _ _
    · rw [smb]
      exact Smb.within_publish _ _ _ _
  · exact within_publish_block shared node

theorem there_iff {a : State} {path : String} :
    datasetsThere a path = true ↔ ∃ ds, a.storage.dataset? path = some ds := by
  simp [datasetsThere, dataset?, Option.isSome_iff_exists]

/-- A ledger that fits is stored where the dataset exists. -/
theorem completes_saveGrants {cl : Client} {v : ID} {w : World} {g : Volume.Grants}
    (present : datasetsThere (w.appliance cl.name) v.datasetPath = true)
    (fits : g.encode.isOk = true) : Completes (saveGrants cl v g) w := by
  cases encoded : g.encode with
  | error e =>
    rw [encoded] at fits
    cases fits
  | ok text =>
    obtain ⟨d, found⟩ := Option.isSome_iff_exists.mp present
    have short : ¬text.length > 1024 := Nat.not_lt.mpr (Volume.encode_length encoded)
    refine .bind ((calm_ofExcept _).trans (by rw [encoded])) (Completes.mapError _ ?_)
    refine Completes.andThen ?_ fun _ _ _ => rfl
    unfold Completes Client.datasetUpdate Client.dataset
    rw [calm_middleware]
    simp [State.act, act, found, refusePatch, short, Except.isOk, Except.toBool]

/-- Nothing a publish needs after its grant is missing. -/
structure Ready (c : Controller) (p : Protocol) (v : ID) (nodeID : String) (w : World) :
    Prop where
  /-- The appliance has an address to hand out. -/
  addressed : ∀ b, c.reg.backends.get? v.backend = some b → b.host ≠ ""
  /-- The ledger has room for the node. -/
  fits : ∀ node, c.nodes.resolve nodeID = .ok node →
    (Volume.Grants.encode ((ledgerOf v w).set nodeID node.addrs)).isOk = true
  served : p = .iscsi → ∀ b, c.reg.backends.get? v.backend = some b →
    Iscsi.Ready (c.reg.server ⟨v.backend, b.host⟩ b) (w.appliance v.backend)

section

variable {c : Controller} {p : Protocol} {v : ID} {nodeID : String} {w t : World} {b : Config}

theorem Ready.congr (ready : Ready c p v nodeID w) (same : t.appliance = w.appliance) :
    Ready c p v nodeID t where
  addressed := ready.addressed
  fits := by
    have ledger : ledgerOf v t = ledgerOf v w := ledgerOf_congr (by rw [same])
    rw [ledger]
    exact ready.fits
  served := by
    rw [same]
    exact ready.served

theorem atomic_handle_publish (node : NodeRef)
    (configured : c.reg.backends.get? v.backend = some b) (ready : Ready c p v nodeID w) :
    Atomic ((⟨p, c.reg.server ⟨v.backend, b.host⟩ b⟩ : Handle).publish v node) w := by
  have host := ready.addressed b configured
  cases p with
  | nfs => exact atomic_nfs_publish host node
  | smb => exact atomic_smb_publish host node
  | iscsi => exact Iscsi.atomic_publish host (ready.served rfl b configured) node
  | nvme => exact Nvme.atomic_publish host node

theorem atomic_grant {node : NodeRef} {grants : Volume.Grants}
    (configured : c.reg.backends.get? v.backend = some b) (ready : Ready c p v nodeID w)
    (present : datasetsThere (w.appliance v.backend) v.datasetPath = true)
    (fits : (Volume.Grants.encode (grants.set node.id node.addrs)).isOk = true) (host : String) :
    Atomic (withStatus ((⟨p, c.reg.server ⟨v.backend, b.host⟩ b⟩ : Handle).publish v node)
      >>= fun pc => withStatus (saveGrants ⟨v.backend, host⟩ v (grants.set node.id node.addrs))
      >>= fun _ => pure pc) w := by
  refine ((atomic_handle_publish node configured ready).mapError _).andThen fun pc t ended => ?_
  have still : datasetsThere (t.appliance v.backend) v.datasetPath = true := by
    have kept := keeps_datasets (within_publish_spares
      ⟨p, c.reg.server ⟨v.backend, b.host⟩ b⟩ v node)
    rw [M.Keeps.calm (Prog.emits_mapError.mpr kept) ended v.backend]
    exact present
  exact ((completes_saveGrants still fits).mapError _).andThen fun _ _ _ => rfl

theorem atomic_publishLocked {mode : AccessMode} (known : Protocol.factoryFor v.protocol = some p)
    (ready : Ready c p v nodeID w) : Atomic (c.publishLocked v nodeID mode) w := by
  refine .after (steady_of_wp (c.wp_requireVolumeExists v) fun _ _ spec => spec.1) fun _ t₁ ended same₁ => ?_
  obtain ⟨-, there⟩ := calm_of_wp (c.wp_requireVolumeExists v) ended
  have present : datasetsThere (w.appliance v.backend) v.datasetPath = true := there_iff.mpr (there rfl)
  unfold Controller.resolve
  cases resolved : c.nodes.resolve nodeID with
  | error e => exact .inr rfl
  | ok node =>
    obtain rfl : node.id = nodeID := c.nodes.named resolved
    refine .ask (calm_mapError_ok rfl) fun node' resolved' => ?_
    obtain rfl : node = node' := Except.ok.inj resolved'
    refine .specified (c.reg.wp_client v.backend) (fun _ _ spec => spec.1) ?_
    rintro cl t₂ ⟨same₂, answered⟩
    obtain ⟨b, -, rfl⟩ := answered cl rfl
    refine .specified (wp_readGrants rfl) (fun _ _ spec => by rw [spec.1]) ?_
    rintro grants t ⟨rfl, read | ⟨e, wrong, -⟩⟩
    swap
    · cases wrong
    obtain rfl : grants = ledgerOf v t := Except.ok.inj read
    refine .ask (calm_ofExcept _) fun _ _ => ?_
    refine .specified (c.reg.wp_handle v.backend v.protocol) (fun _ _ spec => spec.1) ?_
    rintro h u ⟨same₃, answered⟩
    obtain ⟨b', p', configured, known', rfl⟩ := answered h rfl
    obtain rfl : p = p' := Option.some.inj (known.symm.trans known')
    have same : u.appliance = w.appliance := same₃.trans (same₂.trans same₁)
    have ledger : ledgerOf v t = ledgerOf v w := ledgerOf_congr (by rw [same₂, same₁])
    refine atomic_grant configured (ready.congr same) ?_ ?_ _
    · rw [same]
      exact present
    · rw [ledger]
      exact ready.fits node resolved

theorem atomic_withLock {α : Type} {key what : String} {body : M α}
    (atomic : ∀ t, t.appliance = w.appliance → Atomic body t) :
    Atomic (withLock key what body) w := by
  refine .after steady_process fun acquired t _ same => ?_
  split_ifs
  swap
  · exact .inr steady_fail
  have whole : M.calm (body.attempt >>= fun result => process (.release key) >>= fun _ =>
      Prog.ofExcept result) t = ((M.calm body t).1, { (M.calm body t).2 with
        process := ((M.calm body t).2.process.act (.release key)).2 }) := by
    rw [calm_bind_ok calm_attempt, calm_bind_ok (calm_process _), calm_ofExcept]
  rcases atomic t same with done | steady
  · left
    unfold Completes
    rw [whole]
    exact done
  · right
    unfold Steady
    rw [whole]
    exact steady

/-- The whole RPC succeeds or changes no appliance. -/
theorem atomic_controllerPublishVolume {handle : String} (parsed : Volume.parseID handle = .ok v)
    (known : Protocol.factoryFor v.protocol = some p) (capability : VolumeCapability)
    (ready : Ready c p v nodeID w) :
    Atomic (c.controllerPublishVolume ⟨handle, nodeID, some capability⟩) w := by
  unfold Controller.controllerPublishVolume
  dsimp only
  split_ifs
  · exact .inr rfl
  · exact .inr rfl
  · refine .ask (calm_mapError_ok ((calm_ofExcept _).trans (by rw [parsed]))) fun v' parsed' => ?_
    obtain rfl : v = v' := Except.ok.inj parsed'
    show Atomic (if _ then _ else _) w
    split_ifs
    · exact atomic_withLock fun t same => atomic_publishLocked known (ready.congr same)
    · exact .inr rfl

end

end TruenasCsi.Fencing
