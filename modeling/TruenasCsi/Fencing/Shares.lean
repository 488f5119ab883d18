import TruenasCsi.Fencing.View

/-! What publishing does to the host list of a share. -/

namespace TruenasCsi.Fencing

open Backend Truenas Appliance Prog Volume Backend.Smb Text World

variable (p : Protocol) (v : ID) (w : World) (node : NodeRef)

/-- The addresses a publish adds: on NFS only those in the allowed networks. -/
def grantedTo : List String :=
  match p, datasetOf v w with
  | .nfs, some ds =>
    (Nfs.grantHosts node.addrs (commaList (localProperty ds networksProperty))).toOption.getD []
  | .smb, some _ => node.addrs
  | _, _ => []

theorem grantHosts_subset {addrs networks granted : List String}
    (accepted : Nfs.grantHosts addrs networks = .ok granted) : granted ⊆ addrs := by
  unfold Nfs.grantHosts at accepted
  split_ifs at accepted with unrestricted
  · cases accepted
    exact List.Subset.refl _
  · split at accepted
    · cases accepted
    · cases accepted
      exact List.filter_subset_self _

theorem grantedTo_subset : grantedTo p v w node ⊆ node.addrs := by
  unfold grantedTo
  split
  · rename_i ds found
    cases accepted : Nfs.grantHosts node.addrs (commaList (localProperty ds networksProperty)) with
    | error e => simp [Except.toOption]
    | ok granted => simpa [Except.toOption] using grantHosts_subset accepted
  · exact List.Subset.refl _
  · exact List.nil_subset _

theorem grantedTo_congr {p : Protocol} {v : ID} {w t : World}
    (same : (t.appliance v.backend).storage = (w.appliance v.backend).storage) (node : NodeRef) :
    grantedTo p v t node = grantedTo p v w node := by
  unfold grantedTo
  rw [datasetOf_congr same]

theorem grantedTo_withProperty {p : Protocol} {v : ID} {w : World} {c : Client}
    (here : c.name = v.backend) {key : String} (value : String)
    (other : networksProperty ≠ key) (node : NodeRef) :
    grantedTo p v (withProperty c w v.datasetPath key value) node = grantedTo p v w node := by
  unfold grantedTo
  rcases datasetOf_withProperty here key value (w := w) with ⟨same, -⟩ | ⟨ds, ds', before, after, -, -, rest⟩
  · rw [same]
  · cases p <;> simp [before, after, localProperty, rest _ other]

/-- A call that changed the host list and no ledger. -/
structure Wrote (p : Protocol) (v : ID) (w t : World) (change : Set String → Set String) :
    Prop where
  ledger : ledgerOf v t = ledgerOf v w
  hosts : Clean p v w → hostsOf p v t = change (hostsOf p v w)
  clean : Clean p v w → Clean p v t

/-- A call that wrote the host list only. -/
structure Rewrote (p : Protocol) (v : ID) (w t : World) (mp : String) (hosts : List String) :
    Prop where
  storage : (t.appliance v.backend).storage = (w.appliance v.backend).storage
  share : exportAt p (t.appliance v.backend) mp =
    some (rewritten p (exportAt p (w.appliance v.backend) mp) hosts)

section

variable {p : Protocol} {v : ID} {w t : World} {mp : String} {removed : List String}

theorem Rewrote.entries {hosts : List String} (rewrote : Rewrote p v w t mp hosts) :
    entriesAt p (t.appliance v.backend) mp = normalForm p hosts := by
  rw [entriesAt_eq, rewrote.share]
  rfl

theorem hostsOf_at (found : mountpoint v w = some mp) :
    hostsOf p v w = hostsAt p (w.appliance v.backend) mp := by
  simp [hostsOf, found]

theorem wrote_granted (shared : Shared p) (found : mountpoint v w = some mp) {granted : List String}
    (rewrote : Rewrote p v w t mp (entriesAt p (w.appliance v.backend) mp ++ granted)) :
    Wrote p v w t (· ∪ addresses p granted) where
  ledger := ledgerOf_congr rewrote.storage
  hosts := by
    intro clean
    rw [hostsOf_at found, hostsOf_at ((mountpoint_congr rewrote.storage).trans found)]
    exact hostsAt_granted (normalises_shared shared) (clean mp found) rewrote.entries
  clean := by
    intro _ mp' found'
    have same := (mountpoint_congr rewrote.storage).symm.trans found'
    obtain rfl : mp = mp' := Option.some.inj (found.symm.trans same)
    exact clean_of_written (normalises_shared shared) rewrote.entries

/-- A host list without some addresses. -/
def remaining (p : Protocol) (current removed : List String) : List String :=
  normalForm p (current.filter fun h => h ∉ removed.map trimSpace)

/-- What is left once addresses were taken off. -/
def leftover (p : Protocol) (v : ID) (w : World) (removed : List String) : Set String :=
  match mountpoint v w with
  | none => ∅
  | some mp => {a | a ∈ ((entriesAt p (w.appliance v.backend) mp).filter
      fun h => h ∉ removed.map trimSpace).map trimSpace ∧ letsIn p a}

theorem leftover_congr (same : t.appliance v.backend = w.appliance v.backend) (removed : List String) :
    leftover p v t removed = leftover p v w removed := by
  unfold leftover mountpoint datasetOf
  rw [same]

/-- A call that took addresses off the share. -/
structure Stripped (p : Protocol) (v : ID) (w : World) (removed : List String) (t : World) :
    Prop where
  storage : (t.appliance v.backend).storage = (w.appliance v.backend).storage
  hosts : hostsOf p v t = leftover p v w removed
  clean : Clean p v w → Clean p v t

theorem stripped_written (shared : Shared p) (found : mountpoint v w = some mp)
    (rewrote : Rewrote p v w t mp (remaining p (entriesAt p (w.appliance v.backend) mp) removed)) :
    Stripped p v w removed t where
  storage := rewrote.storage
  hosts := by
    have law := normalises_shared shared
    rw [hostsOf_at ((mountpoint_congr rewrote.storage).trans found)]
    ext a
    simp only [leftover, found, hostsAt, rewrote.entries, Set.mem_ofPred_eq]
    refine and_congr_left fun client => ?_
    rw [remaining, law.twice client, law.mem client]
  clean := by
    intro _ mp' found'
    have same := (mountpoint_congr rewrote.storage).symm.trans found'
    obtain rfl : mp = mp' := Option.some.inj (found.symm.trans same)
    exact clean_of_written (normalises_shared shared) rewrote.entries

theorem stripped_nothing (empty : ∀ mp, mountpoint v w = some mp →
    entriesAt p (w.appliance v.backend) mp = []) :
    Stripped p v w removed w where
  storage := rfl
  hosts := by
    unfold hostsOf leftover
    cases found : mountpoint v w with
    | none => rfl
    | some mp => simp [hostsAt, empty mp found]
  clean := id

/-- On a clean share the addresses go and the rest stays. -/
theorem leftover_clean (clean : Clean p v w) (removed : List String) :
    leftover p v w removed = hostsOf p v w \ addresses p removed := by
  unfold leftover hostsOf
  cases found : mountpoint v w with
  | none => simp
  | some mp =>
    have tidy := clean mp found
    ext a
    constructor
    · rintro ⟨present, client⟩
      obtain ⟨e, kept, rfl⟩ := List.mem_map.mp present
      obtain ⟨listed, notRemoved⟩ := List.mem_filter.mp kept
      have trimmed : trimSpace e = e := tidy e listed (letsIn_of_trimmed client)
      rw [trimmed] at client ⊢
      exact ⟨⟨listed, client⟩, fun named => (of_decide_eq_true notRemoved) named.1⟩
    · rintro ⟨⟨listed, client⟩, notNamed⟩
      refine ⟨List.mem_map.mpr ⟨a, List.mem_filter.mpr ⟨listed, ?_⟩, tidy a listed client⟩, client⟩
      exact decide_eq_true fun named => notNamed ⟨named, client⟩

theorem Stripped.wrote (stripped : Stripped p v w removed t) :
    Wrote p v w t (· \ addresses p removed) where
  ledger := ledgerOf_congr stripped.storage
  hosts := fun clean => stripped.hosts.trans (leftover_clean clean removed)
  clean := stripped.clean

end

variable (p : Protocol) (v : ID) (w : World) (node : NodeRef)

def Listed (t : World) : Prop :=
  ∃ mp, mountpoint v w = some mp ∧
    Rewrote p v w t mp (entriesAt p (w.appliance v.backend) mp ++ grantedTo p v w node)

/-- An unpublish took addresses off the share. -/
def Unlisted (removed : List String) (t : World) : Prop :=
  t = w ∧ (∀ mp, mountpoint v w = some mp → exportAt p (w.appliance v.backend) mp = none) ∨
    ∃ mp, mountpoint v w = some mp ∧
      Rewrote p v w t mp (remaining p (entriesAt p (w.appliance v.backend) mp) removed)

/-- After a publish: the share has the node's addresses, or nothing happened. -/
def Granted {α : Type} (p : Protocol) (v : ID) (w : World) (node : NodeRef)
    (r : Except Err α) (t : World) : Prop :=
  (∃ e, r = .error e) ∧ t = w ∨ Wrote p v w t (· ∪ addresses p (grantedTo p v w node))

def Revoked (r : Except Err Unit) (t : World) : Prop :=
  (∃ e, r = .error e) ∧ t = w ∨ Wrote p v w t (· \ addresses p node.addrs)

theorem Listed.wrote {p : Protocol} {v : ID} {w t : World} {node : NodeRef}
    (shared : Shared p) (listed : Listed p v w node t) :
    Wrote p v w t (· ∪ addresses p (grantedTo p v w node)) := by
  obtain ⟨mp, found, rewrote⟩ := listed
  exact wrote_granted shared found rewrote

theorem Unlisted.stripped {p : Protocol} {v : ID} {w t : World} {removed : List String}
    (shared : Shared p) (unlisted : Unlisted p v w removed t) : Stripped p v w removed t := by
  rcases unlisted with ⟨rfl, absent⟩ | ⟨mp, found, rewrote⟩
  · exact stripped_nothing fun mp found => by rw [entriesAt_eq, absent mp found]; rfl
  · exact stripped_written shared found rewrote

/-- A failure without change, or what it should do. -/
abbrev Unless {α : Type} (w : World) (done : World → Prop) (r : Except Err α) (t : World) : Prop :=
  (∃ e, r = .error e) ∧ t = w ∨ done t

section

variable {α β : Type} {w : World} {done : World → Prop} {f : M α} {g : α → M β}

theorem Unless.failed (e : Err) : Unless w done (.error e : Except Err α) w := .inl ⟨⟨e, rfl⟩, rfl⟩

theorem Unless.mapError (ends : M.wp f (Unless w done) w) (change : Err → Err) :
    M.wp (f.mapError change) (Unless w done) w := by
  refine wp_mapError.mpr (wp_mono ends ?_)
  rintro r t (⟨⟨e, rfl⟩, rfl⟩ | did)
  · exact .failed _
  · exact .inr did

/-- What comes after the write only asks. -/
theorem Unless.seq (first : M.wp f (Unless w done) w)
    (rest : ∀ a t, M.wp (g a) (fun _ u => u = t) t) : M.wp (f >>= g) (Unless w done) w := by
  refine wp_seq first ?_ ?_
  · rintro e t (⟨-, rfl⟩ | did)
    · exact .failed e
    · exact .inr did
  · rintro a t (⟨⟨e, wrong⟩, -⟩ | did)
    · cases wrong
    · refine wp_mono (rest a t) ?_
      rintro r u rfl
      exact .inr did

end

section

variable {b : Server} {v : ID} {w : World} (here : b.client.name = v.backend) {hosts : List String}
  {mp : String}

omit here in
theorem asks_confine : Asks (b.confine v) w () := (asks_ofExcept fun _ _ => rfl).mapError _

include here

theorem asks_queryDataset : Asks (Filesystem.queryDataset b v) w (datasetOf v w) := by
  unfold Filesystem.queryDataset asInternal datasetOf
  rw [← here]
  exact (asks_datasetQuery b.client v.datasetPath).mapError _

theorem wp_volume {α : Type} {f : Option Appliance.Dataset → M α} {Q : Except Err α → World → Prop}
    (failed : ∀ e, Q (.error e) w) (rest : M.wp (f (datasetOf v w)) Q w) :
    M.wp (b.confine v >>= fun _ => Filesystem.queryDataset b v >>= f) Q w :=
  asks_confine.bind failed ((asks_queryDataset here).bind failed rest)

theorem asks_nfsShare (mp : String) :
    Asks (Nfs.shareByPath b.client mp) w ((w.appliance v.backend).nfs.byPath mp) := by
  have answer : (w.appliance v.backend).nfs.byPath mp =
      ((w.appliance b.client.name).nfs.shares.filter fun share => share.path == mp).head? := by
    rw [here, List.head?_filter]
    rfl
  rw [answer]
  exact asks_first (wp_query rfl)

theorem acted_nfs_storage (op : NfsOp) :
    ((w.acted b.client.name (.nfs op)).appliance v.backend).storage =
      (w.appliance v.backend).storage := by
  rw [← here]
  simp [acted, State.act]

theorem acted_nfs_share (op : NfsOp) (mp : String) :
    exportAt .nfs ((w.acted b.client.name (.nfs op)).appliance v.backend) mp =
      ((NfsTable.act op (w.appliance v.backend).nfs).2.byPath mp).map fun share =>
        { hosts := share.hosts, networks := share.networks } := by
  rw [← here]
  simp [exportAt, acted, State.act]

theorem wp_setHosts {share : NfsShare}
    (found : (w.appliance v.backend).nfs.byPath mp = some share) :
    M.wp (Nfs.setHosts b.client share.id hosts) (Unless w (Rewrote .nfs v w · mp hosts)) w := by
  have rewrote : Rewrote .nfs v w (w.acted b.client.name
      (.nfs (.update share.id (Nfs.withDenyHost hosts) []))) mp hosts := by
    refine ⟨acted_nfs_storage here _, ?_⟩
    rw [acted_nfs_share here, NfsTable.byPath_update _ _ found]
    rfl
  exact wp_middleware.mpr ⟨fun e => .failed _, fun e => .inr rewrote, .inr rewrote⟩

theorem wp_createShare {params : Nfs.Params} (absent : (w.appliance v.backend).nfs.byPath mp = none) :
    M.wp (Nfs.createShare b.client mp hosts params) (Unless w (Rewrote .nfs v w · mp hosts)) w := by
  have rewrote : Rewrote .nfs v w (w.acted b.client.name (.nfs (.create mp "truenas-csi"
      (Nfs.withDenyHost hosts) [] params.maproot))) mp hosts := by
    refine ⟨acted_nfs_storage here _, ?_⟩
    rw [acted_nfs_share here, NfsTable.byPath_create _ _ _ _ absent]
    rfl
  exact wp_middleware.mpr ⟨fun e => .failed _, fun e => .inr rewrote, .inr rewrote⟩

theorem wp_nfs_publishContext (cache : Nfs.Cache) :
    M.wp (Nfs.publishContext b cache v) (fun _ t => t = w) w := by
  unfold Nfs.publishContext
  refine wp_volume here (fun _ => rfl) ?_
  cases datasetOf v w with
  | none => rfl
  | some ds =>
    simp only
    split_ifs <;> rfl

theorem wp_nfs_grant {cache : Nfs.Cache} {node : NodeRef} {granted : List String} :
    M.wp (Nfs.grant b cache v node mp granted) (Unless w fun t =>
      Rewrote .nfs v w t mp (entriesAt .nfs (w.appliance v.backend) mp ++ granted)) w := by
  unfold Nfs.grant asInternal
  refine ((asks_nfsShare here mp).mapError _).bind Unless.failed ?_
  cases lookup : (w.appliance v.backend).nfs.byPath mp with
  | none =>
    -- A share that is gone is made again, with nothing but the grant on it.
    have before : entriesAt .nfs (w.appliance v.backend) mp = [] := by simp [entriesAt, lookup]
    rw [before, List.nil_append]
    exact Unless.seq (Unless.mapError (wp_createShare here lookup) _) fun _ _ => rfl
  | some share =>
    have before : entriesAt .nfs (w.appliance v.backend) mp = share.hosts := by
      simp [entriesAt, lookup]
    rw [before]
    by_cases serving : Nfs.serving share = true
    · simp only [serving, if_true]
      exact Unless.mapError (wp_setHosts here lookup) _
    · simp only [serving]
      exact .inl ⟨⟨_, rfl⟩, rfl⟩

/-- Publishing over NFS lists the node, or fails with nothing changed. -/
theorem wp_nfs_publish (node : NodeRef) :
    M.wp (Nfs.publish b {} v node) (Unless w (Listed .nfs v w node)) w := by
  unfold Nfs.publish
  refine wp_volume here Unless.failed ?_
  cases found : datasetOf v w with
  | none => exact .failed _
  | some ds =>
    have mounted : mountpoint v w = some (mountpointOf (some ds) v.datasetPath) := by
      simp [mountpoint, found]
    cases accepted : Nfs.grantHosts node.addrs (commaList (localProperty ds networksProperty)) with
    | error e =>
      dsimp only
      rw [accepted]
      exact .failed e
    | ok granted =>
      have same : grantedTo .nfs v w node = granted := by
        simp [grantedTo, found, accepted, Except.toOption]
      dsimp only
      rw [accepted]
      show M.wp (if granted = [] then _ else _) _ w
      split_ifs
      · exact .failed _
      · refine wp_mono (Unless.seq (wp_nfs_grant here) fun _ _ => wp_nfs_publishContext here {}) ?_
        exact fun r t ended => ended.imp_right fun rewrote => ⟨_, mounted, by rw [same]; exact rewrote⟩

theorem wp_nfs_unpublish (node : NodeRef) :
    M.wp (Nfs.unpublish b v node) (Unless w (Unlisted .nfs v w node.addrs)) w := by
  unfold Nfs.unpublish asInternal
  refine wp_volume here Unless.failed ?_
  cases found : datasetOf v w with
  | none => exact .inr (.inl ⟨rfl, by simp [mountpoint, found]⟩)
  | some ds =>
    have mounted : mountpoint v w = some (mountpointOf (some ds) v.datasetPath) := by
      simp [mountpoint, found]
    refine ((asks_nfsShare here _).mapError _).bind Unless.failed ?_
    cases lookup : (w.appliance v.backend).nfs.byPath (mountpointOf (some ds) v.datasetPath) with
    | none =>
      refine .inr (.inl ⟨rfl, fun mp found' => ?_⟩)
      obtain rfl := Option.some.inj (mounted.symm.trans found')
      simp [exportAt, lookup]
    | some share =>
      have before : entriesAt .nfs (w.appliance v.backend)
          (mountpointOf (some ds) v.datasetPath) = share.hosts := by simp [entriesAt, lookup]
      refine wp_mono (Unless.mapError (wp_setHosts here lookup) _) fun r t ended => ?_
      exact ended.imp_right fun rewrote => .inr ⟨_, mounted, by rw [before]; exact rewrote⟩

end

/-- What is written to the options of a share is read back without empty entries. -/
theorem hostsOfJson_hostsJson (hosts : List String) :
    Smb.hostsOfJson (Smb.hostsJson hosts) = hosts.filter (· ≠ "") := by
  unfold Smb.hostsOfJson Smb.hostsJson
  induction hosts with
  | nil => rfl
  | cons h rest ih =>
    by_cases empty : h = ""
    · subst empty
      simpa using ih
    · have chars : h.toList ≠ [] := fun none => empty (String.toList_inj.mp none)
      simpa [empty, chars] using ih

theorem hostsAllow_written (share : SmbShare) (purpose : String) (current : Dict Json)
    (allow : List String) : hostsAllow
      { share with purpose := purpose, options := accessOptions current allow } =
        normaliseHosts allow := by
  have stored : (accessOptions current allow).get? "hostsallow" =
      some (Smb.hostsJson (normaliseHosts allow)) := by
    unfold accessOptions
    rw [Dict.get?_set_ne _ _ (by decide), Dict.get?_set_self]
  have full : (normaliseHosts allow).filter (· ≠ "") = normaliseHosts allow := by
    refine List.filter_eq_self.mpr fun h present => ?_
    have listed : h ∈ (allow.map trimSpace).filter (· ≠ "") := by
      simpa only [normaliseHosts, mem_sortedSet] using present
    exact (List.mem_filter.mp listed).2
  simp only [hostsAllow, stored, hostsOfJson_hostsJson]
  exact full

section

variable {b : Server} {v : ID} {w : World} (here : b.client.name = v.backend) {allow : List String}
  {mp : String}

include here

theorem asks_smbShare (mp : String) :
    Asks (Smb.shareByPath b.client mp) w ((w.appliance v.backend).smb.byPath mp) := by
  have answer : (w.appliance v.backend).smb.byPath mp =
      ((w.appliance b.client.name).smb.shares.filter fun share => share.path == mp).head? := by
    rw [here, List.head?_filter]
    rfl
  rw [answer]
  exact asks_first (wp_query rfl)

theorem acted_smb_storage (op : SmbOp) :
    ((w.acted b.client.name (.smb op)).appliance v.backend).storage =
      (w.appliance v.backend).storage := by
  rw [← here]
  simp [acted, State.act]

theorem acted_smb_share (op : SmbOp) (mp : String) :
    exportAt .smb ((w.acted b.client.name (.smb op)).appliance v.backend) mp =
      ((SmbTable.act op (w.appliance v.backend).smb).2.byPath mp).map fun share =>
        { hosts := hostsAllow share, options := share.options } := by
  rw [← here]
  simp [exportAt, acted, State.act]

theorem wp_setHostsAllow {share : SmbShare}
    (found : (w.appliance v.backend).smb.byPath mp = some share) :
    M.wp (Smb.setHostsAllow b.client share allow) (Unless w (Rewrote .smb v w · mp allow)) w := by
  have rewrote (purpose : String) : Rewrote .smb v w (w.acted b.client.name (.smb (.update share.id
      purpose (accessOptions share.options allow)))) mp allow := by
    refine ⟨acted_smb_storage here _, ?_⟩
    rw [acted_smb_share here, SmbTable.byPath_update _ _ found]
    have allowed := hostsAllow_written share purpose share.options allow
    simp [exportAt, found, rewritten, normalForm, allowed]
  exact wp_middleware.mpr ⟨fun e => .failed _, fun e => .inr (rewrote _), .inr (rewrote _)⟩

theorem wp_createSmbShare {name : String} (absent : (w.appliance v.backend).smb.byPath mp = none) :
    M.wp (Smb.createShare b.client mp name allow) (Unless w (Rewrote .smb v w · mp allow)) w := by
  rcases SmbTable.byPath_create name "truenas-csi" Smb.purposeDefaultShare
      (accessOptions ∅ allow) absent with ⟨e, taken⟩ | ⟨share, made⟩
  · rw [← here] at taken
    have unchanged : w.acted b.client.name (.smb (.create mp name "truenas-csi"
        Smb.purposeDefaultShare (accessOptions ∅ allow))) = w := by
      simp only [acted, State.act, taken]
      exact setAppliance_appliance w b.client.name
    refine wp_middleware.mpr ⟨fun e => .failed _, fun e => ?_, ?_⟩
    · rw [unchanged]
      exact .failed _
    · rw [unchanged]
      simp only [State.act, taken]
      exact .failed e
  · have rewrote : Rewrote .smb v w (w.acted b.client.name (.smb (.create mp name "truenas-csi"
        Smb.purposeDefaultShare (accessOptions ∅ allow)))) mp allow := by
      refine ⟨acted_smb_storage here _, ?_⟩
      rw [acted_smb_share here, made]
      have allowed := hostsAllow_written share Smb.purposeDefaultShare ∅ allow
      simp [exportAt, absent, rewritten, normalForm, allowed]
    exact wp_middleware.mpr ⟨fun e => .failed _, fun e => .inr rewrote, .inr rewrote⟩

theorem wp_smb_publishContext (cache : Smb.Cache) :
    M.wp (Smb.publishContext b cache v) (fun _ t => t = w) w := by
  unfold Smb.publishContext
  refine wp_volume here (fun _ => rfl) ?_
  cases datasetOf v w with
  | none => rfl
  | some ds =>
    refine (asks_smbShare here _).attempt_bind (fun e => ?_) ?_
    · dsimp only
      split_ifs <;> rfl
    · dsimp only
      split_ifs <;> rfl

theorem wp_smb_grant {cache : Smb.Cache} {node : NodeRef} :
    M.wp (Smb.grant b cache v node mp) (Unless w fun t =>
      Rewrote .smb v w t mp (entriesAt .smb (w.appliance v.backend) mp ++ node.addrs)) w := by
  unfold Smb.grant Smb.queryShare asInternal
  refine ((asks_smbShare here mp).mapError _).bind Unless.failed ?_
  cases lookup : (w.appliance v.backend).smb.byPath mp with
  | none =>
    have before : entriesAt .smb (w.appliance v.backend) mp = [] := by simp [entriesAt, lookup]
    rw [before, List.nil_append]
    exact Unless.seq (Unless.mapError (wp_createSmbShare here lookup) _) fun _ _ => rfl
  | some share =>
    have before : entriesAt .smb (w.appliance v.backend) mp = hostsAllow share := by
      simp [entriesAt, lookup]
    rw [before]
    by_cases serving : Smb.serving share = true
    · simp only [serving, if_true]
      exact Unless.mapError (wp_setHostsAllow here lookup) _
    · simp only [serving]
      exact .inl ⟨⟨_, rfl⟩, rfl⟩

/-- So does publishing over SMB. -/
theorem wp_smb_publish (node : NodeRef) :
    M.wp (Smb.publish b {} v node) (Unless w (Listed .smb v w node)) w := by
  unfold Smb.publish
  refine wp_volume here Unless.failed ?_
  cases found : datasetOf v w with
  | none => exact .failed _
  | some ds =>
    have mounted : mountpoint v w = some (mountpointOf (some ds) v.datasetPath) := by
      simp [mountpoint, found]
    have same : grantedTo .smb v w node = node.addrs := by simp [grantedTo, found]
    split_ifs
    · exact .failed _
    · refine wp_mono (Unless.seq (wp_smb_grant here) fun _ _ => wp_smb_publishContext here {}) ?_
      exact fun r t ended => ended.imp_right fun rewrote => ⟨_, mounted, by rw [same]; exact rewrote⟩

theorem wp_smb_unpublish (node : NodeRef) :
    M.wp (Smb.unpublish b v node) (Unless w (Unlisted .smb v w node.addrs)) w := by
  unfold Smb.unpublish Smb.queryShare asInternal
  refine wp_volume here Unless.failed ?_
  cases found : datasetOf v w with
  | none => exact .inr (.inl ⟨rfl, by simp [mountpoint, found]⟩)
  | some ds =>
    have mounted : mountpoint v w = some (mountpointOf (some ds) v.datasetPath) := by
      simp [mountpoint, found]
    refine ((asks_smbShare here _).mapError _).bind Unless.failed ?_
    cases lookup : (w.appliance v.backend).smb.byPath (mountpointOf (some ds) v.datasetPath) with
    | none =>
      refine .inr (.inl ⟨rfl, fun mp found' => ?_⟩)
      obtain rfl := Option.some.inj (mounted.symm.trans found')
      simp [exportAt, lookup]
    | some share =>
      have before : entriesAt .smb (w.appliance v.backend)
          (mountpointOf (some ds) v.datasetPath) = hostsAllow share := by
        simp [entriesAt, lookup]
      refine wp_mono (Unless.mapError (wp_setHostsAllow here lookup) _) fun r t ended => ?_
      exact ended.imp_right fun rewrote => .inr ⟨_, mounted, by rw [before]; exact rewrote⟩

end

section

variable {h : Handle} {v : ID} {w : World} (shared : Shared h.protocol)
  (here : h.server.client.name = v.backend) (node : NodeRef)

include shared here

theorem wp_publish_listed :
    M.wp (h.publish v node) (Unless w (Listed h.protocol v w node)) w := by
  unfold Handle.publish
  rcases shared with nfs | smb
  · rw [nfs]
    exact wp_nfs_publish here node
  · rw [smb]
    exact wp_smb_publish here node

theorem wp_unpublish_unlisted :
    M.wp (h.unpublish v node) (Unless w (Unlisted h.protocol v w node.addrs)) w := by
  unfold Handle.unpublish
  rcases shared with nfs | smb
  · rw [nfs]
    exact wp_nfs_unpublish here node
  · rw [smb]
    exact wp_smb_unpublish here node

/-- One rule for publishing on either kind of share, -/
theorem wp_publish_shared : M.wp (h.publish v node) (Granted h.protocol v w node) w :=
  wp_mono (wp_publish_listed shared here node) fun _ _ ended =>
    ended.imp_right (Listed.wrote shared)

theorem wp_unpublish_stripped :
    M.wp (h.unpublish v node) (Unless w (Stripped h.protocol v w node.addrs)) w :=
  wp_mono (wp_unpublish_unlisted shared here node) fun _ _ ended =>
    ended.imp_right (Unlisted.stripped shared)

/-- and one for unpublishing. -/
theorem wp_unpublish_shared : M.wp (h.unpublish v node) (Revoked h.protocol v w node) w :=
  wp_mono (wp_unpublish_stripped shared here node) fun _ _ ended => ended.imp_right Stripped.wrote

end

end TruenasCsi.Fencing
