import TruenasCsi.Backend.Footprint
import TruenasCsi.Fencing.Rules
import TruenasCsi.Fencing.Shares

/-!
# The RPCs refine the fence

## Main results

`wp_controllerPublishVolume` and `wp_controllerUnpublishVolume`: whatever fails, each RPC ends in a state
that an operation of the abstract fence allows.

## Proof strategy

The backend's part and the ledger's part are proved apart: a publish only adds to the share and spares the
ledger property (`wp_spares`), saving the ledger spares the share (`wp_saveGrants`).
-/

namespace TruenasCsi.Fencing

open Backend Truenas Appliance Csi Prog Volume World

/-- Calls that leave the ledger property alone. -/
def SparesLedgers (_ : String) (op : DatasetOp) : Prop :=
  ∃ id key value, key ≠ publishedProperty ∧
    op = .update id { userPropertiesUpdate := [(key, value)] }

theorem localLedger_setProperty (s : Storage) {id key : String} (value path : String)
    (other : key ≠ publishedProperty) :
    ledgerText ((Storage.act (.update id { userPropertiesUpdate := [(key, value)] }) s).2.dataset? path) =
      ledgerText (s.dataset? path) := by
  rcases Storage.act_setProperty s id key value with ⟨unchanged, -⟩ | ⟨d, present, changed⟩
  · rw [unchanged]
  · rw [changed]
    have same : ({ d with userProperties := d.userProperties.set key value } :
        DatasetState).userProperties.get? publishedProperty =
          d.userProperties.get? publishedProperty :=
      Dict.get?_set_ne _ _ other.symm
    have read := Storage.userProperty_put_same present same path
    by_cases here : path = id
    · subst here
      rw [Storage.dataset?_put_self, Storage.dataset?_of_get? present]
      simp only [ledgerText, localProperty, Storage.view, read]
    · have found : (s.put id { d with userProperties := d.userProperties.set key value }).datasets.get?
          path = s.datasets.get? path := Dict.get?_set_ne _ _ here
      simp only [Storage.dataset?, found]
      cases s.datasets.get? path with
      | none => rfl
      | some e => simp only [Option.map_some, ledgerText, localProperty, Storage.view, read]

variable {v : ID} {w : World} {p : Protocol} {t : World}

theorem ledgerText_acted {op : Op} {backend : String}
    (spares : Call.Within SparesLedgers (.api backend op)) :
    ledgerText (datasetOf v (w.acted backend op)) = ledgerText (datasetOf v w) := by
  unfold datasetOf acted
  by_cases here : v.backend = backend
  · subst here
    rw [setAppliance_self]
    cases op with
    | dataset op =>
      rcases spares with reads | ⟨id, key, value, other, rfl⟩
      · simp only [State.act, Storage.act_reads reads]
      · exact localLedger_setProperty _ _ _ other
    | nfs op => rfl
    | smb op => rfl
    | iscsi op => rfl
    | nvmet op => rfl
  · rw [setAppliance_other _ _ here]

theorem ledgerOf_of_text
    (same : ledgerText (datasetOf v t) = ledgerText (datasetOf v w)) : ledgerOf v t = ledgerOf v w := by
  unfold ledgerOf
  rw [same]

theorem ledgerOf_handle (fault : Fault) (c : Call) (t : World)
    (spares : Call.Within SparesLedgers c) (before : ledgerOf v t = ledgerOf v w) :
    ledgerOf v (handle fault c t).2 = ledgerOf v w := by
  rw [← before]
  cases c with
  | api backend op =>
    cases fault with
    | none => exact ledgerOf_of_text (ledgerText_acted spares)
    | refused e => rfl
    | lost e => exact ledgerOf_of_text (ledgerText_acted spares)
  | client backend =>
    by_cases dialled : backend ∈ t.process.connected
    · simp [handle, dialled]
    · cases fault with
      | none =>
        simp only [handle, dialled, if_false]
        rfl
      | refused e => simp [handle, dialled]
      | lost e => simp [handle, dialled]
  | process op => cases fault <;> rfl

/-- A program that never writes the property keeps every ledger. -/
theorem wp_spares {α : Type} {p : M α} (within : M.Within SparesLedgers p) (v : ID)
    (w : World) : M.wp p (fun _ t => ledgerOf v t = ledgerOf v w) w :=
  within.wp ledgerOf_handle rfl

/-- A block volume has no host list. -/
theorem hostsOf_block (block : ¬Shared p) (v : ID) (w : World) : hostsOf p v w = ∅ := by
  have empty : ∀ a mp, entriesAt p a mp = [] := by
    intro a mp
    cases p with
    | nfs => exact absurd (.inl rfl) block
    | smb => exact absurd (.inr rfl) block
    | iscsi => rfl
    | nvme => rfl
  unfold hostsOf
  cases mountpoint v w with
  | none => rfl
  | some mp => simp [hostsAt, empty]

theorem clean_block (block : ¬Shared p) (v : ID) (w : World) : Clean p v w := by
  intro mp _ h present
  cases p with
  | nfs => exact absurd (.inl rfl) block
  | smb => exact absurd (.inr rfl) block
  | iscsi => cases present
  | nvme => cases present

theorem wrote_block (block : ¬Shared p)
    (ledger : ledgerOf v t = ledgerOf v w) {change : Set String → Set String}
    (nothing : change ∅ = ∅) : Wrote p v w t change where
  ledger := ledger
  hosts := by
    intro _
    rw [hostsOf_block block, hostsOf_block block, nothing]
  clean := fun _ => clean_block block v t

section

variable {h : Handle} {v : ID} {w : World} (here : h.server.client.name = v.backend)

theorem within_publish_block (block : ¬Shared h.protocol) (node : NodeRef) :
    M.Within SparesLedgers (h.publish v node) := by
  unfold Handle.publish
  cases found : h.protocol with
  | nfs => exact absurd (.inl found) block
  | smb => exact absurd (.inr found) block
  | iscsi =>
    have other : lunProperty ≠ publishedProperty := by decide
    exact Iscsi.within_publish (fun lun => ⟨_, _, _, other, rfl⟩) node
  | nvme => exact Nvme.within_publish _ _ _

theorem within_unpublish_block (block : ¬Shared h.protocol) (node : NodeRef) :
    M.Within SparesLedgers (h.unpublish v node) := by
  unfold Handle.unpublish
  cases found : h.protocol with
  | nfs => exact absurd (.inl found) block
  | smb => exact absurd (.inr found) block
  | iscsi => exact Iscsi.within_unpublish _ _ _
  | nvme => exact Nvme.within_unpublish _ _ _

theorem grantedTo_block (block : ¬Shared p) (node : NodeRef) : grantedTo p v w node = [] := by
  cases p with
  | nfs => exact absurd (.inl rfl) block
  | smb => exact absurd (.inr rfl) block
  | iscsi => rfl
  | nvme => rfl

include here

/-- What the backend does at a publish, on all four protocols, -/
theorem wp_publish (node : NodeRef) : M.wp (h.publish v node) (Granted h.protocol v w node) w := by
  by_cases shared : Shared h.protocol
  · exact wp_publish_shared shared here node
  · refine wp_mono (wp_spares (within_publish_block shared node) v w) ?_
    intro r t ledger
    refine .inr (wrote_block shared ledger ?_)
    simp [grantedTo_block shared, addresses]

/-- and at an unpublish. -/
theorem wp_unpublish (node : NodeRef) : M.wp (h.unpublish v node) (Revoked h.protocol v w node) w := by
  by_cases shared : Shared h.protocol
  · exact wp_unpublish_shared shared here node
  · refine wp_mono (wp_spares (within_unpublish_block shared node) v w) ?_
    intro r t ledger
    exact .inr (wrote_block shared ledger (Set.empty_sdiff _))

end

section

variable {c : Client} {p : Protocol} {v : ID} {w : World} (here : c.name = v.backend) {g : Grants}

include here

theorem view_saved {text : String} (encoded : g.encode = .ok text) :
    let t := withProperty c w v.datasetPath publishedProperty text
    (view p v t = view p v w ∧ (Storage.act (.update v.datasetPath
          { userPropertiesUpdate := [(publishedProperty, text)] })
          (w.appliance v.backend).storage).1.isOk = false ∨
      view p v t = ⟨fun node => (g.get? node).map (addresses p), hostsOf p v w⟩) ∧
      (Clean p v w → Clean p v t) := by
  intro t
  have hosts : hostsOf p v t = hostsOf p v w := hostsOf_withProperty here _ _
  refine ⟨?_, clean_withProperty here _ _⟩
  rcases ledgerOf_saved here encoded (w := w) with ⟨same, refused⟩ | stored
  · left
    refine ⟨?_, refused⟩
    have ledger : ledgerOf v t = ledgerOf v w := ledgerOf_of_text (congrArg ledgerText same)
    unfold view
    rw [ledger, hosts]
  · right
    unfold view
    rw [hosts]
    refine Fence.State.ext (funext fun node => ?_) rfl
    exact congrArg (Option.map (addresses p)) (stored node)

theorem wp_saveGrants_hosts :
    M.wp (saveGrants c v g) (fun _ t => hostsOf p v t = hostsOf p v w) w := by
  unfold saveGrants
  cases encoded : g.encode with
  | error e => rfl
  | ok text =>
    refine wp_mapError.mpr ?_
    exact wp_setUserProperty (fun _ => rfl) (fun _ => hostsOf_withProperty here _ _)
      fun _ => hostsOf_withProperty here _ _

/-- The ledger is written whole, or nothing is. -/
theorem wp_saveGrants (clean : Clean p v w) :
    M.wp (saveGrants c v g) (fun r t => Clean p v t ∧
      (r.isOk = false ∧ view p v t = view p v w ∨
        view p v t = ⟨fun node => (g.get? node).map (addresses p), hostsOf p v w⟩)) w := by
  unfold saveGrants
  cases encoded : g.encode with
  | error e => exact ⟨clean, .inl ⟨rfl, rfl⟩⟩
  | ok text =>
    refine wp_mapError.mpr ?_
    have outcome := view_saved here encoded (w := w) (p := p)
    refine wp_setUserProperty ?_ ?_ ?_
    · intro e
      exact ⟨clean, .inl ⟨rfl, rfl⟩⟩
    · intro e
      refine ⟨outcome.2 clean, ?_⟩
      rcases outcome.1 with ⟨same, -⟩ | stored
      · exact .inl ⟨rfl, same⟩
      · exact .inr stored
    · intro accepted
      refine ⟨outcome.2 clean, ?_⟩
      rcases outcome.1 with ⟨-, refused⟩ | stored
      · rw [here] at accepted
        rw [refused] at accepted
        cases accepted
      · exact .inr stored

end

/-- What a publish can leave behind. -/
def PublishOutcome (c : Controller) (p : Protocol) (v : ID) (nodeID : String)
    (mode : AccessMode) (w : World) (ok : Bool) (t : World) : Prop :=
  Clean p v t ∧ (ok = false ∧ t.appliance = w.appliance ∨
    ∃ node, c.nodes.resolve nodeID = .ok node ∧
      (singleNode mode = true → (ledgerOf v w).others nodeID = []) ∧
      Fence.Granting (view p v w) nodeID (addresses p node.addrs)
        (addresses p (grantedTo p v w node)) ok (view p v t))

section

variable {c : Controller} {p : Protocol} {v : ID} {nodeID : String} {mode : AccessMode}
  {w t u : World} {ok : Bool} {node : NodeRef}

theorem publishOutcome_refused (clean : Clean p v w) (same : t.appliance = w.appliance) :
    PublishOutcome c p v nodeID mode w false t :=
  ⟨clean_congr (by rw [same]) clean, .inl ⟨rfl, same⟩⟩

theorem PublishOutcome.from_same (same : t.appliance = w.appliance)
    (outcome : PublishOutcome c p v nodeID mode t ok u) : PublishOutcome c p v nodeID mode w ok u := by
  obtain ⟨clean, refused | ⟨node, resolved, alone, granting⟩⟩ := outcome
  · exact ⟨clean, .inl ⟨refused.1, refused.2.trans same⟩⟩
  · have dataset : datasetOf v t = datasetOf v w := datasetOf_congr (by rw [same])
    have ledger : ledgerOf v t = ledgerOf v w := ledgerOf_congr (by rw [same])
    have fence : view p v t = view p v w := view_congr (by rw [same])
    have granted : grantedTo p v t node = grantedTo p v w node := by
      simp only [grantedTo, dataset]
    rw [ledger] at alone
    rw [fence, granted] at granting
    exact ⟨clean, .inr ⟨node, resolved, alone, granting⟩⟩

theorem PublishOutcome.to_same (same : u.appliance = t.appliance)
    (outcome : PublishOutcome c p v nodeID mode w ok t) : PublishOutcome c p v nodeID mode w ok u := by
  obtain ⟨clean, refused | ⟨node, resolved, alone, granting⟩⟩ := outcome
  · exact ⟨clean_congr (by rw [same]) clean, .inl ⟨refused.1, same.trans refused.2⟩⟩
  · have fence : view p v u = view p v t := view_congr (by rw [same])
    refine ⟨clean_congr (by rw [same]) clean, .inr ⟨node, resolved, alone, ?_⟩⟩
    rwa [fence]

theorem ledger_set (g : Grants) (node : String) (addrs : List String) :
    (fun m => ((g.set node addrs).get? m).map (addresses p)) =
      Function.update (fun m => (g.get? m).map (addresses p)) node (some (addresses p addrs)) := by
  funext m
  rw [Dict.get?_set]
  by_cases same : m = node
  · subst same
    simp
  · simp [same]

theorem granting_unrecorded (clean : Clean p v w)
    (wrote : Wrote p v w t (· ∪ addresses p (grantedTo p v w node))) (nodeID : String)
    (addrs : Set String) :
    Fence.Granting (view p v w) nodeID addrs (addresses p (grantedTo p v w node)) false
      (view p v t) := by
  have left : view p v t = ⟨(view p v w).ledger,
      (view p v w).hosts ∪ addresses p (grantedTo p v w node)⟩ := by
    unfold view
    rw [wrote.ledger, wrote.hosts clean]
  rw [left]
  exact .unrecorded

theorem Granted.wrote {α : Type} {a : α} (granted : Granted p v w node (.ok a) t) :
    Wrote p v w t (· ∪ addresses p (grantedTo p v w node)) := by
  rcases granted with ⟨⟨e, wrong⟩, -⟩ | wrote
  · cases wrong
  · exact wrote

/-- Granting comes before recording: if the record fails, the address stays on the share. -/
theorem wp_grant {h : Handle} {cl : Client}
    (protocol : h.protocol = p) (here : h.server.client.name = v.backend) (also : cl.name = v.backend)
    (clean : Clean p v w) (resolved : c.nodes.resolve nodeID = .ok node) {grants : Grants}
    (read : ledgerOf v w = grants) (alone : singleNode mode = true → grants.others nodeID = []) :
    M.wp (withStatus (h.publish v node) >>= fun pc =>
        withStatus (saveGrants cl v (grants.set node.id node.addrs)) >>= fun _ => pure pc)
      (fun r t => PublishOutcome c p v nodeID mode w r.isOk t) w := by
  obtain rfl : node.id = nodeID := c.nodes.named resolved
  subst protocol
  rw [← read] at alone
  refine wp_withStatus_seq (wp_publish here node) ?_ ?_
  · rintro e t (⟨-, rfl⟩ | wrote)
    · exact publishOutcome_refused clean rfl
    · exact ⟨wrote.clean clean, .inr ⟨node, resolved, alone, granting_unrecorded clean wrote _ _⟩⟩
  · intro pc t granted
    have wrote := granted.wrote
    have made := granting_unrecorded clean wrote node.id (addresses h.protocol node.addrs)
    have recorded : ∀ ok u, view h.protocol v u = ⟨fun m => ((grants.set node.id
        node.addrs).get? m).map (addresses h.protocol), hostsOf h.protocol v t⟩ →
        Fence.Granting (view h.protocol v w) node.id (addresses h.protocol node.addrs)
          (addresses h.protocol (grantedTo h.protocol v w node)) ok (view h.protocol v u) := by
      intro ok u stored
      rw [stored, ledger_set, wrote.hosts clean, ← read]
      exact .recorded ok
    refine wp_withStatus_seq (wp_saveGrants also (wrote.clean clean)) ?_ ?_
    · rintro e u ⟨still, ⟨-, same⟩ | stored⟩
      · exact ⟨still, .inr ⟨node, resolved, alone, by rw [same]; exact made⟩⟩
      · exact ⟨still, .inr ⟨node, resolved, alone, recorded false u stored⟩⟩
    · rintro _ u ⟨still, ⟨wrong, -⟩ | stored⟩
      · cases wrong
      · exact ⟨still, .inr ⟨node, resolved, alone, recorded true u stored⟩⟩

/-- A publish is a step of the abstract fence. -/
theorem wp_controllerPublishVolume {handle : String} (parsed : parseID handle = .ok v)
    (known : Protocol.factoryFor v.protocol = some p) (clean : Clean p v w)
    (capability : VolumeCapability) :
    M.wp (c.controllerPublishVolume ⟨handle, nodeID, some capability⟩) (fun r t =>
      PublishOutcome c p v nodeID capability.accessMode w r.isOk t) w := by
  refine wp_publishing parsed known (fun ok t u same => PublishOutcome.to_same same)
    (publishOutcome_refused clean rfl) ?_
  intro b node t _ resolved alone same
  have tidy : Clean p v t := clean_congr (by rw [same]) clean
  refine wp_mono (wp_grant rfl rfl rfl tidy resolved (ledgerOf_congr (by rw [same])) alone) ?_
  intro r u outcome
  exact outcome.from_same same

end

/-- The nodes an unpublish withdraws, and what of each. -/
def withdrawn (v : ID) (nodeID : String) (w : World) : Set String :=
  {m | m ∈ Controller.targets nodeID (ledgerOf v w)}

/-- The addresses an unpublish takes from a node: recorded and known. -/
def takenFrom (c : Controller) (p : Protocol) (v : ID) (w : World) (m : String) : Set String :=
  addresses p (c.revoked (ledgerOf v w) m).addrs

theorem addresses_union (a b : List String) :
    addresses p (union a b) = addresses p a ∪ addresses p b := by
  rw [← addresses_append]
  ext h
  refine and_congr_left fun client => ?_
  simp only [union, List.mem_map, Text.mem_sortedSet, List.mem_filter, decide_eq_true_eq]
  refine exists_congr fun r => and_congr_left fun trimmed => and_iff_left ?_
  rintro rfl
  have blank : Text.trimSpace "" = "" := by decide
  rw [← trimmed, blank] at client
  simp [letsIn] at client

/-- What an unpublish can leave behind. -/
def UnpublishOutcome (c : Controller) (p : Protocol) (v : ID) (nodeID : String)
    (w : World) (ok : Bool) (t : World) : Prop :=
  Clean p v t ∧ Fence.Withdrawal (view p v w) (withdrawn v nodeID w) (takenFrom c p v w) ok (view p v t)

/-- A ledger that has lost some nodes and kept the rest. -/
structure Without (g : Grants) (done : Set String) (left : Grants) : Prop where
  gone : ∀ m ∈ done, left.get? m = none
  kept : ∀ m ∉ done, left.get? m = g.get? m

/-- The same world with some nodes withdrawn. -/
structure Withdrew (p : Protocol) (v : ID) (w : World) (revoked : String → Set String)
    (done : Set String) (t : World) : Prop where
  clean : Clean p v t
  ledger : ledgerOf v t = ledgerOf v w
  hosts : hostsOf p v t = hostsOf p v w \ Fence.taken revoked done

section

variable {c : Controller} {p : Protocol} {v : ID} {nodeID : String} {w t u : World} {ok : Bool}
  {revoked : String → Set String} {done : Set String}

theorem taken_insert (m : String) :
    Fence.taken revoked (insert m done) = revoked m ∪ Fence.taken revoked done :=
  Set.biUnion_insert ..

theorem Withdrew.view_eq (state : Withdrew p v w revoked done t) :
    view p v t = ⟨(view p v w).ledger, (view p v w).hosts \ Fence.taken revoked done⟩ := by
  unfold view
  rw [state.ledger, state.hosts]

theorem Withdrew.insert {node : NodeRef} {m : String} (state : Withdrew p v w revoked done t)
    (what : revoked m = addresses p node.addrs)
    (wrote : Wrote p v t u (· \ addresses p node.addrs)) :
    Withdrew p v w revoked (insert m done) u where
  clean := wrote.clean state.clean
  ledger := wrote.ledger.trans state.ledger
  hosts := by
    rw [wrote.hosts state.clean, state.hosts, taken_insert, what, Set.sdiff_sdiff, Set.union_comm]

theorem Without.nobody (g : Grants) : Without g ∅ g where
  gone := fun _ none => none.elim
  kept := fun _ _ => rfl

variable {g left : Grants} {h : Handle}

theorem Without.delete (without : Without g done left) (m : String) :
    Without g (insert m done) (left.delete m) where
  gone := by
    intro k member
    rw [Dict.get?_delete]
    split_ifs with same
    · rfl
    · exact without.gone k (member.resolve_left same)
  kept := by
    intro k other
    have different : k ≠ m := fun same => other (.inl same)
    rw [Dict.get?_delete, if_neg different]
    exact without.kept k fun member => other (.inr member)

theorem revoked_congr {g' : Grants} {m : String} (same : g'.get? m = g.get? m) :
    c.revoked g' m = c.revoked g m := by
  simp only [Controller.revoked, Dict.getD, same]

/-- Withdrawing nodes in turn, after those `done`. -/
theorem wp_revokeAll (protocol : h.protocol = p)
    (here : h.server.client.name = v.backend) (g : Grants) (nodes : List String)
    (distinct : nodes.Nodup)
    (fresh : ∀ m ∈ nodes, m ∉ done) (without : Without g done left)
    (state : Withdrew p v w (fun m => addresses p (c.revoked g m).addrs) done t) :
    M.wp (c.revokeAll h v left nodes) (fun r u =>
      (∀ left, r = .ok left → Without g (done ∪ {m | m ∈ nodes}) left ∧
        Withdrew p v w (fun m => addresses p (c.revoked g m).addrs) (done ∪ {m | m ∈ nodes}) u) ∧
      ∃ part ⊆ done ∪ {m | m ∈ nodes},
        Withdrew p v w (fun m => addresses p (c.revoked g m).addrs) part u) t := by
  induction nodes generalizing done left t with
  | nil =>
    have whole : done ∪ {m | m ∈ ([] : List String)} = done := by simp
    rw [whole]
    refine ⟨?_, done, subset_rfl, state⟩
    intro left' same
    cases same
    exact ⟨without, state⟩
  | cons m rest ih =>
    have whole : done ∪ {k | k ∈ m :: rest} = insert m done ∪ {k | k ∈ rest} := by
      ext k
      simp only [Set.mem_union, Set.mem_ofPred_eq, List.mem_cons, Set.mem_insert_iff]
      tauto
    rw [whole]
    have own : c.revoked left m = c.revoked g m :=
      revoked_congr (without.kept m (fresh m List.mem_cons_self))
    subst protocol
    refine wp_withStatus_seq (wp_unpublish here _) ?_ ?_
    · -- The withdrawal of this node failed, before or after its effect.
      rintro e u outcome
      refine ⟨fun left' wrong => (by cases wrong), ?_⟩
      rcases outcome with ⟨-, rfl⟩ | wrote
      · exact ⟨done, fun k member => Or.inl (.inr member), state⟩
      · rw [own] at wrote
        exact ⟨insert m done, fun k member => Or.inl member, state.insert rfl wrote⟩
    · rintro _ u (⟨⟨e, wrong⟩, -⟩ | wrote)
      · cases wrong
      · rw [own] at wrote
        refine ih (List.nodup_cons.mp distinct).2 ?_ (without.delete m) (state.insert rfl wrote)
        rintro k later (rfl | earlier)
        · exact (List.nodup_cons.mp distinct).1 later
        · exact fresh k (List.mem_cons_of_mem m later) earlier

theorem targets_nodup (nodeID : String) (g : Grants) : (Controller.targets nodeID g).Nodup := by
  unfold Controller.targets
  split_ifs
  · exact (List.perm_insertionSort _ _).nodup_iff.mpr g.nodupKeys
  · exact List.nodup_singleton nodeID

theorem struck_ledger (without : Without g done left) :
    (fun m => (left.get? m).map (addresses p)) =
      Fence.struck (fun m => (g.get? m).map (addresses p)) done := by
  funext m
  by_cases member : m ∈ done
  · rw [Fence.struck_mem member, without.gone m member, Option.map_none]
  · rw [Fence.struck_not_mem member, without.kept m member]

theorem unpublishOutcome_failed (clean : Clean p v w) (same : t.appliance = w.appliance) :
    UnpublishOutcome c p v nodeID w false t := by
  have fence : view p v t = view p v w := view_congr (by rw [same])
  refine ⟨clean_congr (by rw [same]) clean, ?_⟩
  rw [fence]
  exact .nothing

theorem UnpublishOutcome.from_same (same : t.appliance = w.appliance)
    (outcome : UnpublishOutcome c p v nodeID t ok u) : UnpublishOutcome c p v nodeID w ok u := by
  have ledger : ledgerOf v t = ledgerOf v w := ledgerOf_congr (by rw [same])
  have fence : view p v t = view p v w := view_congr (by rw [same])
  have taken : takenFrom c p v t = takenFrom c p v w := by
    funext m
    simp only [takenFrom, ledger]
  obtain ⟨clean, step⟩ := outcome
  unfold withdrawn at step
  rw [ledger, fence, taken] at step
  exact ⟨clean, step⟩

theorem UnpublishOutcome.to_same (same : u.appliance = t.appliance)
    (outcome : UnpublishOutcome c p v nodeID w ok t) : UnpublishOutcome c p v nodeID w ok u := by
  have fence : view p v u = view p v t := view_congr (by rw [same])
  exact ⟨clean_congr (by rw [same]) outcome.1, by rw [fence]; exact outcome.2⟩

theorem unpublishOutcome_gone (clean : Clean p v w) (gone : datasetOf v w = none) :
    UnpublishOutcome c p v nodeID w true w := by
  refine ⟨clean, .idle ?_ ?_⟩
  · intro m _
    simp [view, ledgerOf_gone gone]
  · simp [view, hostsOf, mountpoint, gone]

/-- The loop over the nodes: whatever it got to is off the share and off the ledger it returns. -/
theorem wp_withdraw {cl : Client} (protocol : h.protocol = p)
    (here : h.server.client.name = v.backend) (also : cl.name = v.backend) (clean : Clean p v w)
    (read : ledgerOf v w = g) :
    M.wp (c.revokeAll h v g (Controller.targets nodeID g) >>= fun left => withStatus (saveGrants cl v left))
      (fun r t => UnpublishOutcome c p v nodeID w r.isOk t) w := by
  have nodes : withdrawn v nodeID w = {m | m ∈ Controller.targets nodeID g} := by
    rw [withdrawn, read]
  have start : Withdrew p v w (fun m => addresses p (c.revoked g m).addrs) ∅ w :=
    ⟨clean, rfl, by simp [Fence.taken]⟩
  have taken : takenFrom c p v w = fun m => addresses p (c.revoked g m).addrs := by
    funext m
    rw [takenFrom, read]
  refine wp_seq (wp_revokeAll protocol here g (Controller.targets nodeID g)
    (targets_nodup nodeID g) (fun m _ => Set.notMem_empty m) (.nobody g) start) ?_ ?_
  · rintro e u ⟨-, part, within, state⟩
    refine ⟨state.clean, ?_⟩
    rw [state.view_eq, taken]
    -- The loop broke off: what it revoked is still in the ledger.
    refine .unrecorded part ?_
    rw [nodes]
    simpa using within
  · rintro left u ⟨ended, -⟩
    obtain ⟨without, state⟩ := ended left rfl
    rw [Set.empty_union, ← nodes] at without state
    refine wp_mapError.mpr ?_
    refine wp_mono (wp_saveGrants also state.clean) ?_
    rintro r z ⟨still, ⟨failed, same'⟩ | stored⟩
    · cases r with
      | ok _ => cases failed
      | error e =>
        refine ⟨still, ?_⟩
        rw [same', state.view_eq, taken]
        -- All was revoked, and the ledger could not be written.
        exact .unrecorded _ subset_rfl
    · refine ⟨still, ?_⟩
      rw [stored, struck_ledger without, state.hosts, taken, ← read]
      exact .recorded _

theorem unpublishOutcome_idle (clean : Clean p v w)
    (nobody : Controller.targets nodeID (ledgerOf v w) = []) :
    UnpublishOutcome c p v nodeID w true w := by
  have empty : withdrawn v nodeID w = ∅ := by simp [withdrawn, nobody]
  refine ⟨clean, .idle ?_ ?_⟩
  · intro m member
    rw [empty] at member
    cases member
  · simp [empty, Fence.taken]

/-- An unpublish as an operation on the fence. -/
theorem wp_controllerUnpublishVolume {handle : String} (parsed : parseID handle = .ok v)
    (known : Protocol.factoryFor v.protocol = some p) (clean : Clean p v w) :
    M.wp (c.controllerUnpublishVolume ⟨handle, nodeID⟩) (fun r t =>
      UnpublishOutcome c p v nodeID w r.isOk t) w := by
  refine wp_unpublishing parsed known (fun ok t u same => UnpublishOutcome.to_same same)
    (unpublishOutcome_failed clean rfl) (unpublishOutcome_gone clean) (unpublishOutcome_idle clean) ?_
  intro b t _ same
  have tidy : Clean p v t := clean_congr (by rw [same]) clean
  refine wp_mono (wp_withdraw rfl rfl rfl tidy (ledgerOf_congr (by rw [same]))) ?_
  intro r u outcome
  exact outcome.from_same same

end

end TruenasCsi.Fencing
