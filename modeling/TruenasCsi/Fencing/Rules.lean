import TruenasCsi.Fencing.View

/-! What an RPC does around its backend. -/

namespace TruenasCsi.Fencing

open Backend Truenas Csi Prog Volume

section

variable {c : Client} {v : ID} {w : World} (here : c.name = v.backend)

include here

/-- Reading the ledger changes nothing and gives what is recorded. -/
theorem wp_readGrants : M.wp (readGrants c v) (fun r t => t = w ∧
    (r = .ok (ledgerOf v w) ∨
      ∃ e, r = .error e ∧ (e.isA .volumeGone = true → datasetOf v w = none))) w := by
  unfold readGrants
  refine wp_bind.mpr (wp_mapError.mpr ?_)
  refine wp_mono (wp_datasetQuery c v.datasetPath) ?_
  rintro r t ⟨rfl, rfl | ⟨e, rfl⟩⟩
  · rw [here, ← datasetOf]
    cases found : datasetOf v t with
    | none => exact ⟨rfl, .inr ⟨_, rfl, fun _ => rfl⟩⟩
    | some ds =>
      refine wp_ofExcept.mpr ⟨rfl, ?_⟩
      cases decoded : decodeGrants (localProperty ds publishedProperty) with
      | ok g =>
        left
        simp [ledgerOf, found, ledgerText, decoded]
      | error e =>
        refine .inr ⟨e, rfl, ?_⟩
        intro gone
        simp [Err.isA, decodeGrants_plain decoded] at gone
  · refine ⟨rfl, .inr ⟨_, rfl, ?_⟩⟩
    intro gone
    simp [Err.isA, Err.wrap, e.bare] at gone

end

def handleOf (c : Controller) (p : Protocol) (v : ID) (b : Config) : Handle :=
  ⟨p, c.reg.server ⟨v.backend, b.host⟩ b⟩

section

variable {c : Controller} {p : Protocol} {v : ID} {nodeID : String} {mode : AccessMode}
  {w : World} {Q : Bool → World → Prop}

/-- A single-node mode is accepted only where no other node is recorded. -/
theorem exclusive_ok {grants : Grants}
    (accepted : Controller.exclusive v mode nodeID grants = .ok ()) :
    singleNode mode = true → grants.others nodeID = [] := by
  intro single
  by_contra taken
  simp [Controller.exclusive, taken, single] at accepted

theorem wp_publishLocked (known : Protocol.factoryFor v.protocol = some p)
    (refused : ∀ t, t.appliance = w.appliance → Q false t)
    (granting : ∀ b node t, c.reg.backends.get? v.backend = some b →
      c.nodes.resolve nodeID = .ok node →
      (singleNode mode = true → (ledgerOf v w).others nodeID = []) → t.appliance = w.appliance →
      M.wp (withStatus ((handleOf c p v b).publish v node) >>= fun pc =>
        withStatus (saveGrants ⟨v.backend, b.host⟩ v ((ledgerOf v w).set node.id node.addrs)) >>=
          fun _ => pure pc) (fun r u => Q r.isOk u) t) :
    M.wp (c.publishLocked v nodeID mode) (fun r t => Q r.isOk t) w := by
  unfold Controller.publishLocked
  refine wp_seq (c.wp_requireVolumeExists v) (fun e t outcome => refused t outcome.1) ?_
  rintro _ t₁ ⟨same₁, -⟩
  unfold Controller.resolve
  cases resolved : c.nodes.resolve nodeID with
  | error e => exact refused t₁ same₁
  | ok node =>
    obtain rfl : node.id = nodeID := c.nodes.named resolved
    refine wp_withStatus_seq (c.reg.wp_client v.backend) ?_ ?_
    · rintro e t ⟨same, -⟩
      exact refused t (same.trans same₁)
    rintro cl t₂ ⟨same₂, answered⟩
    obtain ⟨b, found, rfl⟩ := answered cl rfl
    refine wp_withStatus_seq (wp_readGrants rfl) ?_ ?_
    · rintro e t ⟨rfl, -⟩
      exact refused t (same₂.trans same₁)
    rintro grants t ⟨rfl, read | ⟨e, wrong, -⟩⟩
    swap
    · cases wrong
    have ledger : ledgerOf v t = ledgerOf v w := ledgerOf_congr (by rw [same₂, same₁])
    obtain rfl : grants = ledgerOf v w := (Except.ok.inj read).trans ledger
    cases accepted : Controller.exclusive v mode node.id (ledgerOf v w) with
    | error e => exact refused t (same₂.trans same₁)
    | ok _ =>
      refine wp_withStatus_seq (c.reg.wp_handle v.backend v.protocol) ?_ ?_
      · rintro e u ⟨same, -⟩
        exact refused u (same.trans (same₂.trans same₁))
      rintro h u ⟨same₃, answered⟩
      obtain ⟨b', p', found', known', rfl⟩ := answered h rfl
      obtain rfl : p = p' := Option.some.inj (known.symm.trans known')
      obtain rfl : b = b' := Option.some.inj (found.symm.trans found')
      exact granting b node u found resolved (exclusive_ok accepted) (same₃.trans (same₂.trans same₁))

/-- Rule of publishing: nothing, or grant and record. -/
theorem wp_publishing {handle : String} (parsed : parseID handle = .ok v)
    (known : Protocol.factoryFor v.protocol = some p) {capability : VolumeCapability}
    (blind : ∀ ok t u, u.appliance = t.appliance → Q ok t → Q ok u) (refused : Q false w)
    (granting : ∀ b node t, c.reg.backends.get? v.backend = some b →
      c.nodes.resolve nodeID = .ok node →
      (singleNode capability.accessMode = true → (ledgerOf v w).others nodeID = []) →
      t.appliance = w.appliance →
      M.wp (withStatus ((handleOf c p v b).publish v node) >>= fun pc =>
        withStatus (saveGrants ⟨v.backend, b.host⟩ v ((ledgerOf v w).set node.id node.addrs)) >>=
          fun _ => pure pc) (fun r u => Q r.isOk u) t) :
    M.wp (c.controllerPublishVolume ⟨handle, nodeID, some capability⟩) (fun r t => Q r.isOk t) w := by
  unfold Controller.controllerPublishVolume
  dsimp only
  split_ifs
  · exact refused
  · exact refused
  · rw [parsed]
    show M.wp (if supportsAccessMode v.protocol capability.accessMode = true then _ else _) _ w
    split_ifs
    · refine wp_locked (fun r t u same => blind r.isOk t u same) (fun e => refused) ?_
      intro t same
      have ledger : ledgerOf v t = ledgerOf v w := ledgerOf_congr (by rw [same])
      refine wp_publishLocked known (fun u back => blind false w u (back.trans same) refused) ?_
      intro b node u found resolved alone back
      rw [ledger] at alone ⊢
      exact granting b node u found resolved alone (back.trans same)
    · exact refused

theorem wp_unpublishLocked (known : Protocol.factoryFor v.protocol = some p)
    (blind : ∀ ok t u, u.appliance = t.appliance → Q ok t → Q ok u) (failed : Q false w)
    (gone : datasetOf v w = none → Q true w)
    (idle : Controller.targets nodeID (ledgerOf v w) = [] → Q true w)
    (revoking : ∀ b t, c.reg.backends.get? v.backend = some b → t.appliance = w.appliance →
      M.wp (c.revokeAll (handleOf c p v b) v (ledgerOf v w)
          (Controller.targets nodeID (ledgerOf v w)) >>=
        fun left => withStatus (saveGrants ⟨v.backend, b.host⟩ v left)) (fun r u => Q r.isOk u) t) :
    M.wp (c.unpublishLocked v nodeID) (fun r t => Q r.isOk t) w := by
  unfold Controller.unpublishLocked
  refine wp_withStatus_seq (c.reg.wp_client v.backend) ?_ ?_
  · rintro e t ⟨same, -⟩
    exact blind _ _ _ same failed
  rintro cl t ⟨same, answered⟩
  obtain ⟨b, found, rfl⟩ := answered cl rfl
  refine wp_bind.mpr (wp_attempt.mpr ?_)
  refine wp_mono (wp_readGrants rfl) ?_
  rintro r u ⟨rfl, rfl | ⟨e, rfl, isGone⟩⟩
  · have ledger : ledgerOf v u = ledgerOf v w := ledgerOf_congr (by rw [same])
    show M.wp (c.unpublishFrom v _ nodeID (ledgerOf v u)) _ u
    rw [ledger]
    unfold Controller.unpublishFrom
    split_ifs with nobody
    · exact blind _ _ _ same (idle nobody)
    · refine wp_withStatus_seq (c.reg.wp_handle v.backend v.protocol) ?_ ?_
      · rintro e t ⟨back, -⟩
        exact blind _ _ _ (back.trans same) failed
      rintro h t ⟨back, answered⟩
      obtain ⟨b', p', found', known', rfl⟩ := answered h rfl
      obtain rfl : p = p' := Option.some.inj (known.symm.trans known')
      obtain rfl : b = b' := Option.some.inj (found.symm.trans found')
      exact revoking b t found (back.trans same)
  · have dataset : datasetOf v u = datasetOf v w := datasetOf_congr (by rw [same])
    show M.wp (if e.isA .volumeGone = true then _ else _) _ u
    split_ifs with reported
    · exact blind _ _ _ same (gone (dataset.symm.trans (isGone reported)))
    · exact blind _ _ _ same failed

/-- Rule of unpublishing: nothing, or all of it. -/
theorem wp_unpublishing {handle : String} (parsed : parseID handle = .ok v)
    (known : Protocol.factoryFor v.protocol = some p)
    (blind : ∀ ok t u, u.appliance = t.appliance → Q ok t → Q ok u) (failed : Q false w)
    (gone : datasetOf v w = none → Q true w)
    (idle : Controller.targets nodeID (ledgerOf v w) = [] → Q true w)
    (revoking : ∀ b t, c.reg.backends.get? v.backend = some b → t.appliance = w.appliance →
      M.wp (c.revokeAll (handleOf c p v b) v (ledgerOf v w)
          (Controller.targets nodeID (ledgerOf v w)) >>=
        fun left => withStatus (saveGrants ⟨v.backend, b.host⟩ v left)) (fun r u => Q r.isOk u) t) :
    M.wp (c.controllerUnpublishVolume ⟨handle, nodeID⟩) (fun r t => Q r.isOk t) w := by
  unfold Controller.controllerUnpublishVolume
  rw [parsed]
  split_ifs
  · exact failed
  · refine wp_locked (fun r t u same => blind r.isOk t u same) (fun e => failed) ?_
    intro t same
    have dataset : datasetOf v t = datasetOf v w := datasetOf_congr (by rw [same])
    have ledger : ledgerOf v t = ledgerOf v w := ledgerOf_congr (by rw [same])
    refine wp_unpublishLocked known blind (blind _ _ _ same failed) ?_ ?_ ?_
    · rw [dataset]
      exact fun none => blind _ _ _ same (gone none)
    · rw [ledger]
      exact fun nobody => blind _ _ _ same (idle nobody)
    · rw [ledger]
      exact fun b u found back => revoking b u found (back.trans same)

end

end TruenasCsi.Fencing
