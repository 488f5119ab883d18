import TruenasCsi.Fencing.Atomic

/-! What the two RPCs do beyond the fence. -/

namespace TruenasCsi.Fencing

open Backend
open Truenas (Client)
open Csi Prog Volume

/-- A part no property of a dataset belongs to. -/
def Apart {β : Type} (part : Appliance.State → β) : Prop :=
  ∀ (id key value : String) (a : Appliance.State),
    part (a.act (.dataset (.update id { userPropertiesUpdate := [(key, value)] }))).2 = part a

theorem within_unpublish_spares (h : Handle) (v : ID) (node : NodeRef) :
    M.Within SparesLedgers (h.unpublish v node) := by
  by_cases shared : Shared h.protocol
  · unfold Handle.unpublish
    rcases shared with nfs | smb
    · rw [nfs]
      exact Nfs.within_unpublish _ _ _
    · rw [smb]
      exact Smb.within_unpublish _ _ _
  · exact within_unpublish_block shared node

section

variable {β : Type} {part : Appliance.State → β} (apart : Apart part)
  {c : Controller} {p : Protocol} {v : ID} {nodeID : String} {w : World} {handle : String}

include apart

theorem keeps_saveGrants (cl : Client) (g : Grants) : M.Keeps part (saveGrants cl v g) := by
  unfold saveGrants
  refine emits_bind emits_ofExcept fun text => emits_mapError.mpr ?_
  exact emits_bind (emits_issue.mpr (apart _ _ _)) fun _ => trivial

/-- A publish fails early, or as the backend did. -/
theorem wp_publishing_part (parsed : parseID handle = .ok v)
    (known : Protocol.factoryFor v.protocol = some p) {Q : NodeRef → Bool → β → Prop}
    (backend : ∀ b node t, c.nodes.resolve nodeID = .ok node → t.appliance = w.appliance →
      M.wp ((handleOf c p v b).publish v node)
        (fun r u => Q node r.isOk (part (u.appliance v.backend))) t)
    (unsure : ∀ node x, Q node true x → Q node false x) (capability : VolumeCapability) :
    M.wp (c.controllerPublishVolume ⟨handle, nodeID, some capability⟩) (fun r t =>
      r.isOk = false ∧ part (t.appliance v.backend) = part (w.appliance v.backend) ∨
      ∃ node, c.nodes.resolve nodeID = .ok node ∧ Q node r.isOk (part (t.appliance v.backend))) w := by
  refine wp_publishing (Q := fun ok t =>
    ok = false ∧ part (t.appliance v.backend) = part (w.appliance v.backend) ∨
      ∃ node, c.nodes.resolve nodeID = .ok node ∧ Q node ok (part (t.appliance v.backend)))
    parsed known ?_ (.inl ⟨rfl, rfl⟩) ?_
  · intro ok t u same ended
    rwa [same]
  · intro b node t _ resolved _ same
    refine wp_withStatus_seq (backend b node t resolved same) ?_ ?_
    · intro e u ended
      exact .inr ⟨node, resolved, ended⟩
    · intro pc u ended
      refine wp_withStatus_seq ((keeps_saveGrants apart _ _).wp u v.backend) ?_ ?_
      · intro e z kept
        rw [kept]
        exact .inr ⟨node, resolved, unsure node _ ended⟩
      · intro _ z kept
        exact .inr ⟨node, resolved, by rw [kept]; exact ended⟩

/-- An unpublish steps through the nodes it names (`R`). Once it succeeded, or has changed the
ledger, the backend has succeeded for every one of them (`P`). -/
theorem wp_unpublishing_part (parsed : parseID handle = .ok v)
    (known : Protocol.factoryFor v.protocol = some p) {R : β → β → Prop} {P : String → β → Prop}
    (refl : ∀ x, R x x) (trans : ∀ {x y z}, R x y → R y z → R x z)
    (stays : ∀ {m x y}, R x y → P m x → P m y)
    (backend : ∀ b g m t, c.reg.backends.get? v.backend = some b →
      R (part (w.appliance v.backend)) (part (t.appliance v.backend)) →
      M.wp ((handleOf c p v b).unpublish v (c.revoked g m)) (fun r u =>
        R (part (t.appliance v.backend)) (part (u.appliance v.backend)) ∧
        (r = .ok () → P m (part (u.appliance v.backend)))) t) :
    M.wp (c.controllerUnpublishVolume ⟨handle, nodeID⟩) (fun r t =>
      R (part (w.appliance v.backend)) (part (t.appliance v.backend)) ∧
      (r.isOk = true ∨ ledgerOf v t ≠ ledgerOf v w → datasetOf v w = none ∨
        ∀ m ∈ Controller.targets nodeID (ledgerOf v w), P m (part (t.appliance v.backend)))) w := by
  -- The nodes are taken in turn; what was done for the first ones stays.
  have revokes : ∀ b (nodes : List String) (g : Grants) (t : World),
      c.reg.backends.get? v.backend = some b →
      R (part (w.appliance v.backend)) (part (t.appliance v.backend)) →
      M.wp (c.revokeAll (handleOf c p v b) v g nodes) (fun r u =>
        (R (part (t.appliance v.backend)) (part (u.appliance v.backend)) ∧
          ledgerOf v u = ledgerOf v t) ∧
        (r.isOk = true → ∀ m ∈ nodes, P m (part (u.appliance v.backend)))) t := by
    intro b nodes
    induction nodes with
    | nil => exact fun g t _ _ => ⟨⟨refl _, rfl⟩, fun _ _ none => nomatch none⟩
    | cons m rest ih =>
      intro g t found before
      have spares := wp_spares (within_unpublish_spares (handleOf c p v b) v (c.revoked g m)) v t
      refine wp_withStatus_seq (wp_and (backend b g m t found before) spares) ?_ ?_
      · rintro e u ⟨⟨step, -⟩, kept⟩
        exact ⟨⟨step, kept⟩, nofun⟩
      · rintro ⟨⟩ u ⟨⟨step, done⟩, kept⟩
        refine wp_mono (ih (g.delete m) u found (trans before step)) ?_
        rintro r z ⟨⟨steps, keep⟩, others⟩
        refine ⟨⟨trans step steps, keep.trans kept⟩, fun ok k member => ?_⟩
        rcases List.mem_cons.mp member with rfl | later
        · exact stays steps (done rfl)
        · exact others ok k later
  refine wp_unpublishing (Q := fun ok t =>
    R (part (w.appliance v.backend)) (part (t.appliance v.backend)) ∧
      (ok = true ∨ ledgerOf v t ≠ ledgerOf v w → datasetOf v w = none ∨
        ∀ m ∈ Controller.targets nodeID (ledgerOf v w), P m (part (t.appliance v.backend))))
    parsed known ?_ ?_ ?_ ?_ ?_
  · intro ok t u same ended
    rw [same, ledgerOf_congr (v := v) (w := t) (t := u) (by rw [same])]
    exact ended
  · exact ⟨refl _, fun changed => absurd rfl (changed.resolve_left Bool.false_ne_true)⟩
  · exact fun gone => ⟨refl _, fun _ => Or.inl gone⟩
  · intro nobody
    rw [nobody]
    exact ⟨refl _, fun _ => Or.inr fun m none => nomatch none⟩
  · intro b t found same
    have before : ledgerOf v t = ledgerOf v w := ledgerOf_congr (by rw [same])
    refine wp_seq (revokes b _ _ t found (by rw [same]; exact refl _)) ?_ ?_
    · rintro e u ⟨⟨steps, kept⟩, -⟩
      rw [same] at steps
      exact ⟨steps, fun changed =>
        absurd (kept.trans before) (changed.resolve_left Bool.false_ne_true)⟩
    · rintro left u ⟨⟨steps, -⟩, all⟩
      rw [same] at steps
      refine wp_mapError.mpr ?_
      refine wp_mono ((keeps_saveGrants apart _ left).wp u v.backend) ?_
      intro r z kept
      rw [kept]
      exact ⟨steps, fun _ => Or.inr (all rfl)⟩

end

section

variable {c : Controller} {p : Protocol} {v : ID} {nodeID : String} {w : World} {handle : String}

theorem apart_datasetsThere : Apart datasetsThere :=
  fun id key value a => datasetsThere_setProperty a id key value

theorem wp_publish_datasets (parsed : parseID handle = .ok v)
    (known : Protocol.factoryFor v.protocol = some p) (capability : VolumeCapability) :
    M.wp (c.controllerPublishVolume ⟨handle, nodeID, some capability⟩) (fun _ t =>
      datasetsThere (t.appliance v.backend) = datasetsThere (w.appliance v.backend)) w := by
  refine wp_mono (wp_publishing_part (Q := fun _ _ there =>
    there = datasetsThere (w.appliance v.backend)) apart_datasetsThere parsed known ?_
    (fun _ _ same => same) capability) ?_
  · intro b node t _ same
    rw [← same]
    exact (keeps_datasets (within_publish_spares _ v node)).wp t v.backend
  · rintro r t (⟨-, same⟩ | ⟨node, -, same⟩)
    · exact same
    · exact same

theorem wp_unpublish_datasets (parsed : parseID handle = .ok v)
    (known : Protocol.factoryFor v.protocol = some p) :
    M.wp (c.controllerUnpublishVolume ⟨handle, nodeID⟩) (fun _ t =>
      datasetsThere (t.appliance v.backend) = datasetsThere (w.appliance v.backend)) w := by
  refine wp_mono (wp_unpublishing_part (R := fun x y => y = x) (P := fun _ _ => True)
    apart_datasetsThere parsed known (fun _ => rfl) (fun first second => second.trans first)
    (fun _ _ => trivial) ?_) ?_
  · intro b g m t _ _
    refine wp_mono ((keeps_datasets (within_unpublish_spares _ v _)).wp t v.backend) ?_
    intro r u same
    exact ⟨same, fun _ => trivial⟩
  · rintro r t ⟨same, -⟩
    exact same

end

end TruenasCsi.Fencing
