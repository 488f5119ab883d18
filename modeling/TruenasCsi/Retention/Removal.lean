import TruenasCsi.Backend.Footprint
import TruenasCsi.Csi.DeleteVolume
import TruenasCsi.Retention.Reaper

/-! What a removal may write. -/

namespace TruenasCsi.Retention

open Appliance Truenas Text Prog Backend
open Volume hiding Dataset verifyOwned

/-- The dataset made to hold the graveyard. -/
def graveyardSpec (p : Policy) : DatasetSpec where
  name := p.root
  type := .filesystem
  userProperties := [(ownerProperty, ownerValue), (ownerIDProperty, p.root),
    (graveyardProperty, graveyardValue)]

/-- The writes a removal of `v` at time `t` may make. -/
inductive Removing (p : Policy) (v : ID) (t : Civil) : DatasetOp → Prop
  | graveyard : p.on = true → Removing p v t (.create (graveyardSpec p))
  | retire {name : String} : p.on = true → Dated t name →
      Removing p v t (.rename v.datasetPath (p.root ++ "/" ++ name) true)
  | stamp {name key value : String} : p.on = true → Dated t name →
      (key = deletedAtProperty → value = t.rfc3339) →
      Removing p v t (.update (p.root ++ "/" ++ name) { userPropertiesUpdate := [(key, value)] })
  | destroy {recursive force : Bool} : p.on = false →
      Removing p v t (.delete v.datasetPath recursive force)
  | container : v.ns ≠ "" →
      Removing p v t (.delete (namespacePath v.pool v.parent v.ns) false false)

variable {F : String → DatasetOp → Prop} {c : Client}

section

variable {p : Policy} {id : ID} {t : Civil}

theorem emitsTo_freeEntryFrom {base : String} (entry : Dated t base) (attempt left : Nat) :
    (freeEntryFrom c p id base attempt left).EmitsTo Truthful (Call.Within F) fun r =>
      ∀ path, r = .ok path → ∃ name, Dated t name ∧ path = p.root ++ "/" ++ name := by
  induction left generalizing attempt with
  | zero => exact fun path wrong => by cases wrong
  | succ left ih =>
    have named : Dated t (if attempt > 1 then base ++ "-" ++ toString attempt else base) := by
      split_ifs
      · rw [String.append_assoc]
        exact entry.suffixed (plain_number attempt)
      · exact entry
    apply emitsTo_bind.mpr
    apply emitsTo_mono (emitsTo_datasetQuery_mapError c _ _)
    intro r _
    rcases r with e | _ | ds
    · exact fun path wrong => by cases wrong
    · exact fun path given => by cases given; exact ⟨_, named, rfl⟩
    · exact ih (attempt + 1)

theorem within_whenReleased {call : M Unit} (within : M.Within F call) (retries : Nat) :
    M.Within F (whenReleased call retries) := by
  induction retries with
  | zero => exact within
  | succ retries ih => exact emits_tried within (fun _ => trivial) fun _ => emits_if (fun _ => ih) fun _ => trivial

theorem within_stampAll {dataset : String} {entries : List (String × String)}
    (allowed : ∀ e ∈ entries, F c.name (.update dataset { userPropertiesUpdate := [e] })) :
    M.Within F (stampAll c dataset entries) := by
  induction entries with
  | nil => trivial
  | cons e rest ih =>
    have later := ih fun e' member => allowed e' (List.mem_cons_of_mem _ member)
    exact emits_tried (within_setUserProperty (allowed e List.mem_cons_self)) (fun _ => later) fun _ => trivial

theorem within_ensureGraveyard (allowed : F c.name (.create (graveyardSpec p))) :
    M.Within F (ensureGraveyard c p) := by
  apply emits_option (emits_mapError.mpr within_datasetQuery)
  · refine emits_bind (emits_mapError.mpr ?_) fun _ => trivial
    exact emits_tried (within_dataset.mpr (.inr allowed)) (fun _ => trivial)
      fun _ => emits_if (fun _ => trivial) fun _ => trivial
  · exact fun ds => emits_if (fun _ => trivial) fun _ => trivial

theorem within_retire {retries : Nat}
    (allowed : ∀ op, Removing p id t op → F c.name op) : M.Within F (retire c p id t retries) := by
  unfold retire
  by_cases on : p.on = true
  · rw [on]
    apply emits_bind (emits_mapError.mpr emits_ofExcept)
    intro _
    apply emits_bind (within_ensureGraveyard (allowed _ (.graveyard on)))
    intro _
    refine EmitsTo.seq (emitsTo_freeEntryFrom (dated_entryName id t) 1 maxEntryAttempts) fun dst known => ?_
    obtain ⟨name, entry, rfl⟩ := known dst rfl
    apply emits_bind (emits_mapError.mpr (within_whenReleased
      (within_dataset.mpr (.inr (allowed _ (.retire on entry)))) _))
    intro _
    apply within_stampAll
    intro e member
    refine allowed _ (.stamp on entry fun same => ?_)
    simp only [List.mem_cons, List.not_mem_nil, or_false] at member
    rcases member with rfl | rfl | rfl
    · exact absurd same (show ownerIDProperty ≠ deletedAtProperty by decide)
    · rfl
    · exact absurd same (show retiredFromProperty ≠ deletedAtProperty by decide)
  · simp only [Bool.not_eq_true] at on
    rw [on]
    trivial

variable {b : Server}

theorem within_dispose {destroy : M Unit}
    (allowed : ∀ op, Removing b.retire id b.env.now op → F b.client.name op)
    (destroys : b.retire.on = false → M.Within F destroy) : M.Within F (b.dispose id destroy) := by
  unfold Server.dispose dispose
  split_ifs with on
  · exact within_retire allowed
  · exact destroys (by simpa using on)

variable (allowed : ∀ op, Removing b.retire id b.env.now op → F b.client.name op)

include allowed

theorem within_filesystem_delete {removeShare : String → M Unit}
    (share : ∀ mountpoint, M.Within F (removeShare mountpoint)) :
    M.Within F (Filesystem.delete b removeShare id) := by
  apply emits_bind (within_confine b id)
  intro _
  refine emits_option (within_queryDataset b id) trivial fun ds => ?_
  apply emits_bind emits_ofExcept
  intro _
  apply emits_bind (share _)
  intro _
  exact emits_mapError.mpr (within_dispose allowed fun off => within_datasetDelete (allowed _ (.destroy off)))

theorem within_disposeZvol (ds : Option Dataset) : M.Within F (Zvol.disposeZvol b id ds) := by
  cases ds with
  | none => trivial
  | some ds =>
    exact emits_mapError.mpr (within_dispose allowed fun off =>
      within_whenReleased (within_datasetDelete (allowed _ (.destroy off))) _)

theorem within_iscsi_delete : M.Within F (Iscsi.delete b id) := by
  apply emits_bind (emits_mapError.mpr within_datasetQuery)
  intro ds
  apply emits_bind (by cases ds <;> first | trivial | exact emits_ofExcept)
  intro _
  refine emits_bind (emits_option (Iscsi.within_queryExtent _) trivial fun extent => ?_)
    fun _ => within_disposeZvol allowed ds
  apply emits_bind (Iscsi.within_unmapExtent b extent)
  exact fun _ => emits_mapError.mpr (emits_gone (Iscsi.within_ask _))

theorem within_nvme_delete : M.Within F (Nvme.delete b id) := by
  apply emits_bind (emits_mapError.mpr within_datasetQuery)
  intro ds
  apply emits_bind (by cases ds <;> first | trivial | exact emits_ofExcept)
  intro _
  apply emits_bind (Nvme.within_querySubsystem _)
  intro subsys
  apply emits_bind
  · cases subsys with
    | none => trivial
    | some subsys =>
      apply emits_bind (Nvme.within_unbind _ _)
      intro _
      apply emits_bind (emits_mapError.mpr (Nvme.within_hostSubsysList _))
      exact fun _ => Nvme.within_deleteAll (fun _ => emits_gone (Nvme.within_ask _)) _ _
  intro _
  apply emits_bind
  · refine emits_option (emits_mapError.mpr (Nvme.within_namespaceByDevice _)) trivial fun ns => ?_
    exact emits_mapError.mpr (emits_gone (Nvme.within_ask _))
  intro _
  apply emits_bind
  · cases subsys with
    | none => trivial
    | some subsys => exact emits_mapError.mpr (emits_gone (Nvme.within_ask _))
  exact fun _ => within_disposeZvol allowed ds

theorem within_delete {protocol : Protocol} : M.Within F (Handle.delete ⟨protocol, b⟩ id) := by
  cases protocol with
  | nfs =>
    refine within_filesystem_delete allowed fun mountpoint =>
      emits_option (emits_mapError.mpr (Nfs.within_shareByPath _)) trivial fun share => ?_
    exact emits_mapError.mpr (emits_gone within_nfs)
  | smb =>
    refine within_filesystem_delete allowed fun mountpoint =>
      emits_option (Smb.within_queryShare _) trivial fun share => ?_
    exact emits_mapError.mpr (emits_gone within_smb)
  | iscsi => exact within_iscsi_delete allowed
  | nvme => exact within_nvme_delete allowed

end

section

variable (reg : Registry) (name : String)

theorem emitsTo_client : (reg.client name).EmitsTo Truthful (Call.Within F) fun r =>
    ∀ c, r = .ok c → c.name = name := by
  unfold Registry.client
  cases reg.backend name with
  | error e => exact fun c wrong => by cases wrong
  | ok b =>
    simp only [ofExcept_ok, ret_bind]
    apply emitsTo_bind.mpr
    apply emitsTo_mapError.mpr
    refine emitsTo_issue.mpr ⟨trivial, fun r _ => ?_⟩
    cases r with
    | error e => exact fun c wrong => by cases wrong
    | ok _ => exact fun c given => by cases given; rfl

theorem emitsTo_handle {b : Config} (known : reg.backends.get? name = some b) (protocol : String) :
    (reg.handle name protocol).EmitsTo Truthful (Call.Within F) fun r => ∀ h, r = .ok h →
      ∃ p c, c.name = name ∧ h = ⟨p, reg.server c b⟩ := by
  unfold Registry.handle Registry.backend
  rw [known]
  cases Protocol.factoryFor protocol with
  | none => exact fun h wrong => by cases wrong
  | some p =>
    simp only [ofExcept_ok, ret_bind]
    apply emitsTo_bind.mpr
    apply emitsTo_mono (emitsTo_client reg name)
    intro r named
    cases r with
    | error e => exact fun h wrong => by cases wrong
    | ok c => exact fun h given => by cases given; exact ⟨p, c, named c rfl, rfl⟩

end

theorem within_reclaimNamespace {pool parent ns : String}
    (allowed : F c.name (.delete (namespacePath pool parent ns) false false)) :
    M.Within F (reclaimNamespace c pool parent ns) := by
  apply emits_bind emits_ofExcept
  intro _
  refine emits_option (emits_mapError.mpr within_datasetQuery) trivial fun ds => ?_
  apply emits_bind emits_ofExcept
  intro _
  apply emits_bind (emits_mapError.mpr (emits_rows (within_dataset.mpr (.inl rfl))))
  refine fun children => emits_if (fun _ => ?_) fun _ => trivial
  exact emits_bind (emits_mapError.mpr (within_datasetDelete allowed)) fun _ => trivial

theorem emitsTo_then_status {α β : Type} {P : Call → Prop} {p : M α} {Q : α → Prop} {f : α → M β}
    (first : p.EmitsTo Truthful P fun r => ∀ a, r = .ok a → Q a)
    (rest : ∀ a, Q a → (f a).Emits Truthful P) : (Csi.withStatus p >>= f).Emits Truthful P := by
  apply emitsTo_bind.mpr
  apply emitsTo_mapError.mpr
  apply emitsTo_mono first
  intro r known
  cases r with
  | error e => trivial
  | ok a => exact rest a (known a rfl)

theorem within_withLock {α : Type} {key what : String} {body : M α} (within : M.Within F body) :
    M.Within F (Csi.withLock key what body) := by
  apply emits_bind within_process
  intro got
  refine emits_if (fun _ => ?_) fun _ => trivial
  apply emits_bind (emits_attempt.mpr within)
  intro r
  exact emits_bind within_process fun _ => emits_ofExcept

/-- The writes of a request to remove `volumeId`. -/
def RemovalWrites (c : Csi.Controller) (volumeId name : String) (op : DatasetOp) : Prop :=
  ∃ v b, parseID volumeId = .ok v ∧ c.reg.backends.get? v.backend = some b ∧
    Confined b.pool b.parentDataset v ∧ name = v.backend ∧ Removing b.policy v c.reg.env.now op

theorem within_deleteVolume (c : Csi.Controller) (volumeId : String) :
    M.Within (RemovalWrites c volumeId) (c.deleteVolume volumeId) := by
  unfold Csi.Controller.deleteVolume
  split_ifs with missing
  · trivial
  cases parsed : parseID volumeId with
  | error e => trivial
  | ok v =>
    dsimp only
    cases known : c.reg.backends.get? v.backend with
    | none => trivial
    | some b =>
      apply emitsTo_bind.mpr
      apply emitsTo_mapError.mpr
      refine (emitsTo_ofExcept _ _).mpr ?_
      cases confined : confine v b.pool b.parentDataset with
      | error e => trivial
      | ok _ => ?_
      have allowed : ∀ op, Removing b.policy v c.reg.env.now op → RemovalWrites c volumeId v.backend op :=
        fun op removes => ⟨v, b, parsed, known, confine_ok_iff.mp confined, rfl, removes⟩
      apply within_withLock
      apply emitsTo_then_status (emitsTo_handle c.reg v.backend known v.protocol)
      rintro h ⟨p, cl, here, rfl⟩
      apply emits_bind (emits_mapError.mpr (within_delete (by simpa [here, Registry.server] using allowed)))
      intro _
      -- What is left is the namespace's container.
      refine emits_if (fun _ => trivial) fun named => ?_
      apply emitsTo_bind.mpr
      apply emitsTo_attempt.mpr
      apply emitsTo_mono (emitsTo_client c.reg v.backend)
      intro r dialled
      cases r with
      | error e => trivial
      | ok cl =>
        refine emits_bind (emits_attempt.mpr (within_reclaimNamespace ?_)) fun _ => trivial
        rw [dialled cl rfl]
        exact allowed _ (.container named)

end TruenasCsi.Retention
