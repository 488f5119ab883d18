import TruenasCsi.Support.Threads
import TruenasCsi.Backend.Footprint

/-! The LUN protocol: recorded, allocated and released numbers. -/

namespace TruenasCsi.Luns

open Appliance
open Truenas (Client)
open Backend (Server NodeRef)
open Backend.Iscsi Prog

/-- Where a call stands with the LUNs of a target. -/
inductive Phase where
  /-- No LUN yet, with these mappings seen. -/
  | free (target : Nat) (seen : List TargetExtent)
  | locked (target : Nat)
  | listed (target : Nat) (used : List Nat)
  | pruned (target : Nat) (used reserved : List Nat)
  /-- It has reserved the LUN and holds the lock still. -/
  | chosen (target lun : Nat)
  /-- It is about to map the LUN. -/
  | claimed (target lun : Nat)
  /-- It is about to release the LUN. -/
  | releasing (target lun : Nat) (seen : List TargetExtent)

namespace Phase

/-- No LUN in hand. -/
def Idle : Phase → Prop
  | free _ _ => True
  | _ => False

theorem Idle.free {φ : Phase} (idle : φ.Idle) : ∃ t seen, φ = .free t seen := by
  cases φ with
  | free t seen => exact ⟨t, seen, rfl⟩
  | _ => exact idle.elim

def Looking (target : Nat) : Phase → Prop
  | locked t => t = target
  | listed t _ => t = target
  | pruned t _ _ => t = target
  | _ => False

end Phase

/-- Calls that touch no mapping and no reservation. -/
def Spares : Call → Prop
  | .api _ (.iscsi op) => op.sparesMappings = true
  | .process (.lockLUNs _) => False
  | .process (.unlockLUNs _) => False
  | .process (.pruneLUNs _ _) => False
  | .process (.reserveLUN _ _) => False
  | .process (.releaseLUN _ _) => False
  | _ => True

/-- The rows a listing shows; no target is an empty one. -/
def shown : Except Err (List TargetExtent) → Option (List TargetExtent)
  | .ok rows => some rows
  | .error e => if e.isNotFound then some [] else none

variable (b : String) (target : Nat)

abbrev listing : Call := .api b (.iscsi (.targetExtentQuery target))

abbrev mapping (extent lun : Nat) : Call :=
  .api b (.iscsi (.targetExtentCreate target extent lun))

abbrev removal (id : Nat) : Call := .api b (.iscsi (.targetExtentDelete id))

/-- The protocol: which call takes a publish or unpublish from which phase to which. -/
inductive Moves (b : String) : Phase → (c : Call) → Except Err c.Answer → Phase → Prop where
  | spare {t : Nat} {seen : List TargetExtent} {c : Call} {r : Except Err c.Answer}
      (spares : Spares c) : Moves b (.free t seen) c r (.free t seen)
  | look {t target : Nat} {seen rows : List TargetExtent} {r : Except Err (List TargetExtent)}
      (shows : shown r = some rows) :
      Moves b (.free t seen) (listing b target) r (.free target rows)
  -- The recorded LUN is claimed on the strength of the listing alone.
  | take {t target lun : Nat} {seen rows : List TargetExtent} {r : Except Err (List TargetExtent)}
      (shows : shown r = some rows) (unused : lun ∉ rows.map (·.lun)) :
      Moves b (.free t seen) (listing b target) r (.claimed target lun)
  | lock {t target : Nat} {seen : List TargetExtent} {r : Except Err Unit} :
      Moves b (.free t seen) (.process (.lockLUNs target)) r (.locked target)
  | list {target : Nat} {rows : List TargetExtent} {r : Except Err (List TargetExtent)}
      (shows : shown r = some rows) :
      Moves b (.locked target) (listing b target) r (.listed target (rows.map (·.lun)))
  | listless {target : Nat} {r : Except Err (List TargetExtent)} :
      Moves b (.locked target) (listing b target) r (.locked target)
  | prune {target : Nat} {used reserved : List Nat} :
      Moves b (.listed target used) (.process (.pruneLUNs target used)) (.ok reserved)
        (.pruned target used reserved)
  | reserve {target lun : Nat} {used reserved : List Nat} {r : Except Err Unit}
      (unused : lun ∉ used) (unreserved : lun ∉ reserved) :
      Moves b (.pruned target used reserved) (.process (.reserveLUN target lun)) r
        (.chosen target lun)
  | giveUp {target : Nat} {φ : Phase} {r : Except Err Unit} (looking : φ.Looking target) :
      Moves b φ (.process (.unlockLUNs target)) r (.free target [])
  | unlock {target lun : Nat} {r : Except Err Unit} :
      Moves b (.chosen target lun) (.process (.unlockLUNs target)) r (.claimed target lun)
  | map {target lun extent : Nat} {row : TargetExtent} :
      Moves b (.claimed target lun) (mapping b target extent lun) (.ok row) (.free target [])
  | mapFailed {target lun extent : Nat} {e : Err} :
      Moves b (.claimed target lun) (mapping b target extent lun) (.error e)
        (.releasing target lun [])
  | release {target lun : Nat} {seen : List TargetExtent} {r : Except Err Unit} :
      Moves b (.releasing target lun seen) (.process (.releaseLUN target lun)) r (.free target seen)
  | remove {target : Nat} {seen : List TargetExtent} {m : TargetExtent} {r : Except Err Unit}
      (known : m ∈ seen) (gone : r = .ok () ∨ ∃ e, r = .error e ∧ e.isNotFound = true) :
      Moves b (.free target seen) (removal b m.id) r (.releasing target m.lun seen)
  | removeFailed {target id : Nat} {seen : List TargetExtent} {e : Err}
      (failed : e.isNotFound = false) :
      Moves b (.free target seen) (removal b id) (.error e) (.free target seen)

/-- From a phase on, to an end in `Q`. -/
abbrev Keeps {α : Type} (b : String) (φ : Phase) (p : M α) (Q : Except Err α → Phase → Prop) : Prop :=
  p.Follows Truthful (Moves b) φ Q

section

variable {α : Type} {b : String} {t : Nat} {seen : List TargetExtent} {p : M α} {φ : Phase}
  {ds : Dataset}

theorem keeps_spare (emits : p.Emits Truthful Spares) :
    Keeps b (.free t seen) p fun _ ψ => ψ = .free t seen :=
  emits.follows fun _ _ spares => .spare spares

theorem keeps_process {β : Type} {op : ProcessOp} {ψ : op.Answer → Phase}
    {f : op.Answer → M β} {Q : Except Err β → Phase → Prop}
    (move : ∀ a, Moves b φ (.process op) (.ok a) (ψ a)) (rest : ∀ a, Keeps b (ψ a) (f a) Q) :
    Keeps b φ (process op >>= f) Q := by
  refine follows_bind.mpr (follows_issue.mpr fun r given => ?_)
  cases r with
  | ok a => exact ⟨ψ a, move a, rest a⟩
  | error e => exact given.elim

theorem keeps_list {c : Client} {target : Nat} {f : Err → Err}
    {Q : Except Err (List TargetExtent) → Phase → Prop} (shows : ∀ r rows, shown r = some rows →
      ∃ ψ, Moves c.name φ (listing c.name target) r ψ ∧ Q (.ok rows) ψ)
    (fails : ∀ r e, shown r = none →
      ∃ ψ, Moves c.name φ (listing c.name target) r ψ ∧ Q (.error e) ψ) :
    Keeps c.name φ ((targetExtentList c target).mapError f) Q := by
  refine follows_mapError.mpr (follows_bind.mpr
    (follows_attempt.mpr (follows_issue.mpr fun r _ => ?_)))
  cases r with
  | ok rows => exact shows (.ok rows) rows rfl
  | error e =>
    dsimp only
    split_ifs with absent
    · exact shows (.error e) [] (by simp [shown, absent])
    · exact fails (.error e) (f e) (by simp [shown, absent])

variable {c : Client} {target : Nat}

theorem keeps_choose : Keeps c.name (.locked target)
    (do
      let mappings ← (targetExtentList c target).mapError
        fun e => e.wrap ("listing LUN mappings for target " ++ toString target ++ ": ")
      let used := mappings.map (·.lun)
      let reserved ← process (.pruneLUNs target used)
      match (List.range maxLUNs).find? fun i => i ∉ used && i ∉ reserved with
      | some i =>
        process (.reserveLUN target i)
        return i
      | none => throw (.plain ("target " ++ toString target ++ " holds the maximum of " ++
          toString maxLUNs ++ " LUNs")))
    fun r ψ => match r with
      | .ok lun => ψ = .chosen target lun
      | .error _ => ψ.Looking target := by
  refine Follows.seq (P := fun r ψ => match r with
    | .ok rows => ψ = .listed target (rows.map (·.lun))
    | .error _ => ψ.Looking target) (keeps_list ?_ ?_) (fun _ _ reached => reached) ?_
  · intro r rows shows
    exact ⟨_, .list shows, rfl⟩
  · intro r e _
    exact ⟨_, .listless, rfl⟩
  · rintro rows _ rfl
    refine keeps_process (fun _ => .prune) fun reserved => ?_
    split
    · rename_i lun found
      have free := List.find?_some found
      simp only [Bool.and_eq_true, decide_eq_true_eq] at free
      exact keeps_process (fun _ => .reserve free.1 free.2) fun _ => rfl
    · exact rfl

/-- An allocation ends with a claimed LUN, or gives the lock back. -/
theorem keeps_allocateLUN : Keeps c.name (.free t seen) (allocateLUN c target) fun r ψ => match r with
    | .ok lun => ψ = .claimed target lun
    | .error _ => ψ = .free target [] := by
  refine keeps_process (fun _ => .lock) fun _ => ?_
  refine follows_bind.mpr (follows_attempt.mpr ?_)
  refine follows_mono keeps_choose fun r ψ reached => ?_
  cases r with
  | ok lun =>
    subst reached
    exact keeps_process (fun _ => .unlock) fun _ => rfl
  | error e => exact keeps_process (fun _ => .giveUp reached) fun _ => rfl

theorem emits_rememberLUN (dsPath : String) (lun : Nat) :
    (rememberLUN c dsPath lun).Emits Truthful Spares :=
  emits_bind (emits_attempt.mpr (emits_bind (emits_issue.mpr trivial)
    fun _ => trivial)) fun _ => trivial

theorem keeps_mapClaimed {extent lun : Nat} :
    Keeps c.name (.claimed target lun)
      (do
        match ← (iscsi c (.targetExtentCreate target extent lun)).attempt with
        | .ok _ =>
          rememberLUN c ds.id lun
          return lun
        | .error e =>
          releaseLUN target lun
          throw (e.wrap ("mapping extent " ++ toString extent ++ " to LUN " ++ toString lun ++ ": ")))
      fun _ ψ => ψ.Idle := by
  refine follows_bind.mpr (follows_attempt.mpr (follows_issue.mpr fun r _ => ?_))
  cases r with
  | ok row =>
    refine ⟨_, .map, Follows.seq (keeps_spare (emits_rememberLUN _ _)) ?_ ?_⟩
    · rintro e ψ rfl
      trivial
    · rintro _ ψ rfl
      trivial
  | error e => exact ⟨_, .mapFailed, keeps_process (fun _ => .release) fun _ => trivial⟩

/-- The phase after a listing, without a LUN. -/
def Ready (ds : Dataset) (target : Nat) (used : List Nat) (φ : Phase) : Prop :=
  match recordedLUN ds with
  | some lun => if lun ∈ used then φ.Idle else φ = .claimed target lun
  | none => φ.Idle

/-- A LUN on record is claimed without the lock if the listing does not show it. -/
theorem keeps_claimLUN {used : List Nat} (ready : Ready ds target used φ) :
    Keeps c.name φ (claimLUN c ds target used) fun r ψ => match r with
      | .ok lun => ψ = .claimed target lun
      | .error _ => ψ.Idle := by
  have allocates : φ.Idle → Keeps c.name φ (allocateLUN c target) fun r ψ => match r with
      | .ok lun => ψ = .claimed target lun
      | .error _ => ψ.Idle := by
    intro idle
    obtain ⟨t, seen, rfl⟩ := idle.free
    refine follows_mono keeps_allocateLUN fun r ψ reached => ?_
    cases r with
    | ok lun => exact reached
    | error e =>
      subst reached
      trivial
  unfold Ready at ready
  unfold claimLUN
  cases recorded : recordedLUN ds with
  | none =>
    rw [recorded] at ready
    exact allocates ready
  | some lun =>
    rw [recorded] at ready
    dsimp only at ready ⊢
    split_ifs at ready ⊢ with used
    · exact allocates ready
    · exact ready

/-- The phase after the mappings were read. -/
def Looked (ds : Dataset) (target extent : Nat) (r : Except Err (List TargetExtent))
    (ψ : Phase) : Prop :=
  match r with
  | .error _ => ψ.Idle
  | .ok rows => match rows.find? fun m => m.extent == extent with
    | some _ => ψ.Idle
    | none => Ready ds target (rows.map (·.lun)) ψ

/-- A claimed LUN is mapped or released again. -/
theorem keeps_mapExtent (ds : Dataset) (extent : Nat) :
    Keeps c.name (.free t seen) (mapExtent c ds target extent) fun _ ψ => ψ.Idle := by
  refine Follows.seq (P := Looked ds target extent) (keeps_list ?_ ?_)
    (fun _ _ reached => reached) ?_
  · intro r rows shows
    dsimp only [Looked]
    split
    · exact ⟨_, .look shows, trivial⟩
    · unfold Ready
      split
      · split_ifs with used
        · exact ⟨_, .look shows, trivial⟩
        · exact ⟨_, .take shows used, rfl⟩
      · exact ⟨_, .look shows, trivial⟩
  · intro r e _
    exact ⟨_, .spare rfl, trivial⟩
  · intro rows ψ
    dsimp only [Looked]
    cases rows.find? fun m => m.extent == extent with
    | some m =>
      -- The extent is mapped already.
      intro idle
      obtain ⟨t, seen, rfl⟩ := idle.free
      refine Follows.seq (keeps_spare (emits_rememberLUN _ _)) ?_ ?_
      · rintro e ψ rfl
        trivial
      · rintro _ ψ rfl
        trivial
    | none =>
      intro ready
      refine Follows.seq (keeps_claimLUN ready) (fun _ _ idle => idle) ?_
      rintro lun _ rfl
      exact keeps_mapClaimed

theorem Phase.Idle.spare {β : Type} (idle : φ.Idle) {f : α → M β} (emits : p.Emits Truthful Spares)
    (rest : ∀ a ψ, ψ.Idle → Keeps b ψ (f a) fun _ ψ => ψ.Idle) :
    Keeps b φ (p >>= f) fun _ ψ => ψ.Idle := by
  obtain ⟨t, seen, rfl⟩ := idle.free
  refine Follows.seq (keeps_spare emits) ?_ ?_
  · rintro e ψ rfl
    trivial
  · rintro a ψ rfl
    exact rest a _ trivial

theorem Phase.Idle.spared (idle : φ.Idle) (emits : p.Emits Truthful Spares) :
    Keeps b φ p fun _ ψ => ψ.Idle := by
  obtain ⟨t, seen, rfl⟩ := idle.free
  refine follows_mono (keeps_spare emits) ?_
  rintro r ψ rfl
  trivial

theorem keeps_publishExtent {s : Server} {extent : Extent} (idle : φ.Idle) :
    Keeps s.client.name φ (publishExtent s ds extent) fun _ ψ => ψ.Idle := by
  refine idle.spare (emits_queryTarget (fun _ => IscsiOp.sparesMappings_of_peripheral) _) fun found ψ idle => ?_
  cases found with
  | none => exact idle
  | some target =>
    refine idle.spare (emits_targetIQN (fun _ => IscsiOp.sparesMappings_of_peripheral) _) fun iqn ψ idle => ?_
    obtain ⟨t, seen, rfl⟩ := idle.free
    refine Follows.seq (keeps_mapExtent ds extent.id) (fun _ _ idle => idle) fun lun ψ idle => ?_
    exact idle.spared (emits_contextFor (fun _ => IscsiOp.sparesMappings_of_peripheral) _ _ _ _)

variable (s : Server) (v : Volume.ID) (node : NodeRef)

/-- A publish follows the protocol and ends with no LUN in hand, -/
theorem keeps_publish (idle : φ.Idle) :
    Keeps s.client.name φ (publish s v node) fun _ ψ => ψ.Idle := by
  refine idle.spare (emits_mapError.mpr (emits_bind (emits_attempt.mpr
    (emits_issue.mpr trivial)) fun r => ?_)) fun ds ψ idle => ?_
  · cases r with
    | ok rows => trivial
    | error e => exact emits_if (fun _ => trivial) fun _ => trivial
  · cases ds with
    | none => exact idle
    | some ds =>
      refine idle.spare (emits_queryExtent (fun _ => IscsiOp.sparesMappings_of_peripheral) _)
        fun extent ψ idle => ?_
      cases extent with
      | none => exact idle
      | some extent =>
        show Keeps _ ψ (if _ then _ else _) _
        split_ifs
        · exact keeps_publishExtent idle
        · exact idle

theorem keeps_unmap {extent : Nat} {rows : List TargetExtent} (known : rows ⊆ seen) :
    Keeps c.name (.free target seen) (unmap c target extent rows) fun _ ψ => ψ.Idle := by
  induction rows with
  | nil => trivial
  | cons m rest ih =>
    have later := ih fun _ member => known (List.mem_cons_of_mem m member)
    rw [unmap]
    split_ifs
    · refine follows_bind.mpr (follows_mapError.mpr
        (follows_bind.mpr (follows_attempt.mpr (follows_issue.mpr fun r _ => ?_))))
      have released : Keeps c.name (.releasing target m.lun seen)
          (do releaseLUN target m.lun; unmap c target extent rest) fun _ ψ => ψ.Idle :=
        keeps_process (fun _ => .release) fun _ => later
      cases r with
      | ok done => exact ⟨_, .remove (known List.mem_cons_self) (.inl rfl), released⟩
      | error e =>
        dsimp only
        split_ifs with absent
        · exact ⟨_, .remove (known List.mem_cons_self) (.inr ⟨e, rfl, absent⟩), released⟩
        · exact ⟨_, .removeFailed (by simpa using absent), trivial⟩
    · exact later

theorem keeps_unmapExtent (extent : Extent) (idle : φ.Idle) :
    Keeps s.client.name φ (unmapExtent s extent) fun _ ψ => ψ.Idle := by
  refine idle.spare (emits_queryTarget (fun _ => IscsiOp.sparesMappings_of_peripheral) _) fun found ψ idle => ?_
  cases found with
  | none => exact idle
  | some target =>
    obtain ⟨t, seen, rfl⟩ := idle.free
    refine Follows.seq (P := fun r ψ => match r with
      | .ok rows => ψ = .free target.id rows
      | .error _ => ψ.Idle) (keeps_list ?_ ?_) (fun _ _ reached => reached) ?_
    · intro r rows shows
      exact ⟨_, .look shows, rfl⟩
    · intro r e _
      exact ⟨_, .spare rfl, trivial⟩
    · rintro rows _ rfl
      exact keeps_unmap (List.Subset.refl rows)

/-- and so does an unpublish. -/
theorem keeps_unpublish (idle : φ.Idle) :
    Keeps s.client.name φ (unpublish s v node) fun _ ψ => ψ.Idle := by
  refine idle.spare (emits_queryExtent (fun _ => IscsiOp.sparesMappings_of_peripheral) _)
        fun extent ψ idle => ?_
  cases extent with
  | none => exact idle
  | some extent => exact keeps_unmapExtent s extent idle

end

end TruenasCsi.Luns
