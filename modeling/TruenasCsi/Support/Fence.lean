import Mathlib.Data.Set.Lattice
import Mathlib.Logic.Function.Basic

/-! A resource is reachable from the addresses on its host list. -/

namespace Fence

variable {Node Addr : Type} {revoked : Node → Set Addr} {nodes : Set Node}

/-- Who is recorded, with which addresses, and which addresses are let in. -/
structure State (Node Addr : Type) where
  ledger : Node → Option (Set Addr)
  hosts : Set Addr

@[ext] theorem State.ext {s t : State Node Addr} (ledger : s.ledger = t.ledger)
    (hosts : s.hosts = t.hosts) : s = t := by
  cases s
  cases t
  simp_all

def State.listed (s : State Node Addr) : Set Node := {n | s.ledger n ≠ none}

def State.Records (s : State Node Addr) (a : Addr) : Prop :=
  ∃ n entry, s.ledger n = some entry ∧ a ∈ entry

/-- The addresses of several nodes. -/
def taken (revoked : Node → Set Addr) (nodes : Set Node) : Set Addr := ⋃ n ∈ nodes, revoked n

theorem mem_taken {a : Addr} : a ∈ taken revoked nodes ↔ ∃ n ∈ nodes, a ∈ revoked n := by
  simp [taken]

theorem taken_mono {fewer : Set Node} (part : fewer ⊆ nodes) :
    taken revoked fewer ⊆ taken revoked nodes := by
  intro a
  rw [mem_taken, mem_taken]
  rintro ⟨n, member, present⟩
  exact ⟨n, part member, present⟩

/-- What a grant to `n` can leave behind. -/
inductive Granting [DecidableEq Node] (s : State Node Addr) (n : Node) (addrs granted : Set Addr) :
    Bool → State Node Addr → Prop where
  | untouched : Granting s n addrs granted false s
  | unrecorded : Granting s n addrs granted false ⟨s.ledger, s.hosts ∪ granted⟩
  | recorded (ok : Bool) :
      Granting s n addrs granted ok ⟨Function.update s.ledger n (some addrs), s.hosts ∪ granted⟩

section

variable [DecidableEq Node] {s : State Node Addr} {n : Node} {addrs granted : Set Addr}

theorem Granting.listed {t : State Node Addr} {ok : Bool} (step : Granting s n addrs granted ok t)
    (known : ok = true ∨ n ∈ s.listed) : t.listed = insert n s.listed := by
  cases step with
  | untouched => exact (Set.insert_eq_of_mem (known.resolve_left (by simp))).symm
  | unrecorded => exact (Set.insert_eq_of_mem (known.resolve_left (by simp))).symm
  | recorded =>
    ext m
    by_cases same : m = n
    · simp [State.listed, same]
    · simp [State.listed, same]

end

open Classical in
noncomputable def struck (ledger : Node → Option (Set Addr)) (nodes : Set Node) :
    Node → Option (Set Addr) :=
  fun n => if n ∈ nodes then none else ledger n

variable {n : Node} {nodes : Set Node}

theorem struck_mem {ledger : Node → Option (Set Addr)}
    (member : n ∈ nodes) : struck ledger nodes n = none := by
  simp [struck, member]

theorem struck_not_mem {ledger : Node → Option (Set Addr)}
    (other : n ∉ nodes) : struck ledger nodes n = ledger n := by
  simp [struck, other]

/-- What a withdrawal can leave behind. -/
inductive Withdrawal (s : State Node Addr) (nodes : Set Node) (revoked : Node → Set Addr) :
    Bool → State Node Addr → Prop where
  | unrecorded (done : Set Node) (part : done ⊆ nodes) :
      Withdrawal s nodes revoked false ⟨s.ledger, s.hosts \ taken revoked done⟩
  | recorded (ok : Bool) :
      Withdrawal s nodes revoked ok ⟨struck s.ledger nodes, s.hosts \ taken revoked nodes⟩

section

variable {s : State Node Addr} {nodes : Set Node} {revoked : Node → Set Addr} {ok : Bool}
  {t : State Node Addr}

theorem Withdrawal.ledger (step : Withdrawal s nodes revoked true t) :
    t.ledger = struck s.ledger nodes := by
  cases step with
  | recorded => rfl

theorem Withdrawal.nothing : Withdrawal s nodes revoked false s := by
  have same : s = ⟨s.ledger, s.hosts \ taken revoked ∅⟩ := by simp [taken]
  have step : Withdrawal s nodes revoked false ⟨s.ledger, s.hosts \ taken revoked ∅⟩ :=
    .unrecorded ∅ (Set.empty_subset _)
  rwa [← same] at step

theorem Withdrawal.idle (unlisted : ∀ n ∈ nodes, s.ledger n = none)
    (nothing : s.hosts \ taken revoked nodes = s.hosts) : Withdrawal s nodes revoked true s := by
  have ledger : struck s.ledger nodes = s.ledger := by
    funext n
    by_cases member : n ∈ nodes
    · rw [struck_mem member, unlisted n member]
    · rw [struck_not_mem member]
  have same : s = ⟨struck s.ledger nodes, s.hosts \ taken revoked nodes⟩ := by rw [ledger, nothing]
  have step : Withdrawal s nodes revoked true ⟨struck s.ledger nodes, s.hosts \ taken revoked nodes⟩ :=
    .recorded true
  rwa [← same] at step

theorem Withdrawal.listed_subset
    (step : Withdrawal s nodes revoked ok t) : t.listed ⊆ s.listed := by
  cases step with
  | unrecorded => exact subset_rfl
  | recorded =>
    intro n listed unlisted
    exact listed (by simp [struck, unlisted])

/-- A withdrawal strikes only nodes it names. -/
theorem Withdrawal.named (step : Withdrawal s nodes revoked ok t)
    {n : Node} (before : n ∈ s.listed) (after : n ∉ t.listed) : n ∈ nodes := by
  cases step with
  | unrecorded => exact absurd before after
  | recorded =>
    by_contra other
    exact after (by simpa [State.listed, struck_not_mem other] using before)

end

def Covered (s : State Node Addr) (added : Set Addr) : Prop :=
  ∀ a ∈ added, a ∈ s.hosts → s.Records a

section

variable {s t : State Node Addr} {added granted : Set Addr} {n : Node}

theorem Covered.mono {fewer : Set Addr} (covered : Covered s added) (part : fewer ⊆ added) :
    Covered s fewer :=
  fun a member listed => covered a (part member) listed

theorem Covered.unrecorded (covered : Covered s added) (anyway : ∀ a ∈ granted, s.Records a) :
    Covered ⟨s.ledger, s.hosts ∪ granted⟩ (added ∪ granted) := by
  intro a isAdded listed
  by_cases now : a ∈ granted
  · exact anyway a now
  · -- An older address is listed now only if it was listed before.
    have before : a ∈ added := isAdded.resolve_right now
    have still : a ∈ s.hosts := listed.resolve_right now
    exact covered a before still

/-- The overwritten entry is named elsewhere. -/
theorem Covered.recorded [DecidableEq Node] {addrs : Set Addr}
    (covered : Covered s added) (named : granted ⊆ addrs)
    (kept : ∀ old, s.ledger n = some old → ∀ a ∈ old, a ∈ s.hosts →
      a ∈ addrs ∨ ∃ m ≠ n, ∃ entry, s.ledger m = some entry ∧ a ∈ entry) :
    Covered ⟨Function.update s.ledger n (some addrs), s.hosts ∪ granted⟩ (added ∪ granted) := by
  intro a isAdded listed
  have own : a ∈ addrs → State.Records
      ⟨Function.update s.ledger n (some addrs), s.hosts ∪ granted⟩ a :=
    fun present => ⟨n, addrs, by simp, present⟩
  by_cases now : a ∈ granted
  · exact own (named now)
  · obtain ⟨m, entry, stored, present⟩ :=
      covered a (isAdded.resolve_right now) (listed.resolve_right now)
    by_cases same : m = n
    · -- The entry that named the address is the one being overwritten.
      subst same
      rcases kept entry stored a present (listed.resolve_right now) with new | other
      · exact own new
      · obtain ⟨k, different, otherEntry, otherStored, otherPresent⟩ := other
        exact ⟨k, otherEntry, by simpa [different] using otherStored, otherPresent⟩
    · exact ⟨m, entry, by simpa [same] using stored, present⟩

/-- Withdrawing keeps what is left recorded. -/
theorem Covered.withdrawal {nodes : Set Node} {revoked : Node → Set Addr} {ok : Bool}
    (covered : Covered s added) (step : Withdrawal s nodes revoked ok t)
    (whole : ∀ n ∈ nodes, ∀ entry, s.ledger n = some entry → entry ⊆ revoked n) :
    Covered t added := by
  intro a isAdded listed
  cases step with
  | unrecorded done part => exact covered a isAdded listed.1
  | recorded =>
    obtain ⟨m, entry, stored, present⟩ := covered a isAdded listed.1
    have untouched : m ∉ nodes := by
      intro member
      exact listed.2 (mem_taken.mpr ⟨m, member, whole m member entry stored present⟩)
    exact ⟨m, entry, (struck_not_mem untouched).trans stored, present⟩

theorem Covered.others (covered : Covered s added) (gone : s.ledger n = none) :
    ∀ a ∈ added, a ∈ s.hosts → ∃ m ≠ n, ∃ entry, s.ledger m = some entry ∧ a ∈ entry := by
  intro a isAdded listed
  obtain ⟨m, entry, stored, present⟩ := covered a isAdded listed
  refine ⟨m, ?_, entry, stored, present⟩
  rintro rfl
  rw [gone] at stored
  cases stored

end

/-- Everything the nodes hold is on the list. -/
def Kept (s : State Node Addr) (held : Node → Set Addr) : Prop := ∀ m, held m ⊆ s.hosts

section

variable {s t : State Node Addr} {held : Node → Set Addr} {ok : Bool}

/-- A grant takes nothing from anyone, -/
theorem Kept.granting [DecidableEq Node] {n : Node} {addrs granted : Set Addr}
    (kept : Kept s held) (step : Granting s n addrs granted ok t) :
    Kept t held ∧ (ok = true → granted ⊆ t.hosts) := by
  cases step with
  | untouched => exact ⟨kept, nofun⟩
  | unrecorded => exact ⟨fun m a present => Or.inl (kept m present), nofun⟩
  | recorded => exact ⟨fun m a present => Or.inl (kept m present), fun _ a present => Or.inr present⟩

/-- and a withdrawal only what it revokes. -/
theorem Kept.withdrawal {nodes : Set Node} {revoked : Node → Set Addr}
    (kept : Kept s held) (step : Withdrawal s nodes revoked ok t) :
    Kept t fun m => held m \ taken revoked nodes := by
  intro m a present
  cases step with
  | unrecorded done part => exact ⟨kept m present.1, fun gone => present.2 (taken_mono part gone)⟩
  | recorded => exact ⟨kept m present.1, present.2⟩

end

/-- Which nodes are listed, granted and alone. -/
structure Leases (listed holding sole : Set Node) : Prop where
  recorded : holding ⊆ listed
  alone : ∀ n ∈ sole, listed ⊆ {n}
  holds : sole ⊆ holding

namespace Leases

variable {listed holding sole : Set Node}

theorem initial : Leases listed ∅ ∅ where
  recorded := Set.empty_subset _
  alone := fun _ none => none.elim
  holds := Set.empty_subset _

/-- A grant that keeps the leases. -/
theorem granted {n : Node} {single : Prop} (leases : Leases listed holding sole)
    (refused : single → listed ⊆ {n}) (asks : (∃ k ∈ sole, k ≠ n) → single) :
    Leases (insert n listed) (insert n holding) {k | k ∈ sole ∨ single ∧ k = n} := by
  -- Nobody but `n` is left once anybody wants the resource alone.
  have soleOnly : sole ⊆ {n} := by
    intro k isSole
    by_contra other
    exact other (refused (asks ⟨k, isSole, other⟩) (leases.recorded (leases.holds isSole)))
  refine ⟨Set.insert_subset_insert leases.recorded, ?_, ?_⟩
  · rintro k (before | ⟨wanted, rfl⟩)
    · obtain rfl : k = n := soleOnly before
      exact Set.insert_subset (Set.mem_singleton k) (leases.alone k before)
    · exact Set.insert_subset (Set.mem_singleton k) (refused wanted)
  · rintro k (before | ⟨-, rfl⟩)
    · exact Set.mem_insert_of_mem n (leases.holds before)
    · exact Set.mem_insert k holding

theorem withdrawn {listed' : Set Node} (leases : Leases listed holding sole) {gone : Set Node}
    (left : listed \ gone ⊆ listed') (fewer : listed' ⊆ listed) :
    Leases listed' (holding \ gone) (sole \ gone) where
  recorded := (Set.sdiff_subset_sdiff_left leases.recorded).trans left
  alone := fun n isSole => fewer.trans (leases.alone n isSole.1)
  holds := Set.sdiff_subset_sdiff_left leases.holds

end Leases

end Fence
