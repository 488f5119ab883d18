import Mathlib.Logic.Relation
import TruenasCsi.Appliance.Nvmet

/-! Everything a call can do to a subsystem's tables, row by row. -/

namespace TruenasCsi.Appliance.Nvmet

variable (t : Nvmet) (subsys : Nat) (name nqn : String)

def named : Option Subsystem :=
  (t.subsystems.filter fun row => row.name == name).head?

/-- Some port serves the subsystem. -/
def Serves : Prop := ∃ row ∈ t.portSubsys, row.subsys = subsys

/-- The host list of the subsystem has the NQN. -/
def Lists : Prop :=
  ∃ hs ∈ t.hostSubsys, hs.subsys = subsys ∧ ∃ host ∈ t.hosts, host.id = hs.host ∧ host.hostNQN = nqn

/-- The subsystem lets in any host. -/
def Open : Prop := ∃ row, t.named name = some row ∧ row.allowAnyHost = true

instance (t : Nvmet) (subsys : Nat) : Decidable (Serves t subsys) :=
  inferInstanceAs (Decidable (∃ row ∈ t.portSubsys, row.subsys = subsys))

instance (t : Nvmet) (subsys : Nat) (nqn : String) : Decidable (Lists t subsys nqn) :=
  inferInstanceAs (Decidable (∃ hs ∈ t.hostSubsys, hs.subsys = subsys ∧
    ∃ host ∈ t.hosts, host.id = hs.host ∧ host.hostNQN = nqn))

instance (t : Nvmet) (name : String) : Decidable (Open t name) :=
  inferInstanceAs (Decidable (∃ row ∈ t.named name, row.allowAnyHost = true))

def closeRows (rows : List Subsystem) : List Subsystem :=
  updateRow Subsystem.id subsys (fun row => { row with allowAnyHost := false }) rows

/-- One row a publish of a node may write. -/
inductive Grant (subsys : Nat) (nqn : String) : Nvmet → Nvmet → Prop where
  | bind (t : Nvmet) (port : Nat) : Grant subsys nqn t
      { t with portSubsys := t.portSubsys ++ [⟨t.nextID, port, subsys⟩], nextID := t.nextID + 1 }
  | register (t : Nvmet) (known : nqn ≠ "") (absent : ∀ host ∈ t.hosts, host.hostNQN ≠ nqn) :
      Grant subsys nqn t { t with hosts := t.hosts ++ [⟨t.nextID, nqn⟩], nextID := t.nextID + 1 }
  | enroll (t : Nvmet) (known : nqn ≠ "") {host : NvmeHost} (present : host ∈ t.hosts)
      (own : host.hostNQN = nqn) : Grant subsys nqn t
        { t with hostSubsys := t.hostSubsys ++ [⟨t.nextID, host.id, subsys⟩], nextID := t.nextID + 1 }
  | close (t : Nvmet) (known : nqn ≠ "") : Grant subsys nqn t
      { t with subsystems := closeRows subsys t.subsystems }

/-- One row an unpublish may delete. -/
inductive Revoke : Nvmet → Nvmet → Prop where
  | withdraw (t : Nvmet) (id : Nat) : Revoke t
      { t with hostSubsys := t.hostSubsys.filter fun row => row.id != id }
  | unbind (t : Nvmet) (id : Nat) : Revoke t
      { t with portSubsys := t.portSubsys.filter fun row => row.id != id }

abbrev Grants := Relation.ReflTransGen (Grant subsys nqn)

abbrev Revokes := Relation.ReflTransGen Revoke

/-- The registered hosts, with unique NQNs and ids. -/
structure Registered (t : Nvmet) : Prop where
  sameID : ∀ a ∈ t.hosts, ∀ b ∈ t.hosts, a.hostNQN = b.hostNQN → a.id = b.id
  sameNQN : ∀ a ∈ t.hosts, ∀ b ∈ t.hosts, a.id = b.id → a.hostNQN = b.hostNQN
  fresh : ∀ a ∈ t.hosts, a.id < t.nextID

section

variable {t u : Nvmet} {subsys : Nat} {nqn name : String} {row : Subsystem}

theorem mem_of_named (found : t.named name = some row) : row ∈ t.subsystems :=
  (List.mem_filter.mp (List.mem_of_mem_head? found)).1

theorem named_closed :
    ({ t with subsystems := closeRows subsys t.subsystems } : Nvmet).named name =
      (t.named name).map fun row =>
        if row.id = subsys then { row with allowAnyHost := false } else row := by
  have blind : (fun row : Subsystem => row.name == name) ∘
      (fun row => if row.id = subsys then { row with allowAnyHost := false } else row) =
      fun row => row.name == name := by
    funext row
    by_cases same : row.id = subsys <;> simp [same]
  simp only [named, closeRows, updateRow, List.filter_map, blind, List.head?_map]

theorem Grant.named (step : Grant subsys nqn t u) (found : t.named name = some row) :
    ∃ row', u.named name = some row' ∧ row'.id = row.id ∧
      (row'.allowAnyHost = true → row.allowAnyHost = true) := by
  cases step with
  | bind port => exact ⟨row, found, rfl, id⟩
  | register known absent => exact ⟨row, found, rfl, id⟩
  | enroll known present own => exact ⟨row, found, rfl, id⟩
  | close known =>
    rw [named_closed, found]
    by_cases same : row.id = subsys
    · exact ⟨_, rfl, by simp [same], by simp [same]⟩
    · exact ⟨row, by simp [same], rfl, id⟩

theorem Grants.named (steps : Grants subsys nqn t u) (found : t.named name = some row) :
    ∃ row', u.named name = some row' ∧ row'.id = row.id ∧
      (row'.allowAnyHost = true → row.allowAnyHost = true) := by
  induction steps with
  | refl => exact ⟨row, found, rfl, id⟩
  | tail steps step ih =>
    obtain ⟨mid, foundMid, sameMid, openMid⟩ := ih
    obtain ⟨last, foundLast, sameLast, openLast⟩ := step.named foundMid
    exact ⟨last, foundLast, sameLast.trans sameMid, openMid ∘ openLast⟩

theorem Revoke.named (step : Revoke t u) : u.named name = t.named name := by
  cases step <;> rfl

theorem Revokes.named (steps : Revokes t u) : u.named name = t.named name := by
  induction steps with
  | refl => rfl
  | tail steps step ih => exact step.named.trans ih

end

section

variable {t u : Nvmet} {subsys other : Nat} {nqn q : String}

theorem Grant.registered (step : Grant subsys nqn t u) (registered : Registered t) : Registered u := by
  cases step with
  | bind port =>
    exact ⟨registered.sameID, registered.sameNQN, fun a mem => Nat.lt_succ_of_lt (registered.fresh a mem)⟩
  | enroll known present own =>
    exact ⟨registered.sameID, registered.sameNQN, fun a mem => Nat.lt_succ_of_lt (registered.fresh a mem)⟩
  | close known => exact ⟨registered.sameID, registered.sameNQN, registered.fresh⟩
  | register known absent =>
    -- The new row shares neither its NQN nor its id with an old one.
    have split : ∀ a, a ∈ t.hosts ++ [⟨t.nextID, nqn⟩] →
        a ∈ t.hosts ∧ a.id < t.nextID ∧ a.hostNQN ≠ nqn ∨ a = ⟨t.nextID, nqn⟩ := by
      intro a mem
      rcases List.mem_append.mp mem with old | new
      · exact .inl ⟨old, registered.fresh a old, absent a old⟩
      · exact .inr (List.mem_singleton.mp new)
    constructor
    · intro a ha b hb same
      rcases split a ha with ⟨oldA, -, otherA⟩ | rfl <;> rcases split b hb with ⟨oldB, -, otherB⟩ | rfl
      · exact registered.sameID a oldA b oldB same
      · exact absurd same otherA
      · exact absurd same.symm otherB
      · rfl
    · intro a ha b hb same
      rcases split a ha with ⟨oldA, lessA, -⟩ | rfl <;> rcases split b hb with ⟨oldB, lessB, -⟩ | rfl
      · exact registered.sameNQN a oldA b oldB same
      · exact absurd same (Nat.ne_of_lt lessA)
      · exact absurd same.symm (Nat.ne_of_lt lessB)
      · rfl
    · intro a ha
      rcases split a ha with ⟨-, less, -⟩ | rfl
      · exact Nat.lt_succ_of_lt less
      · exact Nat.lt_succ_self _

theorem Grants.registered (steps : Grants subsys nqn t u) (registered : Registered t) :
    Registered u := by
  induction steps with
  | refl => exact registered
  | tail steps step ih => exact step.registered ih

theorem Grant.lists (step : Grant subsys nqn t u) (registered : Registered t) (different : q ≠ nqn)
    (listed : Lists u other q) : Lists t other q := by
  obtain ⟨hs, hsMem, of, host, hostMem, same, own⟩ := listed
  cases step with
  | bind port => exact ⟨hs, hsMem, of, host, hostMem, same, own⟩
  | close known => exact ⟨hs, hsMem, of, host, hostMem, same, own⟩
  | register known absent =>
    rcases List.mem_append.mp hostMem with old | new
    · exact ⟨hs, hsMem, of, host, old, same, own⟩
    · obtain rfl := List.mem_singleton.mp new
      exact absurd own.symm different
  | enroll known present ownNQN =>
    rcases List.mem_append.mp hsMem with old | new
    · exact ⟨hs, old, of, host, hostMem, same, own⟩
    · obtain rfl := List.mem_singleton.mp new
      have one := registered.sameNQN host hostMem _ present same
      exact absurd (own.symm.trans (one.trans ownNQN)) different

/-- Publishing one NQN puts no other on a list. -/
theorem Grants.lists (steps : Grants subsys nqn t u) (registered : Registered t) (different : q ≠ nqn)
    (listed : Lists u other q) : Lists t other q := by
  induction steps with
  | refl => exact listed
  | tail steps step ih => exact ih (step.lists (Grants.registered steps registered) different listed)

theorem Grant.lists_mono (step : Grant subsys nqn t u) (listed : Lists t other q) : Lists u other q := by
  obtain ⟨hs, hsMem, of, host, hostMem, same, own⟩ := listed
  cases step with
  | bind port => exact ⟨hs, hsMem, of, host, hostMem, same, own⟩
  | close known => exact ⟨hs, hsMem, of, host, hostMem, same, own⟩
  | register known absent =>
    exact ⟨hs, hsMem, of, host, List.mem_append_left _ hostMem, same, own⟩
  | enroll known present ownNQN =>
    exact ⟨hs, List.mem_append_left _ hsMem, of, host, hostMem, same, own⟩

theorem Grants.lists_mono (steps : Grants subsys nqn t u) (listed : Lists t other q) :
    Lists u other q := by
  induction steps with
  | refl => exact listed
  | tail steps step ih => exact step.lists_mono ih

theorem Grant.serves_mono (step : Grant subsys nqn t u) (served : Serves t other) : Serves u other := by
  obtain ⟨row, mem, of⟩ := served
  cases step with
  | bind port => exact ⟨row, List.mem_append_left _ mem, of⟩
  | close known | register known absent | enroll known present ownNQN => exact ⟨row, mem, of⟩

theorem Grants.serves_mono (steps : Grants subsys nqn t u) (served : Serves t other) :
    Serves u other := by
  induction steps with
  | refl => exact served
  | tail steps step ih => exact step.serves_mono ih

theorem Grant.unnamed (step : Grant subsys "" t u) :
    u.subsystems = t.subsystems ∧ u.hosts = t.hosts ∧ u.hostSubsys = t.hostSubsys := by
  cases step with
  | bind port => exact ⟨rfl, rfl, rfl⟩
  | register known | enroll known | close known => exact absurd rfl known

/-- Without an NQN a publish only binds. -/
theorem Grants.unnamed (steps : Grants subsys "" t u) :
    u.subsystems = t.subsystems ∧ u.hosts = t.hosts ∧ u.hostSubsys = t.hostSubsys := by
  induction steps with
  | refl => exact ⟨rfl, rfl, rfl⟩
  | tail steps step ih =>
    obtain ⟨subsystems, hosts, entries⟩ := step.unnamed
    exact ⟨subsystems.trans ih.1, hosts.trans ih.2.1, entries.trans ih.2.2⟩

theorem Revoke.hosts (step : Revoke t u) : u.hosts = t.hosts ∧ u.nextID = t.nextID := by
  cases step <;> exact ⟨rfl, rfl⟩

theorem Revokes.registered (steps : Revokes t u) (registered : Registered t) : Registered u := by
  induction steps with
  | refl => exact registered
  | tail steps step ih =>
    obtain ⟨hosts, next⟩ := step.hosts
    exact ⟨by rw [hosts]; exact ih.sameID, by rw [hosts]; exact ih.sameNQN,
      by rw [hosts, next]; exact ih.fresh⟩

theorem Revoke.subsets (step : Revoke t u) :
    u.hostSubsys ⊆ t.hostSubsys ∧ u.portSubsys ⊆ t.portSubsys := by
  cases step with
  | withdraw id => exact ⟨List.filter_sublist.subset, List.Subset.refl _⟩
  | unbind id => exact ⟨List.Subset.refl _, List.filter_sublist.subset⟩

theorem Revokes.subsets (steps : Revokes t u) :
    u.hostSubsys ⊆ t.hostSubsys ∧ u.portSubsys ⊆ t.portSubsys := by
  induction steps with
  | refl => exact ⟨List.Subset.refl _, List.Subset.refl _⟩
  | tail steps step ih =>
    exact ⟨List.Subset.trans step.subsets.1 ih.1, List.Subset.trans step.subsets.2 ih.2⟩

theorem Revokes.hosts (steps : Revokes t u) : u.hosts = t.hosts := by
  induction steps with
  | refl => rfl
  | tail steps step ih => exact step.hosts.1.trans ih

/-- An unpublish puts nobody on a list. -/
theorem Revokes.lists (steps : Revokes t u) (listed : Lists u other q) : Lists t other q := by
  obtain ⟨hs, hsMem, of, host, hostMem, same, own⟩ := listed
  rw [steps.hosts] at hostMem
  exact ⟨hs, steps.subsets.1 hsMem, of, host, hostMem, same, own⟩

theorem Revokes.serves (steps : Revokes t u) (served : Serves u other) : Serves t other := by
  obtain ⟨row, mem, of⟩ := served
  exact ⟨row, steps.subsets.2 mem, of⟩

end

end TruenasCsi.Appliance.Nvmet
