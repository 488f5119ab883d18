import TruenasCsi.Backend.Nvme
import TruenasCsi.Subsystems.Steps

/-! What publishing does to the tables of the NVMe service. -/

namespace TruenasCsi.Backend.Nvme

open Truenas (Client Asks asks_rows asks_first wp_query)
open Appliance
open Appliance.Nvmet (Grants Revokes Grant Revoke Serves Lists Registered)
open Prog

section

variable {c : Client} {w : World}

abbrev tables (c : Client) (w : World) : Nvmet := (w.appliance c.name).nvmet

@[simp] theorem tables_acted (op : NvmetOp) :
    tables c (w.acted c.name (.nvmet op)) = (Nvmet.act op (tables c w)).2 := by
  simp [tables, World.acted, State.act]

theorem wp_nvmet {op : NvmetOp} {Q : Except Err op.Answer → World → Prop} :
    M.wp (nvmet c op) Q w ↔ (∀ e : Failure, Q (.error e.err) w) ∧
      (∀ e : Failure, Q (.error e.err) (w.acted c.name (.nvmet op))) ∧
      Q (Nvmet.act op (tables c w)).1 (w.acted c.name (.nvmet op)) :=
  wp_middleware

variable (name : String) (subsys : Nat) (nqn : String)

theorem asks_querySubsystem : Asks (querySubsystem c name) w ((tables c w).named name) :=
  (asks_first (wp_query rfl)).mapError _

theorem asks_portSubsysList : Asks (portSubsysList c subsys) w
    ((tables c w).portSubsys.filter fun row => row.subsys == subsys) :=
  asks_rows (wp_query rfl)

theorem asks_hostSubsysList : Asks (hostSubsysList c subsys) w
    ((tables c w).hostSubsys.filter fun row => row.subsys == subsys) :=
  asks_rows (wp_query rfl)

theorem asks_hostByNQN : Asks (hostByNQN c nqn) w
    ((tables c w).hosts.filter fun row => row.hostNQN == nqn).head? :=
  asks_first (wp_query rfl)

theorem wp_portFor (ds : Dataset) : M.wp (portFor c ds) (fun _ t => t = w) w := by
  have listed : Asks (listPorts c) w (tables c w).ports := (asks_rows (wp_query rfl)).mapError _
  refine listed.bind (fun _ => rfl) ?_
  dsimp only
  split <;> rfl

/-- Make a row unless it is there, or then is. -/
def unlessThere {ρ κ : Type} (look : M (List ρ)) (is : ρ → Bool) (create : M κ)
    (queried failed : Err → Err) : M Unit := do
  let present ← look.mapError queried
  if present.any is then return ()
  else
    match ← create.attempt with
    | .ok _ => return ()
    | .error e =>
      match ← look.attempt with
      | .ok again => if again.any is then return () else throw (failed e)
      | .error _ => throw (failed e)

/-- Looking for a row and creating it if it is not there, once for both tables. -/
theorem wp_unlessThere {ρ κ : Type} {look : M (List ρ)} {create : M κ} {is : ρ → Bool}
    {queried failed : Err → Err} {rows : World → List ρ} {I Done : World → Prop}
    (looks : ∀ t, Asks look t (rows t)) (there : ∀ t, I t → (rows t).any is = true → Done t)
    (creates : M.wp create (fun r t => I t ∧ (∀ a, r = .ok a → Done t)) w) (initial : I w) :
    M.wp (unlessThere look is create queried failed) (fun r t => I t ∧ (r = .ok () → Done t)) w := by
  refine ((looks w).mapError _).bind (fun e => ⟨initial, nofun⟩) ?_
  split_ifs with already
  · exact ⟨initial, fun _ => there w initial already⟩
  · refine wp_bind.mpr (wp_attempt.mpr ?_)
    refine wp_mono creates ?_
    rintro r t ⟨inv, done⟩
    cases r with
    | ok a => exact ⟨inv, fun _ => done a rfl⟩
    | error e =>
      refine (looks t).attempt_bind (fun _ => ⟨inv, nofun⟩) ?_
      dsimp only
      split_ifs with now
      · exact ⟨inv, fun _ => there t inv now⟩
      · exact ⟨inv, nofun⟩

variable (port id : Nat) (t : Nvmet)

theorem bindPort_eq (subsys : Nat) : bindPort c port subsys =
    unlessThere (portSubsysList c subsys) (fun ps => ps.port == port)
      (nvmet c (.portSubsysCreate port subsys)) (fun e => e.wrap "listing port bindings: ")
      (fun e => e.wrap ("binding subsystem " ++ toString subsys ++ " to port " ++ toString port ++
        ": ")) := by
  unfold bindPort unlessThere
  congr 1
  funext present
  congr 2
  funext answer
  cases answer with
  | ok row => rfl
  | error e =>
    dsimp only
    congr 1
    funext again
    cases again <;> rfl

theorem admitNode_eq (host : NvmeHost) : admitNode c subsys nqn host =
    unlessThere (hostSubsysList c subsys) (fun hs => hs.host == host.id)
      (nvmet c (.hostSubsysCreate host.id subsys)) (fun e => e.wrap "listing host ACLs: ")
      (fun e => e.wrap ("granting " ++ nqn ++ " access to subsystem " ++ toString subsys ++ ": ")) := by
  unfold admitNode unlessThere
  congr 1
  funext present
  congr 2
  funext answer
  cases answer with
  | ok row => rfl
  | error e =>
    dsimp only
    congr 1
    funext again
    cases again <;> rfl

theorem wp_bindPort (subsys : Nat) (nqn : String) : M.wp (bindPort c port subsys) (fun r t =>
    Grants subsys nqn (tables c w) (tables c t) ∧ (r = .ok () → Serves (tables c t) subsys)) w := by
  rw [bindPort_eq]
  refine wp_unlessThere (fun t => asks_portSubsysList subsys) ?_ ?_ ?_
  · intro t _ served
    obtain ⟨row, mem, -⟩ := List.any_eq_true.mp served
    obtain ⟨mem, of⟩ := List.mem_filter.mp mem
    exact ⟨row, mem, by simpa using of⟩
  · have grown : Grants subsys nqn (tables c w)
        (tables c (w.acted c.name (.nvmet (.portSubsysCreate port subsys)))) := by
      rw [tables_acted]
      simp only [Nvmet.act]
      split_ifs with duplicate
      · exact .refl
      · exact .single (.bind _ port)
    refine wp_nvmet.mpr ⟨fun e => ⟨.refl, by simp⟩, fun e => ⟨grown, by simp⟩, grown, ?_⟩
    intro row answer
    rw [tables_acted]
    simp only [Nvmet.act] at answer ⊢
    split_ifs at answer ⊢ with duplicate
    exact ⟨⟨(tables c w).nextID, port, subsys⟩, by simp, rfl⟩
  · exact .refl

theorem host_of_first {t : World} {nqn : String} {host : NvmeHost}
    (first : ((tables c t).hosts.filter fun row => row.hostNQN == nqn).head? = some host) :
    host ∈ (tables c t).hosts ∧ host.hostNQN = nqn := by
  simpa using List.mem_filter.mp (List.mem_of_mem_head? first)

/-- After a failure a second query decides. -/
theorem wp_hostAgain {t : World} {nqn : String} (e : Err)
    (steps : Grants subsys nqn (tables c w) (tables c t)) : M.wp (do
      match ← (hostByNQN c nqn).attempt with
      | .ok (some again) => return again
      | _ => throw (e.wrap ("registering host " ++ nqn ++ ": ")))
    (fun r t => Grants subsys nqn (tables c w) (tables c t) ∧
      ∀ host, r = .ok host → host ∈ (tables c t).hosts ∧ host.hostNQN = nqn) t := by
  refine (asks_hostByNQN nqn).attempt_bind (fun _ => ⟨steps, by simp⟩) ?_
  cases now : ((tables c t).hosts.filter fun row => row.hostNQN == nqn).head? with
  | none => exact ⟨steps, by simp⟩
  | some host =>
    refine ⟨steps, fun host' same => ?_⟩
    obtain rfl := Except.ok.inj same
    exact host_of_first now

theorem wp_ensureHost {nqn : String} (known : nqn ≠ "") :
    M.wp (ensureHost c nqn) (fun r t => Grants subsys nqn (tables c w) (tables c t) ∧
      ∀ host, r = .ok host → host ∈ (tables c t).hosts ∧ host.hostNQN = nqn) w := by
  unfold ensureHost
  refine ((asks_hostByNQN nqn).mapError _).bind (fun e => ⟨.refl, by simp⟩) ?_
  cases first : ((tables c w).hosts.filter fun row => row.hostNQN == nqn).head? with
  | some host =>
    refine ⟨.refl, fun host' same => ?_⟩
    obtain rfl := Except.ok.inj same
    exact host_of_first first
  | none =>
    have absent : ∀ host ∈ (tables c w).hosts, host.hostNQN ≠ nqn := by
      simpa using first
    have grown : Grants subsys nqn (tables c w)
        (tables c (w.acted c.name (.nvmet (.hostCreate nqn)))) := by
      rw [tables_acted]
      exact .single (.register _ known absent)
    refine wp_bind.mpr (wp_attempt.mpr (wp_nvmet.mpr ⟨?_, ?_, ?_⟩))
    · intro e
      exact wp_hostAgain _ e.err .refl
    · intro e
      exact wp_hostAgain _ e.err grown
    · refine ⟨grown, fun host same => ?_⟩
      obtain rfl := Except.ok.inj same
      rw [tables_acted]
      exact ⟨List.mem_append_right _ (List.mem_singleton_self _), rfl⟩

theorem wp_admitNode {nqn : String} {host : NvmeHost} (known : nqn ≠ "")
    (present : host ∈ (tables c w).hosts) (own : host.hostNQN = nqn) :
    M.wp (admitNode c subsys nqn host) (fun r t => Grants subsys nqn (tables c w) (tables c t) ∧
      (r = .ok () → Lists (tables c t) subsys nqn)) w := by
  have listing : M.wp (admitNode c subsys nqn host) (fun r t =>
      (Grants subsys nqn (tables c w) (tables c t) ∧ host ∈ (tables c t).hosts) ∧
      (r = .ok () → Lists (tables c t) subsys nqn)) w := by
    rw [admitNode_eq]
    refine wp_unlessThere (fun t => asks_hostSubsysList subsys) ?_ ?_ ?_
    · rintro t ⟨-, still⟩ listed
      obtain ⟨hs, mem, of⟩ := List.any_eq_true.mp listed
      obtain ⟨mem, ofSubsys⟩ := List.mem_filter.mp mem
      exact ⟨hs, mem, by simpa using ofSubsys, host, still, by simpa using Eq.symm (eq_of_beq of), own⟩
    · have grown : Grants subsys nqn (tables c w)
            (tables c (w.acted c.name (.nvmet (.hostSubsysCreate host.id subsys)))) ∧
          host ∈ (tables c (w.acted c.name (.nvmet (.hostSubsysCreate host.id subsys)))).hosts := by
        rw [tables_acted]
        simp only [Nvmet.act]
        split_ifs with duplicate
        · exact ⟨.refl, present⟩
        · exact ⟨.single (.enroll _ known present own), present⟩
      refine wp_nvmet.mpr ⟨fun e => ⟨⟨.refl, present⟩, by simp⟩, fun e => ⟨grown, by simp⟩, grown, ?_⟩
      intro row answer
      rw [tables_acted]
      simp only [Nvmet.act] at answer ⊢
      split_ifs at answer ⊢ with duplicate
      exact ⟨⟨(tables c w).nextID, host.id, subsys⟩, by simp, rfl, host, present, rfl, own⟩
    · exact ⟨.refl, present⟩
  refine wp_mono listing ?_
  rintro r t ⟨⟨steps, -⟩, done⟩
  exact ⟨steps, done⟩

/-- A row that may be open only if the given one is. -/
def Current (name : String) (subsys : Subsystem) : Prop :=
  ∃ row, t.named name = some row ∧ row.id = subsys.id ∧
    (row.allowAnyHost = true → subsys.allowAnyHost = true)

theorem Current.grants {t u : Nvmet} {name nqn : String} {subsys : Subsystem} {of : Nat}
    (current : Current t name subsys) (steps : Grants of nqn t u) : Current u name subsys := by
  obtain ⟨row, found, same, closed⟩ := current
  obtain ⟨row', found', same', closed'⟩ := Grants.named steps found
  exact ⟨row', found', same'.trans same, closed ∘ closed'⟩

/-- A node with an NQN is listed and the subsystem closed; one without is let in as it is. -/
theorem wp_grantHost {name : String} {subsys : Subsystem} {node : NodeRef}
    (current : Current (tables c w) name subsys) :
    M.wp (grantHost c subsys node) (fun r t => Grants subsys.id node.nqn (tables c w) (tables c t) ∧
      (r = .ok () → node.nqn ≠ "" →
        Lists (tables c t) subsys.id node.nqn ∧ ¬(tables c t).Open name)) w := by
  unfold grantHost
  by_cases unknown : node.nqn = ""
  · rw [if_pos unknown]
    exact ⟨.refl, fun _ known => absurd unknown known⟩
  rw [if_neg unknown]
  refine wp_seq (wp_ensureHost subsys.id unknown) ?_ ?_
  · rintro e t ⟨steps, -⟩
    exact ⟨steps, by simp⟩
  rintro host t ⟨steps, registered⟩
  obtain ⟨present, own⟩ := registered host rfl
  refine wp_seq (wp_admitNode subsys.id unknown present own) ?_ ?_
  · rintro e u ⟨more, -⟩
    exact ⟨steps.trans more, by simp⟩
  rintro ⟨⟩ u ⟨more, listed⟩
  have reached : Grants subsys.id node.nqn (tables c w) (tables c u) := steps.trans more
  obtain ⟨row, found, same, closed⟩ := current.grants reached
  -- The row as it was read decides whether the subsystem is closed now.
  split_ifs with wasOpen
  · have closing : Grants subsys.id node.nqn (tables c u)
        (tables c (u.acted c.name (.nvmet (.subsysUpdate subsys.id false)))) := by
      rw [tables_acted]
      simp only [Nvmet.act]
      split_ifs with there
      · exact .single (.close _ unknown)
      · exact .refl
    refine wp_mapError.mpr (wp_nvmet.mpr ⟨?_, ?_, ?_⟩)
    · intro e
      exact ⟨reached, fun wrong => by cases wrong⟩
    · intro e
      exact ⟨reached.trans closing, fun wrong => by cases wrong⟩
    · refine ⟨reached.trans closing, fun _ _ => ⟨Grants.lists_mono closing (listed rfl), ?_⟩⟩
      have there : ((tables c u).subsystems.any fun row => row.id == subsys.id) = true :=
        List.any_eq_true.mpr ⟨row, Nvmet.mem_of_named found, by simpa using same⟩
      rintro ⟨last, foundLast, stillOpen⟩
      rw [tables_acted] at foundLast
      simp only [Nvmet.act, there, if_true] at foundLast
      rw [show updateRow Subsystem.id subsys.id (fun row => { row with allowAnyHost := false })
        (tables c u).subsystems = Nvmet.closeRows subsys.id (tables c u).subsystems from rfl,
        Nvmet.named_closed, found] at foundLast
      obtain rfl := Option.some.inj foundLast
      simp [same] at stillOpen
  · refine ⟨reached, fun _ _ => ⟨listed rfl, ?_⟩⟩
    rintro ⟨row', found', stillOpen⟩
    obtain rfl := Option.some.inj (found.symm.trans found')
    exact wasOpen (closed stillOpen)

/-- Only takes away, and then as `done` says. -/
abbrev Recedes (c : Client) (w : World) (done : Nvmet → Prop) (r : Except Err Unit)
    (t : World) : Prop :=
  Revokes (tables c w) (tables c t) ∧ (r = .ok () → done (tables c t))

theorem wp_deleteAll {delete : Nat → M Unit} {Gone : Nat → Nvmet → Prop} {context : String}
    (deletes : ∀ id w, M.wp (delete id) (Recedes c w (Gone id)) w)
    (stays : ∀ {id t u}, Revokes t u → Gone id t → Gone id u) (ids : List Nat) :
    M.wp (deleteAll delete context ids) (Recedes c w fun t => ∀ id ∈ ids, Gone id t) w := by
  induction ids generalizing w with
  | nil => exact ⟨.refl, fun _ _ none => nomatch none⟩
  | cons id rest ih =>
    refine wp_bind.mpr (wp_mapError.mpr ?_)
    refine wp_mono (deletes id w) ?_
    rintro r t ⟨steps, gone⟩
    cases r with
    | error e => exact ⟨steps, nofun⟩
    | ok _ =>
      refine wp_mono (@ih t) ?_
      rintro r u ⟨more, others⟩
      refine ⟨steps.trans more, fun ok id' mem => ?_⟩
      rcases List.mem_cons.mp mem with rfl | later
      · exact stays more (gone rfl)
      · exact others ok id' later

def Unbound : Prop := ∀ row ∈ t.portSubsys, row.id ≠ id

def Unlisted : Prop := ∀ row ∈ t.hostSubsys, row.id ≠ id

theorem wp_deleted {delete : M Unit} {after : World} {Gone : Nvmet → Prop}
    (calls : ∀ Q : Except Err Unit → World → Prop, (∀ e : Failure, Q (.error e.err) w) →
      (∀ r, Q r after) → M.wp delete Q w)
    (revokes : Revokes (tables c w) (tables c after)) (gone : Gone (tables c after)) :
    M.wp (Truenas.gone delete) (Recedes c w Gone) w := by
  refine Truenas.wp_gone (calls _ (fun e => ⟨⟨.refl, nofun⟩, ?_⟩) fun r => ?_)
  · rintro _ ⟨⟩ absent
    rw [e.notAbsence] at absent
    cases absent
  · exact ⟨⟨revokes, fun _ => gone⟩, fun _ _ _ => ⟨revokes, fun _ => gone⟩⟩

theorem wp_portSubsysDelete (w : World) : M.wp (portSubsysDelete c id)
    (Recedes c w (Unbound id)) w := by
  have done : Revokes (tables c w) (tables c (w.acted c.name (.nvmet (.portSubsysDelete id)))) ∧
      Unbound id (tables c (w.acted c.name (.nvmet (.portSubsysDelete id)))) := by
    rw [tables_acted]
    simp only [Nvmet.act]
    split_ifs with there
    · exact ⟨.single (.unbind _ id), fun row mem => by simpa using (List.mem_filter.mp mem).2⟩
    · exact ⟨.refl, by simpa [Unbound] using there⟩
  exact wp_deleted (fun Q failed after => wp_nvmet.mpr ⟨failed, fun e => after _, after _⟩)
    done.1 done.2

theorem wp_hostSubsysDelete (w : World) : M.wp (hostSubsysDelete c id)
    (Recedes c w (Unlisted id)) w := by
  have done : Revokes (tables c w) (tables c (w.acted c.name (.nvmet (.hostSubsysDelete id)))) ∧
      Unlisted id (tables c (w.acted c.name (.nvmet (.hostSubsysDelete id)))) := by
    rw [tables_acted]
    simp only [Nvmet.act]
    split_ifs with there
    · exact ⟨.single (.withdraw _ id), fun row mem => by simpa using (List.mem_filter.mp mem).2⟩
    · exact ⟨.refl, by simpa [Unlisted] using there⟩
  exact wp_deleted (fun Q failed after => wp_nvmet.mpr ⟨failed, fun e => after _, after _⟩)
    done.1 done.2

/-- After an unbind that succeeded no port serves the subsystem. -/
theorem wp_unbind : M.wp (unbind c name subsys)
    (Recedes c w fun t => ¬Serves t subsys) w := by
  refine ((asks_portSubsysList subsys).mapError _).bind (fun e => ⟨.refl, nofun⟩) ?_
  refine wp_mono (wp_deleteAll wp_portSubsysDelete ?_ _) ?_
  · intro id t u steps unbound row mem
    exact unbound row (steps.subsets.2 mem)
  · rintro r t ⟨steps, all⟩
    refine ⟨steps, fun ok => ?_⟩
    rintro ⟨row, mem, of⟩
    refine all ok row.id (List.mem_map_of_mem (List.mem_filter.mpr ⟨?_, ?_⟩)) row mem rfl
    · exact steps.subsets.2 mem
    · simpa using of

/-- A node whose NQN is known is off the list afterwards. -/
theorem wp_revokeHost (node : NodeRef) :
    M.wp (revokeHost c name subsys node) (Recedes c w fun t =>
      Registered (tables c w) → node.nqn ≠ "" → ¬Lists t subsys node.nqn) w := by
  unfold revokeHost
  by_cases unknown : node.nqn = ""
  · rw [if_pos unknown]
    exact ⟨.refl, fun _ _ known => absurd unknown known⟩
  rw [if_neg unknown]
  refine ((asks_hostByNQN node.nqn).mapError _).bind (fun e => ⟨.refl, nofun⟩) ?_
  cases first : ((tables c w).hosts.filter fun row => row.hostNQN == node.nqn).head? with
  | none =>
    have absent : ∀ host ∈ (tables c w).hosts, host.hostNQN ≠ node.nqn := by simpa using first
    refine ⟨.refl, fun _ _ _ => ?_⟩
    rintro ⟨hs, -, -, host, mem, -, own⟩
    exact absent host mem own
  | some host =>
    obtain ⟨present, own⟩ := List.mem_filter.mp (List.mem_of_mem_head? first)
    refine ((asks_hostSubsysList subsys).mapError _).bind (fun e => ⟨.refl, nofun⟩) ?_
    refine wp_mono (wp_deleteAll wp_hostSubsysDelete ?_ _) ?_
    · intro id t u steps unlisted row mem
      exact unlisted row (steps.subsets.1 mem)
    · rintro r t ⟨steps, all⟩
      refine ⟨steps, fun ok registered _ => ?_⟩
      rintro ⟨hs, mem, of, host', memHost, same, ownHost⟩
      rw [steps.hosts] at memHost
      -- Whoever bears the NQN has the id whose entries were deleted.
      have one := registered.sameID host' memHost host present (ownHost.trans (eq_of_beq own).symm)
      refine all ok hs.id (List.mem_map_of_mem (List.mem_filter.mpr ⟨List.mem_filter.mpr
        ⟨steps.subsets.1 mem, by simpa using of⟩, ?_⟩)) hs mem rfl
      simpa using same.symm.trans one

end

section

variable {b : Server} {id : Volume.ID} {node : NodeRef} {w : World}

def subsystemOf (b : Server) (id : Volume.ID) (w : World) : Option Subsystem :=
  (tables b.client w).named (subsystemName b.env.sha256 id)

/-- Part of a publish, or all of it. -/
structure Published (name : String) (subsys : Nat) (nqn : String) (t : Nvmet) (ok : Bool)
    (u : Nvmet) : Prop where
  grants : Grants subsys nqn t u
  serves : ok = true → Serves u subsys
  admits : ok = true → nqn ≠ "" → Lists u subsys nqn ∧ ¬u.Open name

theorem wp_publishSubsystem {ds : Dataset} {subsys : Subsystem} {name : String}
    (found : (tables b.client w).named name = some subsys) :
    M.wp (publishSubsystem b ds subsys node)
      (fun r t => Published name subsys.id node.nqn (tables b.client w) r.isOk (tables b.client t)) w := by
  unfold publishSubsystem
  refine wp_seq (wp_portFor ds) ?_ ?_
  · rintro e t rfl
    exact ⟨.refl, nofun, nofun⟩
  rintro port t rfl
  refine wp_seq (wp_bindPort port.id subsys.id node.nqn) ?_ ?_
  · rintro e u ⟨steps, -⟩
    exact ⟨steps, nofun, nofun⟩
  rintro ⟨⟩ u ⟨steps, served⟩
  have current : Current (tables b.client u) name subsys :=
    Current.grants ⟨subsys, found, rfl, fun wasOpen => wasOpen⟩ steps
  refine wp_seq (wp_grantHost current) ?_ ?_
  · rintro e v ⟨more, -⟩
    exact ⟨steps.trans more, nofun, nofun⟩
  rintro ⟨⟩ v ⟨more, admitted⟩
  have bound := more.serves_mono (served rfl)
  cases portalAddress b.client port with
  | error e => exact ⟨steps.trans more, nofun, nofun⟩
  | ok portal => exact ⟨steps.trans more, fun _ => bound, fun _ => admitted rfl⟩

/-- A publish fails before it wrote anything, or took `Grants` steps for the node's NQN. -/
theorem wp_publish : M.wp (publish b id node) (fun r t =>
    (tables b.client t = tables b.client w ∧ r.isOk = false) ∨
    ∃ subsys, subsystemOf b id w = some subsys ∧
      Published (subsystemName b.env.sha256 id) subsys.id node.nqn (tables b.client w) r.isOk
        (tables b.client t)) w := by
  unfold publish
  refine ((Truenas.asks_datasetQuery _ _).mapError _).bind (fun e => Or.inl ⟨rfl, rfl⟩) ?_
  cases (w.appliance b.client.name).storage.dataset? id.datasetPath with
  | none => exact .inl ⟨rfl, rfl⟩
  | some ds =>
    refine (asks_querySubsystem _).bind (fun e => Or.inl ⟨rfl, rfl⟩) ?_
    cases found : (tables b.client w).named (subsystemName b.env.sha256 id) with
    | none => exact .inl ⟨rfl, rfl⟩
    | some subsys =>
      have device : Asks (namespaceByDevice b.client (devicePath id)) w _ := asks_first (wp_query rfl)
      refine (device.mapError _).bind (fun e => Or.inl ⟨rfl, rfl⟩) ?_
      split_ifs with serving
      · refine wp_mono (wp_publishSubsystem found) ?_
        intro r t done
        exact .inr ⟨subsys, found, done⟩
      · exact .inl ⟨rfl, rfl⟩

/-- Only takes away, or all of it. -/
theorem wp_unpublish : M.wp (unpublish b id node) (fun r t =>
    Revokes (tables b.client w) (tables b.client t) ∧
    (r = .ok () → ∀ subsys, subsystemOf b id w = some subsys →
      ¬Serves (tables b.client t) subsys.id ∧
      (Registered (tables b.client w) → node.nqn ≠ "" →
        ¬Lists (tables b.client t) subsys.id node.nqn))) w := by
  unfold unpublish
  refine (asks_querySubsystem _).bind (fun e => ⟨.refl, nofun⟩) ?_
  cases found : (tables b.client w).named (subsystemName b.env.sha256 id) with
  | none => exact ⟨.refl, fun _ subsys given => nomatch found.symm.trans given⟩
  | some subsys =>
    refine wp_seq (wp_revokeHost _ subsys.id node) ?_ ?_
    · rintro e t ⟨steps, -⟩
      exact ⟨steps, nofun⟩
    rintro ⟨⟩ t ⟨steps, withdrawn⟩
    refine wp_mono (wp_unbind _ subsys.id) ?_
    rintro r u ⟨more, unbound⟩
    refine ⟨steps.trans more, fun ok subsys' found' => ?_⟩
    obtain rfl := Option.some.inj (found.symm.trans found')
    refine ⟨unbound ok, fun registered known listed => ?_⟩
    exact withdrawn rfl registered known (Revokes.lists more listed)

end

end TruenasCsi.Backend.Nvme
