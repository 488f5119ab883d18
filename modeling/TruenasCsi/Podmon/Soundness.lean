import TruenasCsi.Podmon.Connectivity

/-!
# When a verdict that permits a fence is sound

## Main result

`safe_to_fence_sound_iff`: permissions are sound, for these answers and all with the same entries, exactly
if the answers are `Decisive`.

## Proof strategy

Each protocol's check is read back as an iff (`clears_iscsi_iff` and its neighbours). For the converse an
entry that disagrees is repeated at the front of the listing, where it decides.
-/

namespace TruenasCsi.Podmon

open Truenas Backend
open Volume (ID)

theorem safeToFence_iff {reports : List Report} :
    (safeToFence reports).1 = true ↔
      reports ≠ [] ∧ ∀ r ∈ reports, r.verdict.safeToFence = true := by
  unfold safeToFence
  by_cases none : reports = []
  · simp [none]
  · rw [if_neg none]
    cases found : reports.find? (!·.verdict.safeToFence) with
    | some r =>
      have refuses := List.find?_some found
      have mem := List.mem_of_find?_eq_some found
      simp only [Bool.false_eq_true, false_iff, not_and, not_forall]
      intro _
      exact ⟨r, mem, by simpa using refuses⟩
    | none =>
      have all := List.find?_eq_none.mp found
      simpa [none] using all

theorem verdict_safe_iff {nodeID volumeID : String} {signal : Signal} {errors : List String} :
    (Report.mk nodeID volumeID [signal, Connectivity.checkVolumeIO] errors).verdict.safeToFence
        = true ↔ errors = [] ∧ signal.state = .disconnected := by
  cases errors with
  | cons e rest => simp [Report.verdict]
  | nil =>
    have io : Connectivity.checkVolumeIO.blocks = false := by decide
    cases state : signal.state with
    | unknown | connected => simp [Report.verdict, Signal.blocks, state]
    | disconnected =>
      have clear : signal.blocks = false := by simp [Signal.blocks, state]
      simp [Report.verdict, io, clear, state]
    | unobservable =>
      -- Not even an unobservable signal that is subsumed is evidence.
      have none : List.countP (·.state == .disconnected) [signal, Connectivity.checkVolumeIO] = 0 := by
        simp [Connectivity.checkVolumeIO, state]
      cases blocks : signal.blocks with
      | true => simp [Report.verdict, blocks]
      | false => simp [Report.verdict, io, blocks, none]

namespace Connectivity

variable {c : Connectivity} {node : NodeRef} {sess : Sessions} {nodeID : String}

/-- The answer was that the node is disconnected. -/
def Clears (c : Connectivity) (node : NodeRef) (id : ID) (sess : Sessions) : Prop :=
  (c.protocolSignal id node sess).2 = [] ∧ (c.protocolSignal id node sess).1.state = .disconnected

theorem report_safe_iff {id : ID} :
    (c.report nodeID id).verdict.safeToFence = true ↔
      ∃ node, c.resolve nodeID = .ok node ∧
        ∃ sess, c.appliances id.backend = .ok sess ∧ c.Clears node id sess := by
  unfold report
  cases c.resolve nodeID with
  | error e => simp [Report.verdict]
  | ok node =>
    cases c.appliances id.backend with
    | error e => simp [Report.verdict]
    | ok sess =>
      cases asked : c.protocolSignal id node sess with
      | mk signal errors => simp [asked, verdict_safe_iff, Clears]

/-- A fence is permitted exactly if every volume's protocol clears the node. -/
theorem check_safe_iff {ids : List ID} :
    (safeToFence (c.check nodeID ids)).1 = true ↔
      ids ≠ [] ∧ ∀ id ∈ ids, ∃ node, c.resolve nodeID = .ok node ∧
        ∃ sess, c.appliances id.backend = .ok sess ∧ c.Clears node id sess := by
  simp only [safeToFence_iff, check, List.forall_mem_map, report_safe_iff, ne_eq,
    List.map_eq_nil_iff]

end Connectivity

variable (stale : Int) (node : NodeRef)

/-- Some address of the node is known. -/
def Located : Prop := ∃ address ∈ node.addrs, address ≠ ""

/-- The node's session, by name or address. -/
def OwnsISCSI (s : ISCSISession) : Prop :=
  node.iqn ≠ "" ∧ s.initiator = node.iqn ∨ s.initiatorAddr ≠ "" ∧ s.initiatorAddr ∈ node.addrs

/-- A session by the node's host NQN or address. -/
def OwnsNVMe (s : NVMeSession) : Prop :=
  node.nqn ≠ "" ∧ s.hostNQN = node.nqn ∨ s.hostAddr ≠ "" ∧ s.hostAddr ∈ node.addrs

/-- A client whose last renewal is known and too old. -/
def Stale (client : NFSClient) : Prop :=
  client.renewAgeSeconds ≠ renewAgeUnknown ∧ stale < client.renewAgeSeconds

instance (stale : Int) (client : NFSClient) : Decidable (Stale stale client) :=
  inferInstanceAs (Decidable (_ ∧ _))

/-- Each entry of the node is known to be dead. -/
def Accounted (protocol : String) (sess : Sessions) : Prop :=
  (protocol = "iscsi" ∧ (Located node ∨ node.iqn ≠ "") ∧
    ∃ rows, sess.iscsi = .ok rows ∧ ∀ s ∈ rows, ¬ OwnsISCSI node s) ∨
  (protocol = "nvme" ∧ (Located node ∨ node.nqn ≠ "") ∧
    ∃ out, sess.nvme = .ok out ∧ ∀ s ∈ nvmeSessions out, ¬ OwnsNVMe node s) ∨
  (protocol = "nfs" ∧ Located node ∧
    ∃ v4 v3, sess.nfs4 = .ok v4 ∧ sess.nfs3 = .ok v3 ∧
      ∀ client ∈ sightings v4 v3, client.address ∈ node.addrs → Stale stale client)

/-- The same answer, in any order. -/
def SameEntries {α : Type} (a b : Except Err (List α)) : Prop :=
  a = b ∨ ∃ l m, a = .ok l ∧ b = .ok m ∧ ∀ x, x ∈ l ↔ x ∈ m

/-- Listings with the same entries, in any order and number. -/
structure Sessions.Alike (s t : Sessions) : Prop where
  iscsi : SameEntries s.iscsi t.iscsi
  nvme : SameEntries s.nvme t.nvme
  nfs4 : SameEntries s.nfs4 t.nfs4
  nfs3 : SameEntries s.nfs3 t.nfs3

def AlikeAnswers (a b : Except Err Sessions) : Prop :=
  a = b ∨ ∃ s t, a = .ok s ∧ b = .ok t ∧ s.Alike t

variable {s : Sessions} {α : Type}

theorem SameEntries.symm {a b : Except Err (List α)} (same : SameEntries a b) :
    SameEntries b a := by
  rcases same with rfl | ⟨l, m, hl, hm, mem⟩
  · exact .inl rfl
  · exact .inr ⟨m, l, hm, hl, fun x => (mem x).symm⟩

theorem SameEntries.ok {a b : Except Err (List α)} (same : SameEntries a b)
    {l : List α} (answer : a = .ok l) : ∃ m, b = .ok m ∧ ∀ x, x ∈ l ↔ x ∈ m := by
  rcases same with rfl | ⟨l', m, hl, hm, mem⟩
  · exact ⟨l, answer, fun _ => Iff.rfl⟩
  · obtain rfl : l' = l := by simpa [hl] using answer
    exact ⟨m, hm, mem⟩

theorem Sessions.Alike.symm {t : Sessions} (alike : s.Alike t) : t.Alike s :=
  ⟨alike.iscsi.symm, alike.nvme.symm, alike.nfs4.symm, alike.nfs3.symm⟩

theorem AlikeAnswers.symm {a b : Except Err Sessions} (alike : AlikeAnswers a b) :
    AlikeAnswers b a := by
  rcases alike with rfl | ⟨s, t, hs, ht, alike⟩
  · exact .inl rfl
  · exact .inr ⟨t, s, ht, hs, alike.symm⟩

theorem Sessions.Alike.refl (s : Sessions) : s.Alike s :=
  ⟨.inl rfl, .inl rfl, .inl rfl, .inl rfl⟩

theorem AlikeAnswers.ok {a b : Except Err Sessions} (alike : AlikeAnswers a b)
    (answer : a = .ok s) : ∃ t, b = .ok t ∧ s.Alike t := by
  rcases alike with rfl | ⟨s', t, hs, ht, alike⟩
  · exact ⟨s, answer, .refl s⟩
  · obtain rfl : s' = s := by simpa [hs] using answer
    exact ⟨t, ht, alike⟩

theorem sightings_congr {v4 w4 : List Nfs4Client} {v3 w3 : List Nfs3Client}
    (same4 : ∀ x, x ∈ v4 ↔ x ∈ w4) (same3 : ∀ x, x ∈ v3 ↔ x ∈ w3) (s : NFSClient) :
    s ∈ sightings v4 v3 ↔ s ∈ sightings w4 w3 := by
  simp only [mem_sightings, same4, same3]

theorem Accounted.alike {stale : Int} {node : NodeRef} {protocol : String} {t : Sessions}
    (alike : s.Alike t) (accounted : Accounted stale node protocol s) :
    Accounted stale node protocol t := by
  rcases accounted with ⟨p, known, rows, answer, none⟩ | ⟨p, known, out, answer, none⟩ |
    ⟨p, located, v4, v3, answer4, answer3, dead⟩
  · obtain ⟨rows', answer', mem⟩ := alike.iscsi.ok answer
    exact .inl ⟨p, known, rows', answer', fun x hx => none x ((mem x).mpr hx)⟩
  · obtain ⟨out', answer', mem⟩ := alike.nvme.ok answer
    refine .inr (.inl ⟨p, known, out', answer', fun x hx => none x ?_⟩)
    simp only [nvmeSessions, List.mem_map] at hx ⊢
    obtain ⟨row, rowMem, eq⟩ := hx
    exact ⟨row, (mem row).mpr rowMem, eq⟩
  · obtain ⟨w4, answer4', same4⟩ := alike.nfs4.ok answer4
    obtain ⟨w3, answer3', same3⟩ := alike.nfs3.ok answer3
    exact .inr (.inr ⟨p, located, w4, w3, answer4', answer3',
      fun client mem => dead client ((sightings_congr same4 same3 client).mpr mem)⟩)

namespace Connectivity

variable {c : Connectivity} {node : NodeRef} {id : ID} {sess : Sessions}

theorem clears_iscsi_iff (iscsi : id.protocol = "iscsi") :
    c.Clears node id sess ↔ ∃ rows, sess.iscsi = .ok rows ∧ ∀ s ∈ rows, ¬ OwnsISCSI node s := by
  have asked : c.protocolSignal id node sess = checkISCSI node sess := by
    simp [protocolSignal, iscsi]
  unfold Clears
  rw [asked, checkISCSI]
  cases sess.iscsi with
  | error e => simp
  | ok rows =>
    dsimp only
    cases found : rows.find? _ with
    | some s =>
      have owned := List.find?_some found
      have mem := List.mem_of_find?_eq_some found
      simp only [reduceCtorEq, and_false, Except.ok.injEq, exists_eq_left', false_iff]
      intro none
      exact none s mem (by simpa [OwnsISCSI] using owned)
    | none =>
      have all := List.find?_eq_none.mp found
      simpa [OwnsISCSI, not_or] using all

theorem clears_nvme_iff (nvme : id.protocol = "nvme") :
    c.Clears node id sess ↔
      node.nqn ≠ "" ∧ ∃ out, sess.nvme = .ok out ∧ ∀ s ∈ nvmeSessions out, ¬ OwnsNVMe node s := by
  have asked : c.protocolSignal id node sess = checkNVMe node sess := by
    simp [protocolSignal, nvme]
  unfold Clears
  rw [asked, checkNVMe]
  cases sess.nvme with
  | error e => simp
  | ok out =>
    dsimp only
    cases found : (nvmeSessions out).find? _ with
    | some s =>
      have owned := List.find?_some found
      have mem := List.mem_of_find?_eq_some found
      simp only [reduceCtorEq, and_false, Except.ok.injEq, exists_eq_left', false_iff, not_and]
      intro _ none
      exact none s mem (by simpa [OwnsNVMe] using owned)
    | none =>
      have all := List.find?_eq_none.mp found
      by_cases unnamed : node.nqn = ""
      · simp [unnamed]
      · simpa [OwnsNVMe, not_or, unnamed] using all

/-- Over NFS only the first entry of each address counts. -/
theorem clears_nfs_iff (nfs : id.protocol = "nfs") :
    c.Clears node id sess ↔
      ∃ v4 v3, sess.nfs4 = .ok v4 ∧ sess.nfs3 = .ok v3 ∧
        ∀ client, (Truenas.nfsClients v4 v3).find? (node.addrs.contains ·.address) = some client →
          Stale c.stale client := by
  have asked : c.protocolSignal id node sess = c.checkNFS node sess := by
    simp [protocolSignal, nfs]
  unfold Clears
  rw [asked, checkNFS, Sessions.nfsClients]
  cases sess.nfs4 with
  | error e => simp [bind, Except.bind]
  | ok v4 =>
    cases sess.nfs3 with
    | error e => simp [bind, Except.bind]
    | ok v3 =>
      simp only [bind, Except.bind, pure, Except.pure, Except.ok.injEq, exists_and_left,
        exists_eq_left']
      generalize (Truenas.nfsClients v4 v3).find? (node.addrs.contains ·.address) = found
      cases found with
      | none => simp
      | some client =>
        by_cases unknown : client.renewAgeSeconds = renewAgeUnknown
        · simp [unknown, Stale]
        · by_cases live : client.renewAgeSeconds ≤ c.stale
          · simp [unknown, live, Stale]
          · simp [unknown, live, Stale, not_le.mp live]

theorem not_clears {protocol : String} (other : id.protocol = protocol) (iscsi : protocol ≠ "iscsi")
    (nvme : protocol ≠ "nvme") (nfs : protocol ≠ "nfs") : ¬ c.Clears node id sess := by
  subst other
  by_cases smb : id.protocol = "smb" <;>
    simp [Clears, protocolSignal, iscsi, nvme, nfs, smb, checkSMB]

end Connectivity

/-- One stale address of the node means all are. -/
def Uniform (stale : Int) (node : NodeRef) (v4 : List Nfs4Client) (v3 : List Nfs3Client) : Prop :=
  ∀ s ∈ sightings v4 v3, s.address ∈ node.addrs → s.renewAgeSeconds ≠ renewAgeUnknown →
    (∀ t ∈ sightings v4 v3, t.address = s.address →
      t.renewAgeSeconds ≠ renewAgeUnknown → stale < t.renewAgeSeconds) →
    ∀ t ∈ sightings v4 v3, t.address ∈ node.addrs → Stale stale t

/-- The answers that make verdicts sound. -/
structure Decisive (stale : Int) (node : NodeRef) (sess : Sessions) : Prop where
  /-- Where iSCSI sessions are listed, the node is known, -/
  iscsi : ∀ rows, sess.iscsi = .ok rows → Located node ∨ node.iqn ≠ ""
  /-- and where NFS clients are, its entries agree. -/
  nfs : ∀ v4 v3, sess.nfs4 = .ok v4 → sess.nfs3 = .ok v3 → Located node ∧ Uniform stale node v4 v3

variable {stale : Int} {node : NodeRef}

theorem Uniform.congr {v4 w4 : List Nfs4Client}
    {v3 w3 : List Nfs3Client} (same4 : ∀ x, x ∈ v4 ↔ x ∈ w4) (same3 : ∀ x, x ∈ v3 ↔ x ∈ w3)
    (uniform : Uniform stale node v4 v3) : Uniform stale node w4 w3 := by
  simpa only [Uniform, sightings_congr same4 same3] using uniform

theorem Decisive.alike {s t : Sessions} (alike : s.Alike t)
    (decisive : Decisive stale node s) : Decisive stale node t := by
  constructor
  · intro rows answer
    obtain ⟨rows', answer', -⟩ := alike.symm.iscsi.ok answer
    exact decisive.iscsi rows' answer'
  · intro w4 w3 answer4 answer3
    obtain ⟨v4, answer4', same4⟩ := alike.symm.nfs4.ok answer4
    obtain ⟨v3, answer3', same3⟩ := alike.symm.nfs3.ok answer3
    obtain ⟨located, uniform⟩ := decisive.nfs v4 v3 answer4' answer3'
    exact ⟨located, uniform.congr (fun x => (same4 x).symm) fun x => (same3 x).symm⟩

variable {stale : Int} {node : NodeRef} {v4 : List Nfs4Client} {v3 : List Nfs3Client}

/-- Stale iff its address has only stale ages. -/
theorem stale_merged_iff {client : NFSClient} (mem : client ∈ nfsClients v4 v3) :
    Stale stale client ↔
      (∃ s ∈ sightings v4 v3, s.address = client.address ∧ s.renewAgeSeconds ≠ renewAgeUnknown) ∧
        ∀ t ∈ sightings v4 v3, t.address = client.address →
          t.renewAgeSeconds ≠ renewAgeUnknown → stale < t.renewAgeSeconds := by
  have merged := nfsClients_merged v4 v3
  constructor
  · rintro ⟨known, old⟩
    refine ⟨⟨client, merged.reported client mem known, rfl, known⟩, ?_⟩
    intro t seen same aged
    have fresher := (merged.freshest client mem t seen same aged).2
    omega
  · rintro ⟨⟨s, seen, same, aged⟩, all⟩
    obtain ⟨known, -⟩ := merged.freshest client mem s seen same aged
    exact ⟨known, all client (merged.reported client mem known) rfl known⟩

/-- Where entries agree, the first is enough. -/
theorem Uniform.first_iff (uniform : Uniform stale node v4 v3) :
    (∀ client, (nfsClients v4 v3).find? (node.addrs.contains ·.address) = some client →
        Stale stale client) ↔
      ∀ t ∈ sightings v4 v3, t.address ∈ node.addrs → Stale stale t := by
  have merged := nfsClients_merged v4 v3
  constructor
  · intro first t seen own
    cases found : (nfsClients v4 v3).find? (node.addrs.contains ·.address) with
    | none =>
      -- Then the merged list has no address of the node, and neither have the listings.
      obtain ⟨client, mem, same⟩ := (merged.listed t.address).mpr ⟨t, seen, rfl⟩
      have foreign := List.find?_eq_none.mp found client mem
      rw [same] at foreign
      simp [own] at foreign
    | some client =>
      have mem := List.mem_of_find?_eq_some found
      have here : client.address ∈ node.addrs := by simpa using List.find?_some found
      obtain ⟨⟨s, sMem, same, aged⟩, all⟩ := (stale_merged_iff mem).mp (first client found)
      rw [← same] at here all
      exact uniform s sMem here aged all t seen own
  · intro dead client found
    have mem := List.mem_of_find?_eq_some found
    have here : client.address ∈ node.addrs := by simpa using List.find?_some found
    rw [stale_merged_iff mem]
    constructor
    · obtain ⟨s, seen, same⟩ := (merged.listed client.address).mp ⟨client, mem, rfl⟩
      exact ⟨s, seen, same, (dead s seen (same ▸ here)).1⟩
    · intro t seen same _
      exact (dead t seen (same ▸ here)).2

namespace Connectivity

variable {c : Connectivity} {id : ID} {sess : Sessions}

/-- Where answers are decisive, what clears a node accounts for it. -/
theorem Clears.accounted (decisive : Decisive c.stale node sess)
    (clears : c.Clears node id sess) : Accounted c.stale node id.protocol sess := by
  by_cases iscsi : id.protocol = "iscsi"
  · obtain ⟨rows, answer, none⟩ := (clears_iscsi_iff iscsi).mp clears
    exact .inl ⟨iscsi, decisive.iscsi rows answer, rows, answer, none⟩
  · by_cases nvme : id.protocol = "nvme"
    · obtain ⟨named, listing⟩ := (clears_nvme_iff nvme).mp clears
      exact .inr (.inl ⟨nvme, .inr named, listing⟩)
    · by_cases nfs : id.protocol = "nfs"
      · obtain ⟨v4, v3, answer4, answer3, first⟩ := (clears_nfs_iff nfs).mp clears
        obtain ⟨located, uniform⟩ := decisive.nfs v4 v3 answer4 answer3
        exact .inr (.inr ⟨nfs, located, v4, v3, answer4, answer3, uniform.first_iff.mp first⟩)
      · exact absurd clears (not_clears rfl iscsi nvme nfs)

theorem Clears.alike {other : Sessions} (alike : sess.Alike other)
    (decisive : Decisive c.stale node sess) (clears : c.Clears node id sess) :
    c.Clears node id other := by
  have accounted := (clears.accounted decisive).alike alike
  rcases accounted with ⟨iscsi, -, listing⟩ | ⟨nvme, -, listing⟩ |
    ⟨nfs, -, w4, w3, answer4, answer3, dead⟩
  · exact (clears_iscsi_iff iscsi).mpr listing
  · exact (clears_nvme_iff nvme).mpr ⟨((clears_nvme_iff nvme).mp clears).1, listing⟩
  · have uniform := ((decisive.alike alike).nfs w4 w3 answer4 answer3).2
    exact (clears_nfs_iff nfs).mpr ⟨w4, w3, answer4, answer3, uniform.first_iff.mpr dead⟩

def withAnswers (c : Connectivity) (appliances : String → Except Err Sessions) : Connectivity :=
  { c with appliances }

/-- A permitted fence accounts for the node. -/
def SoundOn (c : Connectivity) (nodeID : String) (ids : List ID) : Prop :=
  (safeToFence (c.check nodeID ids)).1 = true →
    ∃ node, c.resolve nodeID = .ok node ∧ ∀ id ∈ ids, ∃ sess,
      c.appliances id.backend = .ok sess ∧ Accounted c.stale node id.protocol sess

variable {nodeID : String} {entry : Nfs4Client} {ids : List ID} {backend : String}

/-- Decisive answers make the verdict sound. -/
theorem soundOn_of_decisive
    (decisive : ∀ node, c.resolve nodeID = .ok node → ∀ backend sess,
      c.appliances backend = .ok sess → Decisive c.stale node sess) :
    c.SoundOn nodeID ids := by
  intro safe
  obtain ⟨nonempty, all⟩ := check_safe_iff.mp safe
  obtain ⟨first, mem⟩ := List.exists_mem_of_ne_nil ids nonempty
  obtain ⟨node, resolved, -⟩ := all first mem
  refine ⟨node, resolved, ?_⟩
  intro id mem
  obtain ⟨node', resolved', sess, answer, clears⟩ := all id mem
  obtain rfl : node' = node := by simpa [resolved] using resolved'.symm
  exact ⟨sess, answer, clears.accounted (decisive node' resolved _ sess answer)⟩

theorem safe_of_alike {appliances : String → Except Err Sessions}
    (alike : ∀ backend, AlikeAnswers (c.appliances backend) (appliances backend))
    (decisive : ∀ node, c.resolve nodeID = .ok node → ∀ backend sess,
      c.appliances backend = .ok sess → Decisive c.stale node sess)
    (safe : (safeToFence (c.check nodeID ids)).1 = true) :
    (safeToFence ((c.withAnswers appliances).check nodeID ids)).1 = true := by
  obtain ⟨nonempty, all⟩ := check_safe_iff.mp safe
  refine check_safe_iff.mpr ⟨nonempty, ?_⟩
  intro id mem
  obtain ⟨node, resolved, sess, answer, clears⟩ := all id mem
  obtain ⟨other, answer', same⟩ := (alike id.backend).ok answer
  exact ⟨node, resolved, other, answer', clears.alike same (decisive node resolved _ sess answer)⟩

def someVolume (backend protocol : String) : ID where
  backend
  protocol
  pool := "tank"
  parent := "k8s"
  ns := ""
  name := "pvc"

theorem accounted_of_clears {protocol : String}
    (sound : c.SoundOn nodeID [someVolume backend protocol]) (resolved : c.resolve nodeID = .ok node)
    (answer : c.appliances backend = .ok sess)
    (clears : c.Clears node (someVolume backend protocol) sess) :
    Accounted c.stale node protocol sess := by
  have safe : (safeToFence (c.check nodeID [someVolume backend protocol])).1 = true := by
    rw [check_safe_iff]
    simp only [ne_eq, List.cons_ne_self, not_false_eq_true, List.mem_singleton, forall_eq, true_and]
    exact ⟨node, resolved, sess, answer, clears⟩
  obtain ⟨node', resolved', all⟩ := sound safe
  obtain rfl : node' = node := by simpa [resolved] using resolved'.symm
  obtain ⟨sess', answer', accounted⟩ := all _ (List.mem_singleton.mpr rfl)
  obtain rfl : sess' = sess := by simpa [someVolume, answer] using answer'.symm
  exact accounted

theorem not_mem_of_not_located (nowhere : ¬ Located node) {address : String}
    (nonempty : address ≠ "") : address ∉ node.addrs :=
  fun mem => nowhere ⟨address, mem, nonempty⟩

theorem address_of_first {client : NFSClient}
    (here : entry.sighting.address ∈ node.addrs) (nonempty : entry.sighting.address ≠ "")
    (found : (nfsClients (entry :: v4) v3).find? (node.addrs.contains ·.address) = some client) :
    client.address = entry.sighting.address := by
  have order := (nfsClients_merged (entry :: v4) v3).first node.addrs.contains
  have start : sightings (entry :: v4) v3 = entry.sighting :: sightings v4 v3 := by
    simp [sightings, nonempty]
  rw [found, start, List.find?_cons_of_pos (by simpa using here)] at order
  exact Option.some.inj order

theorem mem_repeated (mem : entry ∈ v4) (x : Nfs4Client) : x ∈ v4 ↔ x ∈ entry :: v4 := by
  constructor
  · exact List.mem_cons_of_mem entry
  · intro more
    rcases List.mem_cons.mp more with rfl | before
    · exact mem
    · exact before

theorem clears_repeated (mem : entry ∈ v4)
    (here : entry.sighting.address ∈ node.addrs) (nonempty : entry.sighting.address ≠ "")
    (aged : entry.renewAgeSeconds ≠ renewAgeUnknown)
    (allStale : ∀ t ∈ sightings v4 v3, t.address = entry.sighting.address →
      t.renewAgeSeconds ≠ renewAgeUnknown → c.stale < t.renewAgeSeconds)
    (listing4 : sess.nfs4 = .ok (entry :: v4)) (listing3 : sess.nfs3 = .ok v3) :
    c.Clears node (someVolume backend "nfs") sess := by
  rw [clears_nfs_iff rfl]
  refine ⟨entry :: v4, v3, listing4, listing3, ?_⟩
  intro client found
  have same := address_of_first here nonempty found
  have entries := sightings_congr (mem_repeated mem) (fun x : Nfs3Client => Iff.rfl (a := x ∈ v3))
  rw [stale_merged_iff (List.mem_of_find?_eq_some found), same]
  constructor
  · refine ⟨entry.sighting, (entries _).mp ?_, rfl, aged⟩
    exact mem_sightings.mpr ⟨.inl ⟨entry, mem, rfl⟩, nonempty⟩
  · intro t seen
    exact allStale t ((entries t).mpr seen)

section

variable {nodeID backend : String}

theorem known_of_sound (sound : c.SoundOn nodeID [someVolume backend "iscsi"])
    (resolved : c.resolve nodeID = .ok node) (answer : c.appliances backend = .ok sess)
    {rows : List ISCSISession} (listing : sess.iscsi = .ok rows) :
    Located node ∨ node.iqn ≠ "" := by
  by_contra unknown
  rw [not_or, not_not] at unknown
  have clears : c.Clears node (someVolume backend "iscsi") sess := by
    rw [clears_iscsi_iff rfl]
    refine ⟨rows, listing, ?_⟩
    rintro s - (⟨named, -⟩ | ⟨nonempty, here⟩)
    · exact named unknown.2
    · exact not_mem_of_not_located unknown.1 nonempty here
  rcases accounted_of_clears sound resolved answer clears with
    ⟨-, known, -⟩ | ⟨other, -⟩ | ⟨other, -⟩
  · exact known.elim unknown.1 (fun named => named unknown.2)
  · simp at other
  · simp at other

theorem located_of_sound (sound : c.SoundOn nodeID [someVolume backend "nfs"])
    (resolved : c.resolve nodeID = .ok node) (answer : c.appliances backend = .ok sess)
    (listing4 : sess.nfs4 = .ok v4) (listing3 : sess.nfs3 = .ok v3) : Located node := by
  by_contra nowhere
  have clears : c.Clears node (someVolume backend "nfs") sess := by
    rw [clears_nfs_iff rfl]
    refine ⟨v4, v3, listing4, listing3, ?_⟩
    intro client found
    have here : client.address ∈ node.addrs := by simpa using List.find?_some found
    obtain ⟨s, seen, same⟩ := ((nfsClients_merged v4 v3).listed client.address).mp
      ⟨client, List.mem_of_find?_eq_some found, rfl⟩
    have nonempty := (mem_sightings.mp seen).2
    exact absurd here (same ▸ not_mem_of_not_located nowhere nonempty)
  rcases accounted_of_clears sound resolved answer clears with
    ⟨other, -⟩ | ⟨other, -⟩ | ⟨-, located, -⟩
  · simp at other
  · simp at other
  · exact nowhere located

def repeating (c : Connectivity) (backend : String) (sess : Sessions) (entry : Nfs4Client)
    (v4 : List Nfs4Client) : String → Except Err Sessions :=
  Function.update c.appliances backend (.ok { sess with nfs4 := .ok (entry :: v4) })

theorem repeating_alike (answer : c.appliances backend = .ok sess) (listing4 : sess.nfs4 = .ok v4)
    (mem : entry ∈ v4) (b : String) :
    AlikeAnswers (c.appliances b) (c.repeating backend sess entry v4 b) := by
  by_cases same : b = backend
  · subst same
    rw [repeating, Function.update_self]
    refine .inr ⟨sess, _, answer, rfl, .inl rfl, .inl rfl, ?_, .inl rfl⟩
    exact .inr ⟨v4, entry :: v4, listing4, rfl, mem_repeated mem⟩
  · rw [repeating, Function.update_of_ne same]
    exact .inl rfl

/-- The converse: an entry that disagrees, repeated first, would clear the node. -/
theorem uniform_of_sound
    (sound : ∀ entry ∈ v4, (c.withAnswers (c.repeating backend sess entry v4)).SoundOn nodeID
      [someVolume backend "nfs"])
    (resolved : c.resolve nodeID = .ok node) (listing3 : sess.nfs3 = .ok v3) :
    Uniform c.stale node v4 v3 := by
  intro s seen here aged allStale
  -- An entry with an age is of the NFSv4 listing; repeat it at the front.
  obtain ⟨⟨entry, mem, rfl⟩ | ⟨entry, -, rfl⟩, nonempty⟩ := mem_sightings.mp seen
  · have clears : (c.withAnswers (c.repeating backend sess entry v4)).Clears node
        (someVolume backend "nfs") { sess with nfs4 := .ok (entry :: v4) } :=
      clears_repeated mem here nonempty aged allStale rfl listing3
    have accounted := accounted_of_clears (sound entry mem) resolved
      (Function.update_self ..) clears
    rcases accounted with ⟨other, -⟩ | ⟨other, -⟩ | ⟨-, -, w4, w3, answer4, answer3, dead⟩
    · simp at other
    · simp at other
    · obtain rfl : entry :: v4 = w4 := Except.ok.inj answer4
      obtain rfl : v3 = w3 := Except.ok.inj (listing3.symm.trans answer3)
      intro t tSeen
      exact dead t ((sightings_congr (mem_repeated mem) (fun _ => Iff.rfl) t).mp tSeen)
  · exact absurd rfl aged

end

/-- For every node: each permission to fence, also with other sessions in answers of the same kind, accounts
for the node on all backends asked, and the verdict is the same, exactly if every answer is decisive
(`Decisive`). -/
theorem safe_to_fence_sound_iff (c : Connectivity) (nodeID : String) :
    (∀ appliances, (∀ backend, AlikeAnswers (c.appliances backend) (appliances backend)) →
      ∀ ids, ((safeToFence ((c.withAnswers appliances).check nodeID ids)).1 =
          (safeToFence (c.check nodeID ids)).1) ∧ (c.withAnswers appliances).SoundOn nodeID ids) ↔
      ∀ node, c.resolve nodeID = .ok node → ∀ backend sess, c.appliances backend = .ok sess →
        Decisive c.stale node sess := by
  constructor
  · intro all node resolved backend sess answer
    have sound := fun ids => (all c.appliances (fun _ => Or.inl rfl) ids).2
    constructor
    · intro rows listing
      exact known_of_sound (sound _) resolved answer listing
    · intro v4 v3 listing4 listing3
      refine ⟨located_of_sound (sound _) resolved answer listing4 listing3, ?_⟩
      -- Every entry can be the first of its address in a listing with the same entries.
      have repeated : ∀ entry ∈ v4, (c.withAnswers (c.repeating backend sess entry v4)).SoundOn
          nodeID [someVolume backend "nfs"] := by
        intro entry mem
        exact (all _ (repeating_alike answer listing4 mem) _).2
      exact uniform_of_sound repeated resolved listing3
  · intro decisive appliances alike ids
    have decisive' : ∀ node, (c.withAnswers appliances).resolve nodeID = .ok node →
        ∀ backend sess, (c.withAnswers appliances).appliances backend = .ok sess →
          Decisive (c.withAnswers appliances).stale node sess := by
      intro node resolved backend sess answer
      obtain ⟨original, answer', same⟩ := (alike backend).symm.ok answer
      exact (decisive node resolved backend original answer').alike same.symm
    constructor
    · rw [Bool.eq_iff_iff]
      exact ⟨safe_of_alike (fun backend => (alike backend).symm) decisive',
        safe_of_alike alike decisive⟩
    · exact soundOn_of_decisive decisive'

def twoLeases : List Nfs4Client :=
  [⟨"10.0.0.1:700", 500⟩, ⟨"10.0.0.2:700", 2⟩]

def listingOf (v4 : List Nfs4Client) : Connectivity where
  nodes := some (kubeNodeResolver fun _ =>
    .ok (some ⟨[(.internalIP, "10.0.0.1"), (.internalIP, "10.0.0.2")], "", ""⟩))
  appliances := fun _ => .ok ⟨.ok [], .ok [], .ok v4, .ok []⟩

/-- The order of two entries permits a wrong fence. -/
theorem safe_to_fence_live_node :
    (safeToFence ((listingOf twoLeases).check "node-a" [someVolume "tank" "nfs"])).1 = true ∧
      (∃ client ∈ sightings twoLeases [], client.address ∈ ["10.0.0.1", "10.0.0.2"] ∧
        ¬ Stale (listingOf twoLeases).stale client) ∧
      (safeToFence
        ((listingOf twoLeases.reverse).check "node-a" [someVolume "tank" "nfs"])).1 = false := by
  decide

end Connectivity

end TruenasCsi.Podmon
