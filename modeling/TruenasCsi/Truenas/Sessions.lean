import TruenasCsi.Support.Net
import TruenasCsi.Status

/-! Two NFS listings merged into one entry per address. -/

namespace TruenasCsi.Truenas

open Text

/-- The lease age of unknown liveness. -/
def renewAgeUnknown : Int := -1

structure ISCSISession where
  initiator : String
  initiatorAddr : String
  target : String
  targetName : String
deriving DecidableEq

structure WireNvmeSession where
  hostTRAddr : String
  hostNQN : String
  subsysID : Int
  portID : Int
  ctrl : Int
deriving DecidableEq

structure NVMeSession where
  hostNQN : String
  hostAddr : String
  subsysID : Int
  portID : Int
  controller : Int
deriving DecidableEq

/-- An element of `nfs.get_nfs4_clients`. -/
structure Nfs4Client where
  address : String
  renewAgeSeconds : Int
deriving DecidableEq

structure Nfs3Client where
  ip : String
deriving DecidableEq

structure NFSClient where
  address : String
  renewAgeSeconds : Int
deriving DecidableEq

def hostOnly (addr : String) : String :=
  match Net.splitHostPort addr.toList with
  | some (host, _) => String.ofList host
  | none => addr

def nvmeSessions (out : List WireNvmeSession) : List NVMeSession :=
  out.map fun s =>
    { hostNQN := trimSpace s.hostNQN
      hostAddr := hostOnly (trimSpace s.hostTRAddr)
      subsysID := s.subsysID
      portID := s.portID
      controller := s.ctrl }

variable (client : NFSClient) (v4 : List Nfs4Client) (v3 : List Nfs3Client)

variable (clients : List NFSClient) (seen : NFSClient)

/-- An entry seen again keeps the fresher age. -/
def NFSClient.freshen : NFSClient :=
  if client.address = seen.address ∧ seen.renewAgeSeconds ≠ renewAgeUnknown ∧
      (client.renewAgeSeconds = renewAgeUnknown ∨
        seen.renewAgeSeconds < client.renewAgeSeconds) then
    { client with renewAgeSeconds := seen.renewAgeSeconds }
  else client

def merge : List NFSClient :=
  if clients.any (·.address == seen.address) then clients.map (·.freshen seen)
  else clients ++ [seen]

/-- One listing's clients added to those there. -/
def add (addr : String) (renew : Int) : List NFSClient :=
  if trimSpace addr = "" then clients else merge clients ⟨trimSpace addr, renew⟩

def nfsClients : List NFSClient :=
  v3.foldl (fun clients c => add clients c.ip renewAgeUnknown)
    (v4.foldl (fun clients c => add clients (hostOnly c.address) c.renewAgeSeconds) [])

def Nfs4Client.sighting (c : Nfs4Client) : NFSClient :=
  ⟨trimSpace (hostOnly c.address), c.renewAgeSeconds⟩

def Nfs3Client.sighting (c : Nfs3Client) : NFSClient := ⟨trimSpace c.ip, renewAgeUnknown⟩

def sightings : List NFSClient :=
  (v4.map Nfs4Client.sighting ++ v3.map Nfs3Client.sighting).filter (·.address != "")

variable {s : NFSClient} {seen clients : List NFSClient}

theorem mem_sightings {v4 : List Nfs4Client} {v3 : List Nfs3Client} :
    s ∈ sightings v4 v3 ↔
      ((∃ c ∈ v4, c.sighting = s) ∨ ∃ c ∈ v3, c.sighting = s) ∧ s.address ≠ "" := by
  simp [sightings, or_and_right]

theorem foldl_add {α : Type} (sighting : α → NFSClient) (rows : List α) (clients : List NFSClient) :
    rows.foldl (fun clients c =>
        if (sighting c).address = "" then clients else merge clients (sighting c)) clients =
      ((rows.map sighting).filter (·.address != "")).foldl merge clients := by
  induction rows generalizing clients with
  | nil => rfl
  | cons c rest ih =>
    by_cases blank : (sighting c).address = ""
    · simp [blank, ih]
    · simp [blank, ih]

theorem nfsClients_eq : nfsClients v4 v3 = (sightings v4 v3).foldl merge [] := by
  rw [sightings, List.filter_append, List.foldl_append, ← foldl_add, ← foldl_add]
  rfl

@[simp] theorem NFSClient.freshen_address (seen : NFSClient) :
    (client.freshen seen).address = client.address := by
  unfold freshen
  split_ifs <;> rfl

theorem NFSClient.freshen_or (seen : NFSClient) :
    client.freshen seen = client ∨ client.freshen seen = seen := by
  unfold freshen
  split_ifs with fresher
  · right
    rw [fresher.1]
  · exact .inl rfl

theorem NFSClient.freshen_le (seen : NFSClient) {age : Int} (known : age ≠ renewAgeUnknown)
    (older : client.renewAgeSeconds ≠ renewAgeUnknown ∧ client.renewAgeSeconds ≤ age ∨
      client.address = seen.address ∧ seen.renewAgeSeconds = age) :
    (client.freshen seen).renewAgeSeconds ≠ renewAgeUnknown ∧
      (client.freshen seen).renewAgeSeconds ≤ age := by
  unfold freshen
  split_ifs with fresher
  · obtain ⟨-, seenKnown, better⟩ := fresher
    refine ⟨seenKnown, ?_⟩
    show seen.renewAgeSeconds ≤ age
    omega
  · rcases older with older | ⟨same, rfl⟩
    · exact older
    · have stays : ¬ (client.renewAgeSeconds = renewAgeUnknown ∨
          seen.renewAgeSeconds < client.renewAgeSeconds) :=
        fun better => fresher ⟨same, known, better⟩
      omega

/-- A merged list against its entries. -/
structure Merged (seen clients : List NFSClient) : Prop where
  /-- The first listed is the first that was seen. -/
  first : ∀ p : String → Bool,
    (clients.find? (p ·.address)).map (·.address) = (seen.find? (p ·.address)).map (·.address)
  /-- A known age was reported, -/
  reported : ∀ c ∈ clients, c.renewAgeSeconds ≠ renewAgeUnknown → c ∈ seen
  /-- and no fresher one was. -/
  freshest : ∀ c ∈ clients, ∀ s ∈ seen, s.address = c.address →
    s.renewAgeSeconds ≠ renewAgeUnknown →
      c.renewAgeSeconds ≠ renewAgeUnknown ∧ c.renewAgeSeconds ≤ s.renewAgeSeconds

theorem Merged.listed (merged : Merged seen clients)
    (address : String) : (∃ c ∈ clients, c.address = address) ↔ ∃ s ∈ seen, s.address = address := by
  have same := congrArg Option.isSome (merged.first (· == address))
  rw [Option.isSome_map, Option.isSome_map, Bool.eq_iff_iff] at same
  simpa [List.find?_isSome] using same

theorem merged_nil : Merged [] [] := by
  constructor <;> simp

theorem Merged.refresh (merged : Merged seen clients) (listed : ∃ c ∈ clients, c.address = s.address) :
    Merged (seen ++ [s]) (clients.map (·.freshen s)) := by
  constructor
  · intro p
    have same := merged.first p
    have kept : (fun c : NFSClient => p c.address) ∘ (fun c : NFSClient => c.freshen s) =
        fun c => p c.address := by
      funext c
      simp
    have order : ((clients.map (·.freshen s)).find? (p ·.address)).map (·.address) =
        (clients.find? (p ·.address)).map (·.address) := by
      rw [List.find?_map, kept, Option.map_map]
      congr 1
      funext c
      simp
    rw [order, same, List.find?_append]
    cases found : seen.find? (p ·.address) with
    | some first => rfl
    | none =>
      -- The address was seen before, so it does not have the property either.
      obtain ⟨before, mem, eq⟩ := (merged.listed s.address).mp listed
      have fails := List.find?_eq_none.mp found before mem
      rw [eq] at fails
      simp [fails]
  · intro c mem known
    obtain ⟨old, oldMem, rfl⟩ := List.mem_map.mp mem
    rcases old.freshen_or s with same | same
    · rw [same] at known ⊢
      exact List.mem_append_left _ (merged.reported old oldMem known)
    · rw [same]
      simp
  · intro c mem other seenMem same known
    obtain ⟨old, oldMem, rfl⟩ := List.mem_map.mp mem
    rw [NFSClient.freshen_address] at same
    apply NFSClient.freshen_le old s known
    rcases List.mem_append.mp seenMem with earlier | now
    · exact .inl (merged.freshest old oldMem other earlier same known)
    · obtain rfl : other = s := by simpa using now
      exact .inr ⟨same.symm, rfl⟩

theorem Merged.append (merged : Merged seen clients) (fresh : ∀ c ∈ clients, c.address ≠ s.address) :
    Merged (seen ++ [s]) (clients ++ [s]) := by
  have unseen : ∀ t ∈ seen, t.address ≠ s.address := by
    intro t mem same
    obtain ⟨c, cMem, eq⟩ := (merged.listed s.address).mpr ⟨t, mem, same⟩
    exact fresh c cMem eq
  constructor
  · intro p
    have same := merged.first p
    rw [List.find?_append, List.find?_append]
    cases found : seen.find? (p ·.address) with
    | some t =>
      cases listed : clients.find? (p ·.address) with
      | none => simp [found, listed] at same
      | some c => simpa [found, listed] using same
    | none =>
      cases listed : clients.find? (p ·.address) with
      | none => rfl
      | some c => simp [found, listed] at same
  · intro c mem known
    rcases List.mem_append.mp mem with old | new
    · exact List.mem_append_left _ (merged.reported c old known)
    · exact List.mem_append_right _ new
  · intro c mem other seenMem same known
    rcases List.mem_append.mp mem with old | new
    · rcases List.mem_append.mp seenMem with earlier | now
      · exact merged.freshest c old other earlier same known
      · obtain rfl : other = s := by simpa using now
        exact absurd same.symm (fresh c old)
    · obtain rfl : c = s := by simpa using new
      rcases List.mem_append.mp seenMem with earlier | now
      · exact absurd same (unseen other earlier)
      · obtain rfl : other = c := by simpa using now
        exact ⟨known, le_refl _⟩

theorem Merged.merge (merged : Merged seen clients)
    (s : NFSClient) : Merged (seen ++ [s]) (Truenas.merge clients s) := by
  unfold Truenas.merge
  split_ifs with known
  · exact merged.refresh (by simpa using known)
  · exact merged.append (by simpa using known)

theorem Merged.foldl (merged : Merged seen clients)
    (more : List NFSClient) : Merged (seen ++ more) (more.foldl Truenas.merge clients) := by
  induction more generalizing seen clients with
  | nil => simpa using merged
  | cons s rest ih =>
    have next := ih (merged.merge s)
    rwa [List.append_assoc] at next

theorem nfsClients_merged : Merged (sightings v4 v3) (nfsClients v4 v3) := by
  rw [nfsClients_eq]
  exact merged_nil.foldl (sightings v4 v3)

end TruenasCsi.Truenas
