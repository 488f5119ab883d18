import TruenasCsi.Luns.Book

/-!
# No LUN is mapped twice

## Main result

`luns_unique`: publishes and unpublishes on one shared target, call by call in any order and with any
failures.

## Proof strategy

Each program follows the protocol (`Luns.Protocol`), each step of which keeps `Lawful` if it is
`Considerate` (`lawful_step`). What `Considerate` excludes are the code's races: a LUN on record is claimed
without the lock.
-/

namespace TruenasCsi.Luns

open Appliance Backend Volume World

/-- The LUN that the next call of the program maps. -/
def aboutToMap {α : Type} : M α → Option (Nat × Nat)
  | .call (.api _ (.iscsi (.targetExtentCreate target _ lun))) _ => some (target, lun)
  | .call (.process (.unlockLUNs _)) k => aboutToMap (k (.ok ()))
  | _ => none

def aboutToRelease {α : Type} : M α → Option (Nat × Nat)
  | .call (.process (.releaseLUN target lun)) _ => some (target, lun)
  | _ => none

section

variable {α : Type} {b : String} {p : M α} {φ : Phase} {t l : Nat}

theorem truthful_answer (c : Call) : ∃ r, Truthful c r :=
  ⟨_, handle_truthful .none c ⟨fun _ => {}, {}⟩⟩

theorem touches_of_aboutToMap (keeps : Keeps b φ p fun _ ψ => ψ.Idle)
    (about : aboutToMap p = some (t, l)) : φ = .chosen t l ∨ φ = .claimed t l := by
  induction p generalizing φ with
  | ret a => cases about
  | fail e => cases about
  | call c k ih =>
    unfold aboutToMap at about
    split at about
    · rename_i backend target x lun k' same
      cases same
      cases about
      obtain ⟨ψ, move, -⟩ := keeps (.error (.plain "")) trivial
      cases move with
      | spare spares => cases spares
      | mapFailed => exact .inr rfl
    · rename_i target k' same
      cases same
      obtain ⟨ψ, move, rest⟩ := keeps (.ok ()) trivial
      -- Behind the lock, only a call that has chosen goes on to map.
      rcases ih _ rest about with rfl | rfl
      · cases move
      · cases move with
        | unlock => exact .inl rfl
    · cases about

theorem aboutToMap_of_claimed (keeps : Keeps b (.claimed t l) p fun _ ψ => ψ.Idle) :
    aboutToMap p = some (t, l) := by
  cases p with
  | ret a => exact keeps.elim
  | fail e => exact keeps.elim
  | call c k =>
    obtain ⟨r, truthful⟩ := truthful_answer c
    obtain ⟨ψ, move, -⟩ := keeps r truthful
    cases move with
    | map => rfl
    | mapFailed => rfl
    | giveUp looking => exact looking.elim

/-- A call with a LUN in hand maps it or releases it next. -/
theorem about_of_touches (keeps : Keeps b φ p fun _ ψ => ψ.Idle) (touches : φ.Touches t l) :
    aboutToMap p = some (t, l) ∨ aboutToRelease p = some (t, l) := by
  cases φ with
  | claimed t' l' =>
    obtain ⟨rfl, rfl⟩ := touches
    exact .inl (aboutToMap_of_claimed keeps)
  | chosen t' l' =>
    obtain ⟨rfl, rfl⟩ := touches
    cases p with
    | ret a => exact keeps.elim
    | fail e => exact keeps.elim
    | call c k =>
      obtain ⟨r, truthful⟩ := truthful_answer c
      obtain ⟨ψ, move, rest⟩ := keeps r truthful
      cases move with
      | giveUp looking => exact looking.elim
      | unlock =>
        rename_i r
        cases r with
        | ok a =>
          have claims : aboutToMap (k (.ok a)) = some (t', l') := aboutToMap_of_claimed rest
          exact .inl claims
        | error e => exact truthful.elim
  | releasing t' l' seen =>
    obtain ⟨rfl, rfl⟩ := touches
    cases p with
    | ret a => exact keeps.elim
    | fail e => exact keeps.elim
    | call c k =>
      obtain ⟨r, truthful⟩ := truthful_answer c
      obtain ⟨ψ, move, -⟩ := keeps r truthful
      cases move with
      | giveUp looking => exact looking.elim
      | release => exact .inr rfl
  | _ => exact touches.elim

end

/-- The book of a backend. -/
def bookOf (b : String) (w : World) : Book where
  rows := (w.appliance b).iscsi.targetExtents
  nextID := (w.appliance b).iscsi.nextID
  reserved := w.process.lunReserved
  locks := w.process.lunLocks

section

variable {b : String} {w : World} {fault : Fault} {rows : List TargetExtent} {target : Nat}

theorem book_acted (backend : String) (op : Op) :
    bookOf b (w.acted backend op) = bookOf b w ∨ ∃ o, backend = b ∧ op = .iscsi o ∧
      bookOf b (w.acted backend op) = { bookOf b w with
        rows := (Iscsi.act o (w.appliance b).iscsi).2.targetExtents
        nextID := (Iscsi.act o (w.appliance b).iscsi).2.nextID } := by
  by_cases here : backend = b
  · subst here
    cases op with
    | iscsi o => exact .inr ⟨o, rfl, rfl, by simp [bookOf, acted, State.act]⟩
    | _ => exact .inl (by simp [bookOf, acted, State.act])
  · refine .inl ?_
    simp [bookOf, acted, setAppliance_other w _ (Ne.symm here)]

theorem book_acted_spares {backend : String} {op : Op} (spares : Spares (.api backend op)) :
    ∃ n, (bookOf b w).nextID ≤ n ∧
      bookOf b (w.acted backend op) = { bookOf b w with nextID := n } := by
  rcases book_acted (b := b) (w := w) backend op with same | ⟨o, rfl, rfl, book⟩
  · exact ⟨_, le_rfl, same⟩
  · obtain ⟨rows, grows⟩ := Iscsi.act_sparesMappings spares (w.appliance backend).iscsi
    refine ⟨_, grows, ?_⟩
    rw [book, rows]
    rfl

/-- A call that is no step of the protocol leaves the book alone. -/
theorem book_spares {c : Call} (spares : Spares c) : ∃ n, (bookOf b w).nextID ≤ n ∧
    bookOf b (handle fault c w).2 = { bookOf b w with nextID := n } := by
  have same : ∃ n, (bookOf b w).nextID ≤ n ∧ bookOf b w = { bookOf b w with nextID := n } :=
    ⟨_, le_rfl, rfl⟩
  cases c with
  | client backend =>
    simp only [handle]
    split_ifs
    · exact same
    · cases fault <;> exact same
  | process op =>
    cases op with
    | tryAcquire v =>
      simp only [handle, Process.act]
      split_ifs <;> exact same
    | lockLUNs t => exact spares.elim
    | unlockLUNs t => exact spares.elim
    | pruneLUNs t used => exact spares.elim
    | reserveLUN t lun => exact spares.elim
    | releaseLUN t lun => exact spares.elim
    | _ => cases fault <;> exact same
  | api backend op =>
    cases fault with
    | none => exact book_acted_spares spares
    | refused e => exact same
    | lost e => exact book_acted_spares spares

theorem shown_listing (shows : shown (handle fault (listing b target) w).1 = some rows) :
    rows = (bookOf b w).rows.filter fun row => row.target == target := by
  cases fault with
  | none => exact (Option.some.inj shows).symm
  | refused e =>
    simp [handle, shown, e.notAbsence] at shows
  | lost e =>
    simp [handle, shown, e.notAbsence] at shows

theorem book_listing (target : Nat) :
    bookOf b (handle fault (listing b target) w).2 = bookOf b w := by
  cases fault <;> simp [bookOf, handle, acted, State.act, Iscsi.act]

theorem mapped_iff_shown {lun : Nat}
    (shows : shown (handle fault (listing b target) w).1 = some rows) :
    (bookOf b w).Mapped target lun ↔ lun ∈ rows.map (·.lun) := by
  rw [shown_listing shows]
  simp [Book.Mapped, and_assoc]

theorem book_mapping (target extent lun : Nat) :
    bookOf b (w.acted b (.iscsi (.targetExtentCreate target extent lun))) =
      (bookOf b w).map target extent lun := by
  simp [bookOf, acted, State.act, Iscsi.act, Book.map]

theorem book_removal (id : Nat) :
    bookOf b (w.acted b (.iscsi (.targetExtentDelete id))) = (bookOf b w).remove id := by
  by_cases there : (w.appliance b).iscsi.targetExtents.any fun row => row.id == id
  · simp only [bookOf, acted, State.act, Iscsi.act, there, Book.remove,
      setAppliance_self, setAppliance_process, if_true]
  · have absent : ∀ row ∈ (w.appliance b).iscsi.targetExtents, row.id ≠ id := by
      simpa using there
    have all : ((w.appliance b).iscsi.targetExtents.filter fun row => row.id != id) =
        (w.appliance b).iscsi.targetExtents :=
      List.filter_eq_self.mpr fun row member => by simpa using absent row member
    simp only [bookOf, acted, State.act, Iscsi.act, there, Book.remove, all,
      setAppliance_self, setAppliance_process]
    rfl

end

abbrev Flight (ι : Type) := Pool ι World Call Call.Answer Err

/-- Publishes and unpublishes of one backend. -/
def traffic {ι : Type} (s : Server) (volumes : ι → ID) :
    Threads ι World Fault Call Call.Answer Err where
  handler := handle
  ready c w := match c with
    | .process (.lockLUNs target) => target ∉ w.process.lunLocks
    | _ => True
  programs i p := ∃ node, p = (Iscsi.publish s (volumes i) node >>= fun _ => pure ()) ∨
    p = Iscsi.unpublish s (volumes i) node

/-- Nothing is under way, and LUNs differ. -/
def Quiet {ι : Type} (b : String) (flight : Flight ι) : Prop :=
  (∀ i, (flight.threads i).finished = true) ∧ flight.state.process.lunLocks = [] ∧
    (bookOf b flight.state).Sound

/-- The call will map or release a LUN. -/
def AtWork {α : Type} (p : M α) (target lun : Nat) : Prop :=
  aboutToMap p = some (target, lun) ∨ aboutToRelease p = some (target, lun)

/-- The steps that leave the others' LUNs alone. -/
def Considerate {ι : Type} (b : String) (flight : Flight ι) (i : ι) (fault : Fault) : Prop :=
  match flight.threads i with
  | .call (.api backend (.iscsi (.targetExtentQuery target))) k =>
    ∀ lun, aboutToMap (k (handle fault (.api backend (.iscsi (.targetExtentQuery target)))
        flight.state).1) = some (target, lun) →
      target ∉ flight.state.process.lunLocks ∧
        ∀ j ≠ i, ∀ other, ¬AtWork (flight.threads j) target other
  | .call (.process (.lockLUNs target)) _ => ∀ j ≠ i, ∀ lun, AtWork (flight.threads j) target lun →
      lun ∈ flight.state.process.lunReserved target
  | .call (.api _ (.iscsi (.targetExtentDelete id))) _ => ∃ row ∈ (bookOf b flight.state).rows,
      row.id = id ∧ (row.target ∈ flight.state.process.lunLocks →
        row.lun ∈ flight.state.process.lunReserved row.target)
  | .call (.api _ (.iscsi (.targetExtentCreate _ _ _))) _ => ∀ e, fault ≠ .lost e
  | _ => True

section

variable {ι : Type} {s : Server} {volumes : ι → ID} {b : String} {flight : Flight ι}
  {φ : ι → Phase} {i : ι} {fault : Fault}

theorem traffic_keeps {p : M Unit} (program : (traffic s volumes).programs i p) {φ : Phase}
    (idle : φ.Idle) : Keeps s.client.name φ p fun _ ψ => ψ.Idle := by
  obtain ⟨node, rfl | rfl⟩ := program
  · exact Prog.Follows.seq (keeps_publish s _ node idle) (fun _ _ idle => idle) fun _ _ idle => idle
  · exact keeps_unpublish s _ node idle

/-- The law holds where nothing is under way. -/
theorem quiet_lawful (quiet : Quiet b flight) :
    Lawful (bookOf b flight.state) fun _ : ι => Phase.free 0 [] where
  whole := quiet.2.2
  each := fun _ => each_free nofun
  both := fun _ _ _ => both_free.1

/-- All keep to the protocol; the book is in order. -/
abbrev Proper (b : String) (flight : Flight ι) (φ : ι → Phase) : Prop :=
  Pool.Orderly Truthful (Moves b) Phase.Idle (fun w φ => Lawful (bookOf b w) φ) flight φ

theorem Proper.atWork (proper : Proper b flight φ) {j : ι} {t l : Nat} (touches : (φ j).Touches t l) :
    AtWork (flight.threads j) t l :=
  about_of_touches (proper.2 j) touches

variable [DecidableEq ι] {t : Nat}

theorem lawful_look {rows : List TargetExtent} (lawful : Lawful (bookOf b flight.state) φ)
    (shows : shown (handle fault (listing b t) flight.state).1 = some rows) :
    Lawful (bookOf b flight.state) (Function.update φ i (.free t rows)) := by
  rw [shown_listing shows]
  refine lawful.look fun m member => ?_
  obtain ⟨present, here⟩ := List.mem_filter.mp member
  refine ⟨by simpa using here, lawful.whole.fresh m present, fun r other same => ?_⟩
  by_contra different
  have apart : Std.Symm fun r s : TargetExtent => r.id ≠ s.id := ⟨fun _ _ => Ne.symm⟩
  exact lawful.whole.ids.forall other present different same

theorem lawful_removal {seen : List TargetExtent} {m : TargetExtent}
    (lawful : Lawful (bookOf b flight.state) φ) (stage : φ i = .free t seen) (known : m ∈ seen)
    {r : Except Err Unit} (answer : (handle fault (removal b m.id) flight.state).1 = r)
    (gone : r = .ok () ∨ ∃ e, r = .error e ∧ e.isNotFound = true)
    (there : ∃ row ∈ (bookOf b flight.state).rows, row.id = m.id ∧
      (row.target ∈ flight.state.process.lunLocks →
        row.lun ∈ flight.state.process.lunReserved row.target)) :
    Lawful (bookOf b (handle fault (removal b m.id) flight.state).2)
      (Function.update φ i (.releasing t m.lun seen)) := by
  obtain ⟨row, present, same, reserved⟩ := there
  have own := lawful.each i
  rw [stage] at own
  obtain ⟨here, -, unchanged⟩ := own.known t seen ⟨rfl, rfl⟩ m known
  obtain rfl : row = m := unchanged row present same
  cases fault with
  | none =>
    show Lawful (bookOf b (flight.state.acted b _)) _
    rw [book_removal]
    exact lawful.remove stage known ⟨row, present, rfl⟩ fun locked => here ▸ reserved (here ▸ locked)
  | refused e =>
    -- An error of the transport is not an absence.
    rcases gone with rfl | ⟨e', rfl, absent⟩
    · cases answer
    · cases answer
      rw [e.notAbsence] at absent
      cases absent
  | lost e =>
    rcases gone with rfl | ⟨e', rfl, absent⟩
    · cases answer
    · cases answer
      rw [e.notAbsence] at absent
      cases absent

/-- Every considerate step keeps the law. -/
theorem lawful_step {c : Call} {k : Except Err c.Answer → M Unit} {ψ : Phase}
    (proper : Proper b flight φ) (next : flight.threads i = .call c k)
    (ready : (traffic s volumes).ready c flight.state) (may : Considerate b flight i fault)
    (move : Moves b (φ i) c (handle fault c flight.state).1 ψ)
    (rest : Keeps b ψ (k (handle fault c flight.state).1) fun _ ψ => ψ.Idle) :
    Lawful (bookOf b (handle fault c flight.state).2) (Function.update φ i ψ) := by
  have lawful := proper.1
  generalize stage : φ i = now at move
  generalize answer : (handle fault c flight.state).1 = r at move
  unfold Considerate at may
  rw [next] at may
  cases move with
  | spare spares =>
    obtain ⟨n, grows, book⟩ := @book_spares b flight.state fault _ spares
    rw [book, ← stage, Function.update_eq_self]
    exact lawful.grow grows
  | look shows =>
    rw [← answer] at shows
    rw [book_listing]
    exact lawful_look lawful shows
  | take shows unused =>
    -- The LUN on record is claimed without the lock: only `Considerate` keeps the others off it.
    rw [← answer] at shows
    obtain ⟨unlocked, nobody⟩ := may _ (aboutToMap_of_claimed rest)
    rw [book_listing]
    refine lawful.take (fun mapped => unused ((mapped_iff_shown shows).mp mapped)) unlocked ?_
    intro j different touches
    exact nobody j different _ (proper.atWork touches)
  | lock =>
    -- Who has the lock sees reservations only, so the LUNs in hand must be reserved.
    rw [handle_process]
    refine lawful.lock ready fun j different l touches => ?_
    exact may j different l (proper.atWork touches)
  | list shows =>
    rw [← answer] at shows
    rw [book_listing]
    exact lawful.list stage fun l mapped => (mapped_iff_shown shows).mp mapped
  | listless =>
    rw [book_listing, ← stage, Function.update_eq_self]
    exact lawful
  | prune =>
    rw [handle_process] at answer ⊢
    cases answer
    exact lawful.prune stage
  | reserve unused unreserved =>
    rw [handle_process]
    exact lawful.reserve stage unused unreserved
  | giveUp looking =>
    rw [handle_process]
    exact lawful.giveUp (stage ▸ looking)
  | unlock =>
    rw [handle_process]
    exact lawful.claim stage
  | map =>
    rename_i extent row
    cases fault with
    | none =>
      show Lawful (bookOf b (flight.state.acted b _)) _
      rw [book_mapping]
      exact lawful.map extent stage
    | refused e => cases answer
    | lost e => cases answer
  | mapFailed =>
    cases fault with
    | none => cases answer
    | refused e => exact lawful.mapFailed stage
    | lost e => exact absurd rfl (may e)
  | release =>
    rw [handle_process]
    exact lawful.release stage
  | remove known gone => exact lawful_removal lawful stage known answer gone may
  | removeFailed failed =>
    rename_i id seen e
    rw [← stage, Function.update_eq_self]
    cases fault with
    | none =>
      show Lawful (bookOf b (flight.state.acted b _)) _
      rw [book_removal]
      exact lawful.drop id
    | refused e => exact lawful
    | lost e =>
      show Lawful (bookOf b (flight.state.acted b _)) _
      rw [book_removal]
      exact lawful.drop id

/-- In every interleaving that starts with nothing under way and whose steps are `Considerate`: no LUN of a
target is mapped twice, and a call that is about to map a LUN is the only one, of a LUN that is free. -/
theorem luns_unique (reached : Pool.Reaches (traffic s volumes) (Considerate s.client.name)
      (Quiet s.client.name) flight) :
    (flight.state.appliance s.client.name).iscsi.targetExtents.Pairwise Distinct ∧
      ∀ i t l, aboutToMap (flight.threads i) = some (t, l) →
        (∀ j ≠ i, aboutToMap (flight.threads j) ≠ some (t, l)) ∧
          ∀ r ∈ (flight.state.appliance s.client.name).iscsi.targetExtents,
            r.target = t → r.lun ≠ l := by
  obtain ⟨φ, lawful, follows⟩ : ∃ φ, Proper s.client.name flight φ := by
    refine Pool.Reaches.orderly handle_truthful ?_ (fun i p program ψ idle => traffic_keeps program idle)
      ?_ reached
    · intro flight quiet
      refine ⟨_, quiet_lawful quiet, fun i => ?_⟩
      have ended := quiet.1 i
      cases running : flight.threads i with
      | ret a => trivial
      | fail e => trivial
      | call c k =>
        rw [running] at ended
        cases ended
    · intro flight φ i fault c k ψ proper next ready may move rest
      exact lawful_step proper next ready may move rest
  have touches : ∀ i t l, aboutToMap (flight.threads i) = some (t, l) → (φ i).Touches t l := by
    intro i t l about
    rcases touches_of_aboutToMap (follows i) about with stage | stage <;> rw [stage] <;> exact ⟨rfl, rfl⟩
  refine ⟨lawful.whole.unique, fun i t l about => ⟨fun j different other => ?_, ?_⟩⟩
  · exact (lawful.both i j different.symm).apart t l (touches i t l about) (touches j t l other)
  · intro r member here carries
    exact (lawful.each i).unmapped t l (touches i t l about) ⟨r, member, here, carries⟩

end

instance {ι : Type} (s : Server) (volumes : ι → ID) (c : Call) (w : World) :
    Decidable ((traffic s volumes).ready c w) := by
  unfold traffic
  dsimp only
  split <;> infer_instance

/-- The claims on the target satisfy a test. -/
def claimsOn (p : M Unit) (target : Nat) (test : Nat → Bool) : Bool :=
  (aboutToMap p).all (fun c => c.1 != target || test c.2) &&
    (aboutToRelease p).all (fun c => c.1 != target || test c.2)

theorem claimsOn_iff {p : M Unit} {target : Nat} {test : Nat → Bool} :
    claimsOn p target test = true ↔ ∀ lun, AtWork p target lun → test lun = true := by
  unfold claimsOn AtWork
  cases aboutToMap p <;> cases aboutToRelease p <;> simp <;> grind

def considerate (b : String) (flight : Flight Bool) (i : Bool) (fault : Fault) : Bool :=
  match flight.threads i with
  | .call (.api backend (.iscsi (.targetExtentQuery target))) k =>
    (aboutToMap (k (handle fault (.api backend (.iscsi (.targetExtentQuery target)))
      flight.state).1)).isNone ||
      (target ∉ flight.state.process.lunLocks && claimsOn (flight.threads !i) target fun _ => false)
  | .call (.process (.lockLUNs target)) _ => claimsOn (flight.threads !i) target
      fun lun => lun ∈ flight.state.process.lunReserved target
  | .call (.api _ (.iscsi (.targetExtentDelete id))) _ => (bookOf b flight.state).rows.any fun row =>
      row.id == id && (row.target ∉ flight.state.process.lunLocks ||
        row.lun ∈ flight.state.process.lunReserved row.target)
  | .call (.api _ (.iscsi (.targetExtentCreate _ _ _))) _ => match fault with
    | .lost _ => false
    | _ => true
  | _ => true

theorem considerate_sound {b : String} (flight : Flight Bool) (i : Bool) (fault : Fault)
    (check : considerate b flight i fault = true) : Considerate b flight i fault := by
  unfold considerate at check
  unfold Considerate
  have other : ∀ j, j ≠ i → j = !i := by
    intro j
    cases i <;> cases j <;> simp
  split
  · rename_i backend target k next
    rw [next] at check
    dsimp only at check
    intro lun about
    rw [about] at check
    simp only [Option.isNone_some, Bool.false_or, Bool.and_eq_true, decide_eq_true_eq] at check
    refine ⟨check.1, fun j different n working => ?_⟩
    rw [other j different] at working
    exact Bool.false_ne_true (claimsOn_iff.mp check.2 n working)
  · rename_i target k next
    rw [next] at check
    intro j different lun working
    rw [other j different] at working
    simpa using claimsOn_iff.mp check lun working
  · rename_i backend id k next
    rw [next] at check
    simpa [Decidable.imp_iff_not_or] using check
  · rename_i backend t x l k next
    rw [next] at check
    rintro e rfl
    cases check
  · trivial

def sampleServer : Server where
  client := ⟨"nas", "10.0.0.9"⟩
  pool := "tank"
  parent := "k8s"
  retire := ⟨"tank", "k8s", "", 0⟩
  env := ⟨⟨2026, 1, 1, 0, 0, 0⟩, 0, "secret", fun _ => "0", id⟩

def sampleVolume (second : Bool) : ID :=
  ⟨"nas", "iscsi", "tank", "k8s", "", if second then "pvc-2" else "pvc-1"⟩

variable (record : List (String × String))

/-- Two volumes on a target that maps nothing. -/
def sampleWorld : World where
  appliance _ := {
    storage := { datasets := Dict.ofList [("tank", { type := .filesystem }),
      ("tank/k8s", { type := .filesystem }),
      ("tank/k8s/pvc-1", { type := .volume, userProperties := Dict.ofList record }),
      ("tank/k8s/pvc-2", { type := .volume })] }
    iscsi := {
      portals := [⟨1, "truenas-csi", ["0.0.0.0"]⟩]
      targets := [⟨2, Iscsi.targetName "tank" "k8s", [{ portal := 1 }]⟩]
      extents := [{ id := 3, name := "pvc-1", disk := "zvol/tank/k8s/pvc-1", naa := "0x1" },
        { id := 4, name := "pvc-2", disk := "zvol/tank/k8s/pvc-2", naa := "0x2" }]
      nextID := 5 } }

def idleFlight : Flight Bool where
  state := sampleWorld record
  threads _ := .ret ()

def samplePublish (second : Bool) : M Unit :=
  Iscsi.publish sampleServer (sampleVolume second) { id := "worker-1", addrs := [] } >>= fun _ => pure ()

def busyFlight : Flight Bool :=
  ((idleFlight record).begin false (samplePublish false)).begin true (samplePublish true)

theorem busyFlight_reached (may : Flight Bool → Bool → Fault → Prop) (record : List (String × String)) :
    Pool.Reaches (traffic sampleServer sampleVolume) may (Quiet "nas") (busyFlight record) := by
  have quiet : Quiet "nas" (idleFlight record) :=
    ⟨fun _ => rfl, rfl, ⟨List.Pairwise.nil, List.Pairwise.nil, nofun⟩⟩
  refine .begin true _ (.begin false _ (.initial quiet) rfl ⟨_, .inl rfl⟩) ?_ ⟨_, .inl rfl⟩
  rfl

def turns (plan : List (Bool × Nat)) : List (Bool × Fault) :=
  plan.flatMap fun turn => List.replicate turn.2 (turn.1, .none)

/-- Two publishes that allocate at the same time. -/
theorem luns_unique_of_two : ∃ flight : Flight Bool,
    (flight.state.appliance "nas").iscsi.targetExtents.map (·.lun) = [1, 0] ∧
      (flight.state.appliance "nas").iscsi.targetExtents.Pairwise Distinct := by
  let plan := turns [(false, 9), (true, 5), (false, 1), (true, 6), (false, 1)]
  have luns : ((busyFlight []).replay (traffic sampleServer sampleVolume) (considerate "nas") plan).map
      (fun flight => (flight.state.appliance "nas").iscsi.targetExtents.map (·.lun)) = some [1, 0] := by
    decide
  obtain ⟨flight, runs, here⟩ := Option.map_eq_some_iff.mp luns
  have reached := (busyFlight_reached (Considerate "nas") []).replay considerate_sound runs
  exact ⟨flight, here, (luns_unique reached).1⟩

/-- Both map the same LUN. -/
theorem luns_shared :
    (∃ flight, Pool.Reaches (traffic sampleServer sampleVolume) (fun _ _ _ => True) (Quiet "nas") flight ∧
      aboutToMap (flight.threads false) = some (2, 0) ∧
        aboutToMap (flight.threads true) = some (2, 0)) ∧
    ∃ flight, Pool.Reaches (traffic sampleServer sampleVolume) (fun _ _ _ => True) (Quiet "nas") flight ∧
      ¬(flight.state.appliance "nas").iscsi.targetExtents.Pairwise Distinct := by
  let start := busyFlight [(lunProperty, "0")]
  have reached := busyFlight_reached (fun _ _ _ => True) [(lunProperty, "0")]
  constructor
  · have claims : (start.replay (traffic sampleServer sampleVolume) (fun _ _ _ => true)
        (turns [(false, 5), (true, 10)])).map (fun flight =>
          (aboutToMap (flight.threads false), aboutToMap (flight.threads true))) =
        some (some (2, 0), some (2, 0)) := by
      decide
    obtain ⟨flight, runs, here⟩ := Option.map_eq_some_iff.mp claims
    exact ⟨flight, reached.replay (fun _ _ _ _ => trivial) runs, Prod.mk.inj here⟩
  · have rows : (start.replay (traffic sampleServer sampleVolume) (fun _ _ _ => true)
        (turns [(false, 5), (true, 10), (false, 1), (true, 1)])).map (fun flight =>
          (flight.state.appliance "nas").iscsi.targetExtents) =
        some [⟨5, 2, 3, 0⟩, ⟨6, 2, 4, 0⟩] := by
      decide
    obtain ⟨flight, runs, here⟩ := Option.map_eq_some_iff.mp rows
    refine ⟨flight, reached.replay (fun _ _ _ _ => trivial) runs, ?_⟩
    rw [here]
    intro distinct
    exact (List.pairwise_cons.mp distinct).1 _ List.mem_cons_self rfl rfl

end TruenasCsi.Luns
