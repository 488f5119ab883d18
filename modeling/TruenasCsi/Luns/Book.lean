import TruenasCsi.Luns.Protocol

/-!
# The law of the LUN book

Every call is in a phase of the protocol. `Lawful` says of each call (`Each`) and of any two (`Both`) what
keeps a LUN from being given out twice; there is one lemma for every step that a call can take.
-/

namespace TruenasCsi.Luns

open Appliance (TargetExtent)

/-- Two mappings that do not share a LUN of a target. -/
def Distinct (r s : TargetExtent) : Prop := r.target = s.target → r.lun ≠ s.lun

instance : Std.Symm Distinct where
  symm _ _ apart here carries := apart here.symm carries.symm

/-- What decides on LUNs: the mappings of the appliance, the reservations and locks of the process. -/
structure Book where
  rows : List TargetExtent
  nextID : Nat
  reserved : Nat → List Nat
  locks : List Nat

namespace Book

variable (book : Book) (target lun : Nat)

def Mapped : Prop :=
  ∃ r ∈ book.rows, r.target = target ∧ r.lun = lun

def lock : Book := { book with locks := target :: book.locks }

def unlock : Book :=
  { book with locks := book.locks.filter (· ≠ target) }

def setReserved (luns : List Nat) : Book :=
  { book with reserved := Function.update book.reserved target luns }

def prune (used : List Nat) : Book :=
  book.setReserved target ((book.reserved target).filter (· ∉ used))

def reserve : Book :=
  book.setReserved target (lun :: book.reserved target)

def release : Book :=
  book.setReserved target ((book.reserved target).filter (· ≠ lun))

def map (extent lun : Nat) : Book :=
  { book with rows := book.rows ++ [⟨book.nextID, target, extent, lun⟩], nextID := book.nextID + 1 }

def remove (id : Nat) : Book :=
  { book with rows := book.rows.filter fun row => row.id != id }

/-- No two mappings of a target share a LUN. -/
structure Sound (book : Book) : Prop where
  unique : book.rows.Pairwise Distinct
  ids : book.rows.Pairwise fun r s => r.id ≠ s.id
  fresh : ∀ r ∈ book.rows, r.id < book.nextID

theorem Sound.same {book next : Book} (sound : book.Sound) (rows : next.rows = book.rows)
    (grows : book.nextID ≤ next.nextID) : next.Sound where
  unique := rows ▸ sound.unique
  ids := rows ▸ sound.ids
  fresh := by
    rw [rows]
    exact fun r member => (sound.fresh r member).trans_le grows

end Book

namespace Phase

/-- The call has this LUN in hand. -/
def Touches (target lun : Nat) : Phase → Prop
  | chosen t l => t = target ∧ l = lun
  | claimed t l => t = target ∧ l = lun
  | releasing t l _ => t = target ∧ l = lun
  | _ => False

/-- The call holds the lock of the target. -/
def Owns (target : Nat) : Phase → Prop
  | chosen t _ => t = target
  | φ => φ.Looking target

def Sees (target : Nat) (seen : List TargetExtent) : Phase → Prop
  | free t s => t = target ∧ s = seen
  | releasing t _ s => t = target ∧ s = seen
  | _ => False

/-- The call will not choose this LUN. -/
def Bars (book : Book) (target lun : Nat) : Phase → Prop
  | locked _ => lun ∈ book.reserved target ∨ book.Mapped target lun
  | listed _ used => lun ∈ used ∨ lun ∈ book.reserved target
  | pruned _ used reserved => lun ∈ used ∨ lun ∈ reserved
  | _ => True

theorem Looking.owns {φ : Phase} {target : Nat} (looking : φ.Looking target) : φ.Owns target := by
  cases φ with
  | chosen t l => exact looking.elim
  | _ => exact looking

end Phase

/-- A mapping seen earlier is gone or unchanged. -/
def Known (book : Book) (target : Nat) (m : TargetExtent) : Prop :=
  m.target = target ∧ m.id < book.nextID ∧ ∀ r ∈ book.rows, r.id = m.id → r = m

/-- What holds for one call: it has a free LUN in hand, holds its lock and will not choose a mapped LUN. -/
structure Each (book : Book) (φ : Phase) : Prop where
  unmapped : ∀ t l, φ.Touches t l → ¬book.Mapped t l
  holds : ∀ t, φ.Owns t → t ∈ book.locks
  known : ∀ t seen, φ.Sees t seen → ∀ m ∈ seen, Known book t m
  bars : ∀ t, φ.Looking t → ∀ l, book.Mapped t l → φ.Bars book t l

/-- What holds for two: no LUN or lock in common, and neither will choose the other's LUN. -/
structure Both (book : Book) (φ ψ : Phase) : Prop where
  apart : ∀ t l, φ.Touches t l → ¬ψ.Touches t l
  alone : ∀ t, φ.Owns t → ¬ψ.Owns t
  bars : ∀ t, φ.Looking t → ∀ l, ψ.Touches t l → φ.Bars book t l

section

variable {book : Book} {ψ : Phase} {t l : Nat} {seen : List TargetExtent}

theorem each_free (known : ∀ m ∈ seen, Known book t m) : Each book (.free t seen) where
  unmapped := fun _ _ touches => touches.elim
  holds := fun _ owns => owns.elim
  known := by
    rintro _ _ ⟨rfl, rfl⟩
    exact known
  bars := fun _ looking => looking.elim

theorem each_claimed (free : ¬book.Mapped t l) : Each book (.claimed t l) where
  unmapped := by
    rintro _ _ ⟨rfl, rfl⟩
    exact free
  holds := fun _ owns => owns.elim
  known := fun _ _ sees => sees.elim
  bars := fun _ looking => looking.elim

theorem each_releasing (free : ¬book.Mapped t l) (known : ∀ m ∈ seen, Known book t m) :
    Each book (.releasing t l seen) where
  unmapped := by
    rintro _ _ ⟨rfl, rfl⟩
    exact free
  holds := fun _ owns => owns.elim
  known := by
    rintro _ _ ⟨rfl, rfl⟩
    exact known
  bars := fun _ looking => looking.elim

/-- A call gets on with any that leaves its LUN. -/
theorem both_touching {φ : Phase} (only : ∀ t' l', φ.Touches t' l' → t = t' ∧ l = l')
    (unlocked : ∀ t', ¬φ.Owns t') (free : ¬ψ.Touches t l) (bars : ψ.Looking t → ψ.Bars book t l) :
    Both book φ ψ ∧ Both book ψ φ := by
  refine ⟨⟨?_, fun t' owns => (unlocked t' owns).elim, fun t' looking =>
    (unlocked t' looking.owns).elim⟩, ⟨?_, fun t' _ owns => unlocked t' owns, ?_⟩⟩
  · intro t' l' mine theirs
    obtain ⟨rfl, rfl⟩ := only t' l' mine
    exact free theirs
  · intro t' l' theirs mine
    obtain ⟨rfl, rfl⟩ := only t' l' mine
    exact free theirs
  · intro t' looking l' mine
    obtain ⟨rfl, rfl⟩ := only t' l' mine
    exact bars looking

theorem both_free : Both book (.free t seen) ψ ∧ Both book ψ (.free t seen) :=
  ⟨⟨fun _ _ touches => touches.elim, fun _ owns => owns.elim, fun _ looking => looking.elim⟩,
    ⟨fun _ _ _ touches => touches.elim, fun _ _ owns => owns.elim, fun _ _ _ touches => touches.elim⟩⟩

theorem both_looking {φ : Phase} (looking : φ.Looking t) (single : ¬ψ.Owns t)
    (bars : ∀ l, ψ.Touches t l → φ.Bars book t l) : Both book φ ψ ∧ Both book ψ φ := by
  have only : ∀ t', φ.Owns t' → t = t' := by
    intro t' owns
    cases φ with
    | locked _ => exact looking.symm.trans owns
    | listed _ _ => exact looking.symm.trans owns
    | pruned _ _ _ => exact looking.symm.trans owns
    | _ => exact looking.elim
  have nothing : ∀ t' l', ¬φ.Touches t' l' := by
    intro t' l' touches
    cases φ <;> first | exact looking.elim | exact touches.elim
  refine ⟨⟨fun t' l' mine => (nothing t' l' mine).elim, ?_, ?_⟩,
    ⟨fun t' l' _ mine => nothing t' l' mine, ?_, fun t' _ l' mine => (nothing t' l' mine).elim⟩⟩
  · intro t' mine theirs
    obtain rfl := only t' mine
    exact single theirs
  · intro t' here l' touches
    obtain rfl := only t' here.owns
    exact bars l' touches
  · intro t' theirs mine
    obtain rfl := only t' mine
    exact single theirs

end

section

variable {book next : Book} {φ ψ : Phase}

theorem Phase.Bars.mono {t l : Nat} (bars : φ.Bars book t l)
    (reserved : l ∈ book.reserved t → l ∈ next.reserved t)
    (mapped : book.Mapped t l → next.Mapped t l) : φ.Bars next t l := by
  cases φ with
  | locked _ => exact bars.imp reserved mapped
  | listed _ used => exact bars.imp_right reserved
  | _ => exact bars

/-- A step elsewhere that maps no LUN in hand leaves a call as it is. -/
theorem Each.frame (each : Each book φ)
    (unmapped : ∀ t l, φ.Touches t l → next.Mapped t l → book.Mapped t l)
    (locks : ∀ t, φ.Owns t → t ∈ book.locks → t ∈ next.locks) (grows : book.nextID ≤ next.nextID)
    (rows : ∀ r ∈ next.rows, r ∈ book.rows ∨ book.nextID ≤ r.id)
    (bars : ∀ t, φ.Looking t → ∀ l, next.Mapped t l → φ.Bars next t l) : Each next φ where
  unmapped := fun t l touches mapped => each.unmapped t l touches (unmapped t l touches mapped)
  holds := fun t owns => locks t owns (each.holds t owns)
  known := by
    intro t seen sees m member
    obtain ⟨here, old, same⟩ := each.known t seen sees m member
    refine ⟨here, old.trans_le grows, fun r present equal => ?_⟩
    rcases rows r present with before | later
    · exact same r before equal
    · omega
  bars := bars

theorem Both.frame (both : Both book φ ψ)
    (bars : ∀ t, φ.Looking t → ∀ l, ψ.Touches t l → φ.Bars book t l → φ.Bars next t l) :
    Both next φ ψ where
  apart := both.apart
  alone := both.alone
  bars := fun t looking l touches => bars t looking l touches (both.bars t looking l touches)

end

/-- Mappings, reservations and calls agree. -/
abbrev Lawful {ι : Type} (book : Book) (φ : ι → Phase) : Prop :=
  Pool.Pairs Book.Sound Each Both book φ

namespace Lawful

variable {ι : Type} [DecidableEq ι] {book : Book} {φ : ι → Phase} {i : ι} {ψ : Phase} {t l : Nat}
  {seen : List TargetExtent} {used reserved : List Nat}

/-- A call that goes to another phase, with the book unchanged. -/
theorem turn (lawful : Lawful book φ) (own : Each book ψ)
    (other : ∀ j, j ≠ i → Each book (φ j) → Both book (φ i) (φ j) → Both book (φ j) (φ i) →
      Both book ψ (φ j) ∧ Both book (φ j) ψ) : Lawful book (Function.update φ i ψ) :=
  lawful.update lawful.whole own
    (fun j different each mine theirs => ⟨each, other j different each mine theirs⟩)
    fun _ _ _ _ _ _ both => both

omit [DecidableEq ι] in
theorem grow (lawful : Lawful book φ) {n : Nat} (grows : book.nextID ≤ n) :
    Lawful { book with nextID := n } φ where
  whole := lawful.whole.same rfl grows
  each := fun j => (lawful.each j).frame (fun _ _ _ mapped => mapped) (fun _ _ held => held) grows
    (fun _ member => Or.inl member) fun t looking l mapped =>
      ((lawful.each j).bars t looking l mapped).mono id id
  both := fun j k apart => (lawful.both j k apart).frame fun _ _ _ _ bars => bars.mono id id

theorem look (lawful : Lawful book φ) (known : ∀ m ∈ seen, Known book t m) :
    Lawful book (Function.update φ i (.free t seen)) :=
  lawful.turn (each_free known) fun _ _ _ _ _ => both_free

/-- A recorded LUN is claimed on an idle target. -/
theorem take (lawful : Lawful book φ) (free : ¬book.Mapped t l) (unlocked : t ∉ book.locks)
    (nobody : ∀ j ≠ i, ¬(φ j).Touches t l) : Lawful book (Function.update φ i (.claimed t l)) := by
  refine lawful.turn (each_claimed free) fun j different each _ _ => ?_
  refine both_touching (fun _ _ same => same) (fun _ owns => owns) (nobody j different) ?_
  intro looking
  exact absurd (each.holds t looking.owns) unlocked

/-- An allocation begins with all LUNs reserved. -/
theorem lock (lawful : Lawful book φ) (unlocked : t ∉ book.locks)
    (reserved : ∀ j ≠ i, ∀ l, (φ j).Touches t l → l ∈ book.reserved t) :
    Lawful (book.lock t) (Function.update φ i (.locked t)) := by
  refine lawful.update (lawful.whole.same rfl le_rfl) ⟨fun _ _ touches => touches.elim, ?_,
    fun _ _ sees => sees.elim, fun _ _ _ mapped => Or.inr mapped⟩ ?_ ?_
  · rintro _ rfl
    exact List.mem_cons_self
  · intro j different each _ _
    refine ⟨each.frame (fun _ _ _ mapped => mapped) (fun _ _ held => List.mem_cons_of_mem _ held)
      le_rfl (fun _ member => Or.inl member) fun t looking l mapped =>
        (each.bars t looking l mapped).mono id id, ?_⟩
    exact both_looking rfl (fun owns => unlocked (each.holds t owns)) fun l touches =>
      Or.inl (reserved j different l touches)
  · intro j k _ _ _ _ both
    exact both.frame fun _ _ _ _ bars => bars.mono id id

/-- Under the lock the listing shows every mapped LUN. -/
theorem list (lawful : Lawful book φ) (stage : φ i = .locked t)
    (lists : ∀ l, book.Mapped t l → l ∈ used) :
    Lawful book (Function.update φ i (.listed t used)) := by
  have locked : t ∈ book.locks := (lawful.each i).holds t (by rw [stage]; rfl)
  refine lawful.turn ⟨fun _ _ touches => touches.elim, ?_, fun _ _ sees => sees.elim, ?_⟩ ?_
  · rintro _ rfl
    exact locked
  · rintro _ rfl l mapped
    exact .inl (lists l mapped)
  · intro j different each mine theirs
    rw [stage] at mine
    refine both_looking rfl (mine.alone t rfl) fun l touches => ?_
    rcases mine.bars t rfl l touches with reserved | mapped
    · exact .inr reserved
    · exact .inl (lists l mapped)

theorem rebook (lawful : Lawful book φ) {luns : List Nat} (owner : (φ i).Owns t)
    (own : Each (book.setReserved t luns) ψ)
    (other : ∀ j, j ≠ i → Each book (φ j) → Both book (φ i) (φ j) → Both book (φ j) (φ i) →
      Both (book.setReserved t luns) ψ (φ j) ∧ Both (book.setReserved t luns) (φ j) ψ) :
    Lawful (book.setReserved t luns) (Function.update φ i ψ) := by
  -- Whoever else is looking is looking at another target.
  have elsewhere : ∀ {χ : Phase}, Both book (φ i) χ → ∀ t' l, χ.Looking t' →
      χ.Bars book t' l → χ.Bars (book.setReserved t luns) t' l := by
    intro χ both t' l looking bars
    have different : t' ≠ t := by
      rintro rfl
      exact both.alone t' owner looking.owns
    refine bars.mono (fun reserved => ?_) id
    simpa [Book.setReserved, different] using reserved
  refine lawful.update (lawful.whole.same rfl le_rfl) own ?_ ?_
  · intro j different each mine theirs
    exact ⟨each.frame (fun _ _ _ mapped => mapped) (fun _ _ held => held) le_rfl
      (fun _ member => Or.inl member) fun t' looking l mapped =>
        elsewhere mine t' l looking (each.bars t' looking l mapped), other j different each mine theirs⟩
  · intro j k _ _ mine _ both
    exact both.frame fun t' looking l _ bars => elsewhere mine t' l looking bars

theorem prune (lawful : Lawful book φ) (stage : φ i = .listed t used) :
    Lawful (book.prune t used) (Function.update φ i
      (.pruned t used ((book.reserved t).filter (· ∉ used)))) := by
  have each := lawful.each i
  rw [stage] at each
  -- What is barred by a reservation is barred by one that is kept.
  have stays : ∀ l, l ∈ used ∨ l ∈ book.reserved t →
      l ∈ used ∨ l ∈ (book.reserved t).filter (· ∉ used) := by
    intro l bars
    by_cases member : l ∈ used
    · exact .inl member
    · exact .inr (by simpa [member] using bars.resolve_left member)
  refine lawful.rebook (by rw [stage]; rfl) ⟨fun _ _ touches => touches.elim, ?_,
    fun _ _ sees => sees.elim, ?_⟩ ?_
  · rintro _ rfl
    exact each.holds t rfl
  · rintro _ rfl l mapped
    exact stays l (each.bars t rfl l mapped)
  · intro j _ _ mine _
    rw [stage] at mine
    exact both_looking rfl (mine.alone t rfl) fun l touches => stays l (mine.bars t rfl l touches)

theorem reserve (lawful : Lawful book φ) (stage : φ i = .pruned t used reserved) (unused : l ∉ used)
    (unreserved : l ∉ reserved) : Lawful (book.reserve t l) (Function.update φ i (.chosen t l)) := by
  have each := lawful.each i
  rw [stage] at each
  have unbarred : ¬(l ∈ used ∨ l ∈ reserved) := fun bars => bars.elim unused unreserved
  refine lawful.rebook (by rw [stage]; rfl) ⟨?_, ?_, fun _ _ sees => sees.elim,
    fun _ looking => looking.elim⟩ ?_
  · rintro _ _ ⟨rfl, rfl⟩ mapped
    exact unbarred (each.bars t rfl l mapped)
  · rintro _ rfl
    exact each.holds t rfl
  · intro j _ _ mine _
    rw [stage] at mine
    have free : ¬(φ j).Touches t l := fun touches => unbarred (mine.bars t rfl l touches)
    have single := mine.alone t rfl
    refine ⟨⟨?_, ?_, fun _ looking => looking.elim⟩, ⟨?_, ?_, ?_⟩⟩
    · rintro _ _ ⟨rfl, rfl⟩
      exact free
    · rintro _ rfl
      exact single
    · rintro _ _ theirs ⟨rfl, rfl⟩
      exact free theirs
    · rintro _ theirs rfl
      exact single theirs
    · rintro _ looking _ ⟨rfl, rfl⟩
      exact absurd looking.owns single

theorem unlock (lawful : Lawful book φ) (owner : (φ i).Owns t) (own : Each (book.unlock t) ψ)
    (other : ∀ j, j ≠ i → Each book (φ j) → Both book (φ i) (φ j) → Both book (φ j) (φ i) →
      Both (book.unlock t) ψ (φ j) ∧ Both (book.unlock t) (φ j) ψ) :
    Lawful (book.unlock t) (Function.update φ i ψ) := by
  refine lawful.update (lawful.whole.same rfl le_rfl) own ?_ ?_
  · intro j different each mine theirs
    refine ⟨each.frame (fun _ _ _ mapped => mapped) ?_ le_rfl (fun _ member => Or.inl member)
      fun t' looking l mapped => (each.bars t' looking l mapped).mono id id,
      other j different each mine theirs⟩
    intro t' owns held
    have elsewhere : t' ≠ t := by
      rintro rfl
      exact mine.alone t' owner owns
    simpa [Book.unlock, elsewhere] using held
  · intro j k _ _ _ _ both
    exact both.frame fun _ _ _ _ bars => bars.mono id id

theorem giveUp (lawful : Lawful book φ) (looking : (φ i).Looking t) :
    Lawful (book.unlock t) (Function.update φ i (.free t [])) :=
  lawful.unlock looking.owns (each_free nofun) fun _ _ _ _ _ => both_free

theorem claim (lawful : Lawful book φ) (stage : φ i = .chosen t l) :
    Lawful (book.unlock t) (Function.update φ i (.claimed t l)) := by
  have each := lawful.each i
  rw [stage] at each
  refine lawful.unlock (by rw [stage]; rfl) (each_claimed (each.unmapped t l ⟨rfl, rfl⟩)) ?_
  intro j _ _ mine _
  rw [stage] at mine
  refine both_touching (fun _ _ same => same) (fun _ owns => owns) (mine.apart t l ⟨rfl, rfl⟩) ?_
  intro looking
  exact absurd looking.owns (mine.alone t rfl)

theorem mapFailed (lawful : Lawful book φ) (stage : φ i = .claimed t l) :
    Lawful book (Function.update φ i (.releasing t l [])) := by
  have each := lawful.each i
  rw [stage] at each
  refine lawful.turn (each_releasing (each.unmapped t l ⟨rfl, rfl⟩) nofun) ?_
  intro j _ _ mine theirs
  rw [stage] at mine theirs
  exact both_touching (fun _ _ same => same) (fun _ owns => owns) (mine.apart t l ⟨rfl, rfl⟩)
    fun looking => theirs.bars t looking l ⟨rfl, rfl⟩

omit [DecidableEq ι] in
theorem mapped_map {x t' l' : Nat} (mapped : (book.map t x l).Mapped t' l') :
    book.Mapped t' l' ∨ t' = t ∧ l' = l := by
  obtain ⟨r, member, here, carries⟩ := mapped
  rcases List.mem_append.mp member with before | new
  · exact .inl ⟨r, before, here, carries⟩
  · obtain rfl := List.mem_singleton.mp new
    exact .inr ⟨here.symm, carries.symm⟩

theorem map (lawful : Lawful book φ) (x : Nat) (stage : φ i = .claimed t l) :
    Lawful (book.map t x l) (Function.update φ i (.free t [])) := by
  have own := lawful.each i
  rw [stage] at own
  have free : ¬book.Mapped t l := own.unmapped t l ⟨rfl, rfl⟩
  have wider : ∀ {t' l'}, book.Mapped t' l' → (book.map t x l).Mapped t' l' := by
    rintro t' l' ⟨r, member, same⟩
    exact ⟨r, List.mem_append_left _ member, same⟩
  refine lawful.update ⟨?_, ?_, ?_⟩ (each_free nofun) ?_ ?_
  · -- The new mapping carries a LUN that no mapping of the target had.
    refine List.pairwise_append.mpr ⟨lawful.whole.unique, List.pairwise_singleton _ _, ?_⟩
    intro r member s new here carries
    obtain rfl := List.mem_singleton.mp new
    exact free ⟨r, member, here, carries⟩
  · refine List.pairwise_append.mpr ⟨lawful.whole.ids, List.pairwise_singleton _ _, ?_⟩
    intro r member s new
    obtain rfl := List.mem_singleton.mp new
    exact (lawful.whole.fresh r member).ne
  · intro r member
    rcases List.mem_append.mp member with before | new
    · exact (lawful.whole.fresh r before).trans (Nat.lt_succ_self _)
    · obtain rfl := List.mem_singleton.mp new
      exact Nat.lt_succ_self _
  · intro j _ each mine theirs
    rw [stage] at mine theirs
    refine ⟨each.frame ?_ (fun _ _ held => held) (Nat.le_succ _) ?_ ?_, both_free⟩
    · intro t' l' touches mapped
      rcases mapped_map mapped with before | ⟨rfl, rfl⟩
      · exact before
      · exact absurd touches (mine.apart _ _ ⟨rfl, rfl⟩)
    · intro r member
      rcases List.mem_append.mp member with before | new
      · exact .inl before
      · obtain rfl := List.mem_singleton.mp new
        exact .inr le_rfl
    · -- The LUN was barred as one about to be mapped.
      intro t' looking l' mapped
      rcases mapped_map mapped with before | ⟨rfl, rfl⟩
      · exact (each.bars t' looking l' before).mono id wider
      · exact (theirs.bars _ looking _ ⟨rfl, rfl⟩).mono id wider
  · intro j k _ _ _ _ both
    exact both.frame fun _ _ _ _ bars => bars.mono id wider

theorem release (lawful : Lawful book φ) (stage : φ i = .releasing t l seen) :
    Lawful (book.release t l) (Function.update φ i (.free t seen)) := by
  have own := lawful.each i
  rw [stage] at own
  -- No reservation but that of the released LUN is dropped.
  have kept : ∀ {χ : Phase} {t' l'}, ¬(t' = t ∧ l' = l) → χ.Bars book t' l' →
      χ.Bars (book.release t l) t' l' := by
    intro χ t' l' other bars
    refine bars.mono (fun reserved => ?_) id
    by_cases here : t' = t
    · subst here
      have different : l' ≠ l := fun same => other ⟨rfl, same⟩
      simpa [Book.release, Book.setReserved, different] using reserved
    · simpa [Book.release, Book.setReserved, here] using reserved
  refine lawful.update (lawful.whole.same rfl le_rfl) (each_free (own.known t seen ⟨rfl, rfl⟩)) ?_ ?_
  · intro j _ each _ _
    refine ⟨each.frame (fun _ _ _ mapped => mapped) (fun _ _ held => held) le_rfl
      (fun _ member => Or.inl member) fun t' looking l' mapped => ?_, both_free⟩
    refine kept ?_ (each.bars t' looking l' mapped)
    rintro ⟨rfl, rfl⟩
    exact own.unmapped _ _ ⟨rfl, rfl⟩ mapped
  · intro j k _ _ _ theirs both
    refine both.frame fun t' looking l' touches bars => kept ?_ bars
    rintro ⟨rfl, rfl⟩
    rw [stage] at theirs
    exact theirs.apart _ _ ⟨rfl, rfl⟩ touches

omit [DecidableEq ι] in
theorem mapped_remove {id t' l' : Nat} (mapped : (book.remove id).Mapped t' l') :
    book.Mapped t' l' := by
  obtain ⟨r, member, same⟩ := mapped
  exact ⟨r, (List.mem_filter.mp member).1, same⟩

omit [DecidableEq ι] in
theorem sound_remove (sound : book.Sound) (id : Nat) : (book.remove id).Sound where
  unique := sound.unique.filter _
  ids := sound.ids.filter _
  fresh := fun r member => sound.fresh r (List.mem_filter.mp member).1

omit [DecidableEq ι] in
theorem each_remove {χ : Phase} (each : Each book χ) (id : Nat) : Each (book.remove id) χ :=
  each.frame (fun _ _ _ => mapped_remove) (fun _ _ held => held) le_rfl
    (fun _ member => Or.inl (List.mem_filter.mp member).1)
    fun t looking l mapped => (each.bars t looking l (mapped_remove mapped)).mono (fun kept => kept)
      fun _ => mapped

omit [DecidableEq ι] in
theorem both_remove {χ ξ : Phase} (each : Each book ξ) (both : Both book χ ξ) (id : Nat) :
    Both (book.remove id) χ ξ :=
  both.frame fun t _ l touches bars => bars.mono (fun kept => kept) fun mapped =>
    absurd mapped (each.unmapped t l touches)

omit [DecidableEq ι] in
/-- A mapping that goes away never breaks the law. -/
theorem drop (lawful : Lawful book φ) (id : Nat) : Lawful (book.remove id) φ where
  whole := sound_remove lawful.whole id
  each := fun j => each_remove (lawful.each j) id
  both := fun j k apart => both_remove (lawful.each k) (lawful.both j k apart) id

/-- A mapping that is still there is removed. -/
theorem remove (lawful : Lawful book φ) (stage : φ i = .free t seen) {m : TargetExtent}
    (known : m ∈ seen) (there : ∃ r ∈ book.rows, r.id = m.id)
    (reserved : t ∈ book.locks → m.lun ∈ book.reserved t) :
    Lawful (book.remove m.id) (Function.update φ i (.releasing t m.lun seen)) := by
  have own := lawful.each i
  rw [stage] at own
  obtain ⟨here, -, same⟩ := own.known t seen ⟨rfl, rfl⟩ m known
  have member : m ∈ book.rows := by
    obtain ⟨r, present, equal⟩ := there
    exact same r present equal ▸ present
  have mapped : book.Mapped t m.lun := ⟨m, member, here, rfl⟩
  -- It was the only mapping of the target with its LUN.
  have gone : ¬(book.remove m.id).Mapped t m.lun := by
    rintro ⟨r, left, on, carries⟩
    obtain ⟨present, other⟩ := List.mem_filter.mp left
    have different : r ≠ m := by
      rintro rfl
      simp at other
    exact lawful.whole.unique.forall present member different (on.trans here.symm) carries
  refine lawful.update (sound_remove lawful.whole _) (each_releasing gone
    ((each_remove own m.id).known t seen ⟨rfl, rfl⟩)) ?_ ?_
  · intro j _ each _ _
    refine ⟨each_remove each _, both_touching (fun _ _ same => same) (fun _ owns => owns)
      (fun touches => each.unmapped t m.lun touches mapped) fun looking => ?_⟩
    have bars := each.bars t looking m.lun mapped
    have locked := each.holds t looking.owns
    cases phase : φ j with
    | locked _ => exact .inl (reserved locked)
    | _ =>
      rw [phase] at bars
      exact bars
  · intro j k _ _ _ _ both
    exact both_remove (lawful.each k) both _

end Lawful

end TruenasCsi.Luns
