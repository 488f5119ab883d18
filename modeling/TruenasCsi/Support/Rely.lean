import Mathlib.Logic.Relation
import TruenasCsi.Support.Threads

/-! Programs among others, by what each guarantees and relies on. -/

/-- The calls, their guards and guarantees. -/
structure Discipline (ι S O C : Type) (R : C → Type) (E : Type) where
  handler : O → (c : C) → S → Except E (R c) × S
  may : ι → C → S → O → Prop
  guarantee : ι → S → S → Prop

namespace Discipline

variable {ι S O C : Type} {R : C → Type} {E : Type} (d : Discipline ι S O C R E)

/-- What the others can have done meanwhile. -/
def Meanwhile (i : ι) : S → S → Prop :=
  Relation.ReflTransGen fun s t => ∃ j, j ≠ i ∧ d.guarantee j s t

variable {d} {i : ι} {s t u : S}

theorem Meanwhile.refl : d.Meanwhile i s s := Relation.ReflTransGen.refl

theorem Meanwhile.trans (first : d.Meanwhile i s t) (second : d.Meanwhile i t u) :
    d.Meanwhile i s u :=
  Relation.ReflTransGen.trans first second

theorem Meanwhile.step {j : ι} (other : j ≠ i) (kept : d.guarantee j s t) : d.Meanwhile i s t :=
  Relation.ReflTransGen.single ⟨j, other, kept⟩

/-- What every guarantee keeps, lasts. -/
theorem Meanwhile.lasts {I : S → Prop} (meanwhile : d.Meanwhile i s t)
    (each : ∀ j s t, j ≠ i → d.guarantee j s t → I s → I t) (before : I s) : I t := by
  induction meanwhile with
  | refl => exact before
  | tail _ last ih =>
    obtain ⟨j, other, kept⟩ := last
    exact each j _ _ other kept ih

end Discipline

namespace Prog

open Discipline

variable {ι S O C : Type} {R : C → Type} {E α β : Type} (d : Discipline ι S O C R E) (i : ι)

/-- Among others, the program keeps to its guarantee. -/
def Among : Prog C R E α → (Except E α → S → Prop) → S → Prop
  | .ret a, Q, s => ∀ t, d.Meanwhile i s t → Q (.ok a) t
  | .fail e, Q, s => ∀ t, d.Meanwhile i s t → Q (.error e) t
  | .call c k, Q, s => ∀ t, d.Meanwhile i s t → ∀ o, d.may i c t o →
      d.guarantee i t (d.handler o c t).2 ∧ (k (d.handler o c t).1).Among Q (d.handler o c t).2

variable {d i} {s t : S} {p : Prog C R E α} {Q : Except E α → S → Prop} {P : Except E α → S → Prop}

theorem Among.succeeded (among : p.Among d i Q s)
    (ended : p.succeeded = true) : ∃ a, Q (.ok a) s := by
  cases p with
  | ret a => exact ⟨a, among s .refl⟩
  | fail e => cases ended
  | call c k => cases ended

theorem Among.meanwhile (among : p.Among d i Q s)
    (meanwhile : d.Meanwhile i s t) : p.Among d i Q t := by
  cases p with
  | ret a => exact fun u later => among u (meanwhile.trans later)
  | fail e => exact fun u later => among u (meanwhile.trans later)
  | call c k => exact fun u later => among u (meanwhile.trans later)

theorem among_mono {Q' : Except E α → S → Prop} (among : p.Among d i Q s)
    (weaker : ∀ r t, Q r t → Q' r t) : p.Among d i Q' s := by
  induction p generalizing s with
  | ret a => exact fun t later => weaker _ t (among t later)
  | fail e => exact fun t later => weaker _ t (among t later)
  | call c k ih =>
    intro t later o allowed
    obtain ⟨kept, rest⟩ := among t later o allowed
    exact ⟨kept, ih _ rest⟩

/-- Sequencing: the other threads may step in between. -/
theorem Among.seq {f : α → Prog C R E β} {Q : Except E β → S → Prop} (first : p.Among d i P s)
    (failed : ∀ e t, P (.error e) t → ∀ u, d.Meanwhile i t u → Q (.error e) u)
    (rest : ∀ a t, P (.ok a) t → (f a).Among d i Q t) : (p >>= f).Among d i Q s := by
  induction p generalizing s with
  | ret a => exact rest a s (first s .refl)
  | fail e => exact failed e s (first s .refl)
  | call c k ih =>
    intro t later o allowed
    obtain ⟨kept, next⟩ := first t later o allowed
    exact ⟨kept, ih _ next⟩

theorem Among.attempt_seq {f : Except E α → Prog C R E β}
    {Q : Except E β → S → Prop} (first : p.Among d i P s)
    (rest : ∀ r t, P r t → (f r).Among d i Q t) : (p.attempt >>= f).Among d i Q s := by
  induction p generalizing s with
  | ret a => exact rest _ s (first s .refl)
  | fail e => exact rest _ s (first s .refl)
  | call c k ih =>
    intro t later o allowed
    obtain ⟨kept, next⟩ := first t later o allowed
    exact ⟨kept, ih _ next⟩

theorem among_mapError {f : E → E} :
    (p.mapError f).Among d i Q s ↔ p.Among d i (fun r => Q (r.mapError f)) s := by
  induction p generalizing s with
  | ret a => rfl
  | fail e => rfl
  | call c k ih =>
    exact forall₄_congr fun t later o allowed => and_congr_right fun _ => ih _

theorem among_ofExcept {r : Except E α} :
    (ofExcept r : Prog C R E α).Among d i Q s ↔ ∀ t, d.Meanwhile i s t → Q r t := by
  cases r <;> rfl

theorem among_issue {c : C} {Q : Except E (R c) → S → Prop} :
    (issue c : Prog C R E (R c)).Among d i Q s ↔ ∀ t, d.Meanwhile i s t → ∀ o, d.may i c t o →
      d.guarantee i t (d.handler o c t).2 ∧
        ∀ u, d.Meanwhile i (d.handler o c t).2 u → Q (d.handler o c t).1 u :=
  forall₄_congr fun _ _ _ _ => and_congr_right fun _ => among_ofExcept

theorem Among.and_emitsTo {T : (c : C) → Except E (R c) → Prop} {P : C → Prop} {Q' : Except E α → Prop}
    (among : p.Among d i Q s)
    (emits : p.EmitsTo T P Q') (truthful : ∀ o c s, T c (d.handler o c s).1) :
    p.Among d i (fun r t => Q r t ∧ Q' r) s := by
  induction p generalizing s with
  | ret a => exact fun t later => ⟨among t later, emits⟩
  | fail e => exact fun t later => ⟨among t later, emits⟩
  | call c k ih =>
    intro t later o allowed
    obtain ⟨kept, rest⟩ := among t later o allowed
    exact ⟨kept, ih _ rest (emits.2 _ (truthful o c t))⟩

/-- Calls that do not matter leave a property. -/
theorem EmitsTo.among {T : (c : C) → Except E (R c) → Prop} {P : C → Prop}
    {Q : Except E α → Prop} {I : S → Prop} (emits : p.EmitsTo T P Q)
    (truthful : ∀ o c s, T c (d.handler o c s).1)
    (others : ∀ j s t, j ≠ i → d.guarantee j s t → I s → I t)
    (own : ∀ o c s, P c → d.may i c s o → I s →
      d.guarantee i s (d.handler o c s).2 ∧ I (d.handler o c s).2)
    (initial : I s) : p.Among d i (fun r t => I t ∧ Q r) s := by
  induction p generalizing s with
  | ret a => exact fun t later => ⟨later.lasts others initial, emits⟩
  | fail e => exact fun t later => ⟨later.lasts others initial, emits⟩
  | call c k ih =>
    intro t later o allowed
    obtain ⟨kept, still⟩ := own o c t emits.1 allowed (later.lasts others initial)
    exact ⟨kept, ih _ (emits.2 _ (truthful o c t)) still⟩

end Prog

namespace Pool

open Prog

variable {ι S O C : Type} {R : C → Type} {E : Type} [DecidableEq ι] {sys : Threads ι S O C R E}
  {may : Pool ι S C R E → ι → O → Prop} {initial : Pool ι S C R E → Prop}
  {d : Discipline ι S O C R E} {Q : ι → Except E Unit → S → Prop}

/-- Rule of parallel programs. -/
theorem Reaches.among (same : sys.handler = d.handler)
    (allows : ∀ pool i o c k, pool.threads i = .call c k → may pool i o → d.may i c pool.state o)
    (begins : ∀ pool, initial pool → ∀ i, (pool.threads i).Among d i (Q i) pool.state)
    (starts : ∀ i p, sys.programs i p → ∀ s, p.Among d i (Q i) s)
    {pool : Pool ι S C R E} (reached : Reaches sys may initial pool) :
    ∀ i, (pool.threads i).Among d i (Q i) pool.state := by
  induction reached with
  | initial first => exact begins _ first
  | begin i p reached ended program ih =>
    intro j
    by_cases here : j = i
    · subst here
      simpa [Pool.begin] using starts j p program _
    · simpa [Pool.begin, here] using ih j
  | @step pool i o c k reached next ready allowed ih =>
    have turn := ih i
    rw [next] at turn
    obtain ⟨kept, rest⟩ := turn _ .refl o (allows _ i o c k next allowed)
    rw [← same] at kept rest
    intro j
    by_cases here : j = i
    · subst here
      simpa [Pool.advance] using rest
    · -- For the others the call is one more thing that has happened meanwhile.
      simpa [Pool.advance, here] using (ih j).meanwhile (.step (Ne.symm here) kept)

end Pool
