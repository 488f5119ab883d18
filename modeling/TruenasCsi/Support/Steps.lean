import Mathlib.Logic.Relation
import Mathlib.Tactic.SplitIfs

/-! A machine takes an event or refuses it. -/

namespace Steps

variable {S E : Type} (step : S → E → Option S)

/-- The steps of a run, with the states around them. -/
def steps : S → List E → List (S × E × S)
  | _, [] => []
  | s, e :: es =>
    match step s e with
    | none => []
    | some t => (s, e, t) :: steps t es

variable {step}

theorem taken_of_mem {s : S} {es : List E} {x : S × E × S} (member : x ∈ steps step s es) :
    step x.1 x.2.1 = some x.2.2 := by
  induction es generalizing s with
  | nil => cases member
  | cons e es ih =>
    unfold steps at member
    cases taken : step s e with
    | none => simp [taken] at member
    | some t =>
      simp only [taken, List.mem_cons] at member
      obtain rfl | later := member
      · exact taken
      · exact ih later

theorem forall_steps_iff {P Q : S × E × S → Prop}
    (agree : ∀ s e t, step s e = some t → (P (s, e, t) ↔ Q (s, e, t))) (s : S) (es : List E) :
    (∀ x ∈ steps step s es, P x) ↔ ∀ x ∈ steps step s es, Q x :=
  forall₂_congr fun x member => agree x.1 x.2.1 x.2.2 (taken_of_mem member)

variable (step)

/-- Reachable by steps that may be taken. -/
def Reaches (may : S → E → Prop) : S → S → Prop :=
  Relation.ReflTransGen fun s t => ∃ e, may s e ∧ step s e = some t

variable {step} {may : S → E → Prop}

/-- Induction over a run. -/
theorem Reaches.invariant {I : S → Prop} {s t : S} (reaches : Reaches step may s t) (first : I s)
    (kept : ∀ s e t, I s → may s e → step s e = some t → I t) : I t := by
  induction reaches with
  | refl => exact first
  | tail _ last ih =>
    obtain ⟨e, allowed, taken⟩ := last
    exact kept _ e _ ih allowed taken

/-- Run events, as far as each may be taken. -/
def replay (step : S → E → Option S) (may : S → E → Prop) [∀ s e, Decidable (may s e)] :
    S → List E → Option S
  | s, [] => some s
  | s, e :: es => if may s e then (step s e).bind fun t => replay step may t es else none

/-- A run that can be computed is one. -/
theorem Reaches.of_replay [∀ s e, Decidable (may s e)] {s t : S} {es : List E}
    (ran : replay step may s es = some t) : Reaches step may s t := by
  induction es generalizing s with
  | nil =>
    obtain rfl := Option.some.inj ran
    exact .refl
  | cons e es ih =>
    unfold replay at ran
    split_ifs at ran with allowed
    obtain ⟨u, taken, rest⟩ := Option.bind_eq_some_iff.mp ran
    exact .head ⟨e, allowed, taken⟩ (ih rest)

end Steps
