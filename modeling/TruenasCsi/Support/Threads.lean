import Mathlib.Logic.Function.Basic
import TruenasCsi.Support.Prog

/-! Several programs share one state and take turns, one call at a time. -/

namespace Prog

variable {C : Type} {R : C → Type} {E α β Φ : Type}

section

variable (T : (c : C) → Except E (R c) → Prop) (moves : Φ → (c : C) → Except E (R c) → Φ → Prop)

/-- From a phase on, every call is a move. -/
def Follows : Φ → Prog C R E α → (Except E α → Φ → Prop) → Prop
  | φ, .ret a, Q => Q (.ok a) φ
  | φ, .fail e, Q => Q (.error e) φ
  | φ, .call c k, Q => ∀ r, T c r → ∃ ψ, moves φ c r ψ ∧ Follows ψ (k r) Q

variable {T moves} {φ : Φ} {p : Prog C R E α} {Q : Except E β → Φ → Prop} {f : α → Prog C R E β}

theorem follows_bind :
    (p >>= f).Follows T moves φ Q ↔ p.Follows T moves φ fun r ψ => match r with
      | .ok a => (f a).Follows T moves ψ Q
      | .error e => Q (.error e) ψ := by
  induction p generalizing φ with
  | ret a => rfl
  | fail e => rfl
  | call c k ih =>
    exact forall₂_congr fun r _ => exists_congr fun ψ => and_congr_right fun _ => ih r

theorem follows_attempt {Q : Except E (Except E α) → Φ → Prop} :
    p.attempt.Follows T moves φ Q ↔ p.Follows T moves φ fun r => Q (.ok r) := by
  induction p generalizing φ with
  | ret a => rfl
  | fail e => rfl
  | call c k ih =>
    exact forall₂_congr fun r _ => exists_congr fun ψ => and_congr_right fun _ => ih r

theorem follows_ofExcept (r : Except E α) (Q : Except E α → Φ → Prop) :
    (ofExcept r : Prog C R E α).Follows T moves φ Q ↔ Q r φ := by
  cases r <;> rfl

theorem follows_issue {c : C} {Q : Except E (R c) → Φ → Prop} :
    (issue c : Prog C R E (R c)).Follows T moves φ Q ↔ ∀ r, T c r → ∃ ψ, moves φ c r ψ ∧ Q r ψ :=
  forall₂_congr fun _ _ => exists_congr fun _ => and_congr_right fun _ => follows_ofExcept _ _

theorem follows_mapError {f : E → E} {Q : Except E α → Φ → Prop} :
    (p.mapError f).Follows T moves φ Q ↔ p.Follows T moves φ fun r => Q (r.mapError f) := by
  unfold mapError
  rw [follows_bind, follows_attempt]
  show p.Follows T moves φ (fun r ψ => (ofExcept (r.mapError f)).Follows T moves ψ Q) ↔ _
  simp only [follows_ofExcept]

theorem follows_mono {Q Q' : Except E α → Φ → Prop}
    (follows : p.Follows T moves φ Q) (weaker : ∀ r ψ, Q r ψ → Q' r ψ) :
    p.Follows T moves φ Q' := by
  induction p generalizing φ with
  | ret a => exact weaker _ φ follows
  | fail e => exact weaker _ φ follows
  | call c k ih =>
    intro r given
    obtain ⟨ψ, move, rest⟩ := follows r given
    exact ⟨ψ, move, ih r rest⟩

theorem Follows.seq {P : Except E α → Φ → Prop} (first : p.Follows T moves φ P)
    (failed : ∀ e ψ, P (.error e) ψ → Q (.error e) ψ)
    (rest : ∀ a ψ, P (.ok a) ψ → (f a).Follows T moves ψ Q) : (p >>= f).Follows T moves φ Q := by
  rw [follows_bind]
  refine follows_mono first fun r ψ reached => ?_
  cases r with
  | ok a => exact rest a ψ reached
  | error e => exact failed e ψ reached

theorem Emits.follows {P : C → Prop} (emits : p.Emits T P)
    (stays : ∀ c r, P c → moves φ c r φ) : p.Follows T moves φ fun _ ψ => ψ = φ := by
  induction p with
  | ret a => rfl
  | fail e => rfl
  | call c k ih => exact fun r given => ⟨φ, stays c r emits.1, ih r (emits.2 r given)⟩

end

/-- The program has come to its end. -/
def finished : Prog C R E α → Bool
  | .ret _ => true
  | .fail _ => true
  | .call _ _ => false

/-- The program has come to its end without an error. -/
def succeeded : Prog C R E α → Bool
  | .ret _ => true
  | .fail _ => false
  | .call _ _ => false

end Prog

/-- A state and the programs that work on it. -/
structure Pool (ι S C : Type) (R : C → Type) (E : Type) where
  state : S
  threads : ι → Prog C R E Unit

/-- The calls, when and by whom. -/
structure Threads (ι S O C : Type) (R : C → Type) (E : Type) where
  handler : O → (c : C) → S → Except E (R c) × S
  ready : C → S → Prop
  programs : ι → Prog C R E Unit → Prop

namespace Pool

variable {ι S O C : Type} {R : C → Type} {E Φ : Type} [DecidableEq ι]

def begin (pool : Pool ι S C R E) (i : ι) (p : Prog C R E Unit) : Pool ι S C R E :=
  { pool with threads := Function.update pool.threads i p }

/-- One program makes its next call. -/
def advance (h : O → (c : C) → S → Except E (R c) × S) (pool : Pool ι S C R E) (i : ι) (o : O)
    (c : C) (k : Except E (R c) → Prog C R E Unit) : Pool ι S C R E where
  state := (h o c pool.state).2
  threads := Function.update pool.threads i (k (h o c pool.state).1)

/-- The pools that can be reached. -/
inductive Reaches (sys : Threads ι S O C R E) (may : Pool ι S C R E → ι → O → Prop)
    (initial : Pool ι S C R E → Prop) : Pool ι S C R E → Prop where
  | initial {pool : Pool ι S C R E} (first : initial pool) : Reaches sys may initial pool
  | begin {pool : Pool ι S C R E} (i : ι) (p : Prog C R E Unit) (reached : Reaches sys may initial pool)
      (idle : (pool.threads i).finished = true) (program : sys.programs i p) :
      Reaches sys may initial (pool.begin i p)
  | step {pool : Pool ι S C R E} (i : ι) (o : O) {c : C} {k : Except E (R c) → Prog C R E Unit}
      (reached : Reaches sys may initial pool) (next : pool.threads i = .call c k)
      (ready : sys.ready c pool.state) (allowed : may pool i o) :
      Reaches sys may initial (pool.advance sys.handler i o c k)

/-- Follow a schedule as far as it goes. -/
def replay (sys : Threads ι S O C R E) [∀ c s, Decidable (sys.ready c s)]
    (check : Pool ι S C R E → ι → O → Bool) (pool : Pool ι S C R E) :
    List (ι × O) → Option (Pool ι S C R E)
  | [] => some pool
  | (i, o) :: rest =>
    match pool.threads i with
    | .call c k =>
      if sys.ready c pool.state ∧ check pool i o = true then
        replay sys check (pool.advance sys.handler i o c k) rest
      else none
    | _ => none

theorem Reaches.replay {sys : Threads ι S O C R E} [∀ c s, Decidable (sys.ready c s)]
    {check : Pool ι S C R E → ι → O → Bool} {may : Pool ι S C R E → ι → O → Prop}
    {initial : Pool ι S C R E → Prop} (sound : ∀ pool i o, check pool i o = true → may pool i o)
    {pool final : Pool ι S C R E} (reached : Reaches sys may initial pool) {schedule : List (ι × O)}
    (runs : pool.replay sys check schedule = some final) : Reaches sys may initial final := by
  induction schedule generalizing pool with
  | nil =>
    cases runs
    exact reached
  | cons turn rest ih =>
    obtain ⟨i, o⟩ := turn
    unfold Pool.replay at runs
    split at runs
    · rename_i c k next
      split_ifs at runs with possible
      exact ih (.step i o reached next possible.1 (sound _ _ _ possible.2)) runs
    · cases runs

section

variable {T : (c : C) → Except E (R c) → Prop} {moves : Φ → (c : C) → Except E (R c) → Φ → Prop}
  {idle : Φ → Prop} {Inv : S → (ι → Φ) → Prop} {sys : Threads ι S O C R E}
  {may : Pool ι S C R E → ι → O → Prop} {initial : Pool ι S C R E → Prop}

/-- Everybody is where the protocol says. -/
def Orderly (T : (c : C) → Except E (R c) → Prop) (moves : Φ → (c : C) → Except E (R c) → Φ → Prop)
    (idle : Φ → Prop) (Inv : S → (ι → Φ) → Prop) (pool : Pool ι S C R E) (φ : ι → Φ) : Prop :=
  Inv pool.state φ ∧ ∀ i, (pool.threads i).Follows T moves (φ i) fun _ ψ => idle ψ

variable {pool : Pool ι S C R E} {i : ι} {φ : ι → Φ}

theorem Orderly.begin (orderly : Orderly T moves idle Inv pool φ)
    {p : Prog C R E Unit} (ended : (pool.threads i).finished = true)
    (starts : ∀ ψ, idle ψ → p.Follows T moves ψ fun _ ψ => idle ψ) :
    Orderly T moves idle Inv (pool.begin i p) φ := by
  refine ⟨orderly.1, fun j => ?_⟩
  by_cases same : j = i
  · subst same
    -- A program that has ended has ended in an idle phase.
    have resting : idle (φ j) := by
      have follows := orderly.2 j
      cases ends : pool.threads j with
      | ret a => rwa [ends] at follows
      | fail e => rwa [ends] at follows
      | call c k =>
        rw [ends] at ended
        cases ended
    simpa [Pool.begin] using starts _ resting
  · simpa [Pool.begin, same] using orderly.2 j

/-- A step of one thread keeps every thread in its protocol. -/
theorem Orderly.advance
    (orderly : Orderly T moves idle Inv pool φ) {h : O → (c : C) → S → Except E (R c) × S}
    (truthful : ∀ o c s, T c (h o c s).1) {o : O} {c : C}
    {k : Except E (R c) → Prog C R E Unit} (next : pool.threads i = .call c k)
    (keeps : ∀ ψ, moves (φ i) c (h o c pool.state).1 ψ →
      (k (h o c pool.state).1).Follows T moves ψ (fun _ ψ => idle ψ) →
      Inv (h o c pool.state).2 (Function.update φ i ψ)) :
    ∃ φ', Orderly T moves idle Inv (pool.advance h i o c k) φ' := by
  have follows := orderly.2 i
  rw [next] at follows
  obtain ⟨ψ, move, rest⟩ := follows _ (truthful o c pool.state)
  refine ⟨Function.update φ i ψ, keeps ψ move rest, fun j => ?_⟩
  by_cases same : j = i
  · subst same
    simpa [Pool.advance] using rest
  · simpa [Pool.advance, same] using orderly.2 j

/-- Invariant rule over the moves. -/
theorem Reaches.orderly (truthful : ∀ o c s, T c (sys.handler o c s).1)
    (begins : ∀ pool, initial pool → ∃ φ, Orderly T moves idle Inv pool φ)
    (starts : ∀ i p, sys.programs i p → ∀ ψ, idle ψ → p.Follows T moves ψ fun _ ψ => idle ψ)
    (steps : ∀ pool φ i o c k ψ, Orderly T moves idle Inv pool φ → pool.threads i = .call c k →
      sys.ready c pool.state → may pool i o → moves (φ i) c (sys.handler o c pool.state).1 ψ →
      (k (sys.handler o c pool.state).1).Follows T moves ψ (fun _ ψ => idle ψ) →
      Inv (sys.handler o c pool.state).2 (Function.update φ i ψ)) (reached : Reaches sys may initial pool) :
    ∃ φ, Orderly T moves idle Inv pool φ := by
  induction reached with
  | initial first => exact begins _ first
  | begin i p reached ended program ih =>
    obtain ⟨φ, orderly⟩ := ih
    exact ⟨φ, orderly.begin ended (starts i p program)⟩
  | step i o reached next ready allowed ih =>
    obtain ⟨φ, orderly⟩ := ih
    exact orderly.advance truthful next fun ψ move rest =>
      steps _ φ i o _ _ ψ orderly next ready allowed move rest

end

/-- A property of the state and its phases. -/
structure Pairs (whole : S → Prop) (each : S → Φ → Prop) (both : S → Φ → Φ → Prop) (s : S)
    (φ : ι → Φ) : Prop where
  whole : whole s
  each : ∀ i, each s (φ i)
  both : ∀ i j, i ≠ j → both s (φ i) (φ j)

/-- One phase changes. -/
theorem Pairs.update {whole : S → Prop} {each : S → Φ → Prop} {both : S → Φ → Φ → Prop} {s t : S}
    {φ : ι → Φ} (pairs : Pairs whole each both s φ) {i : ι} {ψ : Φ} (first : whole t)
    (own : each t ψ)
    (other : ∀ j, j ≠ i → each s (φ j) → both s (φ i) (φ j) → both s (φ j) (φ i) →
      each t (φ j) ∧ both t ψ (φ j) ∧ both t (φ j) ψ)
    (others : ∀ j k, j ≠ i → k ≠ i → both s (φ i) (φ j) → both s (φ i) (φ k) → both s (φ j) (φ k) →
      both t (φ j) (φ k)) : Pairs whole each both t (Function.update φ i ψ) := by
  have next : ∀ j, j ≠ i → each t (φ j) ∧ both t ψ (φ j) ∧ both t (φ j) ψ := fun j different =>
    other j different (pairs.each j) (pairs.both i j different.symm) (pairs.both j i different)
  refine ⟨first, fun j => ?_, fun j k apart => ?_⟩
  · by_cases here : j = i
    · subst here
      simpa using own
    · simpa [here] using (next j here).1
  · by_cases here : j = i
    · subst here
      simpa [apart.symm] using (next k apart.symm).2.1
    · by_cases there : k = i
      · subst there
        simpa [here] using (next j here).2.2
      · have kept := others j k here there (pairs.both i j (Ne.symm here))
          (pairs.both i k (Ne.symm there)) (pairs.both j k apart)
        simpa [here, there] using kept

end Pool
