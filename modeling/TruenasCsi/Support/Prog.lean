import Mathlib.Logic.Basic
import Mathlib.Data.List.Basic

/-! A program is the finite tree of the calls it makes. -/

/-- A call waits for its answer and goes on; a program ends with a value or an error. -/
inductive Prog (C : Type) (R : C → Type) (E α : Type) : Type where
  | ret (a : α) : Prog C R E α
  | fail (e : E) : Prog C R E α
  | call (c : C) (k : Except E (R c) → Prog C R E α) : Prog C R E α

namespace Prog

variable {C : Type} {R : C → Type} {E α β γ : Type}

protected def bind : Prog C R E α → (α → Prog C R E β) → Prog C R E β
  | .ret a, f => f a
  | .fail e, _ => .fail e
  | .call c k, f => .call c fun r => (k r).bind f

instance : Monad (Prog C R E) where
  pure := .ret
  bind := Prog.bind

/-- Run a program to its result without failing. -/
def attempt : Prog C R E α → Prog C R E (Except E α)
  | .ret a => .ret (.ok a)
  | .fail e => .ret (.error e)
  | .call c k => .call c fun r => (k r).attempt

/-- The program that ends as a computed result says. -/
def ofExcept : Except E α → Prog C R E α
  | .ok a => .ret a
  | .error e => .fail e

variable (f : E → E) (c : C) (p : Prog C R E α) (e : E)

/-- Rewrite the error a program fails with. -/
def mapError : Prog C R E α :=
  p.attempt >>= fun r => ofExcept (r.mapError f)

/-- Issue one call and fail if it fails. -/
def issue : Prog C R E (R c) := .call c ofExcept

/-- Hand a failure to another program. -/
def rescue (handler : E → Prog C R E α) : Prog C R E α :=
  p.attempt >>= fun
    | .ok a => .ret a
    | .error e => handler e

instance : MonadExcept E (Prog C R E) where
  throw := .fail
  tryCatch := rescue

@[simp] theorem pure_eq (a : α) : (pure a : Prog C R E α) = .ret a := rfl

@[simp] theorem throw_eq : (throw e : Prog C R E α) = .fail e := rfl

@[simp] theorem ofExcept_ok (a : α) : (ofExcept (.ok a) : Prog C R E α) = .ret a := rfl

@[simp] theorem ofExcept_error : (ofExcept (.error e) : Prog C R E α) = .fail e := rfl

@[simp] theorem mapError_ret (a : α) : (Prog.ret a : Prog C R E α).mapError f = .ret a := rfl

@[simp] theorem mapError_fail : (Prog.fail e : Prog C R E α).mapError f = .fail (f e) := rfl

@[simp] theorem ret_bind (a : α) (f : α → Prog C R E β) : (Prog.ret a >>= f) = f a := rfl

@[simp] theorem fail_bind (f : α → Prog C R E β) :
    (Prog.fail e >>= f : Prog C R E β) = .fail e := rfl

@[simp] theorem call_bind (k : Except E (R c) → Prog C R E α) (f : α → Prog C R E β) :
    (Prog.call c k >>= f) = .call c fun r => k r >>= f := rfl

theorem bind_assoc (f : α → Prog C R E β) (g : β → Prog C R E γ) :
    (p >>= f >>= g) = p >>= fun a => f a >>= g := by
  induction p with
  | ret a => rfl
  | fail e => rfl
  | call c k ih => exact congrArg (Prog.call c) (funext fun r => ih r)

theorem bind_ret : (p >>= Prog.ret) = p := by
  induction p with
  | ret a => rfl
  | fail e => rfl
  | call c k ih => exact congrArg (Prog.call c) (funext fun r => ih r)

section

variable {S O : Type} (h : O → (c : C) → S → Except E (R c) × S)

/-- Follow a list of choices, then the default one. -/
def run [Inhabited O] : Prog C R E α → List O → S → Except E α × S
  | .ret a, _, s => (.ok a, s)
  | .fail e, _, s => (.error e, s)
  | .call c k, os, s =>
    (k (h (os.headD default) c s).1).run os.tail (h (os.headD default) c s).2

/-- Every way of answering ends in `Q`. -/
def wp : Prog C R E α → (Except E α → S → Prop) → S → Prop
  | .ret a, Q, s => Q (.ok a) s
  | .fail e, Q, s => Q (.error e) s
  | .call c k, Q, s => ∀ o, (k (h o c s).1).wp Q (h o c s).2

/-- The postcondition of the first of two programs. -/
def andThen (Q : Except E β → S → Prop) (rest : α → S → Prop) : Except E α → S → Prop
  | .ok a, s => rest a s
  | .error e, s => Q (.error e) s

variable {h} {Q : Except E α → S → Prop} {p : Prog C R E α} {s : S}

@[simp] theorem wp_ret (a : α) (Q : Except E α → S → Prop) (s : S) :
    (Prog.ret a : Prog C R E α).wp h Q s ↔ Q (.ok a) s := Iff.rfl

@[simp] theorem wp_fail (e : E) (Q : Except E α → S → Prop) (s : S) :
    (Prog.fail e : Prog C R E α).wp h Q s ↔ Q (.error e) s := Iff.rfl

theorem wp_bind {f : α → Prog C R E β} {Q : Except E β → S → Prop} :
    (p >>= f).wp h Q s ↔ p.wp h (andThen Q fun a => (f a).wp h Q) s := by
  induction p generalizing s with
  | ret a => rfl
  | fail e => rfl
  | call c k ih => exact forall_congr' fun o => ih _

theorem wp_attempt {Q : Except E (Except E α) → S → Prop} :
    p.attempt.wp h Q s ↔ p.wp h (fun r => Q (.ok r)) s := by
  induction p generalizing s with
  | ret a => rfl
  | fail e => rfl
  | call c k ih => exact forall_congr' fun o => ih _

theorem wp_ofExcept {r : Except E α} : (ofExcept r : Prog C R E α).wp h Q s ↔ Q r s := by
  cases r <;> rfl

theorem wp_issue {c : C} {Q : Except E (R c) → S → Prop} :
    (issue c).wp h Q s ↔ ∀ o, Q (h o c s).1 (h o c s).2 :=
  forall_congr' fun _ => wp_ofExcept

theorem wp_mapError {f : E → E} :
    (p.mapError f).wp h Q s ↔ p.wp h (fun r => Q (r.mapError f)) s := by
  unfold mapError
  rw [wp_bind, wp_attempt]
  show p.wp h (fun r t => (ofExcept (r.mapError f)).wp h Q t) s ↔ _
  simp only [wp_ofExcept]

theorem wp_rescue {handler : E → Prog C R E α}
    : (p.rescue handler).wp h Q s ↔ p.wp h (fun r t => match r with
      | .ok a => Q (.ok a) t
      | .error e => (handler e).wp h Q t) s := by
  unfold rescue
  rw [wp_bind, wp_attempt]
  refine iff_of_eq (congrArg (fun P => p.wp h P s) (funext fun r => ?_))
  cases r <;> rfl

variable {p : Prog C R E α} {Q : α → S → Prop} {s : S} {f : α → Prog C R E β}

theorem wp_mono {Q Q' : Except E α → S → Prop}
    (ends : p.wp h Q s) (weaker : ∀ r t, Q r t → Q' r t) : p.wp h Q' s := by
  induction p generalizing s with
  | ret a => exact weaker _ s ends
  | fail e => exact weaker _ s ends
  | call c k ih => exact fun o => ih _ (ends o)

theorem wp_and {Q Q' : Except E α → S → Prop}
    (first : p.wp h Q s) (second : p.wp h Q' s) : p.wp h (fun r t => Q r t ∧ Q' r t) s := by
  induction p generalizing s with
  | ret a => exact ⟨first, second⟩
  | fail e => exact ⟨first, second⟩
  | call c k ih => exact fun o => ih _ (first o) (second o)

/-- Sequencing. -/
theorem wp_seq {Q : Except E β → S → Prop} {P : Except E α → S → Prop} (first : p.wp h P s)
    (failed : ∀ e t, P (.error e) t → Q (.error e) t)
    (rest : ∀ a t, P (.ok a) t → (f a).wp h Q t) : (p >>= f).wp h Q s := by
  rw [wp_bind]
  refine wp_mono first fun r t reached => ?_
  cases r with
  | error e => exact failed e t reached
  | ok a => exact rest a t reached

/-- The weakest precondition is what all runs satisfy. -/
theorem wp_iff_run [Inhabited O] {Q : Except E α → S → Prop} :
    p.wp h Q s ↔ ∀ os, Q (p.run h os s).1 (p.run h os s).2 := by
  induction p generalizing s with
  | ret a => exact ⟨fun ends _ => ends, fun ends => ends []⟩
  | fail e => exact ⟨fun ends _ => ends, fun ends => ends []⟩
  | call c k ih =>
    constructor
    · intro ends os
      exact (ih _).mp (ends _) os.tail
    · intro ends o
      exact (ih _).mpr fun os => ends (o :: os)

/-! What is known when a program succeeds; nothing is said about failures. -/

variable (h) {r : Except E α} {os : List O} {a : α} {Q' : α → S → Prop} in
/-- On success, answer and state are in `Q`. -/
@[irreducible] def yields (p : Prog C R E α) (Q : α → S → Prop) (s : S) : Prop :=
  p.wp h (fun r t => ∀ a, r = .ok a → Q a t) s

theorem yields_iff_wp : p.yields h Q s ↔ p.wp h (fun r t => ∀ a, r = .ok a → Q a t) s := by
  unfold yields
  rfl

theorem yields_ret (ends : Q a s) : (Prog.ret a : Prog C R E α).yields h Q s := by
  refine yields_iff_wp.mpr fun b same => ?_
  cases same
  exact ends

theorem yields_fail {e : E} : (Prog.fail e : Prog C R E α).yields h Q s := by
  refine yields_iff_wp.mpr fun a wrong => ?_
  cases wrong

theorem yields_ofExcept (ends : ∀ a, r = .ok a → Q a s) :
    (ofExcept r : Prog C R E α).yields h Q s :=
  yields_iff_wp.mpr (wp_ofExcept.mpr ends)

theorem yields_mono (ends : p.yields h Q s) (weaker : ∀ a t, Q a t → Q' a t) : p.yields h Q' s := by
  refine yields_iff_wp.mpr (wp_mono (yields_iff_wp.mp ends) ?_)
  intro r t reached a given
  exact weaker a t (reached a given)

theorem yields_and (first : p.yields h Q s)
    (second : p.yields h Q' s) : p.yields h (fun a t => Q a t ∧ Q' a t) s := by
  refine yields_iff_wp.mpr (wp_mono (wp_and (yields_iff_wp.mp first) (yields_iff_wp.mp second)) ?_)
  rintro r t ⟨one, other⟩ a given
  exact ⟨one a given, other a given⟩

theorem yields_trivial : p.yields h (fun _ _ => True) s := by
  refine yields_iff_wp.mpr ?_
  induction p generalizing s with
  | ret a => exact fun _ _ => trivial
  | fail e => exact fun _ _ => trivial
  | call c k ih => exact fun o => ih _

theorem yields_bind {P : α → S → Prop} {Q : β → S → Prop} (first : p.yields h P s)
    (rest : ∀ a t, P a t → (f a).yields h Q t) : (p >>= f).yields h Q s := by
  refine yields_iff_wp.mpr (wp_seq (yields_iff_wp.mp first) ?_ ?_)
  · nofun
  · intro a t reached
    exact yields_iff_wp.mp (rest a t (reached a rfl))

theorem yields_ofExcept_seq {Q : β → S → Prop} (rest : ∀ a, r = .ok a → (f a).yields h Q s) :
    ((ofExcept r : Prog C R E α) >>= f).yields h Q s := by
  cases r with
  | error e => exact yields_fail
  | ok a => exact rest a rfl

theorem yields_mapError {f : E → E} (ends : p.yields h Q s) : (p.mapError f).yields h Q s := by
  refine yields_iff_wp.mpr (wp_mapError.mpr ?_)
  refine wp_mono (yields_iff_wp.mp ends) fun r t reached => ?_
  cases r with
  | ok a => exact reached
  | error e => exact nofun

theorem yields_attempt {Q : Except E α → S → Prop}
    (ends : p.wp h Q s) : p.attempt.yields h Q s := by
  refine yields_iff_wp.mpr (wp_attempt.mpr ?_)
  refine wp_mono ends fun r t reached a given => ?_
  cases given
  exact reached

theorem yields_rescue {handler : E → Prog C R E α}
    (ends : p.yields h Q s) (reports : ∀ e t, (handler e).yields h (fun _ _ => False) t) :
    (p.rescue handler).yields h Q s := by
  refine yields_iff_wp.mpr (wp_rescue.mpr ?_)
  refine wp_mono (yields_iff_wp.mp ends) fun r t reached => ?_
  cases r with
  | ok a => exact reached
  | error e => exact yields_iff_wp.mp (yields_mono (reports e t) fun _ _ => False.elim)

theorem yields_run [Inhabited O]
    (ends : p.yields h Q s) (succeeded : (p.run h os s).1.isOk = true) :
    ∃ a, (p.run h os s).1 = .ok a ∧ Q a (p.run h os s).2 := by
  have reached := wp_iff_run.mp (yields_iff_wp.mp ends) os
  cases answer : (p.run h os s).1 with
  | ok a => exact ⟨a, rfl, reached a answer⟩
  | error e =>
    rw [answer] at succeeded
    cases succeeded

theorem yields_run_ok [Inhabited O] {t : S}
    (ends : p.yields h Q s) (ran : p.run h os s = (.ok a, t)) : Q a t := by
  have reached := wp_iff_run.mp (yields_iff_wp.mp ends) os
  rw [ran] at reached
  exact reached a rfl

/-! A run that only takes the default choice is computed step by step. -/

section

variable (h) [Inhabited O]

@[simp] theorem run_ret (a : α) (os : List O) (s : S) :
    (Prog.ret a : Prog C R E α).run h os s = (.ok a, s) := rfl

@[simp] theorem run_fail (e : E) (os : List O) (s : S) :
    (Prog.fail e : Prog C R E α).run h os s = (.error e, s) := rfl

theorem run_bind (p : Prog C R E α) (f : α → Prog C R E β) (s : S) :
    (p >>= f).run h [] s = match (p.run h [] s).1 with
      | .ok a => (f a).run h [] (p.run h [] s).2
      | .error e => (.error e, (p.run h [] s).2) := by
  induction p generalizing s with
  | ret a => rfl
  | fail e => rfl
  | call c k ih => exact ih _ _

theorem run_attempt (p : Prog C R E α) (s : S) :
    p.attempt.run h [] s = (.ok (p.run h [] s).1, (p.run h [] s).2) := by
  induction p generalizing s with
  | ret a => rfl
  | fail e => rfl
  | call c k ih => exact ih _ _

@[simp] theorem run_ofExcept (r : Except E α) (os : List O) (s : S) :
    (ofExcept r : Prog C R E α).run h os s = (r, s) := by
  cases r <;> rfl

theorem run_issue (c : C) (s : S) : (issue c).run h [] s = h default c s := by
  show (ofExcept (h default c s).1).run h [] (h default c s).2 = _
  rw [run_ofExcept]

theorem run_mapError (f : E → E) (p : Prog C R E α) (s : S) :
    (p.mapError f).run h [] s = ((p.run h [] s).1.mapError f, (p.run h [] s).2) := by
  unfold mapError
  rw [run_bind, run_attempt]
  exact run_ofExcept h _ _ _

end

end

/-- Every call in `P`, the outcome in `Q`. -/
def EmitsTo (T : (c : C) → Except E (R c) → Prop) (P : C → Prop) :
    Prog C R E α → (Except E α → Prop) → Prop
  | .ret a, Q => Q (.ok a)
  | .fail e, Q => Q (.error e)
  | .call c k, Q => P c ∧ ∀ r, T c r → (k r).EmitsTo T P Q

/-- Every call satisfies `P`. -/
def Emits (T : (c : C) → Except E (R c) → Prop) (P : C → Prop) (p : Prog C R E α) : Prop :=
  p.EmitsTo T P fun _ => True

section

variable {T : (c : C) → Except E (R c) → Prop} {P : C → Prop} {p : Prog C R E α}

theorem emitsTo_bind {f : α → Prog C R E β} {Q : Except E β → Prop} :
    (p >>= f).EmitsTo T P Q ↔ p.EmitsTo T P fun r => match r with
      | .ok a => (f a).EmitsTo T P Q
      | .error e => Q (.error e) := by
  induction p with
  | ret a => rfl
  | fail e => rfl
  | call c k ih => exact and_congr_right fun _ => forall₂_congr fun r _ => ih r

theorem emitsTo_attempt {Q : Except E (Except E α) → Prop} :
    p.attempt.EmitsTo T P Q ↔ p.EmitsTo T P fun r => Q (.ok r) := by
  induction p with
  | ret a => rfl
  | fail e => rfl
  | call c k ih => exact and_congr_right fun _ => forall₂_congr fun r _ => ih r

theorem emitsTo_ofExcept (r : Except E α) (Q : Except E α → Prop) :
    (ofExcept r : Prog C R E α).EmitsTo T P Q ↔ Q r := by
  cases r <;> rfl

theorem emitsTo_issue {c : C} {Q : Except E (R c) → Prop} :
    (issue c : Prog C R E (R c)).EmitsTo T P Q ↔ P c ∧ ∀ r, T c r → Q r :=
  and_congr_right fun _ => forall₂_congr fun _ _ => emitsTo_ofExcept _ _

theorem emitsTo_mapError {f : E → E} {Q : Except E α → Prop} :
    (p.mapError f).EmitsTo T P Q ↔ p.EmitsTo T P fun r => Q (r.mapError f) := by
  unfold mapError
  rw [emitsTo_bind, emitsTo_attempt]
  simp only [emitsTo_ofExcept]

variable {p : Prog C R E α} {Q : Except E α → Prop} {f : α → Prog C R E β}

theorem emitsTo_mono {Q' : Except E α → Prop}
    (emits : p.EmitsTo T P Q) (weaker : ∀ r, Q r → Q' r) : p.EmitsTo T P Q' := by
  induction p with
  | ret a => exact weaker _ emits
  | fail e => exact weaker _ emits
  | call c k ih => exact ⟨emits.1, fun r given => ih r (emits.2 r given)⟩

theorem EmitsTo.emits (emits : p.EmitsTo T P Q) : p.Emits T P :=
  emitsTo_mono emits fun _ _ => trivial

theorem EmitsTo.seq
    (first : p.EmitsTo T P Q) (rest : ∀ a, Q (.ok a) → (f a).Emits T P) : (p >>= f).Emits T P := by
  refine emitsTo_bind.mpr (emitsTo_mono first fun r known => ?_)
  cases r with
  | ok a => exact rest a known
  | error e => trivial

@[simp] theorem emits_ret {a : α} : (Prog.ret a : Prog C R E α).Emits T P := trivial

@[simp] theorem emits_fail {e : E} : (Prog.fail e : Prog C R E α).Emits T P := trivial

@[simp] theorem emits_ofExcept {r : Except E α} : (ofExcept r : Prog C R E α).Emits T P :=
  (emitsTo_ofExcept r _).mpr trivial

theorem emits_bind (first : p.Emits T P) (rest : ∀ a, (f a).Emits T P) : (p >>= f).Emits T P :=
  EmitsTo.seq first fun a _ => rest a

@[simp] theorem emits_attempt : p.attempt.Emits T P ↔ p.Emits T P :=
  emitsTo_attempt

@[simp] theorem emits_issue {c : C} : (issue c : Prog C R E (R c)).Emits T P ↔ P c :=
  emitsTo_issue.trans (and_iff_left fun _ _ => trivial)

@[simp] theorem emits_mapError {f : E → E} : (p.mapError f).Emits T P ↔ p.Emits T P :=
  emitsTo_mapError

theorem emits_option {q : Prog C R E (Option α)} {f : Option α → Prog C R E β} (first : q.Emits T P)
    (absent : (f none).Emits T P) (present : ∀ a, (f (some a)).Emits T P) : (q >>= f).Emits T P := by
  refine emits_bind first fun found => ?_
  cases found with
  | none => exact absent
  | some a => exact present a

theorem emits_tried {f : Except E α → Prog C R E β} (first : p.Emits T P)
    (done : ∀ a, (f (.ok a)).Emits T P) (failed : ∀ e, (f (.error e)).Emits T P) :
    (p.attempt >>= f).Emits T P := by
  refine emits_bind (emits_attempt.mpr first) fun r => ?_
  cases r with
  | ok a => exact done a
  | error e => exact failed e

theorem emits_if {c : Prop} [Decidable c] {q : Prog C R E α} (yes : c → p.Emits T P)
    (no : ¬c → q.Emits T P) : (if c then p else q).Emits T P := by
  split_ifs with holds
  · exact yes holds
  · exact no holds

theorem emits_rescue {handler : E → Prog C R E α}
    (emits : p.Emits T P) (rescued : ∀ e, (handler e).Emits T P) : (p.rescue handler).Emits T P :=
  emits_tried emits (fun _ => trivial) rescued

theorem Emits.mono {P' : C → Prop}
    (emits : p.Emits T P) (weaker : ∀ c, P c → P' c) : p.Emits T P' := by
  induction p with
  | ret a => trivial
  | fail e => trivial
  | call c k ih => exact ⟨weaker c emits.1, fun r given => ih r (emits.2 r given)⟩

variable {S O : Type} (h : O → (c : C) → S → Except E (R c) × S)
  (truthful : ∀ o c s, T c (h o c s).1)

include truthful

theorem EmitsTo.wp (emits : p.EmitsTo T P Q) (s : S) : p.wp h (fun r _ => Q r) s := by
  induction p generalizing s with
  | ret a => exact emits
  | fail e => exact emits
  | call c k ih => exact fun o => ih _ (emits.2 _ (truthful _ _ _)) _

/-- Frame rule: what every call preserves. -/
theorem Emits.wp_invariant {I : S → Prop} (emits : p.Emits T P)
    (preserved : ∀ o c s, P c → I s → I (h o c s).2) {s : S} (initial : I s) :
    p.wp h (fun _ t => I t) s := by
  induction p generalizing s with
  | ret a => exact initial
  | fail e => exact initial
  | call c k ih =>
    exact fun o => ih _ (emits.2 _ (truthful _ _ _)) (preserved o c s emits.1 initial)

end

end Prog
