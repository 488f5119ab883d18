import TruenasCsi.Support.Log

/-! Runs that are stopped, or looked at between two calls. -/

namespace Prog

variable {C : Type} {R : C → Type} {E α β S O : Type}

section

variable (h : O → (c : C) → S → Except E (R c) × S)

/-- The state after at most `n` calls. -/
def stopped [Inhabited O] : Nat → Prog C R E α → List O → S → S
  | 0, _, _, s => s
  | _ + 1, .ret _, _, s => s
  | _ + 1, .fail _, _, s => s
  | n + 1, .call c k, os, s =>
    stopped n (k (h (os.headD default) c s).1) os.tail (h (os.headD default) c s).2

/-- Every state in `I` and the end in `Q`. -/
def along (A : O → C → S → Prop) (I : S → Prop) : Prog C R E α → (Except E α → S → Prop) → S → Prop
  | .ret a, Q, s => I s ∧ Q (.ok a) s
  | .fail e, Q, s => I s ∧ Q (.error e) s
  | .call c k, Q, s => I s ∧ ∀ o, A o c s → (k (h o c s).1).along A I Q (h o c s).2

variable {h} {A : O → C → S → Prop} {I : S → Prop} {p : Prog C R E α} {Q : Except E α → S → Prop}
  {s : S} {P : Except E α → S → Prop}

theorem along_start (holds : p.along h A I Q s) : I s := by
  cases p with
  | ret a => exact holds.1
  | fail e => exact holds.1
  | call c k => exact holds.1

theorem along_mono {Q' : Except E α → S → Prop}
    (holds : p.along h A I Q s) (weaker : ∀ r t, I t → Q r t → Q' r t) : p.along h A I Q' s := by
  induction p generalizing s with
  | ret a => exact ⟨holds.1, weaker _ _ holds.1 holds.2⟩
  | fail e => exact ⟨holds.1, weaker _ _ holds.1 holds.2⟩
  | call c k ih => exact ⟨holds.1, fun o allowed => ih _ (holds.2 o allowed)⟩

theorem along_weaken {I' : S → Prop}
    (holds : p.along h A I Q s) (weaker : ∀ t, I t → I' t) : p.along h A I' Q s := by
  induction p generalizing s with
  | ret a => exact ⟨weaker s holds.1, holds.2⟩
  | fail e => exact ⟨weaker s holds.1, holds.2⟩
  | call c k ih => exact ⟨weaker s holds.1, fun o allowed => ih _ (holds.2 o allowed)⟩

theorem along_ret {a : α} (now : I s) (ends : Q (.ok a) s) :
    (Prog.ret a : Prog C R E α).along h A I Q s := ⟨now, ends⟩

theorem along_fail {e : E} (now : I s) (ends : Q (.error e) s) :
    (Prog.fail e : Prog C R E α).along h A I Q s := ⟨now, ends⟩

theorem along_ofExcept {r : Except E α} (now : I s)
    (ends : Q r s) : (ofExcept r : Prog C R E α).along h A I Q s := by
  cases r with
  | ok a => exact ⟨now, ends⟩
  | error e => exact ⟨now, ends⟩

theorem along_issue {c : C} {Q : Except E (R c) → S → Prop} (now : I s)
    (answers : ∀ o, A o c s → I (h o c s).2 ∧ Q (h o c s).1 (h o c s).2) :
    (issue c : Prog C R E (R c)).along h A I Q s := by
  refine ⟨now, fun o allowed => ?_⟩
  exact along_ofExcept (answers o allowed).1 (answers o allowed).2

/-- The invariant holds through both parts. -/
theorem along_bind {f : α → Prog C R E β} {Q : Except E β → S → Prop} (first : p.along h A I P s)
    (failed : ∀ e t, I t → P (.error e) t → Q (.error e) t)
    (rest : ∀ a t, I t → P (.ok a) t → (f a).along h A I Q t) : (p >>= f).along h A I Q s := by
  induction p generalizing s with
  | ret a => exact rest a s first.1 first.2
  | fail e => exact ⟨first.1, failed e s first.1 first.2⟩
  | call c k ih => exact ⟨first.1, fun o allowed => ih _ (first.2 o allowed)⟩

theorem along_attempt {Q : Except E (Except E α) → S → Prop}
    (first : p.along h A I (fun r => Q (.ok r)) s) : p.attempt.along h A I Q s := by
  induction p generalizing s with
  | ret a => exact first
  | fail e => exact first
  | call c k ih => exact ⟨first.1, fun o allowed => ih _ (first.2 o allowed)⟩

theorem along_attempt_seq {f : Except E α → Prog C R E β}
    {Q : Except E β → S → Prop} (first : p.along h A I P s)
    (rest : ∀ r t, I t → P r t → (f r).along h A I Q t) : (p.attempt >>= f).along h A I Q s := by
  induction p generalizing s with
  | ret a => exact rest _ s first.1 first.2
  | fail e => exact rest _ s first.1 first.2
  | call c k ih => exact ⟨first.1, fun o allowed => ih _ (first.2 o allowed)⟩

theorem along_mapError {f : E → E}
    (first : p.along h A I (fun r => Q (r.mapError f)) s) : (p.mapError f).along h A I Q s := by
  induction p generalizing s with
  | ret a => exact first
  | fail e => exact first
  | call c k ih => exact ⟨first.1, fun o allowed => ih _ (first.2 o allowed)⟩

theorem along_of_wp {T : (c : C) → Except E (R c) → Prop} (truthful : ∀ o c s, T c (h o c s).1)
    {P : C → Prop} (spec : p.wp h Q s)
    (emits : p.Emits T P) (preserved : ∀ o c s, A o c s → P c → I s → I (h o c s).2) (now : I s) :
    p.along h A I Q s := by
  induction p generalizing s with
  | ret a => exact ⟨now, spec⟩
  | fail e => exact ⟨now, spec⟩
  | call c k ih =>
    refine ⟨now, fun o allowed => ?_⟩
    exact ih _ (spec o) (emits.2 _ (truthful o c s)) (preserved o c s allowed emits.1 now)

theorem along_of_wp_any (spec : p.wp h Q s) : p.along h A (fun _ => True) Q s := by
  induction p generalizing s with
  | ret a => exact ⟨trivial, spec⟩
  | fail e => exact ⟨trivial, spec⟩
  | call c k ih => exact ⟨trivial, fun o _ => ih _ (spec o)⟩

section

variable [Inhabited O] (h) (A)

/-- Every call is answered from `A`. -/
def chosen : Prog C R E α → List O → S → Prop
  | .ret _, _, _ => True
  | .fail _, _, _ => True
  | .call c k, os, s => A (os.headD default) c s ∧
      (k (h (os.headD default) c s).1).chosen os.tail (h (os.headD default) c s).2

variable {h} {A}

theorem chosen_of_forall (all : ∀ o c s, A o c s) (p : Prog C R E α) (os : List O) (s : S) :
    p.chosen h A os s := by
  induction p generalizing os s with
  | ret a => trivial
  | fail e => trivial
  | call c k ih => exact ⟨all _ _ _, ih _ _ _⟩

theorem chosen_nil (all : ∀ c s, A default c s) (p : Prog C R E α) (s : S) : p.chosen h A [] s := by
  induction p generalizing s with
  | ret a => trivial
  | fail e => trivial
  | call c k ih => exact ⟨all c s, ih _ _⟩

theorem run_seq (p : Prog C R E α) (f : α → Prog C R E β) (os : List O) (s : S) :
    (p >>= f).run h os s = match p.run h os s with
      | (.ok a, t) => (f a).run h (os.drop (p.log h os s).length) t
      | (.error e, t) => (.error e, t) := by
  induction p generalizing os s with
  | ret a => rfl
  | fail e => rfl
  | call c k ih =>
    have rest := ih (h (os.headD default) c s).1 os.tail (h (os.headD default) c s).2
    rw [List.drop_tail] at rest
    exact rest

variable {p : Prog C R E α} {os : List O} {s : S} {Q : Except E α → S → Prop}

theorem chosen_seq {f : α → Prog C R E β}
    (choices : (p >>= f).chosen h A os s) : p.chosen h A os s ∧ ∀ a t, p.run h os s = (.ok a, t) →
      (f a).chosen h A (os.drop (p.log h os s).length) t := by
  induction p generalizing os s with
  | ret a =>
    refine ⟨trivial, fun b t ended => ?_⟩
    cases ended
    exact choices
  | fail e => exact ⟨trivial, nofun⟩
  | call c k ih =>
    obtain ⟨early, late⟩ := ih _ choices.2
    rw [List.drop_tail] at late
    exact ⟨⟨choices.1, early⟩, late⟩

theorem stopped_logged (n : Nat) (p : Prog C R E α) (os : List O) (s : S) (l : List (C × O)) :
    p.stopped (logged h) n os (s, l) = (p.stopped h n os s, l ++ (p.log h os s).take n) := by
  induction n generalizing p os s l with
  | zero => simp [stopped]
  | succ n ih =>
    cases p with
    | ret a => simp [stopped, log]
    | fail e => simp [stopped, log]
    | call c k =>
      have rest := ih (k (h (os.headD default) c s).1) os.tail (h (os.headD default) c s).2
        (l ++ [(c, os.headD default)])
      rw [List.append_assoc] at rest
      exact rest

/-- At the end the postcondition holds, -/
theorem along_run (holds : p.along h A I Q s) (choices : p.chosen h A os s) :
    Q (p.run h os s).1 (p.run h os s).2 := by
  induction p generalizing os s with
  | ret a => exact holds.2
  | fail e => exact holds.2
  | call c k ih => exact ih _ (holds.2 _ choices.1) choices.2

theorem along_default_iff :
    p.along h (fun o _ _ => o = default) (fun _ => True) Q s ↔ Q (p.run h [] s).1 (p.run h [] s).2 := by
  induction p generalizing s with
  | ret a => exact and_iff_right trivial
  | fail e => exact and_iff_right trivial
  | call c k ih =>
    refine Iff.trans ⟨fun holds => holds.2 default rfl, fun holds => ⟨trivial, ?_⟩⟩ (ih _)
    rintro o rfl
    exact holds

/-- and wherever the run is stopped, the invariant. -/
theorem along_stopped (holds : p.along h A I Q s) (choices : p.chosen h A os s) (n : Nat) :
    I (p.stopped h n os s) := by
  induction n generalizing p os s with
  | zero => exact along_start holds
  | succ n ih =>
    cases p with
    | ret a => exact holds.1
    | fail e => exact holds.1
    | call c k => exact ih (holds.2 _ choices.1) choices.2

end

end

end Prog
