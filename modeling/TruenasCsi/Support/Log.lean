import TruenasCsi.Support.Prog

/-! The log of a run pairs each call with the choice it was answered by. -/

namespace Prog

variable {C : Type} {R : C → Type} {E α S O : Type}

section

variable (h : O → (c : C) → S → Except E (R c) × S)

/-- The calls of a run with their choices. -/
def log [Inhabited O] : Prog C R E α → List O → S → List (C × O)
  | .ret _, _, _ => []
  | .fail _, _, _ => []
  | .call c k, os, s =>
    (c, os.headD default) ::
      (k (h (os.headD default) c s).1).log os.tail (h (os.headD default) c s).2

/-- The handler that writes the log. -/
def logged (o : O) (c : C) (s : S × List (C × O)) : Except E (R c) × (S × List (C × O)) :=
  ((h o c s.1).1, ((h o c s.1).2, s.2 ++ [(c, o)]))

/-- Logging does not change a run. -/
theorem run_logged [Inhabited O] (p : Prog C R E α) (os : List O) (s : S) (l : List (C × O)) :
    p.run (logged h) os (s, l) = ((p.run h os s).1, ((p.run h os s).2, l ++ p.log h os s)) := by
  induction p generalizing os s l with
  | ret a => simp [log]
  | fail e => simp [log]
  | call c k ih =>
    have rest := ih (h (os.headD default) c s).1 os.tail (h (os.headD default) c s).2
      (l ++ [(c, os.headD default)])
    rw [List.append_assoc] at rest
    exact rest

theorem log_default [Inhabited O] (p : Prog C R E α) (s : S) : ∀ e ∈ p.log h [] s, e.2 = default := by
  induction p generalizing s with
  | ret a => simp [log]
  | fail e => simp [log]
  | call c k ih =>
    intro e member
    rcases List.mem_cons.mp member with rfl | later
    · rfl
    · exact ih _ _ e later

end

variable {h : O → (c : C) → S → Except E (R c) × S} {T : (c : C) → Except E (R c) → Prop}
  {P : C → Prop} {p : Prog C R E α} {s : S} {l : List (C × O)} {Q : Except E α → S → Prop}

/-- A log continued by calls of a kind. -/
def Continued (P : C → Prop) (before after : List (C × O)) : Prop :=
  ∃ more, after = before ++ more ∧ ∀ e ∈ more, P e.1

theorem Continued.refl (P : C → Prop) (l : List (C × O)) : Continued P l l := ⟨[], by simp, by simp⟩

theorem Continued.trans {m n : List (C × O)} (first : Continued P l m) (second : Continued P m n) :
    Continued P l n := by
  obtain ⟨front, rfl, early⟩ := first
  obtain ⟨back, rfl, late⟩ := second
  refine ⟨front ++ back, List.append_assoc _ _ _, fun e member => ?_⟩
  rcases List.mem_append.mp member with here | there
  · exact early e here
  · exact late e there

/-- A rule for the state and one for the calls give one for both. -/
theorem wp_logged (truthful : ∀ o c s, T c (h o c s).1) (spec : p.wp h Q s) (emits : p.Emits T P) :
    p.wp (logged h) (fun r t => Q r t.1 ∧ Continued P l t.2) (s, l) := by
  induction p generalizing s l with
  | ret a => exact ⟨spec, Continued.refl P l⟩
  | fail e => exact ⟨spec, Continued.refl P l⟩
  | call c k ih =>
    intro o
    refine wp_mono (ih _ (spec o) (emits.2 _ (truthful o c s))) ?_
    rintro r t ⟨ends, onward⟩
    refine ⟨ends, Continued.trans ⟨[(c, o)], rfl, ?_⟩ onward⟩
    simpa using emits.1

theorem wp_logged_seq {β : Type} (truthful : ∀ o c s, T c (h o c s).1) {f : α → Prog C R E β}
    {D : Except E α → S → Prop} {Q : Except E β → S × List (C × O) → Prop} (spec : p.wp h D s)
    (emits : p.Emits T P)
    (failed : ∀ e t more, (∀ x ∈ more, P x.1) → D (.error e) t → Q (.error e) (t, l ++ more))
    (rest : ∀ a t more, (∀ x ∈ more, P x.1) → D (.ok a) t → (f a).wp (logged h) Q (t, l ++ more)) :
    (p >>= f).wp (logged h) Q (s, l) := by
  refine wp_seq (wp_logged truthful spec emits) ?_ ?_
  · rintro e ⟨t, l'⟩ ⟨ended, more, rfl, kind⟩
    exact failed e t more kind ended
  · rintro a ⟨t, l'⟩ ⟨ended, more, rfl, kind⟩
    exact rest a t more kind ended

theorem wp_logged_state (spec : p.wp h Q s) : p.wp (logged h) (fun r t => Q r t.1) (s, l) := by
  induction p generalizing s l with
  | ret a => exact spec
  | fail e => exact spec
  | call c k ih => exact fun o => ih _ (spec o)

theorem yields_logged (truthful : ∀ o c s, T c (h o c s).1) {Q : α → S → Prop}
    (spec : p.yields h Q s) (emits : p.Emits T P) :
    p.yields (logged h) (fun a t => Q a t.1 ∧ Continued P l t.2) (s, l) := by
  refine yields_iff_wp.mpr (wp_mono (wp_logged truthful (yields_iff_wp.mp spec) emits) ?_)
  rintro r t ⟨ends, onward⟩ a answered
  exact ⟨ends a answered, onward⟩

end Prog
