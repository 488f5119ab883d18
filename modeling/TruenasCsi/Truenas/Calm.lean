import TruenasCsi.Truenas.Footprint

/-! Runs in which no call fails. -/

namespace TruenasCsi

open Prog Appliance

/-- The run in which every call is answered. -/
def M.calm {α : Type} (p : M α) (w : World) : Except Err α × World := M.run p [] w

/-- It succeeds then. -/
def Completes {α : Type} (p : M α) (w : World) : Prop := (M.calm p w).1.isOk = true

/-- It changes no appliance then. -/
def Steady {α : Type} (p : M α) (w : World) : Prop := (M.calm p w).2.appliance = w.appliance

/-- No error, or no change. -/
def Atomic {α : Type} (p : M α) (w : World) : Prop := Completes p w ∨ Steady p w

section

variable {α β : Type} {p : M α} {f : α → M β} {w : World} {a : α} {t : World} {r : Except Err α}
  {Q : Except Err α → World → Prop} {e : Err} {g : Err → Err} {rows : List α} {query : M (List α)}
  {op : Op} {backend : String}

theorem calm_bind_ok (first : M.calm p w = (.ok a, t)) : M.calm (p >>= f) w = M.calm (f a) t := by
  unfold M.calm M.run at first ⊢
  rw [run_bind, first]

theorem calm_bind_error (first : M.calm p w = (.error e, t)) :
    M.calm (p >>= f) w = (.error e, t) := by
  unfold M.calm M.run at first ⊢
  rw [run_bind, first]

theorem calm_mapError (g : Err → Err) :
    M.calm (p.mapError g) w = ((M.calm p w).1.mapError g, (M.calm p w).2) :=
  run_mapError _ g p w

theorem calm_mapError_ok (first : M.calm p w = (.ok a, t)) :
    M.calm (p.mapError g) w = (.ok a, t) := by
  rw [calm_mapError, first]
  rfl

theorem calm_attempt : M.calm p.attempt w = (.ok (M.calm p w).1, (M.calm p w).2) :=
  run_attempt _ p w

theorem calm_middleware (backend : String) (op : Op) :
    M.calm (middleware backend op) w = (((w.appliance backend).act op).1, w.acted backend op) :=
  run_issue _ _ w

theorem calm_process (op : ProcessOp) :
    M.calm (process op) w = (.ok (w.process.act op).1, { w with process := (w.process.act op).2 }) :=
  run_issue _ _ w

theorem calm_query {answer : op.Answer}
    (readOnly : (w.appliance backend).act op = (.ok answer, w.appliance backend)) :
    M.calm (middleware backend op) w = (.ok answer, w) := by
  rw [calm_middleware, World.acted, readOnly]
  simp

theorem calm_first (asked : M.calm query w = (.ok rows, w)) :
    M.calm (Truenas.first query) w = (.ok rows.head?, w) := by
  unfold Truenas.first
  rw [calm_bind_ok (calm_attempt.trans (by rw [asked]))]
  rfl

theorem calm_rows (asked : M.calm query w = (.ok rows, w)) :
    M.calm (Truenas.rows query) w = (.ok rows, w) := by
  unfold Truenas.rows
  rw [calm_bind_ok (calm_attempt.trans (by rw [asked]))]
  rfl

theorem calm_datasetQuery (c : Truenas.Client) (id : String) :
    M.calm (c.datasetQuery id) w = (.ok ((w.appliance c.name).storage.dataset? id), w) := by
  have asked : M.calm (c.dataset (.query id)) w =
      (.ok ((w.appliance c.name).storage.dataset? id).toList, w) := calm_query rfl
  exact (calm_first asked).trans (by simp)

theorem M.Keeps.calm {part : State → β} (keeps : M.Keeps part p) (ended : M.calm p w = (r, t))
    (backend : String) :
    part (t.appliance backend) = part (w.appliance backend) := by
  have kept := keeps.run [] w backend
  have world : (M.run p [] w).2 = t := congrArg Prod.snd ended
  rwa [world] at kept

theorem calm_of_wp (spec : M.wp p Q w) (ended : M.calm p w = (r, t)) : Q r t := by
  have reached := wp_iff_run.mp spec []
  have ended' : Prog.run World.handle p [] w = (r, t) := ended
  rwa [ended'] at reached

theorem Completes.answer (done : Completes p w) : ∃ a, (M.run p [] w).1 = .ok a := by
  unfold Completes M.calm at done
  cases ended : (M.run p [] w).1 with
  | ok a => exact ⟨a, rfl⟩
  | error e =>
    rw [ended] at done
    cases done

theorem Completes.bind (first : M.calm p w = (.ok a, t))
    (rest : Completes (f a) t) : Completes (p >>= f) w := by
  unfold Completes
  rw [calm_bind_ok first]
  exact rest

theorem Completes.andThen (first : Completes p w)
    (rest : ∀ a t, M.calm p w = (.ok a, t) → Completes (f a) t) : Completes (p >>= f) w := by
  cases ended : M.calm p w with
  | mk r t =>
    cases r with
    | ok a => exact .bind ended (rest a t ended)
    | error e =>
      rw [Completes, ended] at first
      cases first

theorem Completes.mapError (g : Err → Err) (done : Completes p w) : Completes (p.mapError g) w := by
  unfold Completes at done ⊢
  rw [calm_mapError]
  cases ended : (M.calm p w).1 with
  | ok a => rfl
  | error e =>
    rw [ended] at done
    cases done

theorem Steady.bind (first : Steady p w)
    (rest : ∀ a t, M.calm p w = (.ok a, t) → Steady (f a) t) : Steady (p >>= f) w := by
  unfold Steady at first ⊢
  cases ended : M.calm p w with
  | mk r t =>
    rw [ended] at first
    cases r with
    | error e => rwa [calm_bind_error ended]
    | ok a =>
      rw [calm_bind_ok ended]
      exact (rest a t ended).trans first

theorem Steady.mapError (g : Err → Err) (steady : Steady p w) : Steady (p.mapError g) w := by
  unfold Steady at steady ⊢
  rwa [calm_mapError]

theorem steady_ofExcept (r : Except Err α) : Steady (Prog.ofExcept r) w := by
  unfold Steady M.calm M.run
  rw [run_ofExcept]

theorem steady_ret (a : α) : Steady (Prog.ret a : M α) w := rfl

theorem steady_fail : Steady (Prog.fail e : M α) w := rfl

theorem steady_process {op : ProcessOp} : Steady (process op) w := by
  unfold Steady
  rw [calm_process]

theorem steady_of_calm (answered : M.calm p w = (r, w)) : Steady p w := by
  unfold Steady
  rw [answered]

theorem steady_of_wp (spec : M.wp p Q w)
    (same : ∀ r t, Q r t → t.appliance = w.appliance) : Steady p w :=
  same _ _ (calm_of_wp spec rfl)

theorem atomic_middleware : Atomic (middleware backend op) w := by
  unfold Atomic Completes Steady
  rw [calm_middleware]
  cases answered : ((w.appliance backend).act op).1 with
  | ok a => exact .inl rfl
  | error e =>
    right
    simp [World.acted, State.act_error answered]

/-- Questions first: nothing has changed yet. -/
theorem Atomic.after (first : Steady p w)
    (rest : ∀ a t, M.calm p w = (.ok a, t) → t.appliance = w.appliance → Atomic (f a) t) :
    Atomic (p >>= f) w := by
  cases ended : M.calm p w with
  | mk r t =>
    have same : t.appliance = w.appliance := by
      rw [Steady, ended] at first
      exact first
    cases r with
    | error e =>
      right
      unfold Steady
      rwa [calm_bind_error ended]
    | ok a =>
      rcases rest a t ended same with done | steady
      · exact .inl (.bind ended done)
      · right
        unfold Steady at steady ⊢
        rw [calm_bind_ok ended]
        exact steady.trans same

theorem Atomic.ask (answered : M.calm p w = (r, w))
    (rest : ∀ a, r = .ok a → Atomic (f a) w) : Atomic (p >>= f) w := by
  refine .after (steady_of_calm answered) fun a t ended _ => ?_
  obtain ⟨same, rfl⟩ := Prod.mk.inj (answered.symm.trans ended)
  exact rest a same

theorem calm_ofExcept (r : Except Err α) : M.calm (Prog.ofExcept r) w = (r, w) :=
  run_ofExcept _ r [] w

theorem Atomic.specified (spec : M.wp p Q w) (same : ∀ r t, Q r t → t.appliance = w.appliance)
    (rest : ∀ a t, Q (.ok a) t → Atomic (f a) t) : Atomic (p.mapError g >>= f) w := by
  refine .after ((steady_of_wp spec same).mapError g) fun a t ended _ => ?_
  rw [calm_mapError] at ended
  cases first : M.calm p w with
  | mk r u =>
    rw [first] at ended
    obtain ⟨answer, rfl⟩ := Prod.mk.inj ended
    cases r with
    | ok b =>
      obtain rfl : b = a := Except.ok.inj answer
      exact rest b u (calm_of_wp spec first)
    | error e => cases answer

/-- After the first write the rest must complete. -/
theorem Atomic.andThen (first : Atomic p w)
    (rest : ∀ a t, M.calm p w = (.ok a, t) → Completes (f a) t) : Atomic (p >>= f) w := by
  cases ended : M.calm p w with
  | mk r t =>
    cases r with
    | ok a => exact .inl (.bind ended (rest a t ended))
    | error e =>
      rcases first with done | steady
      · rw [Completes, ended] at done
        cases done
      · right
        unfold Steady at steady ⊢
        rw [ended] at steady
        rwa [calm_bind_error ended]

theorem Atomic.mapError (g : Err → Err) (atomic : Atomic p w) : Atomic (p.mapError g) w :=
  atomic.imp (Completes.mapError g) (Steady.mapError g)

end

end TruenasCsi
