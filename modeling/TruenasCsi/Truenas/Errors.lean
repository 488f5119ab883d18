import TruenasCsi.Truenas.Ops

/-! The middleware knows none of the errors the driver compares with. -/

namespace TruenasCsi

open Prog Appliance

def Err.Bare (e : Err) : Prop := e.sentinels = []

variable {e : Err} {s : Storage}

theorem Err.Bare.not_isA (bare : e.Bare) (s : Sentinel) : e.isA s = false := by
  unfold Err.Bare at bare
  simp [Err.isA, bare]

theorem Appliance.Storage.refuseNew_bare {method path : String}
    (refused : s.refuseNew method path = some e) : e.Bare := by
  unfold Storage.refuseNew at refused
  split_ifs at refused
  · cases refused
    rfl
  · split at refused
    · cases refused
      rfl
    · split_ifs at refused
      cases refused
      rfl

theorem Appliance.Storage.refusePatch_bare {d : DatasetState} {patch : DatasetPatch}
    (refused : Storage.refusePatch d patch = some e) : e.Bare := by
  unfold Storage.refusePatch at refused
  split_ifs at refused <;> cases refused <;> rfl

theorem Appliance.Storage.act_bare {op : DatasetOp}
    (refused : (Storage.act op s).1 = .error e) : e.Bare := by
  cases op <;> simp only [Storage.act] at refused <;> (try split at refused) <;>
    (try split at refused) <;> (try split at refused) <;> cases refused <;>
      first | rfl | exact refuseNew_bare ‹_› | exact refusePatch_bare ‹_›

theorem Appliance.Iscsi.act_bare {op : IscsiOp} {t : Iscsi}
    (refused : (act op t).1 = .error e) : e.Bare := by
  cases op <;> simp only [act] at refused <;> (try split_ifs at refused) <;>
    (try split at refused) <;> cases refused <;> rfl

theorem Appliance.Nvmet.act_bare {op : NvmetOp} {t : Nvmet}
    (refused : (act op t).1 = .error e) : e.Bare := by
  cases op <;> simp only [act] at refused <;> (try split_ifs at refused) <;> cases refused <;> rfl

/-- Answers that can be given. -/
def Impersonal : (c : Call) → Except Err c.Answer → Prop
  | .api _ (.iscsi _), .error e => e.Bare
  | .api _ (.nvmet _), .error e => e.Bare
  | .process _, .error _ => False
  | _, _ => True

/-- Neither appliance nor network makes the driver's own errors. -/
theorem handle_impersonal (fault : Fault) (c : Call) (w : World) :
    Impersonal c (World.handle fault c w).1 := by
  unfold Impersonal
  split
  · rename_i backend op e answer
    cases fault with
    | none => exact Iscsi.act_bare answer
    | refused f => exact Except.error.inj answer ▸ f.bare
    | lost f => exact Except.error.inj answer ▸ f.bare
  · rename_i backend op e answer
    cases fault with
    | none => exact Nvmet.act_bare answer
    | refused f => exact Except.error.inj answer ▸ f.bare
    | lost f => exact Except.error.inj answer ▸ f.bare
  · rename_i op e answer
    cases fault <;> cases answer
  · trivial

def M.Bare {α : Type} (p : M α) : Prop :=
  p.EmitsTo Impersonal (fun _ => True) fun r => ∀ e, r = .error e → e.Bare

section

variable {α β : Type} {p : M α} {f : α → M β} {query : M (List α)} {backend : String}

theorem bare_ret {a : α} : M.Bare (Prog.ret a : M α) := nofun

theorem bare_fail (bare : e.Bare) : M.Bare (Prog.fail e : M α) := by
  rintro _ ⟨⟩
  exact bare

theorem bare_bind (first : M.Bare p) (rest : ∀ a, M.Bare (f a)) : M.Bare (p >>= f) := by
  refine emitsTo_bind.mpr (emitsTo_mono first fun r known => ?_)
  cases r with
  | ok a => exact rest a
  | error e => exact fun _ same => known _ (by cases same; rfl)

theorem bare_attempt_bind {f : Except Err α → M β} (first : M.Bare p)
    (rest : ∀ r, (∀ e, r = .error e → e.Bare) → M.Bare (f r)) : M.Bare (p.attempt >>= f) := by
  refine emitsTo_bind.mpr (emitsTo_attempt.mpr ?_)
  exact emitsTo_mono first fun r known => rest r known

theorem bare_wrap {context : String} (first : M.Bare p) :
    M.Bare (p.mapError fun e => e.wrap context) := by
  refine emitsTo_mapError.mpr (emitsTo_mono first fun r known => ?_)
  cases r with
  | ok a => nofun
  | error e =>
    rintro _ ⟨⟩
    exact known e rfl

theorem bare_status {code : Code} {message : Err → String} :
    M.Bare (p.mapError fun e => .status code (message e)) := by
  have anything : p.EmitsTo Impersonal (fun _ => True) fun _ => True := by
    induction p with
    | ret a => trivial
    | fail e => trivial
    | call c k ih => exact ⟨trivial, fun r _ => ih r⟩
  refine emitsTo_mapError.mpr (emitsTo_mono anything fun r _ => ?_)
  cases r with
  | ok a => nofun
  | error e =>
    rintro _ ⟨⟩
    rfl

theorem bare_iscsi {op : IscsiOp} : M.Bare (middleware backend (.iscsi op)) :=
  emitsTo_issue.mpr ⟨trivial, fun r known e same => by subst same; exact known⟩

theorem bare_nvmet {op : NvmetOp} : M.Bare (middleware backend (.nvmet op)) :=
  emitsTo_issue.mpr ⟨trivial, fun r known e same => by subst same; exact known⟩

theorem bare_process (op : ProcessOp) : M.Bare (process op) :=
  emitsTo_issue.mpr ⟨trivial, fun r known e same => by subst same; exact known.elim⟩

theorem bare_first (bare : M.Bare query) : M.Bare (Truenas.first query) := by
  refine bare_attempt_bind bare fun r known => ?_
  cases r with
  | ok rows => exact bare_ret
  | error e =>
    dsimp only
    split_ifs
    · exact bare_ret
    · exact bare_fail (known e rfl)

theorem bare_rows (bare : M.Bare query) : M.Bare (Truenas.rows query) := by
  refine bare_attempt_bind bare fun r known => ?_
  cases r with
  | ok rows => exact bare_ret
  | error e =>
    dsimp only
    split_ifs
    · exact bare_ret
    · exact bare_fail (known e rfl)

theorem bare_gone {delete : M Unit} (bare : M.Bare delete) : M.Bare (Truenas.gone delete) := by
  refine bare_attempt_bind bare fun r known => ?_
  cases r with
  | ok _ => exact bare_ret
  | error e =>
    dsimp only
    split_ifs
    · exact bare_ret
    · exact bare_fail (known e rfl)

theorem M.Bare.wp (bare : M.Bare p) (w : World) :
    M.wp p (fun r _ => ∀ e, r = .error e → e.Bare) w :=
  Prog.EmitsTo.wp World.handle handle_impersonal bare w

end

end TruenasCsi
