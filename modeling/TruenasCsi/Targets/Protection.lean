import TruenasCsi.Support.Log
import TruenasCsi.Targets.Groups

/-!
# What guards the shared target

## Main result

`target_protection_iff`: after a creation the target requires CHAP and restricts initiators exactly if it
was ready before.

## Proof strategy

`ensureTarget` changes a target only when it makes one. So the proof follows the log of the run (`Records`):
a target found is as it was, and one that was made has its groups unless its creation was not heard of.
-/

namespace TruenasCsi.Targets

open Appliance Backend Backend.Iscsi Prog Truenas World

abbrev Log := List (Call × Fault)

/-- What is known when a program succeeds. -/
abbrev Records {α : Type} (p : M α) (Q : α → World × Log → Prop) (s : World × Log) : Prop :=
  yields (logged handle) p Q s

variable (i : Iscsi) {c : Call}

variable (name : String)

def target? : Option Target := i.targets.find? fun row => row.name == name

/-- Every group of the target asks for credentials. -/
def RequiresCHAP : Prop :=
  ∃ t, target? i name = some t ∧ ∀ g ∈ t.groups, g.authMethod = "CHAP"

/-- The target lets in a group with all of `iqns`. -/
def Restricted (iqns : List String) : Prop :=
  ∃ t, target? i name = some t ∧ ∀ g ∈ t.groups, g.initiator ≠ 0 ∧ Covers i.initiators g.initiator iqns

/-- The target was made, unheard. -/
def LostCreation (log : Log) : Prop :=
  ∃ backend name portal initiator failure,
    (Call.api backend (.iscsi (.targetCreate name portal initiator)), Fault.lost failure) ∈ log

/-- Calls that create no target. -/
def NoCreation : Call → Prop
  | .api _ (.iscsi (.targetCreate _ _ _)) => False
  | _ => True

theorem lostCreation_continued {before after : Log} (onward : Continued NoCreation before after) :
    LostCreation after ↔ LostCreation before := by
  obtain ⟨more, rfl, none⟩ := onward
  constructor
  · rintro ⟨backend, name, portal, initiator, failure, member⟩
    rcases List.mem_append.mp member with early | late
    · exact ⟨backend, name, portal, initiator, failure, early⟩
    · exact (none _ late).elim
  · rintro ⟨backend, name, portal, initiator, failure, member⟩
    exact ⟨backend, name, portal, initiator, failure, List.mem_append_left _ member⟩

theorem noCreation_of_keeps (keeps : Call.Keeps (fun a => a.iscsi.targets) c) :
    NoCreation c := by
  unfold NoCreation
  split
  · next backend name portal initiator =>
    have same := keeps {}
    simp [State.act, Iscsi.act] at same
  · trivial

theorem keeps_targets_of_tables (keeps : Call.Keeps tables c) :
    Call.Keeps (fun a => a.iscsi.targets) c := by
  cases c with
  | api backend op => exact fun a => (Prod.mk.inj (keeps a)).1
  | client b => trivial
  | process op => trivial

section

variable {α : Type} {p : M α} {w : World} {l : Log}

theorem records_kept (backend : String) (keeps : M.Keeps tables p) :
    Records p (fun _ t =>
      tables (t.1.appliance backend) = tables (w.appliance backend) ∧
      (w.appliance backend).iscsi.nextID ≤ (t.1.appliance backend).iscsi.nextID ∧
      (LostCreation t.2 ↔ LostCreation l)) (w, l) := by
  have framed : M.wp p (fun _ t => tables (t.appliance backend) = tables (w.appliance backend) ∧
      (w.appliance backend).iscsi.nextID ≤ (t.appliance backend).iscsi.nextID) w :=
    wp_and (keeps.wp w backend) (wp_nextID p w backend)
  have spec := wp_logged (l := l) handle_truthful framed
    (Emits.mono keeps fun c kept => noCreation_of_keeps (keeps_targets_of_tables kept))
  refine yields_iff_wp.mpr (wp_mono spec ?_)
  rintro r t ⟨⟨same, grown⟩, onward⟩ a -
  exact ⟨same, grown, lostCreation_continued onward⟩

theorem records_asked {a : α} (asks : Asks p w a) (keeps : M.Keeps tables p) :
    Records p (fun b t => b = a ∧ t.1 = w ∧ (LostCreation t.2 ↔ LostCreation l)) (w, l) := by
  have spec := yields_logged (l := l) handle_truthful asks.yields
    (Emits.mono keeps fun c kept => noCreation_of_keeps (keeps_targets_of_tables kept))
  refine yields_mono spec ?_
  rintro b t ⟨⟨rfl, rfl⟩, onward⟩
  exact ⟨rfl, rfl, lostCreation_continued onward⟩

end

section

variable {c : Client} {w : World} {l : Log} {name : String} {portalID initiatorID : Nat}

theorem asks_targetByName : Asks (targetByName c name) w
    (target? (w.appliance c.name).iscsi name) := by
  have answer : target? (w.appliance c.name).iscsi name =
      ((w.appliance c.name).iscsi.targets.filter fun row => row.name == name).head? := by
    rw [target?, List.head?_filter]
  rw [answer]
  exact asks_first (wp_query rfl)

theorem keeps_targetByName : M.Keeps tables (targetByName c name) :=
  emits_first (emits_issue.mpr (keeps_tables_peripheral _ rfl))

def freshTarget (name : String) (portal initiator : Nat) : Target :=
  ⟨i.nextID, name, [{ portal, initiator }]⟩

theorem act_targetCreate {i : Iscsi} (portal initiator : Nat) (absent : target? i name = none) :
    Iscsi.act (.targetCreate name portal initiator) i =
      (.ok (freshTarget i name portal initiator),
        { i with targets := i.targets ++ [freshTarget i name portal initiator]
                 nextID := i.nextID + 1 }) := by
  have free : (i.targets.any fun row => row.name == name) = false := by
    rw [List.any_eq_false]
    exact List.find?_eq_none.mp absent
  simp only [Iscsi.act, free]
  rfl

theorem target?_append {i : Iscsi} {t : Target} (absent : target? i name = none) (named : t.name = name)
    (n : Nat) : target? { i with targets := i.targets ++ [t], nextID := n } name = some t := by
  unfold target? at absent ⊢
  rw [List.find?_append, absent]
  simp [named]

/-- The part of `createTarget` after the credentials: a target that was created unheard is taken as found. -/
def targetMade (c : Client) (name : String) (portalID initiatorID : Nat) (auth : Option Auth) : M Nat := do
  match ← (iscsi c (.targetCreate name portalID initiatorID)).attempt with
  | .error e =>
    match ← (targetByName c name).attempt with
    | .ok (some again) => return again.id
    | _ => throw (e.wrap ("creating target " ++ name ++ ": "))
  | .ok created =>
    match auth with
    | none => return created.id
    | some auth =>
      enableCHAP c name created portalID initiatorID auth
      return created.id

/-- A new target, with CHAP unless its creation was not heard of. -/
structure Made (name : String) (initiatorID : Nat) (chap : Bool) (before after : Iscsi) (lost : Prop) :
    Prop where
  initiators : after.initiators = before.initiators
  target : ∃ t g, target? after name = some t ∧ t.groups = [g] ∧ g.initiator = initiatorID ∧
    (chap = true → (g.authMethod = "CHAP" ↔ ¬lost))

def chapGroup (portalID initiatorID : Nat) (auth : Auth) : TargetGroup :=
  { portal := portalID, initiator := initiatorID, authMethod := "CHAP", auth := auth.tag }

theorem records_enableCHAP {created : Target} {auth : Auth}
    (present : target? (w.appliance c.name).iscsi name = some created) :
    Records (enableCHAP c name created portalID initiatorID auth) (fun _ t =>
      (t.1.appliance c.name).iscsi.initiators = (w.appliance c.name).iscsi.initiators ∧
      (∃ t', target? (t.1.appliance c.name).iscsi name = some t' ∧
        t'.groups = [chapGroup portalID initiatorID auth]) ∧
      (LostCreation t.2 ↔ LostCreation l)) (w, l) := by
  refine yields_rescue ?_ fun e t =>
    yields_bind yields_trivial fun _ _ _ => yields_fail
  have updated : M.yields (iscsi c (.targetUpdate created.id [chapGroup portalID initiatorID auth]))
      (fun _ t =>
        (t.appliance c.name).iscsi.initiators = (w.appliance c.name).iscsi.initiators ∧
        ∃ t', target? (t.appliance c.name).iscsi name = some t' ∧
          t'.groups = [chapGroup portalID initiatorID auth]) w := by
    refine yields_middleware fun _ answered => ?_
    rw [iscsi_acted]
    -- The update finds the row that was just created.
    have there : ((w.appliance c.name).iscsi.targets.any fun row => row.id == created.id) = true := by
      rw [List.any_eq_true]
      exact ⟨created, List.mem_of_find?_eq_some present, by simp⟩
    refine ⟨Iscsi.act_sparesInitiators rfl _, ?_⟩
    have found : (updateRow Target.id created.id (fun row => { row with
        groups := [chapGroup portalID initiatorID auth] }) (w.appliance c.name).iscsi.targets).find?
        (fun row => row.name == name) =
          some { created with groups := [chapGroup portalID initiatorID auth] } := by
      rw [find?_updateRow (by intro row; rfl), show List.find?
        (fun row : Target => row.name == name) (w.appliance c.name).iscsi.targets =
          some created from present]
      simp
    simp only [Iscsi.act, there, if_true, target?]
    exact ⟨_, found, rfl⟩
  have emits : (iscsi c (.targetUpdate created.id [chapGroup portalID initiatorID auth])).Emits
      Truthful NoCreation := emits_issue.mpr trivial
  have spec := yields_logged (l := l) handle_truthful updated emits
  refine yields_mono spec ?_
  rintro _ t ⟨⟨same, closed⟩, onward⟩
  exact ⟨same, closed, lostCreation_continued onward⟩

/-- Closed if that was answered, open if lost. -/
theorem records_targetMade {auth : Option Auth}
    (absent : target? (w.appliance c.name).iscsi name = none) (none : ¬LostCreation l) :
    Records (targetMade c name portalID initiatorID auth) (fun _ t =>
      Made name initiatorID auth.isSome (w.appliance c.name).iscsi (t.1.appliance c.name).iscsi
        (LostCreation t.2)) (w, l) := by
  have made := act_targetCreate portalID initiatorID absent
  have here : target? ((w.acted c.name (.iscsi (.targetCreate name portalID initiatorID))).appliance
      c.name).iscsi name = some (freshTarget (w.appliance c.name).iscsi name portalID initiatorID) := by
    rw [iscsi_acted, made]
    exact target?_append absent rfl _
  have groups : ((w.acted c.name (.iscsi (.targetCreate name portalID initiatorID))).appliance
      c.name).iscsi.initiators = (w.appliance c.name).iscsi.initiators := by
    rw [iscsi_acted]
    exact Iscsi.act_sparesInitiators rfl _
  -- The call ends in one of three ways, and only one of them is logged as a loss.
  have called : wp (logged handle) (iscsi c (.targetCreate name portalID initiatorID))
      (fun r t =>
        (r = .ok (freshTarget (w.appliance c.name).iscsi name portalID initiatorID) ∧
          t.1 = w.acted c.name (.iscsi (.targetCreate name portalID initiatorID)) ∧
          ¬LostCreation t.2) ∨
        (∃ e, r = .error e) ∧ (t.1 = w ∨
          t.1 = w.acted c.name (.iscsi (.targetCreate name portalID initiatorID)) ∧
            LostCreation t.2)) (w, l) := by
    refine wp_issue.mpr fun fault => ?_
    cases fault with
    | none =>
      refine .inl ⟨congrArg Prod.fst made, rfl, ?_⟩
      rintro ⟨backend, name', portal, initiator, failure, member⟩
      rcases List.mem_append.mp member with early | last
      · exact none ⟨backend, name', portal, initiator, failure, early⟩
      · simp at last
    | refused e => exact .inr ⟨⟨_, rfl⟩, .inl rfl⟩
    | lost e =>
      refine .inr ⟨⟨_, rfl⟩, .inr ⟨rfl, c.name, name, portalID, initiatorID, e, ?_⟩⟩
      exact List.mem_append_right _ (List.mem_singleton.mpr rfl)
  refine yields_bind (yields_attempt called) ?_
  rintro r ⟨t, m⟩ (⟨rfl, rfl, answered⟩ | ⟨⟨e, rfl⟩, left⟩)
  · cases auth with
    | none =>
      refine yields_ret ⟨groups, _, _, here, rfl, rfl, nofun⟩
    | some auth =>
      refine yields_bind (records_enableCHAP here) ?_
      rintro _ u ⟨same, ⟨t', closed, only⟩, unlost⟩
      refine yields_ret ⟨same.trans groups, t', _, closed, only, rfl, fun _ => ?_⟩
      exact iff_of_true rfl fun lost => answered (unlost.mp lost)
  · have asked := wp_logged (l := m) handle_truthful (@asks_targetByName c t name)
      (Emits.mono keeps_targetByName fun c kept =>
        noCreation_of_keeps (keeps_targets_of_tables kept))
    refine yields_bind (yields_attempt asked) ?_
    rintro r ⟨u, m'⟩ ⟨⟨rfl, rfl | ⟨e', rfl⟩⟩, onward⟩
    · rcases left with rfl | ⟨rfl, lost⟩
      · rw [absent]
        exact yields_fail
      · rw [here]
        refine yields_ret ⟨groups, _, _, here, rfl, rfl, fun _ => ?_⟩
        refine iff_of_false (show "NONE" ≠ "CHAP" by decide) ?_
        exact not_not.mpr ((lostCreation_continued onward).mpr lost)
    · exact yields_fail

end

/-- Rows count from one, and groups exist. -/
structure Sound (i : Iscsi) : Prop where
  numbered : ∀ row ∈ i.initiators, row.id ≠ 0
  fresh : i.nextID ≠ 0
  known : ∀ t ∈ i.targets, ∀ g ∈ t.groups, g.initiator < i.nextID

/-- A target that is there lets the nodes in. -/
def AclReady (name : String) (iqns : List String) : Prop :=
  ∀ t, target? i name = some t → ∀ g ∈ t.groups, g.initiator ≠ 0 ∧
    ((∃ d, driverGroup i = some d ∧ d.id = g.initiator) ∨ Covers i.initiators g.initiator iqns)

/-- A target that is there asks for credentials. -/
def ChapReady (name : String) (lost : Prop) : Prop :=
  (∀ t, target? i name = some t → ∀ g ∈ t.groups, g.authMethod = "CHAP") ∧
    (target? i name = none → ¬lost)

/-- A class is served iff the target was ready. -/
structure Guarded (p : Params) (name : String) (before after : Iscsi) (lost : Prop) : Prop where
  chap : p.chap = true → (RequiresCHAP after name ↔ ChapReady before name lost)
  acl : p.initiatorACL = true → p.nodeIQNs ≠ [] → Sound before →
    (Restricted after name p.nodeIQNs ↔ AclReady before name p.nodeIQNs)

section

variable {c : Client} {p : Params} {w : World} {l : Log} {name : String} {env : Env} {id : Nat}
  {lost : Prop}

theorem records_ensureInitiatorGroup : Records (ensureInitiatorGroup c p) (fun id t =>
    (t.1.appliance c.name).iscsi.targets = (w.appliance c.name).iscsi.targets ∧
    (p.initiatorACL = true → p.nodeIQNs ≠ [] →
      Ensured p.nodeIQNs (w.appliance c.name).iscsi (t.1.appliance c.name).iscsi id) ∧
    (LostCreation t.2 ↔ LostCreation l)) (w, l) := by
  have asked (op : IscsiOp) (spares : op.sparesTargets = true) :
      (iscsi c op).Emits Truthful (Call.Keeps fun a => a.iscsi.targets) :=
    emits_issue.mpr fun a => Iscsi.act_sparesTargets spares a.iscsi
  have search : (findInitiatorGroup c).Emits Truthful (Call.Keeps fun a => a.iscsi.targets) :=
    emits_mapError.mpr (emits_first (asked _ rfl))
  have keeps : M.Keeps (fun a => a.iscsi.targets) (ensureInitiatorGroup c p) := by
    refine emits_if (fun _ => trivial) fun _ => emits_bind search fun group => ?_
    cases group with
    | some existing =>
      exact emits_if (fun _ => trivial) fun _ =>
        emits_bind (emits_mapError.mpr (asked _ rfl)) fun _ => trivial
    | none =>
      refine emits_bind (emits_attempt.mpr (asked _ rfl)) fun made => ?_
      cases made with
      | ok created => trivial
      | error e =>
        refine emits_bind (emits_attempt.mpr search) fun again => ?_
        match again with
        | .ok (some g) => trivial
        | .ok none => trivial
        | .error _ => trivial
  have ensured : M.yields (ensureInitiatorGroup c p) (fun id t =>
      (p.initiatorACL = true → p.nodeIQNs ≠ [] →
        Ensured p.nodeIQNs (w.appliance c.name).iscsi (t.appliance c.name).iscsi id)) w := by
    by_cases asked : p.initiatorACL = true ∧ p.nodeIQNs ≠ []
    · refine yields_mono (yields_ensureInitiatorGroup asked.1 asked.2) ?_
      exact fun id t ends _ _ => ends
    · refine yields_mono yields_trivial ?_
      exact fun id t _ acl nodes => absurd ⟨acl, nodes⟩ asked
  have kept : M.yields (ensureInitiatorGroup c p) (fun _ t => (t.appliance c.name).iscsi.targets =
      (w.appliance c.name).iscsi.targets) w := keeps.yields rfl
  have spec := yields_logged (l := l) handle_truthful (yields_and kept ensured)
    (Emits.mono keeps fun c => noCreation_of_keeps)
  refine yields_mono spec ?_
  rintro id t ⟨⟨same, ends⟩, onward⟩
  exact ⟨same, ends, lostCreation_continued onward⟩

/-- A target that was not there is guarded as asked for, -/
theorem guarded_made {i mid after : Iscsi} (absent : target? i name = none)
    (same : mid.initiators = i.initiators) (grown : i.nextID ≤ mid.nextID) {ready : Iscsi}
    (ensured : p.initiatorACL = true → p.nodeIQNs ≠ [] → Ensured p.nodeIQNs mid ready id)
    (made : Made name id p.chap ready after lost) : Guarded p name i after lost := by
  obtain ⟨groups, t, g, found, only, initiator, closed⟩ := made
  constructor
  · intro chap
    have ready : ChapReady i name lost ↔ ¬lost :=
      ⟨fun ready => ready.2 absent, fun heard => ⟨by simp [absent], fun _ => heard⟩⟩
    rw [ready, ← closed chap]
    constructor
    · rintro ⟨t', found', all⟩
      rw [found] at found'
      cases found'
      exact all g (by simp [only])
    · intro closed
      exact ⟨t, found, by simpa [only] using closed⟩
  · intro acl nodes sound
    have ensured := ensured acl nodes
    refine iff_of_true ⟨t, found, ?_⟩ (by simp [AclReady, absent])
    rw [only]
    intro g' member
    cases List.mem_singleton.mp member
    rw [initiator, groups]
    refine ⟨ensured.numbered ?_ ?_, ensured.covers⟩
    · rw [same]
      exact sound.numbered
    · have positive := sound.fresh
      omega

/-- one that was there as it was. -/
theorem guarded_found {i after : Iscsi} {t : Target}
    (found : target? i name = some t) (same : after.targets = i.targets)
    (ensured : p.initiatorACL = true → p.nodeIQNs ≠ [] → Ensured p.nodeIQNs i after id) :
    Guarded p name i after lost := by
  have still : target? after name = some t := by
    unfold target? at found ⊢
    rw [same, found]
  constructor
  · intro _
    constructor
    · rintro ⟨t', found', all⟩
      rw [still] at found'
      cases found'
      refine ⟨fun t' found' => ?_, fun absent => ?_⟩
      · rw [found] at found'
        cases found'
        exact all
      · rw [found] at absent
        cases absent
    · intro ready
      exact ⟨t, still, ready.1 t found⟩
  · intro acl nodes sound
    have ensured := ensured acl nodes
    have below (g) (member : g ∈ t.groups) := sound.known t (List.mem_of_find?_eq_some found) g member
    constructor
    · rintro ⟨t', found', all⟩ t'' found''
      rw [still] at found'
      rw [found] at found''
      cases found'
      cases found''
      intro g member
      exact ⟨(all g member).1, (ensured.others _ (below g member)).mp (all g member).2⟩
    · intro ready
      refine ⟨t, still, fun g member => ?_⟩
      obtain ⟨nonzero, covered⟩ := ready t found g member
      exact ⟨nonzero, (ensured.others _ (below g member)).mpr covered⟩

theorem records_createTarget (absent : target? (w.appliance c.name).iscsi name = none)
    (none : ¬LostCreation l) : Records (createTarget c env p name) (fun _ t =>
      Guarded p name (w.appliance c.name).iscsi (t.1.appliance c.name).iscsi (LostCreation t.2))
      (w, l) := by
  refine yields_bind (records_kept c.name (emits_ensurePortal keeps_tables_peripheral p)) ?_
  rintro portalID ⟨u, m⟩ ⟨kept, grown, unlost⟩
  obtain ⟨targets, initiators⟩ := Prod.mk.inj kept
  refine yields_bind records_ensureInitiatorGroup ?_
  rintro initiatorID ⟨u', m'⟩ ⟨targets', ensured, unlost'⟩
  -- Portal and initiator group are not the target: it is still absent.
  have still : target? (u'.appliance c.name).iscsi name = .none := by
    unfold target? at absent ⊢
    rw [targets', targets, absent]
  have clean : ¬LostCreation m' := fun lost => none (unlost.mp (unlost'.mp lost))
  by_cases chap : p.chap = true
  · rw [if_pos chap]
    have credential : Records (some <$> ensureCHAP c env name) (fun auth t => auth.isSome = true ∧
        tables (t.1.appliance c.name) = tables (u'.appliance c.name) ∧
          (LostCreation t.2 ↔ LostCreation m')) (u', m') := by
      refine yields_bind (records_kept c.name
        (emits_ensureCHAP keeps_tables_peripheral env name)) ?_
      rintro auth t ⟨kept, -, unlost⟩
      exact yields_ret ⟨rfl, kept, unlost⟩
    refine yields_bind credential ?_
    rintro auth ⟨u'', m''⟩ ⟨given, kept'', unlost''⟩
    obtain ⟨targets'', initiators''⟩ := Prod.mk.inj kept''
    have still'' : target? (u''.appliance c.name).iscsi name = .none := by
      unfold target? at still ⊢
      rw [targets'', still]
    show Records (targetMade c name portalID initiatorID auth) _ _
    refine yields_mono (records_targetMade still'' fun lost => clean (unlost''.mp lost)) ?_
    intro _ t made
    rw [given, ← chap] at made
    exact guarded_made absent initiators grown ensured ⟨made.initiators.trans initiators'', made.target⟩
  · rw [if_neg chap]
    have off : p.chap = (Option.none : Option Auth).isSome := by simpa using chap
    show Records (targetMade c name portalID initiatorID .none) _ _
    refine yields_mono (records_targetMade still clean) ?_
    intro _ t made
    rw [← off] at made
    exact guarded_made absent initiators grown ensured made

theorem records_process (op : ProcessOp) : Records (process op) (fun _ t =>
    t.1.appliance = w.appliance ∧ (LostCreation t.2 ↔ LostCreation l)) (w, l) := by
  have quiet : M.yields (process op) (fun _ t => t.appliance = w.appliance) w :=
    yields_iff_wp.mpr (wp_process.mpr fun _ _ => rfl)
  have emits : (process op).Emits Truthful NoCreation := emits_issue.mpr trivial
  refine yields_mono (yields_logged (l := l) handle_truthful quiet emits) ?_
  rintro _ t ⟨same, onward⟩
  exact ⟨same, lostCreation_continued onward⟩

theorem records_withTargetLock {α : Type} {body : M α} {Q : α → (String → State) → Prop → Prop}
    (locked : ∀ t m, t.appliance = w.appliance → (LostCreation m ↔ LostCreation l) →
      Records body (fun a u => Q a u.1.appliance (LostCreation u.2)) (t, m)) :
    Records (withTargetLock name body) (fun a u => Q a u.1.appliance (LostCreation u.2)) (w, l) := by
  refine yields_bind (records_process _) ?_
  rintro _ ⟨t, m⟩ ⟨same, unlost⟩
  refine yields_bind (yields_attempt (yields_iff_wp.mp (locked t m same unlost))) ?_
  rintro result ⟨u, m'⟩ ends
  refine yields_bind (records_process _) ?_
  rintro _ ⟨v, m''⟩ ⟨same', unlost'⟩
  refine yields_ofExcept fun a answered => ?_
  have reached := ends a answered
  simp only at same' unlost' reached ⊢
  rwa [same', propext unlost']

/-- Both cases of `ensureTarget`. -/
theorem records_ensureTarget (none : ¬LostCreation l) :
    Records (ensureTarget c env p) (fun _ t =>
      Guarded p (targetName p.pool p.parent) (w.appliance c.name).iscsi (t.1.appliance c.name).iscsi
        (LostCreation t.2)) (w, l) := by
  unfold ensureTarget
  refine records_withTargetLock (Q := fun _ a lost => Guarded p (targetName p.pool p.parent)
    (w.appliance c.name).iscsi (a c.name).iscsi lost) fun t m same unlost => ?_
  generalize targetName p.pool p.parent = name
  have clean : ¬LostCreation m := fun lost => none (unlost.mp lost)
  rw [← same]
  have config : Asks (targetIQN c name) t
      ((t.appliance c.name).iscsi.config.basename ++ ":" ++ name) := by
    refine (Asks.mapError (a := (t.appliance c.name).iscsi.config) ?_ _).bind
      (fun e => ⟨rfl, .inr ⟨e, rfl⟩⟩) ⟨rfl, .inl rfl⟩
    exact wp_mono (wp_query rfl) fun r u ends =>
      ⟨ends.1, ends.2.imp id fun ⟨e, same⟩ => ⟨e.err, same⟩⟩
  refine yields_bind (records_asked config (emits_targetIQN keeps_tables_peripheral name)) ?_
  rintro iqn ⟨t', m'⟩ ⟨-, stays, unlost'⟩
  obtain rfl : t = t' := stays.symm
  refine yields_bind (records_asked (asks_targetByName.mapError _)
    (emits_queryTarget keeps_tables_peripheral name)) ?_
  rintro _ ⟨t', m''⟩ ⟨rfl, stays, unlost''⟩
  obtain rfl : t = t' := stays.symm
  cases found : target? (t.appliance c.name).iscsi name with
  | some existing =>
    refine yields_bind records_ensureInitiatorGroup ?_
    rintro id ⟨u, n⟩ ⟨targets, ensured, -⟩
    exact yields_ret (guarded_found found targets ensured)
  | none =>
    have clean'' : ¬LostCreation m'' := fun lost => clean (unlost'.mp (unlost''.mp lost))
    refine yields_bind (records_createTarget found clean'') ?_
    rintro id ⟨u, n⟩ guarded
    exact yields_ret guarded

end

variable {p : Params} {name : String}

/-- What happens before and after to other tables does not matter. -/
theorem Guarded.transport {lost lost' : Prop} {a a' b b' : State}
    (guarded : Guarded p name a.iscsi b.iscsi lost) (before : tables a = tables a')
    (grown : a'.iscsi.nextID ≤ a.iscsi.nextID) (after : tables b' = tables b) (same : lost' ↔ lost) :
    Guarded p name a'.iscsi b'.iscsi lost' := by
  obtain ⟨targets, initiators⟩ := Prod.mk.inj before
  obtain ⟨targets', initiators'⟩ := Prod.mk.inj after
  constructor
  · intro chap
    have ends := guarded.chap chap
    unfold RequiresCHAP ChapReady target? at ends ⊢
    rwa [targets', ← targets, propext same]
  · intro acl nodes sound
    have ends := guarded.acl acl nodes ⟨by rw [initiators]; exact sound.numbered,
      by have := sound.fresh; omega, fun t member g group => by
        rw [targets] at member
        exact (sound.known t member g group).trans_le grown⟩
    unfold Restricted AclReady target? driverGroup at ends ⊢
    rwa [targets', initiators', ← targets, ← initiators]

theorem records_undoing {α : Type} {undo : M Unit} {p : M α} {Q : α → World × Log → Prop}
    {s : World × Log} (ends : Records p Q s) : Records (Zvol.undoing undo p) Q s :=
  yields_rescue ends fun _ _ =>
    yields_bind yields_trivial fun _ _ _ => yields_fail

theorem records_create {b : Server} {r : CreateRequest} {w : World}
    (parsed : parseParams b.pool b.parent r.params = .ok p) :
    Records (create b r) (fun _ t =>
      Guarded p (targetName p.pool p.parent) (w.appliance b.client.name).iscsi
        (t.1.appliance b.client.name).iscsi (LostCreation t.2)) (w, []) := by
  have nothing : ¬LostCreation [] := by rintro ⟨_, _, _, _, _, member⟩; cases member
  unfold create
  generalize extentName b.env.sha256 r.id = extentName
  rw [parsed, ofExcept_ok, ret_bind]
  refine yields_bind (records_kept b.client.name (keeps_tables_ensureZvol _ _ _ _)) ?_
  rintro made ⟨t, l⟩ ⟨kept, grown, unlost⟩
  refine yields_bind (records_undoing (records_kept b.client.name
    (keeps_tables_ensureExtent _ _))) ?_
  rintro ⟨extent, madeExtent⟩ ⟨t', l'⟩ ⟨kept', grown', unlost'⟩
  have clean : ¬LostCreation l' := fun lost => nothing (unlost.mp (unlost'.mp lost))
  refine yields_bind (records_undoing (records_ensureTarget clean)) ?_
  rintro ⟨_, iqn⟩ ⟨u, m⟩ guarded
  refine yields_bind (records_undoing (records_kept b.client.name
    (emits_contextFor keeps_tables_peripheral p iqn extent.naa none))) ?_
  rintro pc ⟨v, n⟩ ⟨kept'', -, unlost''⟩
  exact yields_ret (guarded.transport (kept'.trans kept) (grown.trans grown') kept'' unlost'')

theorem parseParams_place {pool parent : String} {m : Dict String}
    (parsed : parseParams pool parent m = .ok p) : p.pool = pool ∧ p.parent = parent := by
  unfold parseParams at parsed
  cases chap : boolParam m "chap" true with
  | error e => simp [chap, bind, Except.bind] at parsed
  | ok chap =>
  cases acl : boolParam m "initiatorACL" true with
  | error e => simp [chap, acl, bind, Except.bind] at parsed
  | ok acl =>
  cases sparse : boolParam m "sparse" true with
  | error e => simp [chap, acl, sparse, bind, Except.bind] at parsed
  | ok sparse =>
  cases portal : portalParam m with
  | error e => simp [*, bind, Except.bind] at parsed
  | ok portal =>
    simp only [*, bind, Except.bind, pure, Except.pure, Except.ok.injEq] at parsed
    subst parsed
    exact ⟨rfl, rfl⟩

/-- For a creation that succeeded, with any failures. With CHAP in the parameters every group of the target
requires it exactly if it did before, or the target was new and its creation heard of. With an initiator
list, on sound tables, every group lets in all of it exactly if each group that was there did or was the
driver's own. -/
theorem target_protection_iff (b : Server) (r : CreateRequest) (p : Params)
    (parsed : parseParams b.pool b.parent r.params = .ok p) (faults : List Fault) (w t : World)
    (vol : Provisioned) (succeeded : M.run (create b r) faults w = (.ok vol, t)) :
    (p.chap = true →
      (RequiresCHAP (t.appliance b.client.name).iscsi (targetName b.pool b.parent) ↔
        ChapReady (w.appliance b.client.name).iscsi (targetName b.pool b.parent)
          (LostCreation (Prog.log World.handle (create b r) faults w)))) ∧
    (p.initiatorACL = true → p.nodeIQNs ≠ [] → Sound (w.appliance b.client.name).iscsi →
      (Restricted (t.appliance b.client.name).iscsi (targetName b.pool b.parent) p.nodeIQNs ↔
        AclReady (w.appliance b.client.name).iscsi (targetName b.pool b.parent) p.nodeIQNs)) := by
  have ran : run (logged handle) (create b r) faults (w, []) =
      (.ok vol, (t, log handle (create b r) faults w)) := by
    have same : run handle (create b r) faults w = (.ok vol, t) := succeeded
    rw [run_logged, same, List.nil_append]
  generalize log handle (create b r) faults w = l at ran ⊢
  have guarded := yields_run_ok (records_create parsed) ran
  obtain ⟨pool, parent⟩ := parseParams_place parsed
  rw [pool, parent] at guarded
  exact ⟨guarded.chap, guarded.acl⟩

def sampleServer : Server where
  client := ⟨"nas", "10.0.0.9"⟩
  pool := "tank"
  parent := "k8s"
  retire := ⟨"tank", "k8s", ".trash", 0⟩
  env := ⟨⟨2026, 1, 1, 0, 0, 0⟩, 0, "aB3dE6gH9jK2mN5p", fun _ => "0", id⟩

def sampleDatasets : Dict DatasetState :=
  Dict.ofList [("tank", { type := .filesystem }), ("tank/k8s", { type := .filesystem })]

def sampleWorld : World where
  appliance _ := { storage := { datasets := sampleDatasets } }

def sampleVolume (name : String) (params : List (String × String)) : CreateRequest where
  id := ⟨"nas", "iscsi", "tank", "k8s", "", name⟩
  capacityBytes := 4096
  params := Dict.ofList ([("volblocksize", "16K")] ++ params)
  sourceSnapshot := ""

def openClass : List (String × String) := [("chap", "false"), ("initiatorACL", "false")]

def closedClass : List (String × String) := [("nodeIQNs", "iqn.1993-08.org.debian:01:a1")]

def closedParams : Params where
  pool := "tank"
  parent := "k8s"
  chap := true
  initiatorACL := true
  nodeIQNs := ["iqn.1993-08.org.debian:01:a1"]
  sparse := true
  volBlockSize := "16K"

theorem closedClass_parsed (name : String) :
    parseParams "tank" "k8s" (sampleVolume name closedClass).params = .ok closedParams := by
  show parseParams "tank" "k8s" (Dict.ofList ([("volblocksize", "16K")] ++ closedClass)) = _
  rfl

def closedRun (faults : List Fault) (w : World) : Except Err Provisioned × World :=
  M.run (create sampleServer (sampleVolume "pvc-2" closedClass)) faults w

/-- The first volume's class makes the target. -/
theorem first_target_guarded :
    RequiresCHAP ((closedRun [] sampleWorld).2.appliance "nas").iscsi "csi-tank-k8s" ∧
      Restricted ((closedRun [] sampleWorld).2.appliance "nas").iscsi "csi-tank-k8s"
        ["iqn.1993-08.org.debian:01:a1"] := by
  have finished : (closedRun [] sampleWorld).1.isOk = true := by decide
  cases ran : closedRun [] sampleWorld with
  | mk answer t =>
    cases answer with
    | error e =>
      rw [ran] at finished
      cases finished
    | ok vol =>
      have name : targetName "tank" "k8s" = "csi-tank-k8s" := by decide
      have unlost : ¬LostCreation (log handle
          (create sampleServer (sampleVolume "pvc-2" closedClass)) [] sampleWorld) := by
        rintro ⟨_, _, _, _, _, member⟩
        cases log_default _ _ _ _ member
      obtain ⟨chap, acl⟩ := target_protection_iff sampleServer (sampleVolume "pvc-2" closedClass)
        closedParams (closedClass_parsed "pvc-2") [] sampleWorld t vol ran
      rw [show targetName sampleServer.pool sampleServer.parent = "csi-tank-k8s" from name] at chap acl
      have absent : target? (sampleWorld.appliance sampleServer.client.name).iscsi "csi-tank-k8s" = none :=
        rfl
      refine ⟨(chap rfl).mpr ⟨?_, fun _ => unlost⟩, (acl rfl (by decide) ⟨?_, ?_, ?_⟩).mpr ?_⟩
      · simp [absent]
      · nofun
      · decide
      · nofun
      · simp [AclReady, absent]

def openWorld : World :=
  (M.run (create sampleServer (sampleVolume "pvc-1" openClass)) [] sampleWorld).2

def lostAnswer : List Fault :=
  List.replicate 14 .none ++ [.lost (.plain "connection reset")]

theorem not_requiresCHAP {i : Iscsi} {id portal initiator : Nat}
    (found : target? i name = some ⟨id, name, [{ portal, initiator }]⟩) : ¬RequiresCHAP i name := by
  rintro ⟨t, found', all⟩
  rw [found] at found'
  cases found'
  exact absurd (all _ (List.mem_singleton.mpr rfl)) (show "NONE" ≠ "CHAP" by decide)

theorem not_restricted {i : Iscsi} {id portal : Nat} {iqns : List String}
    (found : target? i name = some ⟨id, name, [{ portal }]⟩) : ¬Restricted i name iqns := by
  rintro ⟨t, found', all⟩
  rw [found] at found'
  cases found'
  exact (all _ (List.mem_singleton.mpr rfl)).1 rfl

/-- Both creations succeed and leave the target open. -/
theorem target_left_open :
    ((closedRun [] openWorld).1.isOk = true ∧
      ¬RequiresCHAP ((closedRun [] openWorld).2.appliance "nas").iscsi "csi-tank-k8s" ∧
      ¬Restricted ((closedRun [] openWorld).2.appliance "nas").iscsi "csi-tank-k8s"
        ["iqn.1993-08.org.debian:01:a1"]) ∧
    (closedRun lostAnswer sampleWorld).1.isOk = true ∧
      ¬RequiresCHAP ((closedRun lostAnswer sampleWorld).2.appliance "nas").iscsi "csi-tank-k8s" := by
  have taken : target? ((closedRun [] openWorld).2.appliance "nas").iscsi "csi-tank-k8s" =
      some ⟨3, "csi-tank-k8s", [{ portal := 2 }]⟩ := by decide
  have unheard : target? ((closedRun lostAnswer sampleWorld).2.appliance "nas").iscsi "csi-tank-k8s" =
      some ⟨5, "csi-tank-k8s", [{ portal := 2, initiator := 3 }]⟩ := by decide
  refine ⟨⟨by decide, not_requiresCHAP taken, not_restricted taken⟩, by decide, ?_⟩
  exact not_requiresCHAP unheard

end TruenasCsi.Targets
