import TruenasCsi.Support.Json
import TruenasCsi.Support.Dict
import TruenasCsi.Status

/-! The `sharing.nfs` and `sharing.smb` tables. -/

namespace TruenasCsi.Appliance

def updateRow {α : Type} (idOf : α → Nat) (id : Nat) (f : α → α) (rows : List α) : List α :=
  rows.map fun row => if idOf row = id then f row else row

theorem find?_updateRow {α : Type} {idOf : α → Nat} {id : Nat} {f : α → α} {found : α → Bool}
    (blind : ∀ row, found (f row) = found row) (rows : List α) :
    (updateRow idOf id f rows).find? found =
      (rows.find? found).map fun row => if idOf row = id then f row else row := by
  have unseen : (found ∘ fun row => if idOf row = id then f row else row) = found := by
    funext row
    by_cases same : idOf row = id <;> simp [same, blind]
  rw [updateRow, List.find?_map, unseen]

def noRow (method : String) (id : Nat) : Err :=
  .call method "ENOENT" ("[ENOENT] row " ++ toString id ++ " does not exist")

structure NfsShare where
  id : Nat
  path : String
  hosts : List String
  networks : List String
  enabled : Option Bool := some true
  comment : String := ""
  maprootUser : String := ""
  maprootGroup : String := ""
deriving DecidableEq

structure NfsTable where
  shares : List NfsShare := []
  nextID : Nat := 1

inductive NfsOp where
  | query (path : String)
  | create (path comment : String) (hosts networks : List String) (maproot : String)
  | update (id : Nat) (hosts networks : List String)
  | delete (id : Nat)

namespace NfsOp

@[reducible] def Answer : NfsOp → Type
  | query _ => List NfsShare
  | create _ _ _ _ _ => NfsShare
  | update _ _ _ => Unit
  | delete _ => Unit

end NfsOp

namespace NfsTable

def byPath (t : NfsTable) (path : String) : Option NfsShare :=
  t.shares.find? fun share => share.path == path

def act : (op : NfsOp) → NfsTable → Except Err op.Answer × NfsTable
  | .query path, t => (.ok (t.shares.filter fun share => share.path == path), t)
  | .create path comment hosts networks maproot, t =>
    let share : NfsShare := ⟨t.nextID, path, hosts, networks, some true, comment, maproot, maproot⟩
    (.ok share, { shares := t.shares ++ [share], nextID := t.nextID + 1 })
  | .update id hosts networks, t =>
    if t.shares.any fun share => share.id == id then
      (.ok (), { t with
        shares := updateRow NfsShare.id id (fun share => { share with hosts, networks }) t.shares })
    else (.error (noRow "sharing.nfs.update" id), t)
  | .delete id, t =>
    if t.shares.any fun share => share.id == id then
      (.ok (), { t with shares := t.shares.filter fun share => share.id != id })
    else (.error (noRow "sharing.nfs.delete" id), t)

variable {t : NfsTable} {path : String}

theorem act_error {op : NfsOp} {e : Err} (refused : (act op t).1 = .error e) :
    (act op t).2 = t := by
  cases op with
  | query path => cases refused
  | create path comment hosts networks maproot => cases refused
  | update id hosts networks =>
    simp only [act] at refused ⊢
    split_ifs at refused ⊢
    rfl
  | delete id =>
    simp only [act] at refused ⊢
    split_ifs at refused ⊢
    rfl

theorem byPath_update {share : NfsShare} (hosts networks : List String)
    (found : t.byPath path = some share) :
    (act (.update share.id hosts networks) t).2.byPath path = some { share with hosts, networks } := by
  have present : (t.shares.any fun row => row.id == share.id) = true :=
    List.any_eq_true.mpr ⟨share, List.mem_of_find?_eq_some found, by simp⟩
  unfold byPath at found ⊢
  simp only [act, present, if_true]
  rw [find?_updateRow, found]
  · simp
  · exact fun _ => rfl

theorem byPath_create (comment : String) (hosts networks : List String)
    (maproot : String) (absent : t.byPath path = none) :
    ((act (.create path comment hosts networks maproot) t).2.byPath path) =
      some ⟨t.nextID, path, hosts, networks, some true, comment, maproot, maproot⟩ := by
  unfold byPath at absent ⊢
  simp [act, List.find?_append, absent]

end NfsTable

structure SmbShare where
  id : Nat
  path : String
  name : String
  purpose : String := ""
  comment : String := ""
  options : Dict Json := ∅
  enabled : Option Bool := some true

structure SmbTable where
  shares : List SmbShare := []
  nextID : Nat := 1

inductive SmbOp where
  | query (path : String)
  | create (path name comment purpose : String) (options : Dict Json)
  | update (id : Nat) (purpose : String) (options : Dict Json)
  | delete (id : Nat)

namespace SmbOp

@[reducible] def Answer : SmbOp → Type
  | query _ => List SmbShare
  | create _ _ _ _ _ => SmbShare
  | update _ _ _ => Unit
  | delete _ => Unit

end SmbOp

namespace SmbTable

def byPath (t : SmbTable) (path : String) : Option SmbShare :=
  t.shares.find? fun share => share.path == path

/-- Share names differ in more than letter case. -/
def sameName (a b : String) : Bool := a.toList.map Char.toLower == b.toList.map Char.toLower

def act : (op : SmbOp) → SmbTable → Except Err op.Answer × SmbTable
  | .query path, t => (.ok (t.shares.filter fun share => share.path == path), t)
  | .create path name comment purpose options, t =>
    if t.shares.any fun share => sameName share.name name then
      (.error (.call "sharing.smb.create" "EINVAL" "[EINVAL] name: Share with this name already exists"),
        t)
    else
      let share : SmbShare := ⟨t.nextID, path, name, purpose, comment, options, some true⟩
      (.ok share, { shares := t.shares ++ [share], nextID := t.nextID + 1 })
  | .update id purpose options, t =>
    if t.shares.any fun share => share.id == id then
      (.ok (), { t with
        shares := updateRow SmbShare.id id
          (fun share => { share with purpose, options }) t.shares })
    else (.error (noRow "sharing.smb.update" id), t)
  | .delete id, t =>
    if t.shares.any fun share => share.id == id then
      (.ok (), { t with shares := t.shares.filter fun share => share.id != id })
    else (.error (noRow "sharing.smb.delete" id), t)

variable {t : SmbTable} {path : String}

theorem act_error {op : SmbOp} {e : Err} (refused : (act op t).1 = .error e) :
    (act op t).2 = t := by
  cases op with
  | query path => cases refused
  | create path name comment purpose options =>
    simp only [act] at refused ⊢
    split_ifs at refused ⊢
    rfl
  | update id purpose options =>
    simp only [act] at refused ⊢
    split_ifs at refused ⊢
    rfl
  | delete id =>
    simp only [act] at refused ⊢
    split_ifs at refused ⊢
    rfl

theorem byPath_update {share : SmbShare} (purpose : String)
    (options : Dict Json) (found : t.byPath path = some share) :
    (act (.update share.id purpose options) t).2.byPath path = some { share with purpose, options } := by
  have present : (t.shares.any fun row => row.id == share.id) = true :=
    List.any_eq_true.mpr ⟨share, List.mem_of_find?_eq_some found, by simp⟩
  unfold byPath at found ⊢
  simp only [act, present, if_true]
  rw [find?_updateRow, found]
  · simp
  · exact fun _ => rfl

theorem byPath_create (name comment purpose : String)
    (options : Dict Json) (absent : t.byPath path = none) :
    (∃ e, act (.create path name comment purpose options) t = (.error e, t)) ∨
      ∃ share : SmbShare, (act (.create path name comment purpose options) t).2.byPath path =
        some { share with purpose, options } := by
  by_cases taken : (t.shares.any fun share => sameName share.name name) = true
  · left
    exact ⟨_, by simp only [act, taken, if_true]; rfl⟩
  · right
    refine ⟨⟨t.nextID, path, name, purpose, comment, options, some true⟩, ?_⟩
    unfold byPath at absent ⊢
    simp [act, taken, List.find?_append, absent]

end SmbTable

end TruenasCsi.Appliance
