import TruenasCsi.Support.Dict
import TruenasCsi.Volume.Id

/-! The driver's markers, and the guard that reads them. -/

namespace TruenasCsi.Volume

open Text (quote)

def ownerProperty : String := "io.truenas.csi:managed"

def ownerValue : String := "truenas-csi"

def ownerIDProperty : String := "io.truenas.csi:owner-id"

def protocolProperty : String := "io.truenas.csi:protocol"

def sourceLocal : String := "LOCAL"

/-- One user property as the appliance reports it. -/
structure Property where
  value : String
  source : String
deriving DecidableEq

structure Dataset where
  id : String
  userProperties : String → Option Property

private def notManaged (detail : String) : Err :=
  .sentinel .notManaged ("dataset is not managed by this driver — refusing to delete: " ++ detail)

def verifyOwned : Option Dataset → Except Err Unit
  | none => .error (notManaged "no dataset was returned")
  | some ds =>
    match ds.userProperties ownerProperty with
    | none =>
      .error (notManaged (quote ds.id ++ " has no " ++ ownerProperty ++ " property"))
    | some prop =>
      if prop.value ≠ ownerValue then
        .error (notManaged (quote ds.id ++ " has " ++ ownerProperty ++ "=" ++
          quote prop.value ++ ", want " ++ quote ownerValue))
      else
        match ds.userProperties ownerIDProperty with
        | some id =>
          if id.value ≠ ds.id then
            .error (notManaged (quote ds.id ++ " carries " ++ ownerIDProperty ++ "=" ++
              quote id.value ++ ", which names a different dataset — " ++
              "the marker is inherited from an ancestor, not set here"))
          else .ok ()
        | none =>
          -- Datasets stamped before the owner id existed have only the source to go on.
          if prop.source ≠ sourceLocal then
            .error (notManaged (quote ds.id ++ " has " ++ ownerProperty ++ " with source " ++
              quote prop.source ++ ", want " ++ quote sourceLocal ++
              " — the marker is inherited, not owned"))
          else .ok ()

/-- The properties the guard accepts. -/
def stampProperties (datasetID : String) : List (String × String) :=
  [(ownerProperty, ownerValue)] ++ (if datasetID ≠ "" then [(ownerIDProperty, datasetID)] else [])

def namespaceProperty : String := "io.truenas.csi:namespace"

def namespaceQuotaProperty : String := "io.truenas.csi:nsquota"

def graveyardProperty : String := "io.truenas.csi:graveyard"

def graveyardValue : String := "truenas-csi"

def deletedAtProperty : String := "io.truenas.csi:deleted-at"

def retiredFromProperty : String := "io.truenas.csi:retired-from"

def maxNamespaceLength : Nat := 63

private def isLabelChar (c : Char) : Bool :=
  ('a' ≤ c && c ≤ 'z') || ('0' ≤ c && c ≤ '9')

/-- The first character that no DNS label has there. -/
def badLabelChar (length : Nat) : Nat → List Char → Option Char
  | _, [] => none
  | i, c :: rest =>
    if isLabelChar c || (c == '-' && 0 < i && i < length - 1) then
      badLabelChar length (i + c.utf8Size) rest
    else some c

def validateNamespace (ns : String) : Except Err Unit :=
  if ns = "" then .error (.sentinel .invalidNamespace "not a valid Kubernetes namespace: empty")
  else if ns.utf8ByteSize > maxNamespaceLength then
    .error (.sentinel .invalidNamespace ("not a valid Kubernetes namespace: " ++
      toString ns.utf8ByteSize ++ " characters, limit " ++ toString maxNamespaceLength))
  else
    match badLabelChar ns.utf8ByteSize 0 ns.toList with
    | some c => .error (.sentinel .invalidNamespace ("not a valid Kubernetes namespace: " ++
        quote ns ++ " contains " ++ quote (String.singleton c)))
    | none => .ok ()

private theorem labelChar_of_badLabelChar {length i : Nat} {chars : List Char}
    (good : badLabelChar length i chars = none) : ∀ c ∈ chars, isLabelChar c = true ∨ c = '-' := by
  induction chars generalizing i with
  | nil => simp
  | cons c rest ih =>
    rw [badLabelChar] at good
    split_ifs at good with label
    intro x member
    rcases List.mem_cons.mp member with rfl | later
    · rcases Bool.or_eq_true _ _ |>.mp label with letter | dash
      · exact .inl letter
      · simp only [Bool.and_eq_true, beq_iff_eq] at dash
        exact .inr dash.1.1
    · exact ih good x later

theorem component_of_validateNamespace {ns : String} (valid : validateNamespace ns = .ok ()) :
    Component ns := by
  unfold validateNamespace at valid
  split_ifs at valid with empty long
  cases bad : badLabelChar ns.utf8ByteSize 0 ns.toList with
  | some c => simp [bad] at valid
  | none =>
    have letters := labelChar_of_badLabelChar bad
    have missing : ∀ c, isLabelChar c = false → c ≠ '-' → c ∉ ns.toList := by
      intro c none other member
      rcases letters c member with letter | dash
      · simp [none] at letter
      · exact other dash
    have dot : '.' ∉ ns.toList := missing '.' (by decide) (by decide)
    exact {
      nonempty := empty
      notDot := by rintro rfl; simp at dot
      notDots := by rintro rfl; simp at dot
      slashless := missing '/' (by decide) (by decide)
      backslashless := missing '\\' (by decide) (by decide) }

/-- The properties of a new container. -/
def namespaceProperties (ns : String) : List (String × String) :=
  [(ownerProperty, ownerValue), (namespaceProperty, ns)]

def isNamespaceDataset (localNamespaceProperty : String) : Bool := localNamespaceProperty != ""

def isGraveyard (localGraveyardProperty : String) : Bool :=
  localGraveyardProperty == graveyardValue

def isRetired (localDeletedAt : String) : Bool := localDeletedAt != ""

end TruenasCsi.Volume
