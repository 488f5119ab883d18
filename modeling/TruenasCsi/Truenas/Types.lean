import TruenasCsi.Support.Json
import TruenasCsi.Support.Text

/-! The forms a size comes in. -/

namespace TruenasCsi.Truenas

open Text

/-- Decoding into an integer that was zero. -/
def intOf : Json → Option Int
  | .null => some 0
  | .num token => atoi (String.ofList token)
  | _ => none

/-- Decoding into a text that was empty. -/
def textOf : Json → Option String
  | .null => some ""
  | .str s => some (String.ofList s)
  | _ => none

structure SizeWrapper where
  parsed : Option Json := none
  rawValue : String := ""

def isKey (name : String) (field : List Char × Json) : Bool := field.1.map Char.toLower == name.toList

def SizeWrapper.setField (s : SizeWrapper) (field : List Char × Json) : Option SizeWrapper :=
  if isKey "parsed" field then some { s with parsed := some field.2 }
  else if isKey "rawvalue" field then
    match field.2 with
    | .null => some s
    | .str text => some { s with rawValue := String.ofList text }
    | _ => none
  else some s

def sizeWrapper : Json → Option SizeWrapper
  | .null => some {}
  | .obj fields => fields.foldlM SizeWrapper.setField {}
  | _ => none

/-- The size a value decodes to, or none. -/
def sizeField (x : Json) : Int :=
  match intOf x, textOf x, sizeWrapper x with
  | some direct, _, _ => direct
  | none, some directStr, _ => (atoi directStr).getD 0
  | none, none, none => 0
  | none, none, some wrapper =>
    match wrapper.parsed.bind intOf, (wrapper.parsed.bind textOf).bind atoi with
    | some n, _ => n
    | none, some v => v
    | none, none => (atoi wrapper.rawValue).getD 0

def isNull : Json → Bool
  | .null => true
  | _ => false

/-- A 64-bit integer, or the text of one. -/
def numberIn : Json → Option Int
  | .num token => atoi (String.ofList token)
  | .str text => atoi (String.ofList text)
  | _ => none

variable (fields : List (List Char × Json))

/-- The parsed form, from the last such field. -/
def parsedIn : Option Json := (fields.reverse.find? (isKey "parsed")).map Prod.snd

/-- The machine form, if it is not `null`. -/
def rawIn : Option Json :=
  (fields.reverse.find? fun f => isKey "rawvalue" f && !isNull f.2).map Prod.snd

/-- The size that the object stands for. -/
def sizeIn : Int :=
  ((parsedIn fields).bind numberIn).getD (((rawIn fields).bind numberIn).getD 0)

/-- The machine form is text or missing. -/
def TextualRaw : Prop := ∀ f ∈ fields, isKey "rawvalue" f = true → (textOf f.2).isSome = true

variable {fields}

theorem textualRaw_snoc {f : List Char × Json} : TextualRaw (fields ++ [f]) ↔
    TextualRaw fields ∧ (isKey "rawvalue" f = true → (textOf f.2).isSome = true) := by
  simp only [TextualRaw, List.forall_mem_append, List.forall_mem_singleton]

theorem isKey_parsed {f : List Char × Json} (parsed : isKey "parsed" f = true) :
    isKey "rawvalue" f = false := by
  have name : f.1.map Char.toLower = "parsed".toList := by simpa [isKey] using parsed
  simp [isKey, name]

theorem sizeWrapper_obj (textual : TextualRaw fields) : sizeWrapper (.obj fields) =
    some ⟨parsedIn fields, ((rawIn fields).bind textOf).getD ""⟩ := by
  show fields.foldlM SizeWrapper.setField {} = _
  -- Fields are stored in order: the induction is on the last one.
  induction fields using List.reverseRecOn with
  | nil => rfl
  | append_singleton fields f ih =>
    obtain ⟨before, last⟩ := textualRaw_snoc.mp textual
    rw [List.foldlM_append, ih before]
    show SizeWrapper.setField _ f >>= pure = _
    rw [bind_pure]
    unfold SizeWrapper.setField parsedIn rawIn
    by_cases parsed : isKey "parsed" f = true
    · simp [parsed, isKey_parsed parsed]
    · by_cases raw : isKey "rawvalue" f = true
      · cases value : f.2 <;> simp_all [isNull, textOf]
      · simp [parsed, raw]

theorem sizeWrapper_unread (odd : ¬TextualRaw fields) : sizeWrapper (.obj fields) = none := by
  show fields.foldlM SizeWrapper.setField {} = _
  induction fields using List.reverseRecOn with
  | nil => exact absurd nofun odd
  | append_singleton fields f ih =>
    rw [List.foldlM_append]
    by_cases before : TextualRaw fields
    · have raw : isKey "rawvalue" f = true ∧ (textOf f.2).isSome = false := by
        simpa [textualRaw_snoc, before] using odd
      have other : isKey "parsed" f = false := by
        cases parsed : isKey "parsed" f with
        | false => rfl
        | true => rw [isKey_parsed parsed] at raw; cases raw.1
      cases start : fields.foldlM SizeWrapper.setField {} with
      | none => rfl
      | some s =>
        show SizeWrapper.setField s f >>= pure = none
        cases value : f.2 <;> simp_all [SizeWrapper.setField, textOf]
    · rw [ih before]
      rfl

theorem machine_form (textual : TextualRaw fields) :
    atoi (((rawIn fields).bind textOf).getD "") = (rawIn fields).bind numberIn := by
  cases raw : rawIn fields with
  | none => rfl
  | some x =>
    obtain ⟨f, located, rfl⟩ := Option.map_eq_some_iff.mp raw
    have named := List.find?_some located
    have text := textual f (by simpa using List.mem_of_find?_eq_some located)
    cases value : f.2 <;> simp_all [isNull, textOf, numberIn]

/-- For every object: the size that is decoded is the one it stands for, exactly if its machine form is text
or missing and its parsed form is not null, or that size is zero. -/
theorem size_decoded_iff (fields : List (List Char × Json)) :
    sizeField (.obj fields) = sizeIn fields ↔
      TextualRaw fields ∧ parsedIn fields ≠ some .null ∨ sizeIn fields = 0 := by
  by_cases textual : TextualRaw fields
  · have machine := machine_form textual
    simp only [sizeField, intOf, textOf, sizeWrapper_obj textual, sizeIn, machine]
    cases parsedIn fields with
    | none => simp [textual]
    | some x =>
      cases x with
      | null => simp [intOf, numberIn, eq_comm]
      | num token =>
        cases value : atoi (String.ofList token) <;> simp [intOf, textOf, numberIn, value, textual]
      | str text =>
        cases value : atoi (String.ofList text) <;> simp [intOf, textOf, numberIn, value, textual]
      | bool b => simp [intOf, textOf, numberIn, textual]
      | arr items => simp [intOf, textOf, numberIn, textual]
      | obj inner => simp [intOf, textOf, numberIn, textual]
  · have zero : sizeField (.obj fields) = 0 := by
      simp [sizeField, intOf, textOf, sizeWrapper_unread textual]
    rw [zero]
    simp [textual, eq_comm]

/-- An unset parsed form hides the machine form. -/
theorem null_hides_rawvalue :
    sizeField (.obj [("parsed".toList, .null), ("rawvalue".toList, .str "1073741824".toList)]) = 0 ∧
      sizeIn [("parsed".toList, .null), ("rawvalue".toList, .str "1073741824".toList)] =
        1073741824 := by
  decide

end TruenasCsi.Truenas
