import TruenasCsi.Status
import TruenasCsi.Support.Dict
import Mathlib.Tactic.Linarith
import Mathlib.Tactic.Positivity

/-! A limit is a whole number with a suffix. -/

namespace TruenasCsi.Node

open Text

variable (vc : Dict String) (key raw text : String) (cs : List Char) (both v n mult : Nat)

structure IOLimits where
  readBPS : Nat
  writeBPS : Nat
  readIOPS : Nat
  writeIOPS : Nat
deriving DecidableEq

def quantitySuffixes : List (String × Nat) :=
  [("Ki", 2 ^ 10), ("Mi", 2 ^ 20), ("Gi", 2 ^ 30), ("Ti", 2 ^ 40),
    ("K", 10 ^ 3), ("M", 10 ^ 6), ("G", 10 ^ 9), ("T", 10 ^ 12),
    ("k", 10 ^ 3), ("m", 10 ^ 6), ("g", 10 ^ 9), ("t", 10 ^ 12)]

def parseUint : Option Nat :=
  (natOfDigits 10 cs).bind fun n => if n < 2 ^ 64 then some n else none

def invalidRequest (detail : String) : Err := .plain ("invalid node request: " ++ detail)

/-- The digits and the multiplier of a value. -/
def cutSuffix : List Char × Nat :=
  match quantitySuffixes.find? fun s => s.1.toList.isSuffixOf raw.toList with
  | some s => ((trimSpace (String.ofList (raw.toList.rdrop s.1.length))).toList, s.2)
  | none => (raw.toList, 1)

def parseQuantity : Except Err Nat :=
  let raw := trimSpace (vc.getD key "")
  if raw = "" ∨ raw = "0" ∨ raw = "max" then .ok 0
  else
    match parseUint (cutSuffix raw).1 with
    | none => .error (invalidRequest (key ++ "=" ++ quote raw ++
        " is not a whole number with an optional Ki/Mi/Gi/Ti or K/M/G/T suffix"))
    | some n =>
      if n ≠ 0 ∧ (cutSuffix raw).2 ≠ 0 ∧ n > (2 ^ 64 - 1) / (cutSuffix raw).2 then
        .error (invalidRequest (key ++ "=" ++ quote raw ++ " overflows"))
      else .ok (n * (cutSuffix raw).2 % 2 ^ 64)

/-- A directional key overrides the undirected one. -/
def directed : Except Err Nat :=
  if (vc.get? key).isSome then parseQuantity vc key else .ok both

def parseIOLimits : Except Err IOLimits := do
  let both ← parseQuantity vc "bandwidthLimit"
  let bothIOPS ← parseQuantity vc "iopsLimit"
  let readBPS ← directed vc "readBandwidthLimit" both
  let writeBPS ← directed vc "writeBandwidthLimit" both
  let readIOPS ← directed vc "readIOPSLimit" bothIOPS
  let writeIOPS ← directed vc "writeIOPSLimit" bothIOPS
  return ⟨readBPS, writeBPS, readIOPS, writeIOPS⟩

/-- Digits with at most one point among them. -/
def decimal : Option Rat :=
  let whole := cs.takeWhile Char.isDigit
  match cs.dropWhile Char.isDigit with
  | [] => (natOfDigits 10 whole).map Nat.cast
  | c :: fraction =>
    if c = '.' then
      (natOfDigits 10 (whole ++ fraction)).map fun n => Nat.cast n / 10 ^ fraction.length
    else none

def units : List (String × Rat) :=
  [("", 1), ("Ki", 2 ^ 10), ("Mi", 2 ^ 20), ("Gi", 2 ^ 30), ("Ti", 2 ^ 40), ("Pi", 2 ^ 50),
    ("Ei", 2 ^ 60), ("n", 1 / 10 ^ 9), ("u", 1 / 10 ^ 6), ("m", 1 / 10 ^ 3), ("k", 10 ^ 3),
    ("M", 10 ^ 6), ("G", 10 ^ 9), ("T", 10 ^ 12), ("P", 10 ^ 15), ("E", 10 ^ 18)]

/-- The multiplier of a suffix. -/
def multiplier : Option Rat :=
  match units.find? fun u => u.1.toList = cs with
  | some u => some u.2
  | none =>
    match cs with
    | 'e' :: power | 'E' :: power => (atoi (String.ofList power)).map fun e => 10 ^ e
    | _ => none

def unsigned : Option Rat :=
  (decimal (cs.takeWhile fun c => c.isDigit || c == '.')).bind fun n =>
    (multiplier (cs.dropWhile fun c => c.isDigit || c == '.')).map (n * ·)

/-- The number a text stands for as a Kubernetes quantity. Kubernetes caps quantities at `2^63 - 1`; the cap
is left out. -/
def kubernetesQuantity : Option Rat :=
  if text.toList.any isSpace then none
  else
    match text.toList with
    | '+' :: cs => unsigned cs
    | '-' :: cs => (unsigned cs).map (- ·)
    | cs => unsigned cs

/-- The key of a limit, with the limit. -/
def limitKey (directional undirected : String) : String :=
  if (vc.get? directional).isSome then directional else undirected

def limitKeys : List (String × String × (IOLimits → Nat)) :=
  [("readBandwidthLimit", "bandwidthLimit", IOLimits.readBPS),
    ("writeBandwidthLimit", "bandwidthLimit", IOLimits.writeBPS),
    ("readIOPSLimit", "iopsLimit", IOLimits.readIOPS),
    ("writeIOPSLimit", "iopsLimit", IOLimits.writeIOPS)]

/-- Number and multiplier of a value. -/
def Spelled : Prop :=
  ∃ body suffix, (suffix, mult) ∈ ("", 1) :: quantitySuffixes ∧ raw.toList = body ++ suffix.toList ∧
    natOfDigits 10 (trimSpace (String.ofList body)).toList = some n

def Unlimited : Prop := raw = "" ∨ raw = "0" ∨ raw = "max"

/-- A limit is number times suffix, in 64 bits. -/
def Written : Prop :=
  v < 2 ^ 64 ∧ (Unlimited (trimSpace text) ∧ v = 0 ∨
    ∃ n mult, Spelled (trimSpace text) n mult ∧ v = n * mult)

def MeansQuantities (l : IOLimits) : Prop :=
  ∀ k ∈ limitKeys, Written (vc.getD (limitKey vc k.1 k.2.1) "") (k.2.2 l) ∧
    ∀ q, kubernetesQuantity (vc.getD (limitKey vc k.1 k.2.1) "") = some q → q ≠ 0 →
      (k.2.2 l : Rat) = q

/-- A nonzero whole number right before `m`. -/
def Milli : Prop :=
  ∃ digits n, natOfDigits 10 digits = some n ∧ n ≠ 0 ∧ text.toList = digits ++ ['m']

variable {vc : Dict String} {key raw text : String} {cs digits suffix : List Char} {both v n : Nat}
  {l : IOLimits} {q : Rat}

theorem isDigit_of_digitValue {c : Char} {d : Nat} (value : digitValue c = some d) : c.isDigit := by
  unfold digitValue at value
  split at value
  · rename_i range
    simpa [Char.isDigit, Char.le_def] using range
  · cases value

/-- A number needs every character to have a value. -/
theorem isDigit_of_foldlM {start : Nat} (result : (cs.foldlM (fun n c => (digitValue c).bind fun d =>
    if d < 10 then some (10 * n + d) else none) start) = some n) : ∀ c ∈ cs, c.isDigit := by
  induction cs generalizing start with
  | nil => simp
  | cons c cs ih =>
    simp only [List.foldlM_cons, Option.bind_eq_bind, Option.bind_eq_some_iff] at result
    obtain ⟨next, ⟨d, value, -⟩, rest⟩ := result
    exact List.forall_mem_cons.mpr ⟨isDigit_of_digitValue value, ih rest⟩

theorem isDigit_of_natOfDigits (number : natOfDigits 10 cs = some n) : ∀ c ∈ cs, c.isDigit := by
  unfold natOfDigits at number
  split at number
  · cases number
  · exact isDigit_of_foldlM number

theorem not_isSpace_of_isDigit {c : Char} (digit : c.isDigit) : isSpace c = false := by
  simp only [Char.isDigit, Bool.and_eq_true, decide_eq_true_eq, UInt32.le_iff_toNat_le] at digit
  have low : 48 ≤ c.toNat := digit.1
  have high : c.toNat ≤ 57 := digit.2
  simp only [isSpace, Bool.or_eq_false_iff, Bool.and_eq_false_iff, decide_eq_false_iff_not,
    beq_eq_false_iff_ne]
  omega

theorem trimSpace_of_solid (solid : ∀ c ∈ text.toList, isSpace c = false) :
    trimSpace text = text := by
  have left : text.toList.dropWhile isSpace = text.toList := by
    cases chars : text.toList with
    | nil => rfl
    | cons c cs =>
      rw [chars] at solid
      simp [solid c (by simp)]
  have right : text.toList.rdropWhile isSpace = text.toList := by
    rw [List.rdropWhile_eq_self_iff]
    intro nonempty blank
    rw [solid _ (List.getLast_mem nonempty)] at blank
    cases blank
  rw [trimSpace, left, right, String.ofList_toList]

theorem trimSpace_digits (number : natOfDigits 10 cs = some n) :
    trimSpace (String.ofList cs) = String.ofList cs := by
  refine trimSpace_of_solid fun c member => ?_
  rw [String.toList_ofList] at member
  exact not_isSpace_of_isDigit (isDigit_of_natOfDigits number c member)

theorem unsigned_append (number : natOfDigits 10 digits = some n)
    (letter : ∀ c ∈ suffix.head?, (c.isDigit || c == '.') = false) :
    unsigned (digits ++ suffix) = (multiplier suffix).map ((n : Rat) * ·) := by
  have plain := isDigit_of_natOfDigits number
  have shown : ∀ c ∈ digits, (c.isDigit || c == '.') = true := fun c member => by
    simp [plain c member]
  have stop : suffix.takeWhile (fun c => c.isDigit || c == '.') = [] ∧
      suffix.dropWhile (fun c => c.isDigit || c == '.') = suffix := by
    cases suffix with
    | nil => simp
    | cons c cs => simp [letter c rfl]
  rw [unsigned, List.takeWhile_append_of_pos shown, List.dropWhile_append_of_pos shown, stop.1, stop.2,
    List.append_nil]
  simp [decimal, List.takeWhile_eq_self_iff.mpr plain, List.dropWhile_eq_nil_iff.mpr plain, number]

theorem kubernetesQuantity_append (solid : text.toList.any isSpace = false)
    (spelled : text.toList = digits ++ suffix) (number : natOfDigits 10 digits = some n)
    (letter : ∀ c ∈ suffix.head?, (c.isDigit || c == '.') = false) :
    kubernetesQuantity text = (multiplier suffix).map ((n : Rat) * ·) := by
  have first : ∀ c ∈ text.toList.head?, c.isDigit := by
    rw [spelled]
    cases digits with
    | nil => simp [natOfDigits] at number
    | cons d ds => simpa using isDigit_of_natOfDigits number d (by simp)
  rw [← unsigned_append number letter, kubernetesQuantity, solid, ← spelled]
  simp only [Bool.false_eq_true, if_false]
  split
  · rename_i same
    simp [same] at first
  · rename_i same
    simp [same] at first
  · rfl

/-- The suffix means the same, or nothing, or is `m`. -/
theorem multiplier_suffix : ∀ s ∈ ("", 1) :: quantitySuffixes, s.1 = "m" ∨
    multiplier s.1.toList = none ∨ multiplier s.1.toList = some (s.2 : Rat) := by
  decide +kernel

theorem suffix_letter : ∀ s ∈ ("", 1) :: quantitySuffixes,
    ∀ c ∈ s.1.toList.head?, (c.isDigit || c == '.') = false := by
  simp [quantitySuffixes]

theorem quantity_of_written (written : Written text v) (whole : ¬ Milli text)
    (quantity : kubernetesQuantity text = some q) : q = v := by
  have each : ∀ c ∈ text.toList, isSpace c = false := by
    simp only [kubernetesQuantity, Option.ite_none_left_eq_some] at quantity
    simpa using quantity.1
  have solid : text.toList.any isSpace = false := by simpa using each
  rw [Written, trimSpace_of_solid each] at written
  rcases written with
    ⟨-, ⟨rfl | rfl | rfl, rfl⟩ | ⟨n, mult, ⟨body, suffix, listed, same, number⟩, rfl⟩⟩
  · have unknown : kubernetesQuantity "" = none := by decide +kernel
    simp [unknown] at quantity
  · have zero : kubernetesQuantity "0" = some 0 := by decide +kernel
    simpa [zero, eq_comm] using quantity
  · have unknown : kubernetesQuantity "max" = none := by decide +kernel
    simp [unknown] at quantity
  · rw [trimSpace_of_solid (by
      rw [String.toList_ofList]
      exact fun c member => each c (by simp [same, member])), String.toList_ofList] at number
    rw [kubernetesQuantity_append solid same number (suffix_letter _ listed)] at quantity
    rcases multiplier_suffix _ listed with rfl | unknown | agrees
    · -- Only zero is as many thousandths as millions.
      rcases Nat.eq_zero_or_pos n with rfl | positive
      · simpa [multiplier, units, eq_comm] using quantity
      · exact absurd ⟨body, n, number, by omega, same⟩ whole
    · rw [unknown] at quantity
      cases quantity
    · rw [agrees] at quantity
      simpa [eq_comm] using quantity

/-- Below the quotient, no overflow. -/
theorem product_lt {mult : Nat} (fits : ¬(n ≠ 0 ∧ mult ≠ 0 ∧ n > (2 ^ 64 - 1) / mult)) :
    n * mult < 2 ^ 64 := by
  rcases Nat.eq_zero_or_pos n with rfl | positive
  · simp
  rcases Nat.eq_zero_or_pos mult with rfl | positive
  · simp
  have most : n ≤ (2 ^ 64 - 1) / mult := by
    by_contra above
    apply fits
    omega
  have product := (Nat.le_div_iff_mul_le positive).mp most
  omega

theorem parseQuantity_ok (parsed : parseQuantity vc key = .ok v) :
    Unlimited (trimSpace (vc.getD key "")) ∧ v = 0 ∨ ∃ n,
      natOfDigits 10 (cutSuffix (trimSpace (vc.getD key ""))).1 = some n ∧ v < 2 ^ 64 ∧
        v = n * (cutSuffix (trimSpace (vc.getD key ""))).2 := by
  unfold parseQuantity at parsed
  generalize trimSpace (vc.getD key "") = raw at parsed ⊢
  simp only at parsed
  split at parsed
  · rename_i unlimited
    exact .inl ⟨unlimited, (Except.ok.inj parsed).symm⟩
  · split at parsed
    · cases parsed
    · rename_i n number
      split at parsed
      · cases parsed
      · rename_i fits
        obtain ⟨m, digits, bounded⟩ := Option.bind_eq_some_iff.mp number
        obtain rfl : m = n := by
          split at bounded
          · exact Option.some.inj bounded
          · cases bounded
        refine .inr ⟨m, digits, ?_⟩
        have below := product_lt fits
        rw [Nat.mod_eq_of_lt below] at parsed
        cases parsed
        exact ⟨below, rfl⟩

theorem spelled_of_cutSuffix (trimmed : trimSpace raw = raw)
    (number : natOfDigits 10 (cutSuffix raw).1 = some n) : Spelled raw n (cutSuffix raw).2 := by
  cases found : quantitySuffixes.find? fun s => s.1.toList.isSuffixOf raw.toList with
  | none =>
    have cut : cutSuffix raw = (raw.toList, 1) := by simp only [cutSuffix, found]
    rw [cut] at number ⊢
    refine ⟨raw.toList, "", List.mem_cons_self, by simp, ?_⟩
    rw [String.ofList_toList, trimmed]
    exact number
  | some s =>
    have ends := List.find?_some found
    obtain ⟨body, same⟩ := List.isSuffixOf_iff_suffix.mp ends
    have cut : cutSuffix raw = ((trimSpace (String.ofList body)).toList, s.2) := by
      simp only [cutSuffix, found]
      rw [← same, ← String.length_toList, List.rdrop_append_length]
    simp only [cut] at number ⊢
    exact ⟨body, s.1, List.mem_cons_of_mem _ (List.mem_of_find?_eq_some found), same.symm, number⟩

theorem written_of_parseQuantity (parsed : parseQuantity vc key = .ok v) :
    Written (vc.getD key "") v := by
  rcases parseQuantity_ok parsed with ⟨unlimited, zero⟩ | ⟨n, number, fits, product⟩
  · exact ⟨by omega, .inl ⟨unlimited, zero⟩⟩
  · have spelled := spelled_of_cutSuffix (trimSpace_trimSpace _) number
    exact ⟨fits, .inr ⟨n, _, spelled, product⟩⟩

theorem ok_of_bind {α β : Type} {x : Except Err α} {f : α → Except Err β} {b : β}
    (done : x >>= f = .ok b) : ∃ a, x = .ok a ∧ f a = .ok b := by
  cases x with
  | error e => cases done
  | ok a => exact ⟨a, rfl, done⟩

theorem directed_ok {directional undirected : String}
    (undirectedOk : parseQuantity vc undirected = .ok both)
    (parsed : directed vc directional both = .ok v) :
    parseQuantity vc (limitKey vc directional undirected) = .ok v := by
  unfold directed at parsed
  unfold limitKey
  split_ifs at parsed ⊢
  · exact parsed
  · rw [undirectedOk]
    exact parsed

theorem parseIOLimits_ok (parsed : parseIOLimits vc = .ok l) :
    ∀ k ∈ limitKeys, parseQuantity vc (limitKey vc k.1 k.2.1) = .ok (k.2.2 l) := by
  obtain ⟨both, bandwidth, parsed⟩ := ok_of_bind parsed
  obtain ⟨bothIOPS, iops, parsed⟩ := ok_of_bind parsed
  obtain ⟨readBPS, first, parsed⟩ := ok_of_bind parsed
  obtain ⟨writeBPS, second, parsed⟩ := ok_of_bind parsed
  obtain ⟨readIOPS, third, parsed⟩ := ok_of_bind parsed
  obtain ⟨writeIOPS, fourth, parsed⟩ := ok_of_bind parsed
  obtain rfl : (⟨readBPS, writeBPS, readIOPS, writeIOPS⟩ : IOLimits) = l := Except.ok.inj parsed
  simp only [limitKeys, List.forall_mem_cons, List.not_mem_nil, false_implies, implies_true, and_true]
  exact ⟨directed_ok bandwidth first, directed_ok bandwidth second, directed_ok iops third,
    directed_ok iops fourth⟩

section

variable (number : natOfDigits 10 digits = some n) (same : text.toList = digits ++ ['m'])

include number same

theorem solid_of_milli : ∀ c ∈ text.toList, isSpace c = false := by
  intro c member
  rw [same, List.mem_append, List.mem_singleton] at member
  rcases member with digit | rfl
  · exact not_isSpace_of_isDigit (isDigit_of_natOfDigits number c digit)
  · decide

theorem quantity_of_milli : kubernetesQuantity text = some ((n : Rat) / 1000) := by
  have solid : text.toList.any isSpace = false := by simpa using solid_of_milli number same
  have thousandth : multiplier ['m'] = some (1 / 1000) := by decide +kernel
  rw [kubernetesQuantity_append solid same number (by simp), thousandth, Option.map_some, mul_one_div]

theorem cutSuffix_milli : cutSuffix text = (digits, 10 ^ 6) := by
  have found : (quantitySuffixes.find? fun s => s.1.toList.isSuffixOf text.toList) =
      some ("m", 10 ^ 6) := by
    simp [quantitySuffixes, List.isSuffixOf, List.isPrefixOf, same]
  have rest : text.toList.rdrop "m".length = digits := by
    rw [same]
    exact List.rdrop_append_length
  simp only [cutSuffix, found]
  rw [rest, trimSpace_digits number, String.toList_ofList]

end

theorem limit_of_milli (parsed : parseQuantity vc key = .ok v)
    (number : natOfDigits 10 digits = some n)
    (same : (vc.getD key "").toList = digits ++ ['m']) : v = n * 10 ^ 6 := by
  have facts := parseQuantity_ok parsed
  rw [trimSpace_of_solid (solid_of_milli number same), cutSuffix_milli number same] at facts
  rcases facts with ⟨unlimited, -⟩ | ⟨m, read, -, product⟩
  · -- None of the three texts ends in `m`.
    have last := congrArg List.getLast? same
    rcases unlimited with text | text | text
    all_goals simp [text] at last
  · obtain rfl := Option.some.inj (read.symm.trans number)
    exact product

/-- For a volume context that is accepted: every limit is the number written, and the Kubernetes quantity
where there is one, exactly if no value is a whole number of thousandths. -/
theorem limits_mean_quantities_iff (vc : Dict String) (l : IOLimits)
    (parsed : parseIOLimits vc = .ok l) :
    MeansQuantities vc l ↔ ∀ k ∈ limitKeys, ¬ Milli (vc.getD (limitKey vc k.1 k.2.1) "") := by
  constructor
  · intro means k member
    rintro ⟨digits, n, number, nonzero, same⟩
    have millions := limit_of_milli (parseIOLimits_ok parsed k member) number same
    have equal := (means k member).2 _ (quantity_of_milli number same) (by positivity)
    rw [millions] at equal
    have positive : (0 : Rat) < n := by positivity
    push_cast at equal
    linarith
  · intro whole k member
    have written := written_of_parseQuantity (parseIOLimits_ok parsed k member)
    exact ⟨written, fun q quantity _ => (quantity_of_written written (whole k member) quantity).symm⟩

theorem mebibytes_mean_quantities :
    parseIOLimits (Dict.ofList [("bandwidthLimit", "100Mi")]) = .ok ⟨104857600, 104857600, 0, 0⟩ ∧
      (MeansQuantities (Dict.ofList [("bandwidthLimit", "100Mi")]) ⟨104857600, 104857600, 0, 0⟩ ↔
        ∀ k ∈ limitKeys, ¬ Milli ((Dict.ofList [("bandwidthLimit", "100Mi")]).getD
          (limitKey (Dict.ofList [("bandwidthLimit", "100Mi")]) k.1 k.2.1) "")) :=
  ⟨by decide +kernel, limits_mean_quantities_iff _ _ (by decide +kernel)⟩

/-- Thousandths of a byte become millions of bytes. -/
theorem thousandths_become_millions : ¬ ∀ (vc : Dict String) (l : IOLimits),
    parseIOLimits vc = .ok l → MeansQuantities vc l := by
  intro means
  have parsed : parseIOLimits (Dict.ofList [("bandwidthLimit", "100m")]) =
      .ok ⟨100000000, 100000000, 0, 0⟩ := by decide +kernel
  have quantity : kubernetesQuantity "100m" = some (1 / 10) := by decide +kernel
  have equal := (means _ _ parsed _ List.mem_cons_self).2 _ quantity (by norm_num)
  norm_num at equal

end TruenasCsi.Node
