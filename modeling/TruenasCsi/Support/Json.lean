import Mathlib.Data.List.Basic
import Mathlib.Data.List.Sort

/-! JSON values, their compact text, and the decoder. -/

inductive Json : Type where
  | null : Json
  | bool (b : Bool) : Json
  /-- A number, kept as the token that was written. -/
  | num (token : List Char) : Json
  | str (s : List Char) : Json
  | arr (items : List Json) : Json
  | obj (fields : List (List Char × Json)) : Json

namespace Json

def hexDigit (n : Nat) : Char := "0123456789abcdef".toList.getD n '0'

def unicodeEscape (n : Nat) : List Char :=
  ['\\', 'u', hexDigit (n / 4096 % 16), hexDigit (n / 256 % 16), hexDigit (n / 16 % 16),
    hexDigit (n % 16)]

def needsUnicodeEscape (c : Char) : Bool :=
  c.toNat < 32 || c == '<' || c == '>' || c == '&' || c.toNat == 0x2028 || c.toNat == 0x2029

def shortEscape : Char → Option Char
  | '"' => some '"'
  | '\\' => some '\\'
  | '/' => some '/'
  | 'b' => some '\x08'
  | 'f' => some '\x0c'
  | 'n' => some '\n'
  | 'r' => some '\r'
  | 't' => some '\t'
  | _ => none

def escapeChar (c : Char) : List Char :=
  if c = '"' then ['\\', '"']
  else if c = '\\' then ['\\', '\\']
  else if c = '\x08' then ['\\', 'b']
  else if c = '\x0c' then ['\\', 'f']
  else if c = '\n' then ['\\', 'n']
  else if c = '\r' then ['\\', 'r']
  else if c = '\t' then ['\\', 't']
  else if needsUnicodeEscape c then unicodeEscape c.toNat
  else [c]

def printString (s : List Char) : List Char := '"' :: (s.flatMap escapeChar ++ ['"'])

mutual
def print : Json → List Char
  | .null => ['n', 'u', 'l', 'l']
  | .bool true => ['t', 'r', 'u', 'e']
  | .bool false => ['f', 'a', 'l', 's', 'e']
  | .num token => token
  | .str s => printString s
  | .arr [] => ['[', ']']
  | .arr (x :: xs) => '[' :: (print x ++ printItems xs)
  | .obj [] => ['\x7b', '\x7d']
  | .obj ((key, x) :: fields) => '\x7b' :: (printString key ++ ':' :: (print x ++ printFields fields))

def printItems : List Json → List Char
  | [] => [']']
  | x :: xs => ',' :: (print x ++ printItems xs)

def printFields : List (List Char × Json) → List Char
  | [] => ['\x7d']
  | (key, x) :: fields => ',' :: (printString key ++ ':' :: (print x ++ printFields fields))
end

variable (cs : List Char) (c : Char)

def isSpace : Bool := c == ' ' || c == '\t' || c == '\n' || c == '\r'

def skip : List Char := cs.dropWhile isSpace

def hexValue : Option Nat :=
  if '0' ≤ c ∧ c ≤ '9' then some (c.toNat - '0'.toNat)
  else if 'a' ≤ c ∧ c ≤ 'f' then some (c.toNat - 'a'.toNat + 10)
  else if 'A' ≤ c ∧ c ≤ 'F' then some (c.toNat - 'A'.toNat + 10)
  else none

def hex4 (a b c d : Char) : Option Nat := do
  return 4096 * (← hexValue a) + 256 * (← hexValue b) + 16 * (← hexValue c) + (← hexValue d)

def isHighSurrogate (n : Nat) : Bool := 0xD800 ≤ n && n < 0xDC00

def isLowSurrogate (n : Nat) : Bool := 0xDC00 ≤ n && n < 0xE000

def replacement : Char := Char.ofNat 0xFFFD

/-- One code unit: an escape or a plain character. -/
def unit : List Char → Option (Nat × List Char)
  | '\\' :: 'u' :: a :: b :: c :: d :: rest => (hex4 a b c d).map fun n => (n, rest)
  | '\\' :: e :: rest => (shortEscape e).map fun c => (c.toNat, rest)
  | c :: rest => if c = '\\' ∨ c.toNat < 32 then none else some (c.toNat, rest)
  | [] => none

/-- The code units up to the closing quote. -/
def units : Nat → List Char → Option (List Nat × List Char)
  | 0, _ => none
  | _ + 1, '"' :: rest => some ([], rest)
  | n + 1, cs => do
    let (u, rest) ← unit cs
    let (us, rest) ← units n rest
    return (u :: us, rest)

/-- Join surrogate pairs; replace lone halves. -/
def joinUnits : Option Nat → List Nat → List Char
  | none, [] => []
  | some _, [] => [replacement]
  | none, n :: ns =>
    if isHighSurrogate n then joinUnits (some n) ns
    else (if isLowSurrogate n then replacement else Char.ofNat n) :: joinUnits none ns
  | some high, n :: ns =>
    if isLowSurrogate n then
      Char.ofNat (0x10000 + (high - 0xD800) * 0x400 + (n - 0xDC00)) :: joinUnits none ns
    else if isHighSurrogate n then replacement :: joinUnits (some n) ns
    else replacement :: Char.ofNat n :: joinUnits none ns

def stringBody : Option (List Char × List Char) :=
  (units (cs.length + 1) cs).map fun p => (joinUnits none p.1, p.2)

def isNumberChar : Bool :=
  c.isDigit || c == '-' || c == '+' || c == '.' || c == 'e' || c == 'E'

/-- Digits, at least one. -/
def digits : Bool := cs != [] && cs.all Char.isDigit

def validExponent : List Char → Bool
  | '+' :: cs => digits cs
  | '-' :: cs => digits cs
  | cs => digits cs

/-- What may follow the integer part of a number. -/
def validTail : List Char → Bool
  | [] => true
  | '.' :: cs =>
    let fraction := cs.takeWhile Char.isDigit
    fraction != [] && match cs.dropWhile Char.isDigit with
      | [] => true
      | c :: rest => (c == 'e' || c == 'E') && validExponent rest
  | c :: rest => (c == 'e' || c == 'E') && validExponent rest

def validUnsigned : List Char → Bool
  | '0' :: cs => validTail cs
  | c :: cs => c.isDigit && validTail (cs.dropWhile Char.isDigit)
  | [] => false

def validNumber : List Char → Bool
  | '-' :: cs => validUnsigned cs
  | cs => validUnsigned cs

def number : Option (Json × List Char) :=
  let token := cs.takeWhile isNumberChar
  if validNumber token then some (.num token, cs.dropWhile isNumberChar) else none

mutual
def value : Nat → List Char → Option (Json × List Char)
  | 0, _ => none
  | n + 1, cs =>
    match skip cs with
    | '"' :: rest => (stringBody rest).map fun p => (.str p.1, p.2)
    | '[' :: rest =>
      match skip rest with
      | ']' :: rest' => some (.arr [], rest')
      | rest' => (items n rest').map fun p => (.arr p.1, p.2)
    | '\x7b' :: rest =>
      match skip rest with
      | '\x7d' :: rest' => some (.obj [], rest')
      | rest' => (members n rest').map fun p => (.obj p.1, p.2)
    | 'n' :: 'u' :: 'l' :: 'l' :: rest => some (.null, rest)
    | 't' :: 'r' :: 'u' :: 'e' :: rest => some (.bool true, rest)
    | 'f' :: 'a' :: 'l' :: 's' :: 'e' :: rest => some (.bool false, rest)
    | rest => number rest

def items : Nat → List Char → Option (List Json × List Char)
  | 0, _ => none
  | n + 1, cs =>
    match value n cs with
    | none => none
    | some (x, rest) =>
      match skip rest with
      | ',' :: rest' => (items n rest').map fun p => (x :: p.1, p.2)
      | ']' :: rest' => some ([x], rest')
      | _ => none

def members : Nat → List Char → Option (List (List Char × Json) × List Char)
  | 0, _ => none
  | n + 1, cs =>
    match skip cs with
    | '"' :: rest =>
      match stringBody rest with
      | none => none
      | some (key, rest) =>
        match skip rest with
        | ':' :: rest =>
          match value n rest with
          | none => none
          | some (x, rest) =>
            match skip rest with
            | ',' :: rest' => (members n rest').map fun p => ((key, x) :: p.1, p.2)
            | '\x7d' :: rest' => some ([(key, x)], rest')
            | _ => none
        | _ => none
    | _ => none
end

/-- Decode a whole text: one value. -/
def parse (cs : List Char) : Option Json :=
  match value (cs.length + 1) cs with
  | some (x, rest) => if skip rest = [] then some x else none
  | none => none

theorem hexValue_hexDigit : ∀ n, n < 16 → hexValue (hexDigit n) = some n := by decide

theorem hex4_unicodeEscape {n : Nat} (below : n < 65536) :
    hex4 (hexDigit (n / 4096 % 16)) (hexDigit (n / 256 % 16)) (hexDigit (n / 16 % 16))
      (hexDigit (n % 16)) = some n := by
  have digit (k : Nat) : hexValue (hexDigit (k % 16)) = some (k % 16) :=
    hexValue_hexDigit _ (Nat.mod_lt k (by decide))
  simp only [hex4, digit, Option.pure_def, Option.bind_eq_bind, Option.bind_some, Option.some.injEq]
  omega

theorem toNat_lt_of_needsUnicodeEscape {c : Char} (needs : needsUnicodeEscape c = true) :
    c.toNat < 65536 := by
  simp only [needsUnicodeEscape, Bool.or_eq_true, decide_eq_true_eq, beq_iff_eq] at needs
  rcases needs with ((((low | rfl) | rfl) | rfl) | line) | paragraph
  · omega
  · decide
  · decide
  · decide
  · omega
  · omega

theorem unit_escapeChar (c : Char) (rest : List Char) :
    unit (escapeChar c ++ rest) = some (c.toNat, rest) := by
  unfold escapeChar
  split_ifs with quote backslash bs ff nl cr tab needs
  · subst quote; rfl
  · subst backslash; rfl
  · subst bs; rfl
  · subst ff; rfl
  · subst nl; rfl
  · subst cr; rfl
  · subst tab; rfl
  · simp only [unicodeEscape, List.cons_append, List.nil_append, unit,
      hex4_unicodeEscape (toNat_lt_of_needsUnicodeEscape needs), Option.map_some]
  · have plain : ¬(c = '\\' ∨ c.toNat < 32) := by
      rintro (same | low)
      · exact backslash same
      · exact needs (by simp [needsUnicodeEscape, low])
    simp only [List.cons_append, List.nil_append]
    unfold unit
    split
    · next same => exact absurd (List.cons.inj same).1 backslash
    · next same => exact absurd (List.cons.inj same).1 backslash
    · next d tail same =>
        obtain ⟨rfl, rfl⟩ := List.cons.inj same
        rw [if_neg plain]
    · next same => exact absurd same (List.cons_ne_nil _ _)

theorem escapeChar_ne_quote (c : Char) (rest tail : List Char) :
    escapeChar c ++ rest ≠ '"' :: tail := by
  unfold escapeChar
  split_ifs with quote <;> simp_all [unicodeEscape]

variable (s rest : List Char)

theorem units_flatMap_escapeChar (n : Nat) (enough : s.length < n) :
    units n (s.flatMap escapeChar ++ '"' :: rest) = some (s.map Char.toNat, rest) := by
  induction s generalizing n with
  | nil =>
    obtain ⟨m, rfl⟩ := Nat.exists_eq_succ_of_ne_zero (Nat.ne_zero_of_lt enough)
    rfl
  | cons c s ih =>
    obtain ⟨m, rfl⟩ := Nat.exists_eq_succ_of_ne_zero (Nat.ne_zero_of_lt enough)
    have fits : s.length < m := Nat.lt_of_succ_lt_succ enough
    simp only [List.flatMap_cons, List.append_assoc, List.map_cons]
    rw [units]
    · simp [unit_escapeChar, ih m fits]
    · intro tail same
      exact escapeChar_ne_quote _ _ _ same

theorem joinUnits_map_toNat : joinUnits none (s.map Char.toNat) = s := by
  induction s with
  | nil => rfl
  | cons c s ih =>
    have valid : c.toNat < 0xD800 ∨ 0xDFFF < c.toNat := by
      rcases c.valid with low | high
      · exact .inl low
      · exact .inr high.1
    have notHigh : isHighSurrogate c.toNat = false := by simp [isHighSurrogate]; omega
    have notLow : isLowSurrogate c.toNat = false := by simp [isLowSurrogate]; omega
    simp [joinUnits, notHigh, notLow, ih]

theorem length_le_flatMap_escapeChar : s.length ≤ (s.flatMap escapeChar).length := by
  induction s with
  | nil => exact Nat.le_refl _
  | cons c s ih =>
    have nonempty : 1 ≤ (escapeChar c).length := by
      unfold escapeChar
      split_ifs <;> simp [unicodeEscape]
    simp only [List.length_cons, List.flatMap_cons, List.length_append]
    omega

theorem stringBody_printString :
    stringBody (s.flatMap escapeChar ++ '"' :: rest) = some (s, rest) := by
  have enough := length_le_flatMap_escapeChar s
  unfold stringBody
  rw [units_flatMap_escapeChar s rest _ (by simp only [List.length_append]; omega)]
  simp [joinUnits_map_toNat]

mutual
/-- Every number is one the grammar derives. -/
def wellFormed : Json → Bool
  | .num token => token.all isNumberChar && validNumber token
  | .arr items => itemsWellFormed items
  | .obj fields => fieldsWellFormed fields
  | _ => true

def itemsWellFormed : List Json → Bool
  | [] => true
  | x :: xs => x.wellFormed && itemsWellFormed xs

def fieldsWellFormed : List (List Char × Json) → Bool
  | [] => true
  | (_, x) :: fields => x.wellFormed && fieldsWellFormed fields
end

/-- What may follow a printed value. -/
def Ends (rest : List Char) : Prop := ∀ c ∈ rest.head?, isNumberChar c = false

theorem ends_nil : Ends [] := by simp [Ends]

theorem ends_cons {c : Char} (other : isNumberChar c = false) (rest : List Char) :
    Ends (c :: rest) := by
  simp [Ends, other]

theorem ends_printItems (xs : List Json) (rest : List Char) : Ends (printItems xs ++ rest) := by
  cases xs with
  | nil => exact ends_cons (by decide) _
  | cons x xs => exact ends_cons (by decide) _

theorem ends_printFields (fields : List (List Char × Json)) (rest : List Char) :
    Ends (printFields fields ++ rest) := by
  cases fields with
  | nil => exact ends_cons (by decide) _
  | cons field fields => exact ends_cons (by decide) _

theorem skip_cons {c : Char} (solid : isSpace c = false) (rest : List Char) :
    skip (c :: rest) = c :: rest := by
  simp [skip, solid]

theorem not_isSpace_of_isNumberChar {c : Char} (number : isNumberChar c = true) :
    isSpace c = false := by
  by_contra space
  simp only [isSpace, Bool.not_eq_false, Bool.or_eq_true, beq_iff_eq] at space
  rcases space with ((rfl | rfl) | rfl) | rfl <;> exact absurd number (by decide)

theorem number_append {token rest : List Char} (chars : token.all isNumberChar = true)
    (valid : validNumber token = true) (ends : Ends rest) :
    number (token ++ rest) = some (.num token, rest) := by
  have stops : rest.takeWhile isNumberChar = [] ∧ rest.dropWhile isNumberChar = rest := by
    cases rest with
    | nil => exact ⟨rfl, rfl⟩
    | cons c rest =>
      have other := ends c rfl
      simp [other]
  have all : ∀ c ∈ token, isNumberChar c = true := List.all_eq_true.mp chars
  unfold number
  rw [List.takeWhile_append_of_pos all, List.dropWhile_append_of_pos all, stops.1, stops.2,
    List.append_nil]
  simp [valid]

theorem print_head (x : Json) (good : x.wellFormed = true) :
    ∃ c tail, print x = c :: tail ∧ isSpace c = false ∧ c ≠ ']' := by
  cases x with
  | null => exact ⟨_, _, rfl, by decide, by decide⟩
  | bool b => cases b <;> exact ⟨_, _, rfl, by decide, by decide⟩
  | num token =>
    simp only [wellFormed, Bool.and_eq_true] at good
    cases token with
    | nil => exact absurd good.2 (by decide)
    | cons c tail =>
      have number : isNumberChar c = true := List.all_eq_true.mp good.1 c List.mem_cons_self
      refine ⟨c, tail, rfl, not_isSpace_of_isNumberChar number, ?_⟩
      rintro rfl
      exact absurd number (by decide)
  | str s => exact ⟨_, _, rfl, by decide, by decide⟩
  | arr items => cases items <;> exact ⟨_, _, by rw [print], by decide, by decide⟩
  | obj fields =>
    cases fields with
    | nil => exact ⟨_, _, by rw [print], by decide, by decide⟩
    | cons field fields => exact ⟨_, _, by rw [print], by decide, by decide⟩

theorem value_number {token rest : List Char} (n : Nat) (chars : token.all isNumberChar = true)
    (valid : validNumber token = true) (ends : Ends rest) :
    value (n + 1) (token ++ rest) = some (.num token, rest) := by
  cases token with
  | nil => exact absurd valid (by decide)
  | cons c token =>
    have number : isNumberChar c = true := List.all_eq_true.mp chars c List.mem_cons_self
    have other (d : Char) (excluded : isNumberChar d = false) : c ≠ d := by
      rintro rfl
      exact absurd number (by simp [excluded])
    rw [value, List.cons_append, skip_cons (not_isSpace_of_isNumberChar number)]
    split
    case h_7 => exact number_append chars valid ends
    all_goals next same => exact absurd (List.cons.inj same).1 (other _ (by decide))

mutual
theorem value_print (x : Json) (n : Nat) (rest : List Char) (good : x.wellFormed = true)
    (enough : (print x).length ≤ n) (ends : Ends rest) :
    value n (print x ++ rest) = some (x, rest) := by
  cases n with
  | zero =>
    obtain ⟨c, tail, text, -⟩ := print_head x good
    simp [text] at enough
  | succ n =>
    match x with
    | .null => rfl
    | .bool true => rfl
    | .bool false => rfl
    | .num token =>
      simp only [wellFormed, Bool.and_eq_true] at good
      exact value_number n good.1 good.2 ends
    | .str s =>
      simp [print, printString, value, skip_cons, isSpace, stringBody_printString]
    | .arr [] => rfl
    | .arr (x :: xs) =>
      simp only [wellFormed, itemsWellFormed, Bool.and_eq_true] at good
      simp only [print, List.length_cons, List.length_append] at enough
      obtain ⟨c, tail, text, solid, unquoted⟩ := print_head x good.1
      have body := items_print x xs n rest good.1 good.2 (by omega)
      rw [text, List.cons_append, List.cons_append] at body
      rw [print, value, List.cons_append, skip_cons (by decide), text]
      simp only [List.cons_append, skip_cons solid]
      split
      · next same => exact absurd (List.cons.inj same).1 unquoted
      · rw [body]; rfl
    | .obj [] => rfl
    | .obj ((key, x) :: fields) =>
      simp only [wellFormed, fieldsWellFormed, Bool.and_eq_true] at good
      simp only [print, List.length_cons, List.length_append] at enough
      have body := members_print key x fields n rest good.1 good.2 (by omega)
      rw [print, value, List.cons_append, skip_cons (by decide)]
      simp only [printString, List.cons_append] at body ⊢
      rw [skip_cons (by decide)]
      exact congrArg (Option.map fun p => (Json.obj p.1, p.2)) body
termination_by n

theorem items_print (x : Json) (xs : List Json) (n : Nat) (rest : List Char)
    (good : x.wellFormed = true) (goodRest : itemsWellFormed xs = true)
    (enough : (print x).length + (printItems xs).length ≤ n) :
    items n (print x ++ printItems xs ++ rest) = some (x :: xs, rest) := by
  cases n with
  | zero => cases xs <;> simp [printItems] at enough
  | succ n =>
    have closing : 1 ≤ (printItems xs).length := by cases xs <;> simp [printItems]
    have first := value_print x n (printItems xs ++ rest) good (by omega) (ends_printItems xs rest)
    rw [items, List.append_assoc, first]
    match xs with
    | [] => rfl
    | y :: ys =>
      simp only [itemsWellFormed, Bool.and_eq_true] at goodRest
      simp only [printItems, List.length_cons, List.length_append] at enough
      have tail := items_print y ys n rest goodRest.1 goodRest.2 (by omega)
      simp only [printItems, List.cons_append]
      rw [skip_cons (by decide)]
      exact congrArg (Option.map fun p => (x :: p.1, p.2)) tail
termination_by n

theorem members_print (key : List Char) (x : Json) (fields : List (List Char × Json)) (n : Nat)
    (rest : List Char) (good : x.wellFormed = true) (goodRest : fieldsWellFormed fields = true)
    (enough : (print x).length + (printFields fields).length ≤ n) :
    members n (printString key ++ ':' :: (print x ++ printFields fields) ++ rest) =
      some ((key, x) :: fields, rest) := by
  cases n with
  | zero => cases fields <;> simp [printFields] at enough
  | succ n =>
    have closing : 1 ≤ (printFields fields).length := by cases fields <;> simp [printFields]
    have first := value_print x n (printFields fields ++ rest) good (by omega)
      (ends_printFields fields rest)
    simp only [members, printString, List.cons_append, List.append_assoc, List.nil_append,
      skip_cons (show isSpace '"' = false by decide), stringBody_printString,
      skip_cons (show isSpace ':' = false by decide), first]
    match fields with
    | [] => rfl
    | (key', y) :: fields =>
      simp only [fieldsWellFormed, Bool.and_eq_true] at goodRest
      simp only [printFields, List.length_cons, List.length_append] at enough
      have tail := members_print key' y fields n rest goodRest.1 goodRest.2 (by omega)
      simp only [printFields, List.cons_append]
      rw [skip_cons (by decide)]
      exact congrArg (Option.map fun p => ((key, x) :: p.1, p.2)) tail
termination_by n
end

/-- Decoding undoes encoding. -/
theorem parse_print (x : Json) (good : x.wellFormed = true) : parse (print x) = some x := by
  have decoded := value_print x ((print x).length + 1) [] good (by omega) ends_nil
  rw [List.append_nil] at decoded
  simp [parse, decoded, skip]

end Json
