import TruenasCsi.Support.Text

/-! Names made from free text. -/

namespace Label

variable (c : Char) (digest : String → String)

/-- Lower case, character by character. -/
def lowerChar : Char :=
  if c.toNat = 0x130 then 'i' else if c.toNat = 0x212A then 'k' else c.toLower

/-- Upper case, character by character. -/
def upperChar : Char :=
  if c.toNat = 0x131 then 'I' else if c.toNat = 0x17F then 'S' else c.toUpper

def sanitize (keep : Char → Bool) (s : String) : String :=
  String.ofList (s.toList.map fun c => if keep c then c else '-')

def trim (s : String) : String :=
  String.ofList ((s.toList.dropWhile (· == c)).rdropWhile (· == c))

def take (n : Nat) (s : String) : String := String.ofList (s.toList.take n)

variable (limit : Nat) (safe full : String)

/-- A dash and twelve digits of the digest. -/
def digestSuffix : String := "-" ++ take 12 (digest full)

def cut : String :=
  take (limit - (digestSuffix digest full).length) safe ++ digestSuffix digest full

/-- A label of at most `limit` characters. -/
def bounded : String :=
  if safe.length ≤ limit then safe else cut digest limit safe full

end Label
