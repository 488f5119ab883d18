import TruenasCsi.Support.Text

/-! IP addresses and CIDR blocks. -/

namespace Net

variable (cs : List Char)

/-- A number of at most 255, without a leading zero. -/
def octet : Option Nat :=
  if cs ≠ [] ∧ cs.length ≤ 3 ∧ cs.all Char.isDigit ∧ (cs.length = 1 ∨ cs.headD '0' ≠ '0') then
    let n := cs.foldl (fun n c => 10 * n + (c.toNat - '0'.toNat)) 0
    if n ≤ 255 then some n else none
  else none

def ipv4 : Option Nat :=
  match cs.splitOn '.' with
  | [a, b, c, d] => do
    return (((← octet a) * 256 + (← octet b)) * 256 + (← octet c)) * 256 + (← octet d)
  | _ => none

def hexValue (c : Char) : Option Nat :=
  if '0' ≤ c ∧ c ≤ '9' then some (c.toNat - '0'.toNat)
  else if 'a' ≤ c ∧ c ≤ 'f' then some (c.toNat - 'a'.toNat + 10)
  else if 'A' ≤ c ∧ c ≤ 'F' then some (c.toNat - 'A'.toNat + 10)
  else none

/-- One to four hexadecimal digits. -/
def group : Option Nat :=
  if cs = [] ∨ cs.length > 4 then none
  else cs.foldlM (fun n c => (hexValue c).map (16 * n + ·)) 0

/-- The 16-bit groups of a part of an address. -/
def groups : List (List Char) → Option (List Nat)
  | [] => some []
  | [last] =>
    if '.' ∈ last then (ipv4 last).map fun n => [n / 65536, n % 65536]
    else (group last).map fun n => [n]
  | g :: rest => do return (← group g) :: (← groups rest)

def groupsOf : Option (List Nat) :=
  if cs = [] then some [] else groups (cs.splitOn ':')

/-- The parts around the first double colon. -/
def ellipsis : List Char → Option (List Char × List Char)
  | ':' :: ':' :: rest => some ([], rest)
  | c :: rest => (ellipsis rest).map fun p => (c :: p.1, p.2)
  | [] => none

def ofGroups (gs : List Nat) : Nat := gs.foldl (fun n g => 65536 * n + g) 0

def ipv6 : Option Nat :=
  match ellipsis cs with
  | none => (groupsOf cs).bind fun gs => if gs.length = 8 then some (ofGroups gs) else none
  | some (left, right) => do
    let before ← groupsOf left
    let after ← groupsOf right
    if '.' ∈ left ∨ before.length + after.length > 7 then none
    else
      let zeros := List.replicate (8 - before.length - after.length) 0
      return ofGroups (before ++ zeros ++ after)

def v4Mapped (n : Nat) : Nat := 0xFFFF * 2 ^ 32 + n

def isV4 (ip : Nat) : Bool := ip / 2 ^ 32 == 0xFFFF

/-- Whether a dot comes before any colon. -/
def dotted : Bool := (cs.find? fun c => c == '.' || c == ':') == some '.'

/-- An address with all its bits. -/
def parseAddr : Option (Nat × Nat) :=
  if dotted cs then (ipv4 cs).map fun n => (v4Mapped n, 32)
  else if ':' ∈ cs then (ipv6 cs).map fun n => (n, 128)
  else none

def parseIP (s : String) : Option Nat := (parseAddr s.toList).map (·.1)

structure Block where
  base : Nat
  /-- How many of the 128 bits are fixed. -/
  fixed : Nat
deriving DecidableEq

def parseCIDR (s : String) : Option Block :=
  match s.toList.splitOn '/' with
  | addr :: rest => do
    let mask := ['/'].intercalate rest
    let (ip, bits) ← parseAddr addr
    if rest = [] ∨ mask = [] ∨ !mask.all Char.isDigit then none
    else
      let n := mask.foldl (fun n c => 10 * n + (c.toNat - '0'.toNat)) 0
      if n > bits then none
      else
        let fixed := 128 - bits + n
        return ⟨ip / 2 ^ (128 - fixed) * 2 ^ (128 - fixed), fixed⟩
  | [] => none

def Block.contains (b : Block) (ip : Nat) : Bool :=
  isV4 b.base == isV4 ip && ip / 2 ^ (128 - b.fixed) == b.base / 2 ^ (128 - b.fixed)

/-- The parts before and after the last colon. -/
def lastColon : List Char → Option (List Char × List Char)
  | [] => none
  | c :: cs =>
    match lastColon cs with
    | some (before, after) => some (c :: before, after)
    | none => if c = ':' then some ([], cs) else none

/-- The host and the port of a text. -/
def splitHostPort : Option (List Char × List Char) :=
  match lastColon cs with
  | none => none
  | some (before, port) =>
    match before with
    | '[' :: rest =>
      let host := rest.takeWhile (· != ']')
      if rest.drop host.length = [']'] ∧ '[' ∉ host ∧ '[' ∉ port ∧ ']' ∉ port then
        some (host, port)
      else none
    | host =>
      if ':' ∉ host ∧ '[' ∉ host ∧ ']' ∉ host ∧ '[' ∉ port ∧ ']' ∉ port then some (host, port)
      else none

/-- A host and a port as one text. -/
def joinHostPort (host : String) (port : Nat) : String :=
  if ':' ∈ host.toList then "[" ++ host ++ "]:" ++ toString port else host ++ ":" ++ toString port

end Net
