import Mathlib.Algebra.Ring.Int.Defs
import Mathlib.Data.List.DropRight
import Mathlib.Data.List.Dedup
import Mathlib.Data.List.Sort
import Mathlib.Data.String.Basic

/-! Splitting, joining, quoting and trimming of text. -/

namespace Text

variable (sep c : Char) (s : String) {parts : List String}

/-- The pieces of a text; never empty. -/
def split : List String := (s.toList.splitOn sep).map String.ofList

theorem split_ne_nil : split sep s ≠ [] := by
  simp [split, List.splitOn_ne_nil]

def join (sep : String) (parts : List String) : String := sep.intercalate parts

theorem slash_eq : "/" = String.singleton '/' := rfl

theorem toList_join (parts : List String) :
    (join (String.singleton sep) parts).toList = [sep].intercalate (parts.map String.toList) := by
  simp [join, String.toList_intercalate]

theorem split_join {sep : Char} (nonempty : parts ≠ [])
    (clean : ∀ p ∈ parts, sep ∉ p.toList) : split sep (join (String.singleton sep) parts) = parts := by
  have pieces : ∀ l ∈ parts.map String.toList, sep ∉ l := by
    intro l member
    obtain ⟨p, present, rfl⟩ := List.mem_map.mp member
    exact clean p present
  unfold split
  rw [toList_join, List.splitOn_intercalate sep pieces (by simpa using nonempty), List.map_map]
  simp [Function.comp_def]

theorem join_split : join (String.singleton sep) (split sep s) = s := by
  apply String.toList_inj.mp
  rw [toList_join, split, List.map_map]
  simp [Function.comp_def, List.intercalate_splitOn]

def startsWith (start : String) : Bool := start.toList.isPrefixOf s.toList

theorem startsWith_iff {s start : String} :
    startsWith s start = true ↔ ∃ rest, s = start ++ rest := by
  unfold startsWith
  rw [List.isPrefixOf_iff_prefix]
  constructor
  · rintro ⟨rest, same⟩
    refine ⟨String.ofList rest, String.toList_inj.mp ?_⟩
    rw [String.toList_append, String.toList_ofList, same]
  · rintro ⟨rest, rfl⟩
    exact ⟨rest.toList, String.toList_append.symm⟩

/-- The text around the first separator. -/
def cutFirst : Option (String × String) :=
  if sep ∈ s.toList then
    some (String.ofList (s.toList.takeWhile (· != sep)),
      String.ofList (s.toList.dropWhile (· != sep)).tail)
  else none

/-- The text around the last separator. -/
def cutLast : Option (String × String) :=
  if sep ∈ s.toList then
    some (String.ofList (s.toList.rdropWhile (· != sep)).dropLast,
      String.ofList (s.toList.rtakeWhile (· != sep)))
  else none

theorem cutFirst_append {sep : Char} {before : String} (after : String)
    (clean : sep ∉ before.toList) :
    cutFirst sep (before ++ String.singleton sep ++ after) = some (before, after) := by
  have others : ∀ c ∈ before.toList, (c != sep) = true := by
    intro c member
    simp only [bne_iff_ne]
    rintro rfl
    exact clean member
  simp [cutFirst, List.takeWhile_append_of_pos others, List.dropWhile_append_of_pos others]

theorem cutLast_append {sep : Char} {after : String} (before : String)
    (clean : sep ∉ after.toList) :
    cutLast sep (before ++ String.singleton sep ++ after) = some (before, after) := by
  have others : ∀ c ∈ after.toList.reverse, (c != sep) = true := by
    intro c member
    simp only [bne_iff_ne]
    rintro rfl
    exact clean (List.mem_reverse.mp member)
  simp [cutLast, List.rdropWhile, List.rtakeWhile,
    List.takeWhile_append_of_pos others, List.dropWhile_append_of_pos others]

/-- The white space of the Unicode standard. -/
def isSpace : Bool :=
  let n := c.toNat
  (9 ≤ n && n ≤ 13) || n == 0x20 || n == 0x85 || n == 0xA0 || n == 0x1680 ||
    (0x2000 ≤ n && n ≤ 0x200A) || n == 0x2028 || n == 0x2029 || n == 0x202F || n == 0x205F ||
    n == 0x3000

def trimSpace : String :=
  String.ofList ((s.toList.dropWhile isSpace).rdropWhile isSpace)

theorem dropWhile_rdropWhile {α : Type} (p : α → Bool) (l : List α) :
    ((l.dropWhile p).rdropWhile p).dropWhile p = (l.dropWhile p).rdropWhile p := by
  cases start : l.dropWhile p with
  | nil => simp
  | cons a rest =>
    -- The first character that is left is not dropped from the right either.
    have kept : p a = false := by
      have nonempty : l.dropWhile p ≠ [] := by simp [start]
      simpa [start] using List.head_dropWhile_not p nonempty
    cases last : (a :: rest).rdropWhile p with
    | nil =>
      have all := (List.rdropWhile_eq_nil_iff.mp last) a (by simp)
      rw [kept] at all
      cases all
    | cons b tail =>
      obtain ⟨more, same⟩ := List.rdropWhile_prefix p (a :: rest)
      rw [last] at same
      have first : b = a := by simpa using congrArg List.head? same
      simp [first, kept]

@[simp] theorem trimSpace_trimSpace : trimSpace (trimSpace s) = trimSpace s := by
  unfold trimSpace
  rw [String.toList_ofList, dropWhile_rdropWhile, List.rdropWhile_idempotent]

/-- The distinct texts of a list in increasing order. -/
def sortedSet (ss : List String) : List String := ss.dedup.insertionSort (· ≤ ·)

@[simp] theorem mem_sortedSet {s : String} {ss : List String} : s ∈ sortedSet ss ↔ s ∈ ss := by
  simp [sortedSet]

private def hexDigit (n : Nat) : Char := "0123456789abcdef".toList.getD n '0'

def quoteChar : List Char :=
  if c = '"' then ['\\', '"']
  else if c = '\\' then ['\\', '\\']
  else if c = '\x07' then ['\\', 'a']
  else if c = '\x08' then ['\\', 'b']
  else if c = '\x0c' then ['\\', 'f']
  else if c = '\n' then ['\\', 'n']
  else if c = '\r' then ['\\', 'r']
  else if c = '\t' then ['\\', 't']
  else if c = '\x0b' then ['\\', 'v']
  else if c.toNat < 32 ∨ c.toNat = 127 then
    ['\\', 'x', hexDigit (c.toNat / 16), hexDigit (c.toNat % 16)]
  else [c]

/-- A text in quotes, escaped. -/
def quote : String := String.ofList ('"' :: (s.toList.flatMap quoteChar ++ ['"']))

def digitValue : Option Nat :=
  if '0' ≤ c ∧ c ≤ '9' then some (c.toNat - '0'.toNat) else none

/-- A number in a base of at most ten. -/
def natOfDigits (base : Nat) (cs : List Char) : Option Nat :=
  if cs = [] then none
  else cs.foldlM (fun n c => (digitValue c).bind fun d => if d < base then some (base * n + d) else none) 0

/-- A signed decimal that fits 64 bits. -/
def atoi : Option Int :=
  let value := match s.toList with
    | '+' :: cs => (natOfDigits 10 cs).map Int.ofNat
    | '-' :: cs => (natOfDigits 10 cs).map fun n => -(n : Int)
    | cs => (natOfDigits 10 cs).map Int.ofNat
  value.bind fun n => if -(2 ^ 63 : Int) ≤ n ∧ n < 2 ^ 63 then some n else none

/-- An unsigned octal number that fits 32 bits. -/
def octal32 : Option Nat :=
  (natOfDigits 8 s.toList).bind fun n => if n < 2 ^ 32 then some n else none

/-- The spellings of a truth value. -/
def parseBool : Option Bool :=
  if s ∈ ["1", "t", "T", "TRUE", "true", "True"] then some true
  else if s ∈ ["0", "f", "F", "FALSE", "false", "False"] then some false
  else none

/-- The entries of a comma-separated list, trimmed. -/
def commaList : List String :=
  ((split ',' s).map trimSpace).filter (· ≠ "")

/-- What remains once `.` and `..` are resolved. -/
def cleanComponents (rooted : Bool) : List String → List String → List String
  | acc, [] => acc.reverse
  | acc, "" :: rest => cleanComponents rooted acc rest
  | acc, "." :: rest => cleanComponents rooted acc rest
  | acc, ".." :: rest =>
    match acc with
    | [] => cleanComponents rooted (if rooted then [] else [".."]) rest
    | top :: below =>
      if top = ".." then cleanComponents rooted (".." :: acc) rest
      else cleanComponents rooted below rest
  | acc, part :: rest => cleanComponents rooted (part :: acc) rest

def cleanPath : String :=
  match startsWith s "/", cleanComponents (startsWith s "/") [] (split '/' s) with
  | true, parts => "/" ++ join "/" parts
  | false, [] => "."
  | false, parts => join "/" parts

theorem cleanComponents_plain (rooted : Bool) (acc parts : List String)
    (plain : ∀ p ∈ parts, p ≠ "" ∧ p ≠ "." ∧ p ≠ "..") :
    cleanComponents rooted acc parts = acc.reverse ++ parts := by
  induction parts generalizing acc with
  | nil => simp [cleanComponents]
  | cons part rest ih =>
    obtain ⟨⟨notEmpty, notDot, notDots⟩, others⟩ := List.forall_mem_cons.mp plain
    rw [cleanComponents]
    · rw [ih _ others]; simp
    · exact notEmpty
    · exact notDot
    · exact notDots

theorem cleanPath_join (nonempty : parts ≠ [])
    (plain : ∀ p ∈ parts, p ≠ "" ∧ p ≠ "." ∧ p ≠ "..") (slashless : ∀ p ∈ parts, '/' ∉ p.toList) :
    cleanPath (join "/" parts) = join "/" parts := by
  obtain ⟨first, rest, rfl⟩ := List.exists_cons_of_ne_nil nonempty
  have relative : startsWith (join "/" (first :: rest)) "/" = false := by
    obtain ⟨⟨notEmpty, -⟩, -⟩ := List.forall_mem_cons.mp plain
    obtain ⟨noSlash, -⟩ := List.forall_mem_cons.mp slashless
    obtain ⟨c, tail, text⟩ := List.exists_cons_of_ne_nil
      (fun empty => notEmpty (String.toList_inj.mp empty) : first.toList ≠ [])
    have other : c ≠ '/' := by
      rintro rfl
      exact noSlash (by simp [text])
    have head : (join "/" (first :: rest)).toList.head? = some c := by
      rw [slash_eq, toList_join]
      cases rest <;> simp [List.intercalate, text]
    cases chars : (join "/" (first :: rest)).toList with
    | nil => simp [startsWith, chars]
    | cons d ds =>
      rw [chars, List.head?_cons, Option.some.injEq] at head
      subst head
      simp [startsWith, chars, List.isPrefixOf, other.symm]
  have pieces : split '/' (join "/" (first :: rest)) = first :: rest :=
    split_join (by simp) slashless
  unfold cleanPath
  rw [relative, pieces, cleanComponents_plain false [] _ plain]
  rfl

/-- The directory of a slash path. -/
def dirPath : String :=
  match cutLast '/' s with
  | none => "."
  | some (before, _) => if before = "" then "/" else cleanPath before

theorem length_le_utf8ByteSize : s.length ≤ s.utf8ByteSize := by
  have chars : ∀ cs : List Char, cs.length ≤ (String.ofList cs).utf8ByteSize := by
    intro cs
    induction cs with
    | nil => simp
    | cons c cs ih =>
      have one : 0 < (String.ofList [c]).utf8ByteSize := by
        simpa using Char.utf8Size_pos c
      rw [← List.singleton_append, String.ofList_append, String.utf8ByteSize_append,
        List.length_append, List.length_singleton]
      omega
  have whole := chars s.toList
  rwa [String.ofList_toList, String.length_toList] at whole

end Text
