import Mathlib.Data.Bool.AllAny
import TruenasCsi.Support.Json
import TruenasCsi.Support.Dict
import TruenasCsi.Status

/-! Checksum manifests and the summary of comparing two. -/

namespace TruenasCsi.Migration

open Text

def maxNamed : Nat := 10

abbrev Manifest := Dict String

def verificationFailed (detail : String) : Err :=
  .sentinel .verification ("migration verification failed: " ++ detail)

def countsDiffer (source target : Nat) : String :=
  "source has " ++ toString source ++ " files, target has " ++ toString target

private def withoutStart (s start : String) : String :=
  if startsWith s start then String.ofList (s.toList.drop start.length) else s

/-- A digest, a blank and a path, without `*` and `./` in front. -/
def parseLine (number : Nat) (line : String) : Except Err (Option (String × String)) :=
  let text := String.ofList (line.toList.rdropWhile (· == '\r'))
  if trimSpace text = "" then .ok none
  else
    match cutFirst ' ' text with
    | none => .error (.plain ("manifest line " ++ toString number ++ ": " ++ quote text ++
        " is not <sha256> <path>"))
    | some (sum, rest) =>
      let path := withoutStart (withoutStart (withoutStart rest " ") "*") "./"
      if sum = "" ∨ path = "" then
        .error (.plain ("manifest line " ++ toString number ++ ": empty checksum or path"))
      else .ok (some (path, sum))

/-- The scanner's buffer; a line and what ends it have to fit in. -/
def maxTokenSize : Nat := 4 * 1024 * 1024

def parseLines : Nat → Manifest → List String → Except Err Manifest
  | _, m, [] => .ok m
  | number, m, line :: rest =>
    if maxTokenSize ≤ line.utf8ByteSize then
      .error (.plain "reading manifest: bufio.Scanner: token too long")
    else
      match parseLine number line with
      | .error e => .error e
      | .ok none => parseLines (number + 1) m rest
      | .ok (some (path, sum)) => parseLines (number + 1) (m.set path sum) rest

/-- A manifest from a reader that hands out all of the text. -/
def parseManifest (text : String) : Except Err Manifest := parseLines 1 ∅ (split '\n' text)

private theorem withoutStart_append (start rest : String) : withoutStart (start ++ rest) start = rest := by
  rw [withoutStart, if_pos (startsWith_iff.mpr ⟨rest, rfl⟩)]
  apply String.toList_inj.mp
  rw [String.toList_ofList, String.toList_append, ← String.length_toList, List.drop_left]

theorem parseLine_entry {sum path : String} (solid : ∀ c ∈ sum.toList, isSpace c = false)
    (digest : sum ≠ "") (named : path ≠ "") (ends : path.toList.getLast? ≠ some '\r') (number : Nat) :
    parseLine number (sum ++ "  " ++ ("./" ++ path)) = .ok (some (path, sum)) := by
  have chars : (sum ++ "  " ++ ("./" ++ path)).toList =
      sum.toList ++ ' ' :: ' ' :: '.' :: '/' :: path.toList := by
    simp
  obtain ⟨c, rest, first⟩ := List.exists_cons_of_ne_nil (mt String.toList_eq_nil_iff.mp digest)
  have plain : isSpace c = false := solid c (by simp [first])
  have kept : (sum ++ "  " ++ ("./" ++ path)).toList.rdropWhile (· == '\r') =
      (sum ++ "  " ++ ("./" ++ path)).toList := by
    rw [List.rdropWhile_eq_self_iff]
    intro nonempty last
    have text : (sum ++ "  " ++ ("./" ++ path)).toList.getLast? = path.toList.getLast? := by
      obtain ⟨d, others, same⟩ := List.exists_cons_of_ne_nil (mt String.toList_eq_nil_iff.mp named)
      rw [chars, same]
      simp [List.getLast?_append, List.getLast?_cons]
    rw [List.getLast?_eq_some_getLast nonempty, eq_of_beq last] at text
    exact ends text.symm
  have blank : trimSpace (sum ++ "  " ++ ("./" ++ path)) ≠ "" := by
    intro empty
    have none := congrArg String.toList empty
    simp only [trimSpace, String.toList_ofList, chars, first, List.cons_append, plain,
      List.dropWhile_cons, Bool.false_eq_true, if_false, String.toList_empty] at none
    have space := List.rdropWhile_eq_nil_iff.mp none c List.mem_cons_self
    rw [plain] at space
    cases space
  have cut : cutFirst ' ' (sum ++ "  " ++ ("./" ++ path)) = some (sum, " " ++ ("./" ++ path)) := by
    have clean : ' ' ∉ sum.toList := fun member => absurd (solid _ member) (by decide)
    rw [← cutFirst_append _ clean, String.append_assoc, String.append_assoc]
    rfl
  have star : withoutStart ("./" ++ path) "*" = "./" ++ path := by
    rw [withoutStart, if_neg (by simp [startsWith])]
  unfold parseLine
  simp only [kept, String.ofList_toList, blank, if_false, cut, withoutStart_append, star,
    digest, named, or_self]

def listed (label : String) (paths : List String) : List String :=
  if paths = [] then []
  else
    let sorted := paths.insertionSort (· ≤ ·)
    let more := if maxNamed < sorted.length then
      " (+" ++ toString (sorted.length - maxNamed) ++ " more)" else ""
    [toString sorted.length ++ " " ++ label ++ ": " ++ join ", " (sorted.take maxNamed) ++ more]

variable (source target : Manifest)

def missing : List String :=
  source.keys.filter fun path => (target.get? path).isNone

def differing : List String :=
  source.keys.filter fun path => (target.get? path).isSome && target.get? path != source.get? path

/-- Whether the target holds the source's files. -/
def verify : Except Err Unit :=
  let counts := countsDiffer source.keys.length target.keys.length
  if missing source target = [] ∧ differing source target = [] ∧ missing target source = [] then
    if source.keys.length ≠ target.keys.length then .error (verificationFailed counts) else .ok ()
  else
    .error (verificationFailed (join "; " (counts ::
      (listed "missing from target" (missing source target) ++
        listed "differing checksum" (differing source target) ++
        listed "unexpected in target" (missing target source)))))

/-- Nothing is missing exactly if every path of the source is in the target. -/
theorem missing_eq_nil_iff {source target : Manifest} : missing source target = [] ↔
    ∀ path, target.get? path = none → source.get? path = none := by
  unfold missing
  rw [List.filter_eq_nil_iff]
  constructor
  · intro none_missing path absent
    by_contra present
    obtain ⟨sum, found⟩ := Option.ne_none_iff_exists'.mp present
    exact none_missing path (Dict.mem_keys_iff.mpr ⟨sum, found⟩) (by rw [absent]; rfl)
  · intro none_missing path stored absent
    obtain ⟨sum, found⟩ := Dict.mem_keys_iff.mp stored
    rw [none_missing path (Option.isNone_iff_eq_none.mp absent)] at found
    cases found

/-- Manifests pass iff all checksums agree. -/
theorem verify_ok_iff {source target : Manifest} :
    verify source target = .ok () ↔ ∀ path, source.get? path = target.get? path := by
  have agree : (missing source target = [] ∧ differing source target = [] ∧
      missing target source = []) ↔ ∀ path, source.get? path = target.get? path := by
    rw [missing_eq_nil_iff, missing_eq_nil_iff]
    constructor
    · rintro ⟨forth, same, back⟩ path
      cases inSource : source.get? path with
      | none => exact (back path inSource).symm
      | some sum =>
        have stored := Dict.mem_keys_iff.mpr ⟨sum, inSource⟩
        have kept := List.filter_eq_nil_iff.mp same path stored
        cases inTarget : target.get? path with
        | none => exact absurd (forth path inTarget) (by rw [inSource]; simp)
        | some other =>
          rw [inSource, inTarget] at kept
          simpa using Eq.symm (by simpa using kept)
    · intro equal
      refine ⟨fun path absent => (equal path).trans absent, ?_,
        fun path absent => (equal path).symm.trans absent⟩
      exact List.filter_eq_nil_iff.mpr fun path _ => by simp [equal path]
  -- Counts are compared as well; equal manifests have equal counts.
  have counted : (∀ path, source.get? path = target.get? path) →
      source.keys.length = target.keys.length := by
    intro equal
    have same : ∀ path, path ∈ source.keys ↔ path ∈ target.keys := by
      intro path
      simp only [Dict.mem_keys_iff, equal path]
    exact ((List.perm_ext_iff_of_nodup (AList.keys_nodup _) (AList.keys_nodup _)).mpr same).length_eq
  unfold verify
  constructor
  · intro passed
    by_cases clean : missing source target = [] ∧ differing source target = [] ∧
        missing target source = []
    · exact agree.mp clean
    · simp only [if_neg clean] at passed
      cases passed
  · intro equal
    simp only [if_pos (agree.mpr equal), counted equal, ne_eq, not_true_eq_false, if_false]

structure Summary where
  sourceFiles : Int := 0
  targetFiles : Int := 0
  sourceDigest : String := ""
  targetDigest : String := ""
  bytesCopied : Int := 0
  verified : Bool := false
deriving DecidableEq

namespace Summary

variable (s : Summary) (key : List Char) (x : Json)

private def named (name : String) : Bool :=
  key.map Char.toLower == name.toList

private def intField (old : Int) : Option Int :=
  match x with
  | .null => some old
  | .num token => atoi (String.ofList token)
  | _ => none

private def textField (old : String) : Option String :=
  match x with
  | .null => some old
  | .str s => some (String.ofList s)
  | _ => none

private def boolField (old : Bool) : Option Bool :=
  match x with
  | .null => some old
  | .bool b => some b
  | _ => none

/-- Store one decoded field, if it is known. -/
def setField : Option Summary :=
  if named key "source_files" then
    (intField x s.sourceFiles).map fun n => { s with sourceFiles := n }
  else if named key "target_files" then
    (intField x s.targetFiles).map fun n => { s with targetFiles := n }
  else if named key "source_digest" then
    (textField x s.sourceDigest).map fun d => { s with sourceDigest := d }
  else if named key "target_digest" then
    (textField x s.targetDigest).map fun d => { s with targetDigest := d }
  else if named key "bytes_copied" then
    (intField x s.bytesCopied).map fun n => { s with bytesCopied := n }
  else if named key "verified" then
    (boolField x s.verified).map fun b => { s with verified := b }
  else some s

def ofJson : Json → Option Summary
  | .null => some {}
  | .obj fields => fields.foldlM (fun s f => setField s f.1 f.2) {}
  | _ => none

def text : String :=
  "\x7b\"source_files\":" ++ toString s.sourceFiles ++
    ",\"target_files\":" ++ toString s.targetFiles ++
    ",\"source_digest\":\"" ++ s.sourceDigest ++
    "\",\"target_digest\":\"" ++ s.targetDigest ++
    "\",\"bytes_copied\":" ++ toString s.bytesCopied ++
    ",\"verified\":" ++ (if s.verified then "true" else "false") ++ "\x7d"

/-- Whether the copy's comparison proves it complete. -/
def check : Option Summary → Except Err Unit
  | none => .error (verificationFailed "the copy job reported no verification summary")
  | some s =>
    if s.sourceFiles ≠ s.targetFiles then
      .error (verificationFailed ("source has " ++ toString s.sourceFiles ++
        " files, target has " ++ toString s.targetFiles))
    else if s.sourceDigest = "" ∨ s.targetDigest = "" then
      .error (verificationFailed "the copy job reported no manifest digest")
    else if s.sourceDigest ≠ s.targetDigest then
      .error (verificationFailed ("manifest digest " ++ s.sourceDigest ++ " != " ++ s.targetDigest))
    else if s.verified = false then
      .error (verificationFailed "the copy job did not declare the copy verified")
    else .ok ()

end Summary

def parseSummary (message : String) : Except Err (Option Summary) :=
  let trimmed := trimSpace message
  if trimmed = "" then .ok none
  else
    match (Json.parse trimmed.toList).bind Summary.ofJson with
    | some s => .ok (some s)
    | none => .error (.plain ("decoding migration summary " ++ quote trimmed ++
        ": not a JSON object of counts and digests"))

/-- The regular files with their checksums. -/
abbrev Files := List (String × String)

def manifestText (files : Files) : String :=
  join "" (files.map fun f => f.2 ++ "  " ++ f.1 ++ "\n")

/-- What the copy's script computes. -/
def compareVolumes (sha256 : String → String) (source target : Files) (bytes : Nat) : Summary where
  sourceFiles := source.length
  targetFiles := target.length
  sourceDigest := sha256 (manifestText source)
  targetDigest := sha256 (manifestText target)
  bytesCopied := bytes
  verified := source.length = target.length ∧
    sha256 (manifestText source) = sha256 (manifestText target)

/-- The migrator accepts what the script does. -/
theorem check_compareVolumes {sha256 : String → String} (printed : ∀ text, sha256 text ≠ "")
    (source target : Files) (bytes : Nat) :
    Summary.check (some (compareVolumes sha256 source target bytes)) = .ok () ↔
      (compareVolumes sha256 source target bytes).verified = true := by
  by_cases counts : source.length = target.length
  · by_cases digests : sha256 (manifestText source) = sha256 (manifestText target)
    · simp [Summary.check, compareVolumes, counts, digests, printed]
    · simp [Summary.check, compareVolumes, counts, digests, printed]
  · have different : (source.length : Int) ≠ target.length := by omega
    simp [Summary.check, compareVolumes, counts, different]

/-! A manifest is read back as the files it was written for, unless a name ends in a carriage return. -/

/-- A path and a digest as a manifest can list them. -/
structure Listable (f : String × String) : Prop where
  digest : f.2 ≠ "" ∧ ∀ c ∈ f.2.toList, c ∈ "0123456789abcdefABCDEF".toList
  /-- Together with the longest path this stays below the scanner's limit. -/
  short : f.2.utf8ByteSize ≤ 3000000
  named : f.1 ≠ "" ∧ f.1.utf8ByteSize < 1000000
  oneLine : '\n' ∉ f.1.toList
  ends : f.1.toList.getLast? ≠ some '\r'

def found (files : Files) : Files := files.map fun f => ("./" ++ f.1, f.2)

def line (f : String × String) : String := f.2 ++ "  " ++ ("./" ++ f.1)

theorem toList_glue (parts : List String) : (join "" parts).toList = (parts.map String.toList).flatten := by
  induction parts with
  | nil => rfl
  | cons p rest ih =>
    cases rest with
    | nil => simp [join]
    | cons q rest =>
      rw [join, String.toList_intercalate] at ih ⊢
      simp only [List.map_cons, List.intercalate_cons_cons, List.flatten_cons] at ih ⊢
      rw [ih]
      simp

theorem join_lines (lines : List String) : join "" (lines.map (· ++ "\n")) =
    join (String.singleton '\n') (lines ++ [""]) := by
  apply String.toList_inj.mp
  rw [toList_join, toList_glue]
  induction lines with
  | nil => rfl
  | cons l rest ih =>
    have more : (rest ++ [""]).map String.toList ≠ [] := by simp
    obtain ⟨head, tail, same⟩ := List.exists_cons_of_ne_nil more
    simp only [List.cons_append, List.map_cons, List.flatten_cons]
    rw [same, List.intercalate_cons_cons, ← same, ← ih]
    simp

variable {files : Files}

theorem split_manifestText (listable : ∀ f ∈ files, Listable f) :
    split '\n' (manifestText (found files)) = files.map line ++ [""] := by
  have text : manifestText (found files) = join "" ((files.map line).map (· ++ "\n")) := by
    simp only [manifestText, found, List.map_map]
    rfl
  rw [text, join_lines, split_join (by simp)]
  intro p member
  rcases List.mem_append.mp member with there | last
  · obtain ⟨f, present, rfl⟩ := List.mem_map.mp there
    have file := listable f present
    have hex : '\n' ∉ f.2.toList := fun digit => absurd (file.digest.2 _ digit) (by simp)
    simp [line, hex, file.oneLine]
  · simp [List.mem_singleton.mp last]

theorem parseLine_line {f : String × String} (file : Listable f) (number : Nat) :
    parseLine number (line f) = .ok (some f) := by
  have solid : ∀ c ∈ f.2.toList, isSpace c = false := by
    have digits : ∀ c ∈ "0123456789abcdefABCDEF".toList, isSpace c = false :=
      List.all_iff_forall_prop.mp (by decide)
    exact fun c digit => digits c (file.digest.2 c digit)
  exact parseLine_entry solid file.digest.1 file.named.1 file.ends number

theorem Listable.line_fits {f : String × String} (file : Listable f) :
    (line f).utf8ByteSize < maxTokenSize := by
  have size : (line f).utf8ByteSize = f.2.utf8ByteSize + 2 + (2 + f.1.utf8ByteSize) := by
    simp only [line, String.utf8ByteSize_append]
    rfl
  have digest := file.short
  have path := file.named.2
  unfold maxTokenSize
  omega

/-- Line by line, what was printed is read. -/
theorem parseLines_lines (listable : ∀ f ∈ files, Listable f) (number : Nat)
    (m : Manifest) : parseLines number m (files.map line ++ [""]) = .ok (m.setAll files) := by
  induction files generalizing number m with
  | nil => rfl
  | cons f rest ih =>
    have file := listable f List.mem_cons_self
    rw [List.map_cons, List.cons_append, parseLines, if_neg file.line_fits.not_ge,
      parseLine_line file, Dict.setAll_cons]
    exact ih (fun g member => listable g (List.mem_cons_of_mem f member)) _ _

theorem parseManifest_found (listable : ∀ f ∈ files, Listable f) :
    parseManifest (manifestText (found files)) = .ok (Dict.setAll ∅ files) := by
  rw [parseManifest, split_manifestText listable, parseLines_lines listable]

theorem get?_setAll_iff (once : (files.map Prod.fst).Nodup) {path sum : String}
    (m : Manifest) : (m.setAll files).get? path = some sum ↔
      (path, sum) ∈ files ∨ path ∉ files.map Prod.fst ∧ m.get? path = some sum := by
  induction files generalizing m with
  | nil => simp
  | cons f rest ih =>
    obtain ⟨fresh, once⟩ := List.nodup_cons.mp once
    rw [Dict.setAll_cons, ih once, Dict.get?_set]
    by_cases here : path = f.1
    · subst here
      have absent : (f.1, sum) ∉ rest := fun member =>
        fresh (List.mem_map.mpr ⟨_, member, rfl⟩)
      simp [absent, fresh, Prod.ext_iff, eq_comm]
    · simp [here, Prod.ext_iff]

/-- Two sets of files, each path once in its set and every file listable: both manifests are read,
and they pass the comparison exactly if the sets are the same. -/
theorem manifests_exact (source target : Files) (sourceOnce : (source.map Prod.fst).Nodup)
    (targetOnce : (target.map Prod.fst).Nodup) (listable : ∀ f ∈ source ++ target, Listable f) :
    ∃ s t, parseManifest (manifestText (found source)) = .ok s ∧
      parseManifest (manifestText (found target)) = .ok t ∧
      (verify s t = .ok () ↔ ∀ f, f ∈ source ↔ f ∈ target) := by
  refine ⟨_, _, parseManifest_found fun f member => listable f (List.mem_append_left _ member),
    parseManifest_found fun f member => listable f (List.mem_append_right _ member), ?_⟩
  rw [verify_ok_iff]
  constructor
  · rintro same ⟨path, sum⟩
    have entry := congrArg (· = some sum) (same path)
    simpa [get?_setAll_iff sourceOnce, get?_setAll_iff targetOnce] using entry
  · intro same path
    apply Option.ext
    intro sum
    simp [get?_setAll_iff sourceOnce, get?_setAll_iff targetOnce, same]

theorem manifests_exact_sample : ∃ s t,
    parseManifest (manifestText (found [(" a", "0f"), ("b", "1e")])) = .ok s ∧
      parseManifest (manifestText (found [("b", "1e"), (" a", "0f")])) = .ok t ∧
      (verify s t = .ok () ↔ ∀ f, f ∈ [(" a", "0f"), ("b", "1e")] ↔ f ∈ [("b", "1e"), (" a", "0f")]) :=
  manifests_exact _ _ (by decide) (by decide) fun f member => by
    have each : ∀ f ∈ [(" a", "0f"), ("b", "1e"), ("b", "1e"), (" a", "0f")], Listable f := by
      intro f member
      simp only [List.mem_cons, List.not_mem_nil, or_false] at member
      rcases member with rfl | rfl | rfl | rfl <;>
        exact ⟨⟨by decide, List.all_iff_forall_prop.mp (by decide)⟩, by decide, by decide, by decide,
          by decide⟩
    exact each f member

/-- A final carriage return is overlooked. -/
theorem carriage_return_lost : ¬ ∃ s t, parseManifest (manifestText (found [("a\r", "0f")])) = .ok s ∧
    parseManifest (manifestText (found [("a", "0f")])) = .ok t ∧
    (verify s t = .ok () ↔ ∀ f, f ∈ [("a\r", "0f")] ↔ f ∈ [("a", "0f")]) := by
  rintro ⟨s, t, first, second, exactly⟩
  have same : parseManifest (manifestText (found [("a\r", "0f")])) =
      parseManifest (manifestText (found [("a", "0f")])) := rfl
  obtain rfl : s = t := Except.ok.inj (first.symm.trans (same.trans second))
  have listed := (exactly.mp (verify_ok_iff.mpr fun _ => rfl) ("a\r", "0f")).mp (by decide)
  revert listed
  decide

end TruenasCsi.Migration
