import MicroSentinel.Config
import MicroSentinel.SymbolOverrides
import Mathlib.Data.Nat.Digits

/-! `/proc/<pid>/maps` as `Symbolizer` (`symbolizer.cpp`) reads it, and the table `proc_maps_`
that `MapAddressLocked` keeps of it. `RefreshProcMapsLocked` reads the file with
`std::getline`, each line with `>>` into five words and a path, the addresses and the offset
with `std::stoull` in base 16, and stamps the pid's entry with the steady clock.
`MapAddressLocked`, past its JIT lookup, scans the entry while it is younger than `kMapsTtlNs`
and not empty, refreshes it otherwise, and refreshes it once more on a miss; `DropProcess`
erases it. The file is a function of the clock and the pid (`none` where the stream is not
good), and the throw of a `std::stoull` is an error that ends the call. Beside the model, the
lines as the kernel's `show_map_vma` prints them. -/
namespace MicroSentinel

/-- `kMapsTtlNs`, five seconds. -/
def kMapsTtlNs : UInt64 := 5000000000

/-! ### `std::stoull` in base 16 -/

/-- The value of a digit in base 16. -/
def hexDigit (c : Char) : Option Nat :=
  if '0' ≤ c ∧ c ≤ '9' then some (c.toNat - '0'.toNat)
  else if 'a' ≤ c ∧ c ≤ 'f' then some (c.toNat - 'a'.toNat + 10)
  else if 'A' ≤ c ∧ c ≤ 'F' then some (c.toNat - 'A'.toNat + 10)
  else none

def hexValue (digits : List Char) : Nat :=
  digits.foldl (fun n d => 16 * n + (hexDigit d).getD 0) 0

/-- Length of the `0x` or `0X` that base 16 skips: only one a digit follows. -/
def hexPrefixLength : List Char → Nat
  | '0' :: x :: c :: _ => if (x = 'x' ∨ x = 'X') ∧ (hexDigit c).isSome then 2 else 0
  | _ => 0

/-- `std::stoull(text, nullptr, 16)`: white space, a sign, a `0x`, digits in base 16. The
value, negated modulo 2^64 after a minus, or `none` where it throws: no digits, or a
magnitude above 2^64 - 1. -/
def stoullHex (text : List Char) : Option UInt64 :=
  let rest := text.dropWhile isSpace
  let body := rest.drop (signLength rest)
  let digits := (body.drop (hexPrefixLength body)).takeWhile fun c => (hexDigit c).isSome
  if digits = [] ∨ 2 ^ 64 ≤ hexValue digits then none
  else
    let magnitude := UInt64.ofNat (hexValue digits)
    some (if rest.head? = some '-' then 0 - magnitude else magnitude)

/-! ### The loop of `RefreshProcMapsLocked` -/

/-- `std::getline(iss, path)` after the inode, its leading spaces erased unless there is
nothing else. -/
def mapsPath (rest : List Char) : List Char :=
  if rest.all (· = ' ') then rest else rest.dropWhile (· = ' ')

/-- One pass of the loop: `none` for a line it skips, an error where a `std::stoull` throws,
else the region of the line. -/
def parseMapsLine (line : List Char) : Except Unit (Option MemoryRegion) :=
  let (range, rest) := extractWord line
  let (perms, rest) := extractWord rest
  let (offsetHex, rest) := extractWord rest
  let (dev, rest) := extractWord rest
  let (inode, rest) := extractWord rest
  let path := mapsPath rest
  if line = [] ∨ range = [] ∨ perms = [] ∨ offsetHex = [] ∨ dev = [] ∨ inode = [] ∨ path = [] ∨
      '-' ∉ range then .ok none
  else
    let dash := range.indexOf '-'
    match stoullHex (range.take dash), stoullHex (range.drop (dash + 1)), stoullHex offsetHex with
    | some start, some stop, some fileOffset =>
      .ok (some ⟨start, stop, fileOffset, String.mk path, String.mk perms⟩)
    | _, _, _ => .error ()

/-- The loop over the lines: the regions in the order of the file, or the first throw. -/
def parseMaps : List (List Char) → Except Unit (List MemoryRegion)
  | [] => .ok []
  | line :: lines => do
    let region ← parseMapsLine line
    let regions ← parseMaps lines
    return region.toList ++ regions

/-! ### The lines the kernel writes -/

/-- `%08lx`: lower-case hexadecimal zero-padded to eight digits, as `show_map_vma` prints the
addresses and the offset of a mapping. -/
def hex8 (n : UInt64) : List Char :=
  List.replicate (8 - (Nat.toDigits 16 n.toNat).length) '0' ++ Nat.toDigits 16 n.toNat

/-- A field the kernel prints between spaces: not empty, and no white space in it. -/
def MapsWord (w : List Char) : Prop := w ≠ [] ∧ ∀ c ∈ w, isSpace c = false

instance (w : List Char) : Decidable (MapsWord w) := inferInstanceAs (Decidable (_ ∧ _))

/-- A mapping as `show_map_vma` prints it: `dev` and `inode` as the kernel formats them,
`pad` the spaces `seq_pad` puts before a path, and an empty `path` for a mapping with no
name, whose line ends with the space after the inode. -/
structure Mapping where
  start : UInt64
  «end» : UInt64
  perms : List Char
  offset : UInt64
  dev : List Char
  inode : List Char
  pad : Nat
  path : List Char
  permsWord : MapsWord perms
  devWord : MapsWord dev
  inodeWord : MapsWord inode
  pathLine : path.head? ≠ some ' ' ∧ '\n' ∉ path

/-- The mapping's line, without its newline: range, perms, offset, dev and inode, each followed
by a space, then the padded path of a named mapping. -/
def Mapping.text (m : Mapping) : List Char :=
  (hex8 m.start ++ '-' :: hex8 m.end) ++ ' ' :: (m.perms ++ ' ' :: (hex8 m.offset ++ ' ' ::
    (m.dev ++ ' ' :: (m.inode ++ ' ' ::
      (if m.path = [] then [] else List.replicate m.pad ' ' ++ m.path)))))

/-- The file the kernel writes for the mappings: their lines, each ended by a newline. -/
def mapsFile (mappings : List Mapping) : List Char := (mappings.map Mapping.text).flatMap (· ++ ['\n'])

/-- The region read from the mapping's line: a mapping with no name keeps, as its path, the
space after its inode. -/
def Mapping.region (m : Mapping) : MemoryRegion :=
  ⟨m.start, m.end, m.offset, String.mk (if m.path = [] then [' '] else m.path), String.mk m.perms⟩

theorem digitChar_hex : ∀ k < 16, hexDigit (Nat.digitChar k) = some k ∧
    isSpace (Nat.digitChar k) = false ∧ Nat.digitChar k ≠ '-' ∧ Nat.digitChar k ≠ '+' ∧
    Nat.digitChar k ≠ 'x' ∧ Nat.digitChar k ≠ 'X' := by
  decide

theorem hexValue_zeros (m : Nat) (d : List Char) :
    hexValue (List.replicate m '0' ++ d) = hexValue d := by
  have zeros : (List.replicate m '0').foldl (fun n d => 16 * n + (hexDigit d).getD 0) 0 = 0 := by
    induction m with
    | zero => rfl
    | succ m ih => rw [List.replicate_succ, List.foldl_cons]; exact ih
  rw [hexValue, List.foldl_append, zeros, ← hexValue]

theorem hex8_digits (n : UInt64) : hex8 n ≠ [] ∧ (∀ c ∈ hex8 n, ∃ k < 16, c = Nat.digitChar k) ∧
    hexValue (hex8 n) = n.toNat := by
  obtain ⟨d, eq, named, digits, value⟩ := toDigitsCore_value (fun c => (hexDigit c).getD 0)
    (show 1 < 16 by decide) (fun k lt => by simp [(digitChar_hex k lt).1]) (n.toNat + 1) n.toNat []
    (Nat.lt_succ_self _)
  rw [List.append_nil] at eq
  rw [hex8, Nat.toDigits, eq, hexValue_zeros]
  refine ⟨by simp [named], ?_, value⟩
  simp only [List.mem_append, List.mem_replicate]
  rintro c (⟨-, rfl⟩ | mem)
  · exact ⟨0, by decide, rfl⟩
  · exact digits c mem

theorem hexPrefixLength_eq_zero {l : List Char} (plain : ∀ c ∈ l, c ≠ 'x' ∧ c ≠ 'X') :
    hexPrefixLength l = 0 := by
  unfold hexPrefixLength
  split
  · rw [if_neg]
    rintro ⟨rfl | rfl, -⟩ <;> simp at plain
  · rfl

theorem stoullHex_digits {l : List Char} (named : l ≠ [])
    (digits : ∀ c ∈ l, ∃ k < 16, c = Nat.digitChar k) (small : hexValue l < 2 ^ 64) :
    stoullHex l = some (UInt64.ofNat (hexValue l)) := by
  obtain ⟨c, cs, rfl⟩ := List.exists_cons_of_ne_nil named
  obtain ⟨k, low, rfl⟩ := digits c (List.mem_cons_self _ _)
  obtain ⟨-, blank, minus, plus, -, -⟩ := digitChar_hex k low
  have kept : (Nat.digitChar k :: cs).dropWhile isSpace = Nat.digitChar k :: cs :=
    List.dropWhile_cons_of_neg (by simp [blank])
  have unprefixed : hexPrefixLength (Nat.digitChar k :: cs) = 0 :=
    hexPrefixLength_eq_zero fun c mem => by
      obtain ⟨j, lj, rfl⟩ := digits c mem
      exact (digitChar_hex j lj).2.2.2.2
  have whole : (Nat.digitChar k :: cs).takeWhile (fun c => (hexDigit c).isSome) =
      Nat.digitChar k :: cs :=
    List.takeWhile_eq_self_iff.2 fun c mem => by
      obtain ⟨j, lj, rfl⟩ := digits c mem
      simp [(digitChar_hex j lj).1]
  simp only [stoullHex, kept, signLength_cons cs minus plus, unprefixed, List.drop_zero, whole]
  rw [if_neg (by simpa using small), if_neg (by simpa using minus)]

theorem stoullHex_hex8 (n : UInt64) : stoullHex (hex8 n) = some n := by
  obtain ⟨named, digits, value⟩ := hex8_digits n
  rw [stoullHex_digits named digits (by rw [value]; exact n.toNat_lt_size), value]
  exact congrArg some (UInt64.toNat.inj (Nat.mod_eq_of_lt n.toNat_lt_size))

theorem indexOf_dash {a : List Char} (b : List Char) (no : '-' ∉ a) :
    (a ++ '-' :: b).indexOf '-' = a.length := by
  induction a with
  | nil => exact List.indexOf_cons_self _ _
  | cons c a ih =>
    rw [List.cons_append, List.indexOf_cons_ne _ (by rintro rfl; exact no (List.mem_cons_self _ _)),
      ih fun mem => no (List.mem_cons_of_mem _ mem)]
    rfl

theorem extractWord_first {word rest : List Char} (w : MapsWord word) :
    extractWord (word ++ ' ' :: rest) = (word, ' ' :: rest) :=
  @extractWord_word [] word rest (fun _ h => nomatch h) w.1 w.2

theorem extractWord_next {word rest : List Char} (w : MapsWord word) :
    extractWord (' ' :: (word ++ ' ' :: rest)) = (word, ' ' :: rest) :=
  @extractWord_word [' '] word rest (by simp [isSpace]) w.1 w.2

theorem MapsWord.hex8 (n : UInt64) : MapsWord (hex8 n) :=
  ⟨(hex8_digits n).1, fun c mem => by
    obtain ⟨k, low, rfl⟩ := (hex8_digits n).2.1 c mem
    exact (digitChar_hex k low).2.1⟩

theorem dash_not_mem_hex8 (n : UInt64) : '-' ∉ hex8 n := fun mem => by
  obtain ⟨k, low, same⟩ := (hex8_digits n).2.1 _ mem
  exact (digitChar_hex k low).2.2.1 same.symm

theorem mapsPath_text (m : Mapping) :
    mapsPath (' ' :: if m.path = [] then [] else List.replicate m.pad ' ' ++ m.path) =
      if m.path = [] then [' '] else m.path := by
  by_cases anonymous : m.path = []
  · simp [anonymous, mapsPath]
  · obtain ⟨c, cs, named⟩ := List.exists_cons_of_ne_nil anonymous
    have lead : c ≠ ' ' := fun h => m.pathLine.1 (by simp [named, h])
    rw [if_neg anonymous, if_neg anonymous, mapsPath, if_neg (by simp [named, lead]),
      ← List.cons_append, ← List.replicate_succ, List.dropWhile_append_of_pos (by simp),
      named, List.dropWhile_cons_of_neg (by simpa using lead)]

theorem parseMapsLine_fields {lo hi perms offsetHex dev inode rest : List Char}
    {start stop fileOffset : UInt64} (range : MapsWord (lo ++ '-' :: hi)) (noDash : '-' ∉ lo)
    (permsWord : MapsWord perms) (offsetWord : MapsWord offsetHex) (devWord : MapsWord dev)
    (inodeWord : MapsWord inode) (path : mapsPath (' ' :: rest) ≠ [])
    (startHex : stoullHex lo = some start) (stopHex : stoullHex hi = some stop)
    (offsetValue : stoullHex offsetHex = some fileOffset) :
    parseMapsLine ((lo ++ '-' :: hi) ++ ' ' :: (perms ++ ' ' :: (offsetHex ++ ' ' ::
      (dev ++ ' ' :: (inode ++ ' ' :: rest))))) =
      .ok (some ⟨start, stop, fileOffset, String.mk (mapsPath (' ' :: rest)), String.mk perms⟩) := by
  rw [parseMapsLine, extractWord_first range]
  simp only [extractWord_next permsWord, extractWord_next offsetWord, extractWord_next devWord,
    extractWord_next inodeWord]
  rw [if_neg (by simp [range.1, permsWord.1, offsetWord.1, devWord.1, inodeWord.1, path])]
  simp [indexOf_dash _ noDash, List.drop_append_eq_append_drop,
    List.drop_eq_nil_of_le (Nat.le_succ lo.length), startHex, stopHex, offsetValue]

theorem parseMapsLine_text (m : Mapping) : parseMapsLine m.text = .ok (some m.region) := by
  have range : MapsWord (hex8 m.start ++ '-' :: hex8 m.end) :=
    ⟨by simp, fun c mem => by
      simp only [List.mem_append, List.mem_cons] at mem
      rcases mem with mem | rfl | mem
      · exact (MapsWord.hex8 m.start).2 c mem
      · rfl
      · exact (MapsWord.hex8 m.end).2 c mem⟩
  have path : mapsPath (' ' :: if m.path = [] then [] else List.replicate m.pad ' ' ++ m.path) ≠ [] := by
    rw [mapsPath_text]
    split_ifs with anonymous <;> simp [anonymous]
  rw [Mapping.text, parseMapsLine_fields range (dash_not_mem_hex8 m.start) m.permsWord
    (MapsWord.hex8 m.offset) m.devWord m.inodeWord path (stoullHex_hex8 m.start)
    (stoullHex_hex8 m.end) (stoullHex_hex8 m.offset), mapsPath_text]
  rfl

theorem Mapping.newline_not_mem_text (m : Mapping) : '\n' ∉ m.text := by
  have word : ∀ {w}, MapsWord w → '\n' ∉ w := fun w mem => by simpa [isSpace] using w.2 _ mem
  unfold Mapping.text
  split_ifs <;> simp [word (MapsWord.hex8 _), word m.permsWord, word m.devWord, word m.inodeWord,
    m.pathLine.2]

theorem getlines_mapsFile (mappings : List Mapping) :
    getlines (mapsFile mappings) = mappings.map Mapping.text :=
  getlines_flatMap _ fun _ mem => by
    obtain ⟨m, -, rfl⟩ := List.mem_map.1 mem
    exact m.newline_not_mem_text

theorem parseMaps_text (mappings : List Mapping) :
    parseMaps (mappings.map Mapping.text) = .ok (mappings.map Mapping.region) := by
  induction mappings with
  | nil => rfl
  | cons m ms ih =>
    rw [List.map_cons, parseMaps, parseMapsLine_text, ih]
    rfl

structure ProcMapCache where
  regions : List MemoryRegion
  lastRefreshNs : UInt64
  deriving DecidableEq

/-- `proc_maps_`. -/
abbrev ProcMaps := UInt32 → Option ProcMapCache

namespace ProcMaps

section Lookup
variable (files : UInt64 → UInt32 → Option (List Char))

/-- `RefreshProcMapsLocked(pid)`, the clock reading `now`: `none` (false) where the file is
not good, an error where a `std::stoull` throws, else the table with the pid's entry replaced
by the file's regions stamped `now`. -/
def refreshProcMaps (now : UInt64) (procMaps : ProcMaps) (pid : UInt32) :
    Except Unit (Option ProcMaps) :=
  match files now pid with
  | none => .ok none
  | some text => (fun regions => some (Function.update procMaps pid (some ⟨regions, now⟩))) <$>
      parseMaps (getlines text)

/-- The end of `MapAddressLocked`, after a miss: the second refresh, at `retryNs`, and the
scan of the entry it leaves. -/
def retry (retryNs : UInt64) (procMaps : ProcMaps) (pid : UInt32) (ip : UInt64) :
    Except Unit (Option MemoryRegion × ProcMaps) :=
  (fun
    | none => (none, procMaps)
    | some refreshed =>
      ((refreshed pid).bind fun entry => firstCovering (·.start) (·.end) entry.regions ip,
        refreshed)) <$> refreshProcMaps files retryNs procMaps pid

/-- The loop over the regions of the entry `it` points at, then `retry` on a miss. -/
def scan (retryNs : UInt64) (procMaps : ProcMaps) (pid : UInt32) (ip : UInt64)
    (entry : ProcMapCache) : Except Unit (Option MemoryRegion × ProcMaps) :=
  match firstCovering (·.start) (·.end) entry.regions ip with
  | some region => .ok (some region, procMaps)
  | none => retry files retryNs procMaps pid ip

/-- The first refresh of `MapAddressLocked`, at `refreshNs`, then the scan of the entry it
leaves. -/
def refreshThenScan (refreshNs retryNs : UInt64) (procMaps : ProcMaps) (pid : UInt32)
    (ip : UInt64) : Except Unit (Option MemoryRegion × ProcMaps) :=
  refreshProcMaps files refreshNs procMaps pid >>= fun
    | none => .ok (none, procMaps)
    | some refreshed => match refreshed pid with
      | some entry => scan files retryNs refreshed pid ip entry
      | none => .ok (none, refreshed)

/-- `MapAddressLocked` once `LookupJitRegionLocked` has missed, `now` its own clock reading and
`refreshNs`, `retryNs` those of the refreshes it may make: the region found, and the table
after the call. -/
def mapAddress (now refreshNs retryNs : UInt64) (procMaps : ProcMaps) (pid : UInt32)
    (ip : UInt64) : Except Unit (Option MemoryRegion × ProcMaps) :=
  match procMaps pid with
  | some entry =>
    if entry.regions = [] ∨ now - entry.lastRefreshNs > kMapsTtlNs then
      refreshThenScan files refreshNs retryNs procMaps pid ip
    else scan files retryNs procMaps pid ip entry
  | none => refreshThenScan files refreshNs retryNs procMaps pid ip

/-- The calls that touch `proc_maps_`: `MapAddressLocked` past a JIT miss, from
`BuildLocation` or `ResolveData`, with its three clock readings; and `DropProcess`. -/
inductive Call
  | mapAddress (pid : UInt32) (ip now refreshNs retryNs : UInt64)
  | dropProcess (pid : UInt32)

def step (procMaps : ProcMaps) : Call → Except Unit ProcMaps
  | .mapAddress pid ip now refreshNs retryNs =>
    Prod.snd <$> mapAddress files now refreshNs retryNs procMaps pid ip
  | .dropProcess pid => .ok (Function.update procMaps pid none)

def run (procMaps : ProcMaps) : List Call → Except Unit ProcMaps
  | [] => .ok procMaps
  | call :: calls => step files procMaps call >>= fun after => run after calls

/-- Every entry of the table holds the regions of the file as read at its stamp. -/
def Snapshots (procMaps : ProcMaps) : Prop :=
  ∀ pid entry, procMaps pid = some entry →
    ∃ text, files entry.lastRefreshNs pid = some text ∧ parseMaps (getlines text) = .ok entry.regions

/-- A region a lookup may take from a reading at `t`: the first holding `ip` in the file as
read then. -/
def FirstAt (t : UInt64) (pid : UInt32) (ip : UInt64) (region : MemoryRegion) : Prop :=
  ∃ text regions, files t pid = some text ∧ parseMaps (getlines text) = .ok regions ∧
    firstCovering (·.start) (·.end) regions ip = some region

/-- A miss of a reading at `t`: the file was not good, or no region of it holds `ip`. -/
def MissAt (t : UInt64) (pid : UInt32) (ip : UInt64) : Prop :=
  files t pid = none ∨ ∃ text regions, files t pid = some text ∧
    parseMaps (getlines text) = .ok regions ∧ firstCovering (·.start) (·.end) regions ip = none

variable {files} {procMaps after : ProcMaps} {pid : UInt32} {ip t : UInt64}

theorem refreshProcMaps_ok {r : Option ProcMaps} (h : refreshProcMaps files t procMaps pid = .ok r) :
    files t pid = none ∧ r = none ∨ ∃ text regions, files t pid = some text ∧
      parseMaps (getlines text) = .ok regions ∧
        r = some (Function.update procMaps pid (some ⟨regions, t⟩)) := by
  unfold refreshProcMaps at h
  split at h
  · exact .inl ⟨‹_›, (Except.ok.inj h).symm⟩
  · cases parsed : parseMaps (getlines ‹_›) <;> rw [parsed] at h
    · cases h
    · exact .inr ⟨_, _, ‹_›, parsed, (Except.ok.inj h).symm⟩

theorem Snapshots.update {text : List Char} {regions : List MemoryRegion}
    (snap : Snapshots files procMaps) (read : files t pid = some text)
    (parsed : parseMaps (getlines text) = .ok regions) :
    Snapshots files (Function.update procMaps pid (some ⟨regions, t⟩)) := by
  intro q entry h
  by_cases same : q = pid
  · subst same
    obtain rfl := Option.some.inj ((Function.update_same q _ procMaps).symm.trans h)
    exact ⟨text, read, parsed⟩
  · exact snap q entry ((Function.update_noteq same _ procMaps).symm.trans h)

theorem Snapshots.erase (snap : Snapshots files procMaps) :
    Snapshots files (Function.update procMaps pid none) := by
  intro q entry h
  by_cases same : q = pid
  · subst same
    simp at h
  · exact snap q entry ((Function.update_noteq same _ procMaps).symm.trans h)

theorem retry_ok {answer : Option MemoryRegion} (h : retry files t procMaps pid ip = .ok (answer, after)) :
    files t pid = none ∧ answer = none ∧ after = procMaps ∨ ∃ text regions,
      files t pid = some text ∧ parseMaps (getlines text) = .ok regions ∧
      answer = firstCovering (·.start) (·.end) regions ip ∧
      after = Function.update procMaps pid (some ⟨regions, t⟩) := by
  unfold retry at h
  cases refreshed : refreshProcMaps files t procMaps pid with
  | error e => rw [refreshed] at h; cases h
  | ok r =>
    rw [refreshed] at h
    rcases refreshProcMaps_ok refreshed with ⟨read, rfl⟩ | ⟨text, regions, read, parsed, rfl⟩
    · obtain ⟨rfl, rfl⟩ := Prod.mk.inj (Except.ok.inj h).symm
      exact .inl ⟨read, rfl, rfl⟩
    · obtain ⟨rfl, rfl⟩ := Prod.mk.inj (Except.ok.inj h).symm
      exact .inr ⟨text, regions, read, parsed, by simp, rfl⟩

theorem retry_answer {answer : Option MemoryRegion}
    (h : retry files t procMaps pid ip = .ok (answer, after)) :
    answer.elim (MissAt files t pid ip) (FirstAt files t pid ip) := by
  rcases retry_ok h with ⟨read, rfl, -⟩ | ⟨text, regions, read, parsed, rfl, -⟩
  · exact .inl read
  · cases found : firstCovering (·.start) (·.end) regions ip
    · exact .inr ⟨text, regions, read, parsed, found⟩
    · exact ⟨text, regions, read, parsed, found⟩

theorem Snapshots.retry {answer : Option MemoryRegion} (snap : Snapshots files procMaps)
    (h : retry files t procMaps pid ip = .ok (answer, after)) : Snapshots files after := by
  rcases retry_ok h with ⟨-, -, rfl⟩ | ⟨text, regions, read, parsed, -, rfl⟩
  · exact snap
  · exact snap.update read parsed

theorem scan_ok {answer : Option MemoryRegion} {entry : ProcMapCache}
    (h : scan files t procMaps pid ip entry = .ok (answer, after)) :
    (∃ region, firstCovering (·.start) (·.end) entry.regions ip = some region ∧
      answer = some region ∧ after = procMaps) ∨ retry files t procMaps pid ip = .ok (answer, after) := by
  unfold scan at h
  split at h
  · obtain ⟨rfl, rfl⟩ := Prod.mk.inj (Except.ok.inj h).symm
    exact .inl ⟨_, ‹_›, rfl, rfl⟩
  · exact .inr h

theorem scan_answer {answer : Option MemoryRegion} {entry : ProcMapCache}
    (h : scan files t procMaps pid ip entry = .ok (answer, after)) :
    answer.elim (MissAt files t pid ip) fun region =>
      firstCovering (·.start) (·.end) entry.regions ip = some region ∨
        FirstAt files t pid ip region := by
  rcases scan_ok h with ⟨region, hit, rfl, -⟩ | h
  · exact .inl hit
  · have read := retry_answer h
    cases answer with
    | none => exact read
    | some region => exact .inr read

theorem Snapshots.scan {answer : Option MemoryRegion} {entry : ProcMapCache}
    (snap : Snapshots files procMaps) (h : scan files t procMaps pid ip entry = .ok (answer, after)) :
    Snapshots files after := by
  rcases scan_ok h with ⟨-, -, -, rfl⟩ | h
  · exact snap
  · exact snap.retry h

theorem refreshThenScan_ok {answer : Option MemoryRegion} {t₁ t₂ : UInt64}
    (h : refreshThenScan files t₁ t₂ procMaps pid ip = .ok (answer, after)) :
    files t₁ pid = none ∧ answer = none ∧ after = procMaps ∨ ∃ text regions,
      files t₁ pid = some text ∧ parseMaps (getlines text) = .ok regions ∧
      scan files t₂ (Function.update procMaps pid (some ⟨regions, t₁⟩)) pid ip ⟨regions, t₁⟩ =
        .ok (answer, after) := by
  obtain ⟨r, refreshed, h⟩ := bind_eq_ok h
  rcases refreshProcMaps_ok refreshed with ⟨read, rfl⟩ | ⟨text, regions, read, parsed, rfl⟩
  · obtain ⟨rfl, rfl⟩ := Prod.mk.inj (Except.ok.inj h).symm
    exact .inl ⟨read, rfl, rfl⟩
  · simp only [Function.update_same] at h
    exact .inr ⟨text, regions, read, parsed, h⟩

theorem refreshThenScan_answer {answer : Option MemoryRegion} {t₁ t₂ : UInt64}
    (h : refreshThenScan files t₁ t₂ procMaps pid ip = .ok (answer, after)) :
    answer.elim (files t₁ pid = none ∨ MissAt files t₂ pid ip) fun region =>
      FirstAt files t₁ pid ip region ∨ FirstAt files t₂ pid ip region := by
  rcases refreshThenScan_ok h with ⟨read, rfl, -⟩ | ⟨text, regions, read, parsed, h⟩
  · exact .inl read
  · have scanned := scan_answer h
    cases answer with
    | none => exact .inr scanned
    | some region => exact scanned.imp_left fun hit => ⟨text, regions, read, parsed, hit⟩

theorem Snapshots.refreshThenScan {answer : Option MemoryRegion} {t₁ t₂ : UInt64}
    (snap : Snapshots files procMaps)
    (h : refreshThenScan files t₁ t₂ procMaps pid ip = .ok (answer, after)) :
    Snapshots files after := by
  rcases refreshThenScan_ok h with ⟨-, -, rfl⟩ | ⟨text, regions, read, parsed, h⟩
  · exact snap
  · exact (snap.update read parsed).scan h

theorem mapAddress_ok {answer : Option MemoryRegion} {now t₁ t₂ : UInt64}
    (h : mapAddress files now t₁ t₂ procMaps pid ip = .ok (answer, after)) :
    (∃ entry, procMaps pid = some entry ∧ now - entry.lastRefreshNs ≤ kMapsTtlNs ∧
      scan files t₂ procMaps pid ip entry = .ok (answer, after)) ∨
      refreshThenScan files t₁ t₂ procMaps pid ip = .ok (answer, after) := by
  unfold mapAddress at h
  split at h
  · next entry cached =>
    split at h
    · exact .inr h
    · next fresh => exact .inl ⟨entry, cached, UInt64.not_lt.1 (not_or.1 fresh).2, h⟩
  · exact .inr h

theorem Snapshots.mapAddress {answer : Option MemoryRegion} {now t₁ t₂ : UInt64}
    (snap : Snapshots files procMaps)
    (h : mapAddress files now t₁ t₂ procMaps pid ip = .ok (answer, after)) :
    Snapshots files after := by
  rcases mapAddress_ok h with ⟨_, -, -, h⟩ | h
  · exact snap.scan h
  · exact snap.refreshThenScan h

theorem Snapshots.step {call : Call} (snap : Snapshots files procMaps)
    (h : ProcMaps.step files procMaps call = .ok after) : Snapshots files after := by
  cases call with
  | mapAddress pid ip now t₁ t₂ =>
    cases looked : ProcMaps.mapAddress files now t₁ t₂ procMaps pid ip with
    | error e => rw [ProcMaps.step, looked] at h; cases h
    | ok r =>
      rw [ProcMaps.step, looked] at h
      cases h
      exact snap.mapAddress looked
  | dropProcess pid =>
    cases h
    exact snap.erase

theorem Snapshots.run {calls : List Call} (snap : Snapshots files procMaps)
    (h : ProcMaps.run files procMaps calls = .ok after) : Snapshots files after := by
  induction calls generalizing procMaps with
  | nil => cases h; exact snap
  | cons call calls ih =>
    obtain ⟨mid, stepped, h⟩ := bind_eq_ok h
    exact ih (snap.step stepped) h

theorem snapshots_empty : Snapshots files fun _ => none := fun _ _ h => nomatch h

/-- `RefreshProcMapsLocked` on a file as the kernel writes it: the pid's entry holds one region
for each mapping, in order, each with the mapping's bounds, offset and permissions, and a
mapping with no name is kept with the path `" "`. -/
theorem refreshProcMaps_kernelMaps {mappings : List Mapping}
    (read : files t pid = some (mapsFile mappings)) :
    refreshProcMaps files t procMaps pid =
      .ok (some (Function.update procMaps pid (some ⟨mappings.map Mapping.region, t⟩))) := by
  rw [refreshProcMaps, read]
  simp only [getlines_mapsFile, parseMaps_text]
  rfl

/-- A named mapping and an anonymous one, as a process's maps file lists them. -/
def dbusMappings : List Mapping :=
  [⟨0x55d5c8a00000, 0x55d5c8a2b000, "r-xp".toList, 0x2000, "08:02".toList, "1577063".toList, 19,
      "/usr/bin/dbus-daemon".toList, by decide, by decide, by decide, by decide⟩,
    ⟨0x7f3a1c000000, 0x7f3a1c021000, "rw-p".toList, 0, "00:00".toList, "0".toList, 0, [],
      by decide, by decide, by decide, by decide⟩]

/-- The file of `dbusMappings`, the same at every reading. -/
def dbusFile : UInt64 → UInt32 → Option (List Char) := fun _ _ => some (mapsFile dbusMappings)

theorem refreshProcMaps_dbus :
    dbusFile 7 42 = some (mapsFile dbusMappings) ∧
      refreshProcMaps dbusFile 7 (fun _ => none) 42 = .ok (some (Function.update (fun _ => none) 42
        (some ⟨dbusMappings.map Mapping.region, 7⟩))) :=
  ⟨rfl, refreshProcMaps_kernelMaps rfl⟩

example : (dbusMappings.map Mapping.region).map (·.path) = ["/usr/bin/dbus-daemon", " "] := by
  decide

/-- Over every run of lookups and drops from the empty table, a region `MapAddressLocked`
returns is the first to hold `ip` in `/proc/<pid>/maps` as read at some time `t`: a reading no
older than `kMapsTtlNs` at the call, or one of the two refreshes the call makes. -/
theorem mapAddress_sound {calls : List Call} {now t₁ t₂ : UInt64} {region : MemoryRegion}
    (reached : run files (fun _ => none) calls = .ok procMaps)
    (found : mapAddress files now t₁ t₂ procMaps pid ip = .ok (some region, after)) :
    ∃ t, (now - t ≤ kMapsTtlNs ∨ t = t₁ ∨ t = t₂) ∧ FirstAt files t pid ip region := by
  rcases mapAddress_ok found with ⟨entry, cached, fresh, h⟩ | h
  · rcases scan_answer h with hit | read
    · obtain ⟨text, read, parsed⟩ := snapshots_empty.run reached pid entry cached
      exact ⟨_, .inl fresh, text, _, read, parsed, hit⟩
    · exact ⟨t₂, .inr (.inr rfl), read⟩
  · rcases refreshThenScan_answer h with read | read
    · exact ⟨t₁, .inr (.inl rfl), read⟩
    · exact ⟨t₂, .inr (.inr rfl), read⟩

theorem mapAddress_sound_cached : ∃ procMaps region after,
    run dbusFile (fun _ => none) [.mapAddress 42 0x55d5c8a01000 100 100 100] = .ok procMaps ∧
      mapAddress dbusFile 200 300 400 procMaps 42 0x55d5c8a01000 = .ok (some region, after) ∧
      ∃ t, (200 - t ≤ kMapsTtlNs ∨ t = 300 ∨ t = 400) ∧ FirstAt dbusFile t 42 0x55d5c8a01000 region :=
  have reached : run dbusFile (fun _ => none) [.mapAddress 42 0x55d5c8a01000 100 100 100] =
      .ok (Function.update (fun _ => none) 42 (some ⟨dbusMappings.map Mapping.region, 100⟩)) := rfl
  ⟨_, _, _, reached, rfl, mapAddress_sound reached rfl⟩

/-- From any table, `MapAddressLocked` misses only where a refresh could not open the file or
the file as read by the second refresh has no region holding `ip`: a stale entry never
causes a miss. -/
theorem mapAddress_miss {now t₁ t₂ : UInt64}
    (missed : mapAddress files now t₁ t₂ procMaps pid ip = .ok (none, after)) :
    files t₁ pid = none ∨ MissAt files t₂ pid ip := by
  rcases mapAddress_ok missed with ⟨_, -, -, h⟩ | h
  · exact .inr (scan_answer h)
  · exact refreshThenScan_answer h

theorem mapAddress_miss_unmapped : ∃ after,
    mapAddress dbusFile 0 1 2 (fun _ => none) 42 0x10 = .ok (none, after) ∧
      (dbusFile 1 42 = none ∨ MissAt dbusFile 2 42 0x10) :=
  have missed : mapAddress dbusFile 0 1 2 (fun _ => none) 42 0x10 =
      .ok (none, Function.update (Function.update (fun _ => none) 42
        (some ⟨dbusMappings.map Mapping.region, 1⟩)) 42 (some ⟨dbusMappings.map Mapping.region, 2⟩)) :=
    rfl
  ⟨_, missed, mapAddress_miss missed⟩

end Lookup

end ProcMaps

end MicroSentinel
