import MicroSentinel.Symbolizer

/-! The address overrides of `Symbolizer` (`symbolizer.cpp`): the JIT regions that
`MapAddressLocked` consults before `/proc/<pid>/maps`, and the data objects, registered or
auto-registered from a mapping, that `ResolveData` consults first. `BuildLocation` and
`ResolveData` are computed here from them and from `ProcessEnv`, what the symbolizer reads
outside the process. The per-pid vectors of `jit_regions_` and `data_overrides_` are
functions of the pid; a pid the map lacks has the empty vector. -/
namespace MicroSentinel

structure MemoryRegion where
  start : UInt64
  «end» : UInt64
  fileOffset : UInt64
  path : String
  perms : String
  deriving DecidableEq

structure OverrideRegion where
  start : UInt64
  «end» : UInt64
  region : MemoryRegion
  deriving DecidableEq

structure DataOverride where
  start : UInt64
  «end» : UInt64
  object : DataObject
  deriving DecidableEq

/-- The object `LookupDataOverrideLocked` returns for `addr` from an entry holding it. -/
def DataOverride.rebase (e : DataOverride) (addr : UInt64) : DataObject :=
  { e.object with base := e.start, offset := addr - e.start,
                  size := if e.end > e.start then e.end - e.start else e.object.size }

/-- The test of every lookup: `addr >= start && addr < end`. -/
def Covers (start stop addr : UInt64) : Prop := start ≤ addr ∧ addr < stop

instance (start stop addr : UInt64) : Decidable (Covers start stop addr) :=
  inferInstanceAs (Decidable (_ ∧ _))

/-- The test by which both `Register` calls drop an existing entry:
`!(existing.end <= start || existing.start >= end)`. -/
def Overlaps (existingStart existingEnd start stop : UInt64) : Prop :=
  ¬(existingEnd ≤ start ∨ existingStart ≥ stop)

instance (existingStart existingEnd start stop : UInt64) :
    Decidable (Overlaps existingStart existingEnd start stop) :=
  inferInstanceAs (Decidable (¬_))

section Ranges
variable {α : Type} (lo hi : α → UInt64)

/-- The scan of both lookups: the first entry whose range holds `addr`. -/
def firstCovering (entries : List α) (addr : UInt64) : Option α :=
  entries.find? fun e => Covers (lo e) (hi e) addr

/-- The update of both `Register` calls: the entries overlapping `[start, stop)` are erased,
then the new entry is pushed back. -/
def insertRange (entries : List α) (start stop : UInt64) (new : α) : List α :=
  entries.filter (fun e => ¬Overlaps (lo e) (hi e) start stop) ++ [new]

theorem overlaps_of_covers {lo₁ hi₁ lo₂ hi₂ addr : UInt64} (first : Covers lo₁ hi₁ addr)
    (second : Covers lo₂ hi₂ addr) : Overlaps lo₁ hi₁ lo₂ hi₂ := by
  simp only [Covers, Overlaps, ge_iff_le, u64_le, u64_lt] at *
  omega

variable {lo hi} {entries : List α} {addr : UInt64} {e : α}

theorem firstCovering_append (found : firstCovering lo hi entries addr = some e)
    (more : List α) : firstCovering lo hi (entries ++ more) addr = some e := by
  rw [firstCovering, List.find?_append, ← firstCovering, found]; rfl

theorem firstCovering_insertRange (found : firstCovering lo hi entries addr = some e)
    {start stop : UInt64} (apart : ¬Overlaps (lo e) (hi e) start stop) (new : α) :
    firstCovering lo hi (insertRange lo hi entries start stop new) addr = some e := by
  refine firstCovering_append ?_ _
  obtain ⟨holds, before, after, rfl, skipped⟩ := List.find?_eq_some.1 found
  let keep := fun x => decide ¬Overlaps (lo x) (hi x) start stop
  refine List.find?_eq_some.2 ⟨holds, before.filter keep, after.filter keep, ?_, fun x mem =>
    skipped x (List.mem_filter.1 mem).1⟩
  simp [keep, List.filter_append, apart]

theorem firstCovering_insertRange_new {start stop : UInt64} (inside : Covers start stop addr)
    {new : α} (bounds : lo new = start ∧ hi new = stop) :
    firstCovering lo hi (insertRange lo hi entries start stop new) addr = some new := by
  have gone : (entries.filter fun e => ¬Overlaps (lo e) (hi e) start stop).find?
      (fun e => Covers (lo e) (hi e) addr) = none :=
    List.find?_eq_none.2 fun x mem held => by
      simpa using of_decide_eq_true (List.mem_filter.1 mem).2 <|
        overlaps_of_covers (of_decide_eq_true held) inside
  rw [firstCovering, insertRange, List.find?_append, gone, Option.none_or]
  simp [bounds.1, bounds.2, inside]

end Ranges

/-- What the symbolizer reads outside its own state. -/
structure ProcessEnv where
  /-- The region of `/proc/<pid>/maps` holding an address, as `MapAddressLocked` finds it in
  its cached table, refreshed when older than the TTL and once more on a miss. -/
  mapRegion : UInt32 → UInt64 → Option MemoryRegion
  /-- `addr2line -C -f -e <path> 0x<rel>`: `none` when `popen` fails, else the function it
  prints and the source file and line parsed from its second line ("" and 0 when absent). -/
  addr2line : String → UInt64 → Option (String × String × Int)
  /-- `ReadComm`. -/
  readComm : UInt32 → String
  /-- `std::hash<std::string>`. -/
  hash : String → UInt64

/-- The whole `Symbolizer`: its interning tables and its overrides. -/
structure SymbolizerState where
  tables : Symbolizer
  jitRegions : UInt32 → List OverrideRegion
  dataOverrides : UInt32 → List DataOverride

namespace SymbolizerState

def empty : SymbolizerState := ⟨.empty, fun _ => [], fun _ => []⟩

/-- `LookupJitRegionLocked`: the region of the first entry of the pid holding `ip`. -/
def lookupJitRegion (s : SymbolizerState) (pid : UInt32) (ip : UInt64) : Option MemoryRegion :=
  (firstCovering (·.start) (·.end) (s.jitRegions pid) ip).map (·.region)

/-- `LookupDataOverrideLocked`: the first entry of the pid holding `addr`, rebased on it. -/
def lookupDataOverride (s : SymbolizerState) (pid : UInt32) (addr : UInt64) :
    Option DataObject :=
  (firstCovering (·.start) (·.end) (s.dataOverrides pid) addr).map (·.rebase addr)

/-- `MapAddressLocked`: a JIT region first, else the process's own mappings. -/
def mapAddress (env : ProcessEnv) (s : SymbolizerState) (pid : UInt32) (ip : UInt64) :
    Option MemoryRegion :=
  match s.lookupJitRegion pid ip with
  | some region => some region
  | none => env.mapRegion pid ip

/-- `SymbolizeAddress`: the binary is the region's path whatever `addr2line` says. -/
def symbolizeAddress (env : ProcessEnv) (region : MemoryRegion) (ip : UInt64) : CodeLocation :=
  let fallback := "0x" ++ Symbolizer.hex ip
  match env.addr2line region.path (region.fileOffset + (ip - region.start)) with
  | none => ⟨region.path, fallback, region.path, 0⟩
  | some (function, sourceFile, line) =>
    ⟨region.path, if function = "" then fallback else function,
      if sourceFile = "" then region.path else sourceFile, line⟩

def buildLocation (env : ProcessEnv) (s : SymbolizerState) (pid : UInt32) (ip : UInt64) :
    CodeLocation :=
  match s.mapAddress env pid ip with
  | some region => symbolizeAddress env region ip
  | none => ⟨env.readComm pid, "0x" ++ Symbolizer.hex ip, "<unknown>", 0⟩

/-- `data_overrides_[pid] = entries`. -/
def setDataOverrides (s : SymbolizerState) (pid : UInt32) (entries : List DataOverride) :
    SymbolizerState :=
  { s with dataOverrides := Function.update s.dataOverrides pid entries }

/-- The entries of `MaybeAutoRegisterRegionLocked`: a named, non-empty mapping that no entry
with its path already spans is appended as an anchor. -/
def maybeAutoRegisterRegion (entries : List DataOverride) (region : MemoryRegion) :
    List DataOverride :=
  if region.path = "" ∨ region.end ≤ region.start then entries
  else if entries.any fun e =>
      region.start ≥ e.start ∧ region.end ≤ e.end ∧ e.object.mapping = region.path then entries
  else entries ++ [⟨region.start, region.end, ⟨region.path, region.start, 0, region.perms,
    region.path, "mapping", region.end - region.start⟩⟩]

def resolveData (env : ProcessEnv) (s : SymbolizerState) (pid : UInt32) (addr : UInt64) :
    SymbolizerState × DataObject :=
  match s.lookupDataOverride pid addr with
  | some obj => (s, obj)
  | none =>
    match s.mapAddress env pid addr with
    | none => (s, ⟨"[unknown]", 0, addr, "", "", "", 0⟩)
    | some region =>
      let anchored := s.setDataOverrides pid (maybeAutoRegisterRegion (s.dataOverrides pid) region)
      match anchored.lookupDataOverride pid addr with
      | some obj => (anchored, obj)
      | none => (anchored, ⟨region.path, region.start, addr - region.start, region.perms, "", "", 0⟩)

/-- The environment the interning layer sees from this state. -/
def symbolEnv (env : ProcessEnv) (s : SymbolizerState) : SymbolEnv :=
  ⟨s.buildLocation env, fun pid addr => (s.resolveData env pid addr).2, env.hash⟩

def resolve (env : ProcessEnv) (s : SymbolizerState) (pid : UInt32) (ip : UInt64) :
    SymbolizerState × CodeLocation :=
  let r := s.tables.resolve (s.symbolEnv env) pid ip
  ({ s with tables := r.1 }, r.2)

def internFunction (env : ProcessEnv) (s : SymbolizerState) (pid : UInt32) (ip : UInt64) :
    SymbolizerState × UInt64 :=
  let r := s.tables.internFunction (s.symbolEnv env) pid ip
  ({ s with tables := r.1 }, r.2)

def internStack (env : ProcessEnv) (s : SymbolizerState) (pid : UInt32) (ip : UInt64)
    (lbr : LbrStack) : SymbolizerState × UInt64 :=
  let r := s.tables.internStack (s.symbolEnv env) pid ip lbr
  ({ s with tables := r.1 }, r.2)

/-- `InternDataObject`: address 0 resolves nothing; any other goes through `ResolveData`,
whose anchors stay. -/
def internDataObject (env : ProcessEnv) (s : SymbolizerState) (pid : UInt32) (addr : UInt64) :
    SymbolizerState × UInt64 :=
  let interned := s.tables.internDataObject (s.symbolEnv env) pid addr
  let resolved := if addr = 0 then s else (s.resolveData env pid addr).1
  ({ resolved with tables := interned.1 }, interned.2)

/-- The path `RegisterJitRegion` gives its region. -/
def jitPath (pid : UInt32) (path buildId : String) : String :=
  let named := if path = "" then "[jit:" ++ toString pid ++ "]" else path
  if buildId = "" then named else named ++ "#" ++ buildId

/-- `RegisterJitRegion`: an accepted range replaces the pid's entries it overlaps; the cached
locations of `intern_table_` are left as they are. -/
def registerJitRegion (s : SymbolizerState) (pid : UInt32) (start stop : UInt64)
    (path buildId : String) : SymbolizerState :=
  if pid = 0 ∨ start = 0 ∨ stop ≤ start then s
  else
    let entries := insertRange (·.start) (·.end) (s.jitRegions pid) start stop
      ⟨start, stop, ⟨start, stop, 0, jitPath pid path buildId, "r-xp"⟩⟩
    { s with jitRegions := Function.update s.jitRegions pid entries }

/-- `size ? size : 1`, the length `RegisterDataObject` gives an object. -/
def dataLength (size : UInt64) : UInt64 := if size ≠ 0 then size else 1

/-- The object `RegisterDataObject` records. -/
def registeredObject (address : UInt64) (name type : String) (size : UInt64) : DataObject :=
  ⟨if name = "" then "[user-data]" else name, address, 0, "rw-p", name, type, dataLength size⟩

/-- `RegisterDataObject`: the range `[address, address + length)` is computed in 64 bits. -/
def registerDataObject (s : SymbolizerState) (pid : UInt32) (address : UInt64)
    (name type : String) (size : UInt64) : SymbolizerState :=
  if pid = 0 ∨ address = 0 then s
  else
    s.setDataOverrides pid (insertRange (·.start) (·.end) (s.dataOverrides pid) address
      (address + dataLength size)
      ⟨address, address + dataLength size, registeredObject address name type size⟩)

/-- `DropProcess`: the pid's overrides and cached locations go. -/
def dropProcess (s : SymbolizerState) (pid : UInt32) : SymbolizerState :=
  ⟨{ s.tables with internTable := s.tables.internTable.filter fun e => e.1.1 ≠ pid },
    Function.update s.jitRegions pid [], Function.update s.dataOverrides pid []⟩

/-- The public calls of `Symbolizer`. -/
inductive Call
  | resolve (pid : UInt32) (ip : UInt64)
  | internFunction (pid : UInt32) (ip : UInt64)
  | internStack (pid : UInt32) (ip : UInt64) (lbr : LbrStack)
  | internDataObject (pid : UInt32) (addr : UInt64)
  | resolveData (pid : UInt32) (addr : UInt64)
  | consumeStacks
  | consumeDataObjects
  | dropProcess (pid : UInt32)
  | registerJitRegion (pid : UInt32) (start stop : UInt64) (path buildId : String)
  | registerDataObject (pid : UInt32) (address : UInt64) (name type : String) (size : UInt64)

def step (env : ProcessEnv) (s : SymbolizerState) : Call → SymbolizerState
  | .resolve pid ip => (s.resolve env pid ip).1
  | .internFunction pid ip => (s.internFunction env pid ip).1
  | .internStack pid ip lbr => (s.internStack env pid ip lbr).1
  | .internDataObject pid addr => (s.internDataObject env pid addr).1
  | .resolveData pid addr => (s.resolveData env pid addr).1
  | .consumeStacks => { s with tables := s.tables.consumeStacks.1 }
  | .consumeDataObjects => { s with tables := s.tables.consumeDataObjects.1 }
  | .dropProcess pid => s.dropProcess pid
  | .registerJitRegion pid start stop path buildId => s.registerJitRegion pid start stop path buildId
  | .registerDataObject pid address name type size =>
    s.registerDataObject pid address name type size

def run (env : ProcessEnv) (s : SymbolizerState) (calls : List Call) : SymbolizerState :=
  calls.foldl (step env) s

/-! ### What each call changes -/

section
variable (env : ProcessEnv) (s : SymbolizerState) (pid : UInt32)

@[simp] theorem dataOverrides_setDataOverrides (entries : List DataOverride) :
    (s.setDataOverrides pid entries).dataOverrides = Function.update s.dataOverrides pid entries :=
  rfl

theorem symbolizeAddress_binary (region : MemoryRegion) (ip : UInt64) :
    (symbolizeAddress env region ip).binary = region.path := by
  unfold symbolizeAddress; split <;> rfl

theorem maybeAutoRegisterRegion_extends (entries : List DataOverride) (region : MemoryRegion) :
    ∃ more, maybeAutoRegisterRegion entries region = entries ++ more := by
  unfold maybeAutoRegisterRegion
  split_ifs
  · exact ⟨[], (List.append_nil _).symm⟩
  · exact ⟨[], (List.append_nil _).symm⟩
  · exact ⟨_, rfl⟩

theorem mem_maybeAutoRegisterRegion {entries : List DataOverride} {region : MemoryRegion}
    {e : DataOverride} (mem : e ∈ maybeAutoRegisterRegion entries region) :
    e ∈ entries ∨ e.object.type = "mapping" := by
  unfold maybeAutoRegisterRegion at mem
  split_ifs at mem
  · exact .inl mem
  · exact .inl mem
  · rcases List.mem_append.1 mem with old | new
    · exact .inl old
    · exact .inr (by rw [List.mem_singleton.1 new])

theorem resolveData_state (addr : UInt64) :
    (s.resolveData env pid addr).1 = s ∨ ∃ region, (s.resolveData env pid addr).1 =
      s.setDataOverrides pid (maybeAutoRegisterRegion (s.dataOverrides pid) region) := by
  unfold resolveData
  split
  · exact .inl rfl
  · split
    · exact .inl rfl
    · dsimp only
      split <;> exact .inr ⟨_, rfl⟩

theorem dataOverrides_resolveData (addr : UInt64) (p : UInt32) :
    ∃ more, (s.resolveData env pid addr).1.dataOverrides p = s.dataOverrides p ++ more := by
  rcases resolveData_state env s pid addr with same | ⟨region, anchored⟩
  · exact ⟨[], by rw [same, List.append_nil]⟩
  · rw [anchored, dataOverrides_setDataOverrides]
    by_cases here : p = pid
    · subst here
      rw [Function.update_same]
      exact maybeAutoRegisterRegion_extends _ _
    · exact ⟨[], by rw [Function.update_noteq here, List.append_nil]⟩

@[simp] theorem jitRegions_resolveData (addr : UInt64) :
    (s.resolveData env pid addr).1.jitRegions = s.jitRegions := by
  rcases resolveData_state env s pid addr with same | ⟨_, anchored⟩
  · rw [same]
  · rw [anchored]; rfl

@[simp] theorem tables_resolveData (addr : UInt64) :
    (s.resolveData env pid addr).1.tables = s.tables := by
  rcases resolveData_state env s pid addr with same | ⟨_, anchored⟩
  · rw [same]
  · rw [anchored]; rfl

@[simp] theorem jitRegions_internDataObject (addr : UInt64) :
    (s.internDataObject env pid addr).1.jitRegions = s.jitRegions := by
  show (if addr = 0 then s else (s.resolveData env pid addr).1).jitRegions = _
  split_ifs <;> simp

@[simp] theorem internTable_internDataObject (addr : UInt64) :
    (s.internDataObject env pid addr).1.tables.internTable = s.tables.internTable :=
  Symbolizer.internTable_internDataObject _ _ _ _

theorem dataOverrides_internDataObject (addr : UInt64) (p : UInt32) :
    ∃ more, (s.internDataObject env pid addr).1.dataOverrides p = s.dataOverrides p ++ more := by
  show ∃ more, (if addr = 0 then s else (s.resolveData env pid addr).1).dataOverrides p = _
  split_ifs
  · exact ⟨[], (List.append_nil _).symm⟩
  · exact dataOverrides_resolveData env s pid addr p

@[simp] theorem jitRegions_registerDataObject (address : UInt64) (name type : String)
    (size : UInt64) : (s.registerDataObject pid address name type size).jitRegions = s.jitRegions := by
  unfold registerDataObject; split <;> rfl

@[simp] theorem tables_registerDataObject (address : UInt64) (name type : String)
    (size : UInt64) : (s.registerDataObject pid address name type size).tables = s.tables := by
  unfold registerDataObject; split <;> rfl

@[simp] theorem tables_registerJitRegion (start stop : UInt64) (path buildId : String) :
    (s.registerJitRegion pid start stop path buildId).tables = s.tables := by
  unfold registerJitRegion; split <;> rfl

@[simp] theorem dataOverrides_registerJitRegion (start stop : UInt64) (path buildId : String) :
    (s.registerJitRegion pid start stop path buildId).dataOverrides = s.dataOverrides := by
  unfold registerJitRegion; split <;> rfl

theorem buildLocation_jit {ip : UInt64} {entry : OverrideRegion}
    (found : firstCovering (·.start) (·.end) (s.jitRegions pid) ip = some entry) :
    (s.buildLocation env pid ip).binary = entry.region.path := by
  simp only [buildLocation, mapAddress, lookupJitRegion, found, Option.map_some']
  exact symbolizeAddress_binary env _ ip

end

/-! ### A registered JIT region

Once `RegisterJitRegion` has been accepted, its entry is the first of the pid holding each
address of its range until `DropProcess(pid)` or an accepted registration overlapping it. The
interning cache is another matter: a location cached for `(pid, ip)` before the registration
is returned by every later `Resolve(pid, ip)`. -/

/-- A call after which a JIT range `[start, stop)` registered for `pid` still stands. -/
def Call.KeepsJit (pid : UInt32) (start stop : UInt64) : Call → Prop
  | .dropProcess p => p ≠ pid
  | .registerJitRegion p st en _ _ => p = pid → ¬(st = 0 ∨ en ≤ st) → ¬Overlaps start stop st en
  | _ => True

/-- The entry is what `LookupJitRegionLocked` finds for `ip`, and what `intern_table_` holds
for `(pid, ip)`, if anything, names its path. -/
structure JitOverride (s : SymbolizerState) (pid : UInt32) (ip : UInt64)
    (entry : OverrideRegion) : Prop where
  found : firstCovering (·.start) (·.end) (s.jitRegions pid) ip = some entry
  cached : s.tables.Cached fun k loc => k = (pid, ip) → loc.binary = entry.region.path

namespace JitOverride

variable {env : ProcessEnv} {s : SymbolizerState} {pid : UInt32} {ip : UInt64}
  {entry : OverrideRegion}

theorem built (inv : JitOverride s pid ip entry) (p : UInt32) (i : UInt64) :
    (p, i) = (pid, ip) → ((s.symbolEnv env).buildLocation p i).binary = entry.region.path := by
  intro same
  cases same
  exact buildLocation_jit env s pid inv.found

theorem resolve (inv : JitOverride s pid ip entry) :
    (s.resolve env pid ip).2.binary = entry.region.path :=
  (inv.cached.resolve inv.built pid ip).2 rfl

theorem step (inv : JitOverride s pid ip entry) (c : Call)
    (keeps : c.KeepsJit pid entry.start entry.end) : JitOverride (step env s c) pid ip entry := by
  cases c with
  | resolve p i => exact ⟨inv.found, (inv.cached.resolve inv.built p i).1⟩
  | internFunction p i => exact ⟨inv.found, inv.cached.internFunction inv.built p i⟩
  | internStack p i lbr => exact ⟨inv.found, inv.cached.internStack inv.built p i lbr⟩
  | internDataObject p a =>
    refine ⟨by simpa [SymbolizerState.step] using inv.found, fun e mem => inv.cached e ?_⟩
    simpa [SymbolizerState.step, Symbolizer.Cached] using mem
  | resolveData p a =>
    exact ⟨by simpa [SymbolizerState.step] using inv.found,
      by simpa [SymbolizerState.step] using inv.cached⟩
  | consumeStacks => exact ⟨inv.found, inv.cached⟩
  | consumeDataObjects => exact ⟨inv.found, inv.cached⟩
  | dropProcess p =>
    refine ⟨?_, fun e mem => inv.cached e (List.mem_filter.1 mem).1⟩
    simpa [SymbolizerState.step, dropProcess, Function.update_noteq (Ne.symm keeps)] using inv.found
  | registerJitRegion p st en path buildId =>
    simp only [SymbolizerState.step, registerJitRegion]
    split_ifs with rejected
    · exact inv
    refine ⟨?_, inv.cached⟩
    dsimp only
    by_cases here : pid = p
    · subst here
      rw [Function.update_same]
      exact firstCovering_insertRange inv.found (keeps rfl (by tauto)) _
    · simpa [Function.update_noteq here] using inv.found
  | registerDataObject p a name type size =>
    exact ⟨by simpa [SymbolizerState.step] using inv.found,
      by simpa [SymbolizerState.step] using inv.cached⟩

theorem run (inv : JitOverride s pid ip entry) (calls : List Call)
    (keeps : ∀ c ∈ calls, c.KeepsJit pid entry.start entry.end) :
    JitOverride (run env s calls) pid ip entry := by
  induction calls generalizing s with
  | nil => exact inv
  | cons c calls ih =>
    exact ih (inv.step c (keeps c (List.mem_cons_self c calls)))
      fun c' mem => keeps c' (List.mem_cons_of_mem c mem)

theorem register {start stop : UInt64} (accepted : pid ≠ 0 ∧ start ≠ 0 ∧ start < stop) (inside : Covers start stop ip)
    (path buildId : String)
    (fresh : ∀ loc, ((pid, ip), loc) ∈ s.tables.internTable → loc.binary = jitPath pid path buildId) :
    JitOverride (s.registerJitRegion pid start stop path buildId) pid ip
      ⟨start, stop, ⟨start, stop, 0, jitPath pid path buildId, "r-xp"⟩⟩ := by
  have taken : ¬(pid = 0 ∨ start = 0 ∨ stop ≤ start) := by
    simp only [u64_le, u64_lt, not_or] at accepted ⊢
    exact ⟨accepted.1, accepted.2.1, by omega⟩
  simp only [registerJitRegion, if_neg taken]
  refine ⟨?_, fun e mem same => ?_⟩
  · dsimp only
    rw [Function.update_same]
    exact firstCovering_insertRange_new inside ⟨rfl, rfl⟩
  · obtain ⟨⟨p, i⟩, loc⟩ := e
    cases same
    exact fresh loc mem

end JitOverride

theorem resolve_registerJitRegion_of_cached (env : ProcessEnv) {s : SymbolizerState}
    {pid : UInt32} {ip : UInt64} {loc : CodeLocation}
    (cached : s.tables.internTable.lookup (pid, ip) = some loc) (p : UInt32) (start stop : UInt64)
    (path buildId : String) :
    ((s.registerJitRegion p start stop path buildId).resolve env pid ip).2 = loc := by
  simp only [SymbolizerState.resolve, Symbolizer.resolve, tables_registerJitRegion, cached]

/-- The registered path wins over every earlier resolution of an address that was not cached
before the registration under another path. -/
theorem resolve_after_registerJitRegion (env : ProcessEnv) (s : SymbolizerState) {pid : UInt32}
    {start stop ip : UInt64} (path buildId : String) (calls : List Call)
    (accepted : pid ≠ 0 ∧ start ≠ 0 ∧ start < stop) (inside : Covers start stop ip)
    (fresh : ∀ loc, ((pid, ip), loc) ∈ s.tables.internTable → loc.binary = jitPath pid path buildId)
    (keeps : ∀ c ∈ calls, c.KeepsJit pid start stop) :
    ((run env (s.registerJitRegion pid start stop path buildId) calls).resolve env pid ip).2.binary =
      jitPath pid path buildId :=
  ((JitOverride.register accepted inside path buildId fresh).run calls keeps).resolve

theorem resolve_after_registerJitRegion_dropOther :
    let env : ProcessEnv := ⟨fun _ _ => none, fun _ _ => none, fun _ => "app", fun _ => 1⟩
    ((run env (empty.registerJitRegion 7 4096 8192 "" "") [.resolve 7 4096, .dropProcess 8]).resolve
      env 7 4096).2.binary = jitPath 7 "" "" :=
  resolve_after_registerJitRegion _ _ "" "" _ (by decide) (by decide) (fun _ mem => nomatch mem)
    (by simp [Call.KeepsJit])

/-! ### A registered data object

After an accepted `RegisterDataObject`, its entry is the first of the pid holding each address
of its 64-bit range until `DropProcess(pid)` or an accepted registration overlapping it; the
anchors `ResolveData` adds come after it. When `address + length` does not wrap, that range
is every address of the object. -/

/-- A call after which a data range `[start, stop)` registered for `pid` still stands. -/
def Call.KeepsData (pid : UInt32) (start stop : UInt64) : Call → Prop
  | .dropProcess p => p ≠ pid
  | .registerDataObject p a _ _ size => p = pid → a ≠ 0 → ¬Overlaps start stop a (a + dataLength size)
  | _ => True

/-- The pid's first data entry holding `addr`, as `LookupDataOverrideLocked` finds it. -/
def DataOverrideAt (s : SymbolizerState) (pid : UInt32) (addr : UInt64) (entry : DataOverride) :
    Prop :=
  firstCovering (·.start) (·.end) (s.dataOverrides pid) addr = some entry

namespace DataOverrideAt

variable {env : ProcessEnv} {s : SymbolizerState} {pid : UInt32} {addr : UInt64}
  {entry : DataOverride}

theorem resolveData (found : DataOverrideAt s pid addr entry) :
    (s.resolveData env pid addr).2 = entry.rebase addr := by
  simp only [SymbolizerState.resolveData, lookupDataOverride, show firstCovering _ _ _ _ = _ from found,
    Option.map_some']

theorem step (found : DataOverrideAt s pid addr entry) (c : Call)
    (keeps : c.KeepsData pid entry.start entry.end) : DataOverrideAt (step env s c) pid addr entry := by
  unfold DataOverrideAt at found ⊢
  cases c with
  | resolve => exact found
  | internFunction => exact found
  | internStack => exact found
  | consumeStacks => exact found
  | consumeDataObjects => exact found
  | registerJitRegion => simpa [SymbolizerState.step] using found
  | internDataObject p a =>
    obtain ⟨more, grown⟩ := dataOverrides_internDataObject env s p a pid
    rw [SymbolizerState.step, grown]
    exact firstCovering_append found more
  | resolveData p a =>
    obtain ⟨more, grown⟩ := dataOverrides_resolveData env s p a pid
    rw [SymbolizerState.step, grown]
    exact firstCovering_append found more
  | dropProcess p =>
    simpa [SymbolizerState.step, dropProcess, Function.update_noteq (Ne.symm keeps)] using found
  | registerDataObject p a name type size =>
    simp only [SymbolizerState.step, registerDataObject]
    by_cases rejected : p = 0 ∨ a = 0
    · rwa [if_pos rejected]
    rw [if_neg rejected, dataOverrides_setDataOverrides]
    by_cases here : pid = p
    · subst here
      rw [Function.update_same]
      exact firstCovering_insertRange found (keeps rfl (by tauto)) _
    · rwa [Function.update_noteq here]

theorem run (found : DataOverrideAt s pid addr entry) (calls : List Call)
    (keeps : ∀ c ∈ calls, c.KeepsData pid entry.start entry.end) :
    DataOverrideAt (run env s calls) pid addr entry := by
  induction calls generalizing s with
  | nil => exact found
  | cons c calls ih =>
    exact ih (found.step c (keeps c (List.mem_cons_self c calls)))
      fun c' mem => keeps c' (List.mem_cons_of_mem c mem)

theorem register {address : UInt64} (accepted : pid ≠ 0 ∧ address ≠ 0) (name type : String)
    (size : UInt64) (inside : Covers address (address + dataLength size) addr) :
    DataOverrideAt (s.registerDataObject pid address name type size) pid addr
      ⟨address, address + dataLength size, registeredObject address name type size⟩ := by
  rw [DataOverrideAt, registerDataObject, if_neg (by tauto), dataOverrides_setDataOverrides,
    Function.update_same]
  exact firstCovering_insertRange_new inside ⟨rfl, rfl⟩

end DataOverrideAt

theorem dataLength_pos (size : UInt64) : 0 < (dataLength size).toNat := by
  unfold dataLength
  split_ifs with nonzero
  · exact Nat.pos_of_ne_zero (mt (u64_eq (b := 0)).2 nonzero)
  · decide

/-- Without wrap-around, `ResolveData` returns the registered object at every address of its
extent, whatever anchors were added and calls made since. -/
theorem resolveData_after_registerDataObject (env : ProcessEnv) (s : SymbolizerState)
    {pid : UInt32} {address x : UInt64} (name type : String) (size : UInt64) (calls : List Call)
    (accepted : pid ≠ 0 ∧ address ≠ 0)
    (noWrap : address.toNat + (dataLength size).toNat < 2 ^ 64)
    (inside : address.toNat ≤ x.toNat ∧ x.toNat < address.toNat + (dataLength size).toNat)
    (keeps : ∀ c ∈ calls, c.KeepsData pid address (address + dataLength size)) :
    ((run env (s.registerDataObject pid address name type size) calls).resolveData env pid x).2 =
      { registeredObject address name type size with offset := x - address } := by
  have stop : (address + dataLength size).toNat = address.toNat + (dataLength size).toNat :=
    Nat.mod_eq_of_lt noWrap
  have covers : Covers address (address + dataLength size) x := by
    simp only [Covers, u64_le, u64_lt, stop]; omega
  have length : address + dataLength size - address = dataLength size := by
    rw [u64_eq, UInt64.toNat_sub_of_le _ _ (by rw [u64_le, stop]; omega), stop]; omega
  have grows : address + dataLength size > address := by
    rw [gt_iff_lt, u64_lt, stop]; have := dataLength_pos size; omega
  rw [((DataOverrideAt.register accepted name type size covers).run calls keeps).resolveData]
  simp only [DataOverride.rebase, if_pos grows, length]
  rfl

theorem resolveData_after_registerDataObject_inside :
    let env : ProcessEnv := ⟨fun _ _ => none, fun _ _ => none, fun _ => "app", fun _ => 1⟩
    ((run env (empty.registerDataObject 7 4096 "buf" "char" 64)
      [.resolveData 7 4100, .dropProcess 8]).resolveData env 7 4100).2 =
      { registeredObject 4096 "buf" "char" 64 with offset := 4100 - 4096 } :=
  resolveData_after_registerDataObject _ _ "buf" "char" 64 _ (by decide) (by decide) (by decide)
    (by simp [Call.KeepsData])

end SymbolizerState

open SymbolizerState in
/-- A location resolved before the JIT region is registered stays in `intern_table_`, and
`Resolve` keeps returning it. -/
theorem jit_override_hidden_by_cache :
    let env : ProcessEnv := ⟨fun _ _ => none, fun _ _ => none, fun _ => "app", fun _ => 1⟩
    let s := run env empty [.resolve 7 4096, .registerJitRegion 7 4096 8192 "" ""]
    (s.buildLocation env 7 4096).binary = "[jit:7]" ∧ (s.resolve env 7 4096).2.binary = "app" := by
  decide

open SymbolizerState in
/-- `address + length` wraps to 0 for an object in the last byte of the address space. No
address lies in `[address, 0)`, so `ResolveData` falls back to the anchor of a mapping or to
an unknown object, whatever the process maps there. -/
theorem data_object_end_wraps (env : ProcessEnv) :
    let s := registerDataObject empty 7 18446744073709551615 "buf" "char" 1
    s.dataOverrides 7 = [⟨18446744073709551615, 0, registeredObject 18446744073709551615 "buf" "char" 1⟩] ∧
      (s.resolveData env 7 18446744073709551615).2.type ≠ "char" := by
  intro s
  have entries : s.dataOverrides 7 =
      [⟨18446744073709551615, 0, registeredObject 18446744073709551615 "buf" "char" 1⟩] := by
    decide
  have missed : s.lookupDataOverride 7 18446744073709551615 = none := by decide
  refine ⟨entries, ?_⟩
  simp only [resolveData, missed]
  split
  · decide
  · split
    · rename_i obj found
      simp only [lookupDataOverride, Option.map_eq_some'] at found
      obtain ⟨e, first, rfl⟩ := found
      have mem := List.mem_of_find?_eq_some first
      simp only [dataOverrides_setDataOverrides, Function.update_same] at mem
      rcases mem_maybeAutoRegisterRegion mem with ours | anchor
      · rw [entries, List.mem_singleton] at ours
        subst ours
        exact absurd (List.find?_some first) (by decide)
      · simp [DataOverride.rebase, anchor]
    · show "" ≠ "char"
      decide

end MicroSentinel
