import MicroSentinel.Types

/-! `Symbolizer` (`symbolizer.cpp`), its interning layer: `Resolve` with its
`intern_table_` cache, the stack and data-object tables with their dirty lists, and
the drains the flush cycle calls. What lies outside the process (`BuildLocation`
reading `/proc` and running `addr2line`, `ResolveData`, `std::hash`) is the
environment `SymbolEnv`. -/
namespace MicroSentinel

structure CodeLocation where
  binary : String
  function : String
  sourceFile : String
  line : Int
  deriving DecidableEq

structure StackTrace where
  id : UInt64
  frames : List CodeLocation
  deriving DecidableEq

structure DataObject where
  mapping : String
  base : UInt64
  offset : UInt64
  permissions : String
  name : String
  type : String
  size : UInt64
  deriving DecidableEq

structure DataSymbol where
  id : UInt64
  object : DataObject
  deriving DecidableEq

/-- The symbolizer's view of the world outside its tables, as one call sees it. -/
structure SymbolEnv where
  /-- `BuildLocation(pid, ip)`. -/
  buildLocation : UInt32 → UInt64 → CodeLocation
  /-- `ResolveData(pid, addr)`. -/
  resolveData : UInt32 → UInt64 → DataObject
  /-- `std::hash<std::string>`. -/
  hash : String → UInt64

theorem lookup_cons_ite {α β : Type} [DecidableEq α] (a k : α) (b : β) (es : List (α × β)) :
    ((k, b) :: es).lookup a = if a = k then some b else es.lookup a := by
  by_cases h : a = k
  · simp [h]
  · simp [List.lookup_cons, h, beq_eq_false_iff_ne.mpr h]

theorem mem_of_lookup {α β : Type} [BEq α] [LawfulBEq α] {t : List (α × β)} {k : α} {v : β}
    (found : t.lookup k = some v) : (k, v) ∈ t := by
  obtain ⟨l₁, l₂, rfl, -⟩ := List.lookup_eq_some_iff.mp found
  simp

/-- An id-keyed `unordered_map` with the list of ids inserted since the last drain
(`stack_table_` with `dirty_stacks_`, `data_table_` with `dirty_data_`). -/
structure Interned (α : Type) where
  entries : List (UInt64 × α)
  dirty : List UInt64

namespace Interned

variable {α : Type}

def empty : Interned α := ⟨[], []⟩

/-- `try_emplace(id)`: a new id gets its value and is queued as dirty; a known id
changes nothing. -/
def tryEmplace (t : Interned α) (id : UInt64) (v : α) : Interned α :=
  match t.entries.lookup id with
  | some _ => t
  | none => ⟨t.entries ++ [(id, v)], t.dirty ++ [id]⟩

/-- The entries of the dirty ids, in dirty order, as `ConsumeStacks` and
`ConsumeDataObjects` collect them. -/
def pending (t : Interned α) : List α := t.dirty.filterMap t.entries.lookup

end Interned

structure Symbolizer where
  internTable : List ((UInt32 × UInt64) × CodeLocation)
  stackTable : Interned StackTrace
  dataTable : Interned DataSymbol

namespace Symbolizer

def empty : Symbolizer := ⟨[], .empty, .empty⟩

/-- `Resolve`: the cached location, or a freshly built one, cached by `try_emplace`. -/
def resolve (env : SymbolEnv) (s : Symbolizer) (pid : UInt32) (ip : UInt64) :
    Symbolizer × CodeLocation :=
  match s.internTable.lookup (pid, ip) with
  | some loc => (s, loc)
  | none =>
    let loc := env.buildLocation pid ip
    ({ s with internTable := s.internTable ++ [((pid, ip), loc)] }, loc)

/-- `HashString`: the digest, or the non-zero fallback when it is 0. -/
def hashString (env : SymbolEnv) (data : String) (fallback : UInt64) : UInt64 :=
  if env.hash data ≠ 0 then env.hash data else if fallback ≠ 0 then fallback else 1

/-- `binary|function|source_file:line`, as `InternFunction` and `InternStack` print a frame. -/
def render (loc : CodeLocation) : String :=
  loc.binary ++ "|" ++ loc.function ++ "|" ++ loc.sourceFile ++ ":" ++ toString loc.line

def internFunction (env : SymbolEnv) (s : Symbolizer) (pid : UInt32) (ip : UInt64) :
    Symbolizer × UInt64 :=
  ((s.resolve env pid ip).1, hashString env (render (s.resolve env pid ip).2) ip)

/-- The frames of `InternStack`: the sample's own `ip`, then every branch source that is
not 0, each through `Resolve`. -/
def resolveFrames (env : SymbolEnv) (s : Symbolizer) (pid : UInt32) :
    List UInt64 → Symbolizer × List CodeLocation
  | [] => (s, [])
  | ip :: ips =>
    let first := s.resolve env pid ip
    let rest := resolveFrames env first.1 pid ips
    (rest.1, first.2 :: rest.2)

def internStack (env : SymbolEnv) (s : Symbolizer) (pid : UInt32) (ip : UInt64)
    (lbr : LbrStack) : Symbolizer × UInt64 :=
  let frames := resolveFrames env s pid (ip :: (lbr.filter (·.fromAddr ≠ 0)).map (·.fromAddr))
  let stackId := hashString env (String.join (frames.2.map fun f => render f ++ ";")) ip
  ({ frames.1 with stackTable := frames.1.stackTable.tryEmplace stackId ⟨stackId, frames.2⟩ }, stackId)

/-- Lower-case hexadecimal, as `std::hex` prints it. -/
def hex (n : UInt64) : String := String.mk (Nat.toDigits 16 n.toNat)

def internDataObject (env : SymbolEnv) (s : Symbolizer) (pid : UInt32) (addr : UInt64) :
    Symbolizer × UInt64 :=
  if addr = 0 then (s, 0)
  else
    let obj := env.resolveData pid addr
    let id := hashString env (obj.mapping ++ "|" ++ obj.permissions ++ "|" ++ hex obj.base) addr
    ({ s with dataTable := s.dataTable.tryEmplace id ⟨id, obj⟩ }, id)

/-- `ConsumeStacks`: the traces interned since the last call, in interning order. -/
def consumeStacks (s : Symbolizer) : Symbolizer × List StackTrace :=
  ({ s with stackTable := { s.stackTable with dirty := [] } }, s.stackTable.pending)

def consumeDataObjects (s : Symbolizer) : Symbolizer × List DataSymbol :=
  ({ s with dataTable := { s.dataTable with dirty := [] } }, s.dataTable.pending)

/-! Frame lemmas: resolving a location touches only the location cache. -/

@[simp] theorem stacks_resolve (env : SymbolEnv) (s : Symbolizer) (pid : UInt32) (ip : UInt64) :
    (s.resolve env pid ip).1.stackTable = s.stackTable := by
  unfold resolve; split <;> rfl

@[simp] theorem dataTable_resolve (env : SymbolEnv) (s : Symbolizer) (pid : UInt32) (ip : UInt64) :
    (s.resolve env pid ip).1.dataTable = s.dataTable := by
  unfold resolve; split <;> rfl

@[simp] theorem stacks_resolveFrames (env : SymbolEnv) (s : Symbolizer) (pid : UInt32)
    (ips : List UInt64) : (resolveFrames env s pid ips).1.stackTable = s.stackTable := by
  induction ips generalizing s <;> simp [resolveFrames, *]

@[simp] theorem dataTable_resolveFrames (env : SymbolEnv) (s : Symbolizer) (pid : UInt32)
    (ips : List UInt64) : (resolveFrames env s pid ips).1.dataTable = s.dataTable := by
  induction ips generalizing s <;> simp [resolveFrames, *]

theorem length_resolveFrames (env : SymbolEnv) (s : Symbolizer) (pid : UInt32)
    (ips : List UInt64) : (resolveFrames env s pid ips).2.length = ips.length := by
  induction ips generalizing s <;> simp [resolveFrames, *]

@[simp] theorem stacks_internFunction (env : SymbolEnv) (s : Symbolizer) (pid : UInt32)
    (ip : UInt64) : (s.internFunction env pid ip).1.stackTable = s.stackTable := by
  simp [internFunction]

@[simp] theorem dataTable_internFunction (env : SymbolEnv) (s : Symbolizer) (pid : UInt32)
    (ip : UInt64) : (s.internFunction env pid ip).1.dataTable = s.dataTable := by
  simp [internFunction]

@[simp] theorem dataTable_internStack (env : SymbolEnv) (s : Symbolizer) (pid : UInt32)
    (ip : UInt64) (lbr : LbrStack) : (s.internStack env pid ip lbr).1.dataTable = s.dataTable := by
  simp [internStack]

@[simp] theorem stacks_internDataObject (env : SymbolEnv) (s : Symbolizer) (pid : UInt32)
    (addr : UInt64) : (s.internDataObject env pid addr).1.stackTable = s.stackTable := by
  unfold internDataObject; split <;> rfl

theorem hashString_ne_zero (env : SymbolEnv) (data : String) (fallback : UInt64) :
    hashString env data fallback ≠ 0 := by
  unfold hashString; split_ifs <;> simp_all

theorem internStack_stacks (env : SymbolEnv) (s : Symbolizer) (pid : UInt32) (ip : UInt64)
    (lbr : LbrStack) : ∃ frames : List CodeLocation, frames ≠ [] ∧
      (s.internStack env pid ip lbr).1.stackTable = s.stackTable.tryEmplace
        (s.internStack env pid ip lbr).2 ⟨(s.internStack env pid ip lbr).2, frames⟩ := by
  refine ⟨(resolveFrames env s pid (ip :: (lbr.filter (·.fromAddr ≠ 0)).map (·.fromAddr))).2,
    ?_, by simp [internStack]⟩
  rw [← List.length_pos, length_resolveFrames]
  simp

theorem internDataObject_data (env : SymbolEnv) (s : Symbolizer) (pid : UInt32)
    (addr : UInt64) :
    (addr = 0 ∧ s.internDataObject env pid addr = (s, 0)) ∨
      ∃ obj, (s.internDataObject env pid addr).1.dataTable = s.dataTable.tryEmplace
        (s.internDataObject env pid addr).2 ⟨(s.internDataObject env pid addr).2, obj⟩ := by
  unfold internDataObject
  split
  · exact .inl ⟨‹_›, rfl⟩
  · exact .inr ⟨_, rfl⟩

theorem internDataObject_ne_zero (env : SymbolEnv) (s : Symbolizer) (pid : UInt32)
    (addr : UInt64) (nonzero : addr ≠ 0) : (s.internDataObject env pid addr).2 ≠ 0 := by
  simp only [internDataObject, nonzero, if_false]
  exact hashString_ne_zero _ _ _

/-! What `intern_table_` holds: every location cached under a key has a property of that key
that every location `BuildLocation` makes has. -/

section
variable (good : UInt32 × UInt64 → CodeLocation → Prop) (env : SymbolEnv)

def Cached (s : Symbolizer) : Prop := ∀ e ∈ s.internTable, good e.1 e.2

variable {good env} (built : ∀ pid ip, good (pid, ip) (env.buildLocation pid ip))
include built

theorem Cached.resolve {s : Symbolizer} (cached : Cached good s) (pid : UInt32) (ip : UInt64) :
    Cached good (s.resolve env pid ip).1 ∧ good (pid, ip) (s.resolve env pid ip).2 := by
  unfold Symbolizer.resolve
  split
  · exact ⟨cached, cached _ (mem_of_lookup ‹_›)⟩
  · refine ⟨fun e mem => ?_, built pid ip⟩
    rcases List.mem_append.1 mem with old | new
    · exact cached e old
    · rw [List.mem_singleton.1 new]; exact built pid ip

theorem Cached.resolveFrames {s : Symbolizer} (cached : Cached good s) (pid : UInt32)
    (ips : List UInt64) : Cached good (resolveFrames env s pid ips).1 := by
  induction ips generalizing s with
  | nil => exact cached
  | cons ip ips ih => exact ih (cached.resolve built pid ip).1

theorem Cached.internFunction {s : Symbolizer} (cached : Cached good s) (pid : UInt32)
    (ip : UInt64) : Cached good (s.internFunction env pid ip).1 :=
  (cached.resolve built pid ip).1

theorem Cached.internStack {s : Symbolizer} (cached : Cached good s) (pid : UInt32) (ip : UInt64)
    (lbr : LbrStack) : Cached good (s.internStack env pid ip lbr).1 :=
  cached.resolveFrames built pid _

end

theorem internTable_internDataObject (env : SymbolEnv) (s : Symbolizer) (pid : UInt32)
    (addr : UInt64) : (s.internDataObject env pid addr).1.internTable = s.internTable := by
  unfold internDataObject; split <;> rfl

end Symbolizer

/-! What the sink has been sent of an interned table. -/

namespace Interned

variable {α : Type} (id : α → UInt64) (keep : α → Prop)

/-- Every key has been sent or is dirty, in interning order; keys are distinct; each
entry carries its key as its id and passes the sink's filter `keep`. -/
structure Exported (t : Interned α) (sent : List UInt64) : Prop where
  keys : t.entries.map Prod.fst = sent ++ t.dirty
  nodup : (t.entries.map Prod.fst).Nodup
  ids : ∀ p ∈ t.entries, id p.2 = p.1 ∧ keep p.2

theorem exported_empty : Exported id keep (empty : Interned α) [] :=
  ⟨rfl, List.nodup_nil, by simp [empty]⟩

theorem mem_keys_tryEmplace {t : Interned α} {k x : UInt64} {v : α} :
    x ∈ (t.tryEmplace k v).entries.map Prod.fst ↔ x = k ∨ x ∈ t.entries.map Prod.fst := by
  unfold Interned.tryEmplace
  split
  · rename_i found
    have known : k ∈ t.entries.map Prod.fst := List.mem_map_of_mem _ (mem_of_lookup found)
    exact ⟨.inr, fun h => h.elim (· ▸ known) id⟩
  · simp [or_comm]

theorem Exported.tryEmplace {t : Interned α} {sent : List UInt64} (inv : Exported id keep t sent)
    (k : UInt64) (v : α) (own : id v = k) (kept : keep v) :
    Exported id keep (t.tryEmplace k v) sent := by
  unfold Interned.tryEmplace
  split
  · exact inv
  · rename_i fresh
    have absent : ∀ v', (k, v') ∉ t.entries := fun v' mem => by
      simpa using List.lookup_eq_none_iff.mp fresh _ mem
    refine ⟨by simp [inv.keys], ?_, ?_⟩
    · simpa [List.nodup_append] using ⟨inv.nodup, absent⟩
    · simp only [List.mem_append, List.mem_singleton]
      rintro p (mem | rfl)
      · exact inv.ids p mem
      · exact ⟨own, kept⟩

theorem map_filterMap_lookup {t : List (UInt64 × α)} (ids : ∀ p ∈ t, id p.2 = p.1 ∧ keep p.2)
    (ks : List UInt64) (listed : ∀ k ∈ ks, k ∈ t.map Prod.fst) :
    (ks.filterMap t.lookup).map id = ks ∧ ∀ x ∈ ks.filterMap t.lookup, keep x := by
  induction ks with
  | nil => simp
  | cons k ks ih =>
    obtain ⟨p, mem, rfl⟩ := List.mem_map.mp (listed k (List.mem_cons_self k ks))
    obtain ⟨v, found⟩ : ∃ v, t.lookup p.1 = some v :=
      Option.isSome_iff_exists.mp (List.lookup_isSome_iff.mpr ⟨p, mem, by simp⟩)
    have entry := ids _ (mem_of_lookup found)
    obtain ⟨rest, kept⟩ := ih fun k mem => listed k (List.mem_cons_of_mem _ mem)
    simp only [List.filterMap_cons, found, List.map_cons, entry.1, rest, List.mem_cons,
      forall_eq_or_imp, true_and]
    exact ⟨entry.2, kept⟩

theorem Exported.pending {t : Interned α} {sent : List UInt64} (inv : Exported id keep t sent) :
    (t.pending.map id = t.dirty ∧ ∀ x ∈ t.pending, keep x) ∧
      Exported id keep ⟨t.entries, []⟩ (sent ++ t.dirty) :=
  ⟨map_filterMap_lookup id keep inv.ids _ fun k mem => by simp [inv.keys, mem],
    ⟨by simp [inv.keys], inv.nodup, inv.ids⟩⟩

end Interned

end MicroSentinel
