import MicroSentinel.Symbolizer
import MicroSentinel.Config
import Mathlib.Algebra.Order.Field.Rat
import Mathlib.Algebra.BigOperators.Group.List

/-! `Aggregator` (`aggregator.cpp`): samples folded into per-key rollups between
flushes, with the whole table shed when it outgrows `max_entries`. The
`unordered_map` is an association list in insertion order, which is also the order
`Flush` hands the entries over in. Weights are exact rationals. -/
namespace MicroSentinel

/-- `InterferenceClass`, an `enum class : uint8_t`. -/
inductive InterferenceClass where
  | dataPath
  | controlPath
  | executionResource
  | topologyInterconnect
  | unknown
  deriving DecidableEq, Repr

def InterferenceClass.code : InterferenceClass → UInt8
  | dataPath => 0
  | controlPath => 1
  | executionResource => 2
  | topologyInterconnect => 3
  | unknown => 255

def classifyEvent (evt : UInt32) : InterferenceClass :=
  if evt = msEvtL3Miss then .dataPath
  else if evt = msEvtBranchMispred ∨ evt = msEvtIcacheStall then .controlPath
  else if evt = msEvtAvxDownclock ∨ evt = msEvtStallBackend then .executionResource
  else if evt = msEvtXsnpHitm ∨ evt = msEvtRemoteDram then .topologyInterconnect
  else .unknown

structure AggregationKey where
  flowId : UInt64
  functionHash : UInt64
  callstackId : UInt64
  dataObjectId : UInt64
  pmuEvent : UInt32
  numaNode : UInt16
  interferenceClass : UInt8
  direction : UInt8
  bucket : UInt64
  deriving DecidableEq, Repr

structure AggregatedValue where
  samples : UInt64
  normCost : ℚ
  deriving DecidableEq

/-- A symbol environment that resolves every address to empty names. -/
def blankEnv : SymbolEnv :=
  ⟨fun _ _ => ⟨"", "", "", 0⟩, fun _ _ => ⟨"", 0, 0, "", "", "", 0⟩, fun _ => 0⟩

/-- The aggregator with the state `Flush` and `AddSample` share; the symbolizer it
interns through is passed in, as the runtime owns it. -/
structure Aggregator where
  cfg : AggregatorConfig
  table : List (AggregationKey × AggregatedValue)
  sampleScale : ℚ

namespace Aggregator

def new (cfg : AggregatorConfig) : Aggregator := ⟨cfg, [], 1⟩

def setSampleScale (agg : Aggregator) (scale : ℚ) : Aggregator :=
  { agg with sampleScale := if scale ≤ 0 then 1 else scale }

def bucketize (agg : Aggregator) (tsc : UInt64) : UInt64 :=
  if agg.cfg.timeWindowNs = 0 then tsc else tsc / agg.cfg.timeWindowNs

/-! The interning helpers, through the attached symbolizer or without one. -/

def internFunction (env : SymbolEnv) : Option Symbolizer → UInt32 → UInt64 →
    Option Symbolizer × UInt64
  | none, _, ip => (none, ip)
  | some s, pid, ip => ((s.internFunction env pid ip).1, (s.internFunction env pid ip).2)

def internCallstack (env : SymbolEnv) : Option Symbolizer → UInt32 → UInt64 → LbrStack →
    Option Symbolizer × UInt64
  | none, _, ip, _ => (none, ip)
  | some s, pid, ip, lbr => ((s.internStack env pid ip lbr).1, (s.internStack env pid ip lbr).2)

def internDataObject (env : SymbolEnv) : Option Symbolizer → UInt32 → UInt64 →
    Option Symbolizer × UInt64
  | none, _, _ => (none, 0)
  | some s, pid, addr =>
    if addr = 0 then (some s, 0)
    else ((s.internDataObject env pid addr).1, (s.internDataObject env pid addr).2)

def eventClass (pmuEvent : UInt32) : UInt8 := (classifyEvent pmuEvent).code

/-- The key `AddSample` builds, with the symbolizer as interning leaves it. -/
def aggregationKey (agg : Aggregator) (env : SymbolEnv) (sym : Option Symbolizer)
    (sample : Sample) (lbr : LbrStack) : Option Symbolizer × AggregationKey :=
  let fn := internFunction env sym sample.pid sample.ip
  let cs := internCallstack env fn.1 sample.pid sample.ip lbr
  let dobj := internDataObject env cs.1 sample.pid sample.dataAddr
  (dobj.1, { flowId := sample.flowId, functionHash := fn.2, callstackId := cs.2,
             dataObjectId := dobj.2, pmuEvent := sample.pmuEvent, numaNode := sample.numaNode,
             interferenceClass := eventClass sample.pmuEvent, direction := sample.direction,
             bucket := agg.bucketize sample.tsc })

/-- The sample's weight: the scale, shared among the segments of a GSO packet. -/
def weight (agg : Aggregator) (sample : Sample) : ℚ :=
  if sample.gsoSegs > 1 then agg.sampleScale / sample.gsoSegs.toNat else agg.sampleScale

/-- `table_[key]` and the two increments; a missing key starts from `{0, 0.0}`. -/
def upsert : List (AggregationKey × AggregatedValue) → AggregationKey → ℚ →
    List (AggregationKey × AggregatedValue)
  | [], key, w => [(key, ⟨1, w⟩)]
  | (k, v) :: rest, key, w =>
    if k = key then (k, ⟨v.samples + 1, v.normCost + w⟩) :: rest else (k, v) :: upsert rest key w

/-- The update and the overflow shed of `AddSample`. -/
def insert (agg : Aggregator) (key : AggregationKey) (w : ℚ) : Aggregator :=
  { agg with table := if (upsert agg.table key w).length > agg.cfg.maxEntries then []
                      else upsert agg.table key w }

def addSample (agg : Aggregator) (env : SymbolEnv) (sym : Option Symbolizer) (sample : Sample)
    (lbr : LbrStack) : Option Symbolizer × Aggregator :=
  ((agg.aggregationKey env sym sample lbr).1,
    agg.insert (agg.aggregationKey env sym sample lbr).2 (agg.weight sample))

/-- `Flush`: the emptied aggregator, the entries handed to the callback, and the `size_t`
sum of the samples they hold. -/
def flush (agg : Aggregator) : Aggregator × List (AggregationKey × AggregatedValue) × UInt64 :=
  ({ agg with table := [] }, agg.table, agg.table.foldl (fun emitted kv => emitted + kv.2.samples) 0)

@[simp] theorem cfg_insert (agg : Aggregator) (key : AggregationKey) (w : ℚ) :
    (agg.insert key w).cfg = agg.cfg := rfl

@[simp] theorem sampleScale_insert (agg : Aggregator) (key : AggregationKey) (w : ℚ) :
    (agg.insert key w).sampleScale = agg.sampleScale := rfl

theorem weight_eq (agg : Aggregator) (sample : Sample) :
    agg.weight sample = agg.sampleScale / (max sample.gsoSegs.toNat 1 : Nat) := by
  unfold weight
  split
  · rename_i many
    have : 1 < sample.gsoSegs.toNat := many
    rw [max_eq_left this.le]
  · rename_i few
    have : sample.gsoSegs.toNat ≤ 1 := Nat.not_lt.mp few
    simp [max_eq_right this]

theorem length_insert_le (agg : Aggregator) (key : AggregationKey) (w : ℚ) :
    (agg.insert key w).table.length ≤ agg.cfg.maxEntries := by
  unfold insert
  split <;> simp_all

/-! The abstract table: for every key, how many calls of the epoch carry it, as the 64-bit
counter holds it, and the sum of their weights. -/

def tally (log : List (AggregationKey × ℚ)) (key : AggregationKey) : Option AggregatedValue :=
  if log.filter (·.1 == key) = [] then none
  else some ⟨UInt64.ofNat (log.filter (·.1 == key)).length,
    ((log.filter (·.1 == key)).map (·.2)).sum⟩

/-- One more call on a rollup: a fresh key counts one call of weight `w`. -/
def bump : Option AggregatedValue → ℚ → AggregatedValue
  | none, w => ⟨1, w⟩
  | some v, w => ⟨v.samples + 1, v.normCost + w⟩

theorem lookup_upsert (t : List (AggregationKey × AggregatedValue)) (key k : AggregationKey)
    (w : ℚ) : (upsert t key w).lookup k = if k = key then some (bump (t.lookup key) w)
      else t.lookup k := by
  induction t with
  | nil => simp [upsert, bump, lookup_cons_ite]
  | cons p t ih =>
    obtain ⟨k', v⟩ := p
    by_cases same : k' = key
    · subst same
      by_cases h : k = k' <;> simp [upsert, bump, lookup_cons_ite, h]
    · by_cases h : k = k'
      · subst h; simp [upsert, same, lookup_cons_ite]
      · simp [upsert, same, lookup_cons_ite, h, ih, Ne.symm same]

theorem keys_upsert (t : List (AggregationKey × AggregatedValue)) (key : AggregationKey)
    (w : ℚ) : (upsert t key w).map Prod.fst =
      if key ∈ t.map Prod.fst then t.map Prod.fst else t.map Prod.fst ++ [key] := by
  induction t with
  | nil => simp [upsert]
  | cons p t ih =>
    obtain ⟨k', v⟩ := p
    by_cases same : k' = key
    · simp [upsert, same]
    · simp only [upsert, same, if_false, List.map_cons, ih, List.mem_cons, Ne.symm same,
        false_or]
      split <;> simp

theorem tally_append (log : List (AggregationKey × ℚ)) (key k : AggregationKey) (w : ℚ) :
    tally (log ++ [(key, w)]) k = if k = key then some (bump (tally log key) w)
      else tally log k := by
  by_cases h : k = key
  · subst h
    have grow : (log ++ [(k, w)]).filter (·.1 == k) = log.filter (·.1 == k) ++ [(k, w)] := by
      simp [List.filter_append]
    unfold tally
    by_cases empty : log.filter (·.1 == k) = [] <;> simp [grow, empty, bump, ofNat_add_one]
  · have same : (log ++ [(key, w)]).filter (·.1 == k) = log.filter (·.1 == k) := by
      simp [List.filter_append, Ne.symm h]
    simp only [tally, same, h, if_false]

/-- The table is the tally of the epoch's calls, with one entry per key. -/
structure Tallies (table : List (AggregationKey × AggregatedValue))
    (log : List (AggregationKey × ℚ)) : Prop where
  nodup : (table.map Prod.fst).Nodup
  lookup : ∀ key, table.lookup key = tally log key

theorem tallies_nil : Tallies [] [] := ⟨List.nodup_nil, fun _ => rfl⟩

theorem Tallies.upsert {table : List (AggregationKey × AggregatedValue)}
    {log : List (AggregationKey × ℚ)} (inv : Tallies table log) (key : AggregationKey) (w : ℚ) :
    Tallies (Aggregator.upsert table key w) (log ++ [(key, w)]) := by
  refine ⟨?_, fun k => by rw [lookup_upsert, tally_append, inv.lookup, inv.lookup]⟩
  rw [keys_upsert]
  split
  · exact inv.nodup
  · rename_i fresh
    simpa [List.nodup_append] using
      ⟨inv.nodup, fun v mem => fresh (List.mem_map_of_mem Prod.fst mem)⟩

theorem Tallies.entry {table : List (AggregationKey × AggregatedValue)}
    {log : List (AggregationKey × ℚ)} (inv : Tallies table log)
    {e : AggregationKey × AggregatedValue} (mem : e ∈ table) :
    1 ≤ (log.filter (·.1 == e.1)).length ∧ e.2.samples = UInt64.ofNat (log.filter (·.1 == e.1)).length ∧
      e.2.normCost = ((log.filter (·.1 == e.1)).map (·.2)).sum := by
  obtain ⟨k, v⟩ := e
  obtain ⟨l₁, l₂, rfl⟩ := List.append_of_mem mem
  have nd := inv.nodup
  rw [List.map_append, List.map_cons, List.nodup_append] at nd
  have found : (l₁ ++ (k, v) :: l₂).lookup k = some v := by
    rw [List.lookup_append, List.lookup_cons_self, List.lookup_eq_none_iff.mpr]
    · rfl
    · exact fun p mem' => bne_iff_ne.mpr fun same =>
        nd.2.2 (List.mem_map_of_mem _ mem') (same ▸ List.mem_cons_self _ _)
  rw [inv.lookup, tally] at found
  split at found
  · cases found
  · rename_i nonempty
    cases found
    exact ⟨List.length_pos.mpr nonempty, rfl, rfl⟩

theorem Tallies.mem_keys {table : List (AggregationKey × AggregatedValue)}
    {log : List (AggregationKey × ℚ)} (inv : Tallies table log) {c : AggregationKey × ℚ}
    (logged : c ∈ log) : c.1 ∈ table.map Prod.fst := by
  have listed : (table.lookup c.1).isSome := by
    rw [inv.lookup, tally, if_neg]
    · rfl
    · exact List.ne_nil_of_mem (List.mem_filter.mpr ⟨logged, by simp⟩)
  obtain ⟨p, mem, same⟩ := List.lookup_isSome_iff.mp listed
  exact List.mem_map.mpr ⟨p, mem, (beq_iff_eq.mp same).symm⟩

/-! What `AddSample` does to the table's totals and keys, and to the attached symbolizer. -/

theorem sum_toNat_upsert (t : List (AggregationKey × AggregatedValue)) (key : AggregationKey)
    (w : ℚ) (room : (t.map (·.2.samples.toNat)).sum + 1 < 2 ^ 64) :
    ((upsert t key w).map (·.2.samples.toNat)).sum = (t.map (·.2.samples.toNat)).sum + 1 := by
  induction t with
  | nil => rfl
  | cons p t ih =>
    rw [List.map_cons, List.sum_cons] at room
    unfold upsert
    split
    · simp only [List.map_cons, List.sum_cons, toNat_add_one (a := p.2.samples) (by omega)]
      omega
    · simp only [List.map_cons, List.sum_cons, ih (by omega)]
      omega

theorem toNat_foldl_samples (t : List (AggregationKey × AggregatedValue)) (a : UInt64) :
    (t.foldl (fun emitted kv => emitted + kv.2.samples) a).toNat =
      (a.toNat + (t.map (·.2.samples.toNat)).sum) % 2 ^ 64 := by
  induction t generalizing a with
  | nil => exact (Nat.mod_eq_of_lt a.toNat_lt_size).symm
  | cons p t ih =>
    rw [List.foldl_cons, ih, List.map_cons, List.sum_cons]
    show ((a.toNat + p.2.samples.toNat) % 2 ^ 64 + _) % 2 ^ 64 = _
    omega

theorem sum_normCost_upsert (t : List (AggregationKey × AggregatedValue)) (key : AggregationKey)
    (w : ℚ) : ((upsert t key w).map (·.2.normCost)).sum = (t.map (·.2.normCost)).sum + w := by
  induction t with
  | nil => simp [upsert]
  | cons p t ih =>
    unfold upsert
    split <;> simp only [List.map_cons, List.sum_cons, ih] <;> ac_rfl

theorem mem_keys_insert {agg : Aggregator} {key k : AggregationKey} {w : ℚ}
    (mem : k ∈ (agg.insert key w).table.map Prod.fst) : k = key ∨ k ∈ agg.table.map Prod.fst := by
  unfold insert at mem
  split at mem
  · simp at mem
  · rw [keys_upsert] at mem
    split at mem
    · exact .inr mem
    · simpa [or_comm] using mem

theorem addSample_symbols (agg : Aggregator) (env : SymbolEnv) (s : Symbolizer) (sample : Sample)
    (lbr : LbrStack) : ∃ s' frames, (agg.addSample env (some s) sample lbr).1 = some s' ∧
      frames ≠ [] ∧
      s'.stackTable = s.stackTable.tryEmplace (agg.aggregationKey env (some s) sample lbr).2.callstackId
        ⟨(agg.aggregationKey env (some s) sample lbr).2.callstackId, frames⟩ ∧
      (((agg.aggregationKey env (some s) sample lbr).2.dataObjectId = 0 ∧
          s'.dataTable = s.dataTable) ∨
        ∃ obj, (agg.aggregationKey env (some s) sample lbr).2.dataObjectId ≠ 0 ∧
          s'.dataTable = s.dataTable.tryEmplace (agg.aggregationKey env (some s) sample lbr).2.dataObjectId
            ⟨(agg.aggregationKey env (some s) sample lbr).2.dataObjectId, obj⟩) := by
  obtain ⟨frames, nonempty, stacked⟩ := Symbolizer.internStack_stacks env
    (s.internFunction env sample.pid sample.ip).1 sample.pid sample.ip lbr
  rw [Symbolizer.stacks_internFunction] at stacked
  by_cases zero : sample.dataAddr = 0
  · refine ⟨((s.internFunction env sample.pid sample.ip).1.internStack env sample.pid sample.ip
      lbr).1, frames, ?_, nonempty, ?_, .inl ⟨?_, ?_⟩⟩ <;>
      simp [addSample, aggregationKey, internFunction, internCallstack, internDataObject, zero,
        stacked]
  · rcases Symbolizer.internDataObject_data env ((s.internFunction env sample.pid
      sample.ip).1.internStack env sample.pid sample.ip lbr).1 sample.pid sample.dataAddr
      with ⟨h, -⟩ | ⟨obj, h⟩
    · exact absurd h zero
    refine ⟨(((s.internFunction env sample.pid sample.ip).1.internStack env sample.pid sample.ip
      lbr).1.internDataObject env sample.pid sample.dataAddr).1, frames, ?_, nonempty, ?_,
      .inr ⟨obj, ?_, ?_⟩⟩ <;>
      simp [addSample, aggregationKey, internFunction, internCallstack, internDataObject, zero, h,
        stacked, Symbolizer.internDataObject_ne_zero _ _ sample.pid sample.dataAddr zero]

/-! Runs of the aggregator, with a ghost log of the calls its table is made of. -/

inductive Call where
  | addSample (env : SymbolEnv) (sample : Sample) (lbr : LbrStack)
  | flush
  | setSampleScale (scale : ℚ)

def Call.isAddSample : Call → Bool
  | .addSample .. => true
  | _ => false

/-- The aggregator, the symbolizer it interns through, and the key and weight
`scale / max(gso_segs, 1)` of every `AddSample` since the later of the last `Flush` and
the last overflow clear. -/
structure Epoch where
  agg : Aggregator
  sym : Option Symbolizer
  log : List (AggregationKey × ℚ)

def Epoch.step (e : Epoch) : Call → Epoch
  | .addSample env sample lbr =>
    let key := (e.agg.aggregationKey env e.sym sample lbr).2
    ⟨(e.agg.addSample env e.sym sample lbr).2, (e.agg.addSample env e.sym sample lbr).1,
      if (upsert e.agg.table key (e.agg.weight sample)).length > e.agg.cfg.maxEntries then []
      else e.log ++ [(key, e.agg.sampleScale / (max sample.gsoSegs.toNat 1 : Nat))]⟩
  | .flush => ⟨e.agg.flush.1, e.sym, []⟩
  | .setSampleScale scale => ⟨e.agg.setSampleScale scale, e.sym, e.log⟩

def Epoch.run (e : Epoch) : List Call → Epoch
  | [] => e
  | c :: cs => (e.step c).run cs

/-- The invariant of every run: the table tallies the log and respects the bound, and while
the log is shorter than `2^64` the counters' values add up to its length. -/
structure Epoch.Invariant (cfg : AggregatorConfig) (e : Epoch) : Prop where
  config : e.agg.cfg = cfg
  tallies : Tallies e.agg.table e.log
  bounded : e.agg.table.length ≤ cfg.maxEntries
  counted : e.log.length < 2 ^ 64 → (e.agg.table.map (·.2.samples.toNat)).sum = e.log.length

theorem Epoch.step_invariant {cfg : AggregatorConfig} {e : Epoch} (inv : e.Invariant cfg)
    (c : Call) : (e.step c).Invariant cfg := by
  cases c with
  | addSample env sample lbr =>
    refine ⟨by simp [step, addSample, inv.config], ?_, by
      simpa [step, addSample, inv.config] using length_insert_le e.agg _ (e.agg.weight sample), ?_⟩
    all_goals simp only [step, addSample, insert]; split
    · exact tallies_nil
    · rw [← weight_eq]; exact inv.tallies.upsert _ _
    · exact fun _ => rfl
    · intro short
      rw [List.length_append, List.length_singleton] at short
      have sum := inv.counted (by omega)
      rw [sum_toNat_upsert _ _ _ (by omega), sum, List.length_append, List.length_singleton]
  | flush => exact ⟨inv.config, tallies_nil, by simp [step, flush], fun _ => rfl⟩
  | setSampleScale scale => exact ⟨inv.config, inv.tallies, inv.bounded, inv.counted⟩

theorem Epoch.run_invariant {cfg : AggregatorConfig} {e : Epoch} (inv : e.Invariant cfg)
    (calls : List Call) : (e.run calls).Invariant cfg := by
  induction calls generalizing e with
  | nil => exact inv
  | cons c cs ih => exact ih (step_invariant inv c)

theorem Epoch.length_log_run (e : Epoch) (calls : List Call) :
    (e.run calls).log.length ≤ e.log.length + calls.countP Call.isAddSample := by
  induction calls generalizing e with
  | nil => exact Nat.le_add_right _ _
  | cons c cs ih =>
    refine (ih _).trans ?_
    rw [List.countP_cons]
    cases c with
    | addSample env sample lbr =>
      simp only [step, Call.isAddSample, if_true]
      split <;> simp only [List.length_nil, List.length_append, List.length_singleton] <;> omega
    | flush => simp only [step, List.length_nil]; omega
    | setSampleScale scale => simp only [step, Call.isAddSample]; omega

/-- Conservation of the aggregator over every sequence of fewer than `2^64` `AddSample` calls
from construction, mixed with any `Flush` and `SetSampleScale` calls: the `Flush` that follows
hands over each entry once, each the tally of its key over the calls since the last flush or
overflow clear, and returns their sample total, the number of those calls; the table never
outgrows `max_entries`. -/
theorem aggregator_conservation (cfg : AggregatorConfig) (sym : Option Symbolizer)
    (calls : List Call) (few : calls.countP Call.isAddSample < 2 ^ 64) :
    let e := (Epoch.mk (new cfg) sym []).run calls
    (e.agg.flush.2.1.map Prod.fst).Nodup ∧
    (∀ entry ∈ e.agg.flush.2.1, 1 ≤ entry.2.samples.toNat ∧
      entry.2.samples.toNat = (e.log.filter (·.1 == entry.1)).length ∧
      entry.2.normCost = ((e.log.filter (·.1 == entry.1)).map (·.2)).sum) ∧
    (∀ c ∈ e.log, c.1 ∈ e.agg.flush.2.1.map Prod.fst) ∧
    e.agg.flush.2.2.toNat = (e.agg.flush.2.1.map (·.2.samples.toNat)).sum ∧
    (e.agg.flush.2.1.map (·.2.samples.toNat)).sum = e.log.length ∧
    e.agg.flush.1.table = [] ∧
    e.agg.table.length ≤ cfg.maxEntries := by
  intro e
  have inv : e.Invariant cfg :=
    Epoch.run_invariant (e := ⟨new cfg, sym, []⟩) ⟨rfl, tallies_nil, by simp [new], fun _ => rfl⟩ calls
  have short : e.log.length < 2 ^ 64 := (Epoch.length_log_run _ calls).trans_lt (by simpa using few)
  refine ⟨inv.tallies.nodup, fun entry mem => ?_, fun _ => inv.tallies.mem_keys, ?_,
    inv.counted short, rfl, inv.bounded⟩
  · obtain ⟨pos, samples, normCost⟩ := inv.tallies.entry mem
    have exact : entry.2.samples.toNat = (e.log.filter (·.1 == entry.1)).length := by
      rw [samples]
      exact toNat_ofNat_u64 ((List.length_filter_le _ _).trans_lt short)
    exact ⟨exact ▸ pos, exact, normCost⟩
  · rw [flush, toNat_foldl_samples, inv.counted short]
    simpa using Nat.mod_eq_of_lt short

theorem aggregator_conservation_one_sample :
    let e := (Epoch.mk (new {}) none []).run [.addSample blankEnv Sample.zero []]
    (e.agg.flush.2.1.map Prod.fst).Nodup ∧
    (∀ entry ∈ e.agg.flush.2.1, 1 ≤ entry.2.samples.toNat ∧
      entry.2.samples.toNat = (e.log.filter (·.1 == entry.1)).length ∧
      entry.2.normCost = ((e.log.filter (·.1 == entry.1)).map (·.2)).sum) ∧
    (∀ c ∈ e.log, c.1 ∈ e.agg.flush.2.1.map Prod.fst) ∧
    e.agg.flush.2.2.toNat = (e.agg.flush.2.1.map (·.2.samples.toNat)).sum ∧
    (e.agg.flush.2.1.map (·.2.samples.toNat)).sum = e.log.length ∧
    e.agg.flush.1.table = [] ∧
    e.agg.table.length ≤ (({} : AggregatorConfig)).maxEntries :=
  aggregator_conservation {} none [.addSample blankEnv Sample.zero []] (by decide)

/-- The GSO case of the aggregator test: one sample of four segments weighs a quarter. -/
example : ((new {}).addSample blankEnv none { Sample.zero with gsoSegs := 4 } []).2.flush.2.1.map
    (·.2.normCost) = [1 / 4] := rfl

/-! ### The counter wraps -/

theorem Epoch.run_append (e : Epoch) (cs ds : List Call) : e.run (cs ++ ds) = (e.run cs).run ds := by
  induction cs generalizing e with
  | nil => rfl
  | cons c cs ih => exact ih _

/-- The key of the all-zero sample, interned without a symbolizer. -/
def zeroKey : AggregationKey := ((new {}).aggregationKey blankEnv none Sample.zero []).2

theorem run_replicate_zero (n : Nat) :
    (Epoch.mk (new {}) none []).run (List.replicate (n + 1) (.addSample blankEnv Sample.zero [])) =
      ⟨⟨{}, [(zeroKey, ⟨UInt64.ofNat (n + 1), n + 1⟩)], 1⟩, none,
        List.replicate (n + 1) (zeroKey, 1)⟩ := by
  have key : ∀ t, (Aggregator.mk {} t 1).aggregationKey blankEnv none Sample.zero [] =
      (none, zeroKey) := fun _ => rfl
  have single : ∀ t, (Aggregator.mk {} t 1).weight Sample.zero = 1 := fun _ => rfl
  have gso : Sample.zero.gsoSegs = 0 := rfl
  induction n with
  | zero => simp [Epoch.run, Epoch.step, addSample, insert, upsert, new, key, single, gso]
  | succ n ih =>
    rw [List.replicate_succ', Epoch.run_append, ih]
    simp [Epoch.run, Epoch.step, addSample, insert, upsert, key, single, ofNat_add_one,
      List.replicate_succ', gso]

/-- `2^64` samples of one key: the counter is back at 0, so the entry `Flush` hands over
holds 0 samples and `Flush` returns 0. -/
theorem aggregator_count_wraps :
    let e := (Epoch.mk (new {}) none []).run
      (List.replicate (2 ^ 64) (.addSample blankEnv Sample.zero []))
    e.log.length = 2 ^ 64 ∧ e.agg.flush.2.1.map (·.2.samples) = [0] ∧ e.agg.flush.2.2 = 0 := by
  have wrapped := run_replicate_zero (2 ^ 64 - 1)
  rw [show 2 ^ 64 - 1 + 1 = 2 ^ 64 by norm_num] at wrapped
  dsimp only
  rw [wrapped]
  exact ⟨List.length_replicate _ _, rfl, rfl⟩

end Aggregator

end MicroSentinel
