import MicroSentinel.Runtime

/-! The sample path of `AgentRuntime` end to end: emissions into the sink's raw queue and
the aggregator, flush cycles draining the aggregator and the symbolizer into the sink, and
what the sink has received after any run of them. -/
namespace MicroSentinel

namespace Sink

@[simp] theorem rollups_enqueueRawSample (s : Sink) (sample : Sample) (stack : LbrStack)
    (norm : ℚ) : (s.enqueueRawSample sample stack norm).rollups = s.rollups := rfl

@[simp] theorem stackTraces_enqueueRawSample (s : Sink) (sample : Sample) (stack : LbrStack)
    (norm : ℚ) : (s.enqueueRawSample sample stack norm).stackTraces = s.stackTraces := rfl

@[simp] theorem dataObjects_enqueueRawSample (s : Sink) (sample : Sample) (stack : LbrStack)
    (norm : ℚ) : (s.enqueueRawSample sample stack norm).dataObjects = s.dataObjects := rfl

theorem foldl_enqueueStack (s : Sink) (traces : List StackTrace)
    (framed : ∀ t ∈ traces, t.frames ≠ []) :
    traces.foldl enqueueStack s = { s with stackTraces := s.stackTraces ++ traces } := by
  induction traces generalizing s with
  | nil => simp
  | cons t ts ih =>
    rw [List.foldl_cons, enqueueStack, if_neg (framed t (List.mem_cons_self t ts)),
      ih _ fun t' mem => framed t' (List.mem_cons_of_mem t mem)]
    simp

theorem foldl_enqueueDataObject (s : Sink) (symbols : List DataSymbol)
    (named : ∀ d ∈ symbols, d.id ≠ 0) :
    symbols.foldl enqueueDataObject s = { s with dataObjects := s.dataObjects ++ symbols } := by
  induction symbols generalizing s with
  | nil => simp
  | cons d ds ih =>
    rw [List.foldl_cons, enqueueDataObject, if_neg (named d (List.mem_cons_self d ds)),
      ih _ fun d' mem => named d' (List.mem_cons_of_mem d mem)]
    simp

theorem foldl_enqueueStack_rows (s : Sink) (traces : List StackTrace) :
    (traces.foldl enqueueStack s).rollups = s.rollups ∧
      (traces.foldl enqueueStack s).rawRows = s.rawRows := by
  induction traces generalizing s with
  | nil => exact ⟨rfl, rfl⟩
  | cons t ts ih =>
    rw [List.foldl_cons, (ih _).1, (ih _).2]
    unfold enqueueStack
    split <;> exact ⟨rfl, rfl⟩

theorem foldl_enqueueDataObject_rows (s : Sink) (symbols : List DataSymbol) :
    (symbols.foldl enqueueDataObject s).rollups = s.rollups ∧
      (symbols.foldl enqueueDataObject s).rawRows = s.rawRows := by
  induction symbols generalizing s with
  | nil => exact ⟨rfl, rfl⟩
  | cons d ds ih =>
    rw [List.foldl_cons, (ih _).1, (ih _).2]
    unfold enqueueDataObject
    split <;> exact ⟨rfl, rfl⟩

end Sink

/-- A raw row as the bundle it was emitted from. -/
def RawRow.bundle (r : RawRow) : Bundle := ⟨r.sample, r.stack⟩

theorem MonitoringTargetManager.allow_congr (m : MonitoringTargetManager) {s s' : Sample}
    (pid : s'.pid = s.pid) (ifindex : s'.ingressIfindex = s.ingressIfindex)
    (proto : s'.l4Proto = s.l4Proto) : m.allow s' = m.allow s := by
  simp [allow, pid, ifindex, proto]

theorem forall₂_comp {α β γ : Type} {R : α → β → Prop} {S : β → γ → Prop} :
    ∀ {xs : List α} {ys : List β} {zs : List γ}, List.Forall₂ R xs ys → List.Forall₂ S ys zs →
      List.Forall₂ (fun x z => ∃ y, R x y ∧ S y z) xs zs
  | _, _, _, .nil, .nil => .nil
  | _, _, _, .cons r rs, .cons s ss => .cons ⟨_, r, s⟩ (forall₂_comp rs ss)

namespace AgentRuntime

theorem drainRollups_sink (sink : Sink) (gauges : List (String × WithTop ℚ))
    (entries : List (AggregationKey × AggregatedValue)) :
    (drainRollups sink gauges entries).1 = { sink with rollups := sink.rollups ++ entries } := by
  induction entries generalizing sink gauges with
  | nil => simp [drainRollups]
  | cons e es ih => simp [drainRollups, ih, Sink.enqueue]

theorem drainFlushCycle_fst (rt : AgentRuntime)
    (framed : ∀ t ∈ rt.symbolizer.stackTable.pending, t.frames ≠ [])
    (named : ∀ d ∈ rt.symbolizer.dataTable.pending, d.id ≠ 0) :
    rt.drainFlushCycle.1.sink = { rt.sink with
      rollups := rt.sink.rollups ++ rt.aggregator.table,
      stackTraces := rt.sink.stackTraces ++ rt.symbolizer.stackTable.pending,
      dataObjects := rt.sink.dataObjects ++ rt.symbolizer.dataTable.pending } ∧
    rt.drainFlushCycle.1.symbolizer = { rt.symbolizer with
      stackTable := ⟨rt.symbolizer.stackTable.entries, []⟩,
      dataTable := ⟨rt.symbolizer.dataTable.entries, []⟩ } ∧
    rt.drainFlushCycle.1.aggregator.table = [] := by
  refine ⟨?_, rfl, rfl⟩
  simp only [drainFlushCycle, drainRollups_sink, Aggregator.flush, Symbolizer.consumeStacks,
    Symbolizer.consumeDataObjects]
  rw [Sink.foldl_enqueueStack _ _ framed, Sink.foldl_enqueueDataObject _ _ named]

/-- The sample path as the constructor leaves it. -/
structure SamplePathFresh (rt : AgentRuntime) : Prop where
  sink : rt.sink = .empty
  table : rt.aggregator.table = []
  skewAdjuster : rt.skewAdjuster = SkewAdjuster.new msFlowSkidNs 4
  samplesTotal : rt.samplesTotal = 0

theorem samplePathFresh_new (cfg : AgentConfig) (cpus : List Int) (bpfObject : Option Bool)
    (k : Kernel) : (new cfg cpus bpfObject k).SamplePathFresh :=
  ⟨rfl, rfl, rfl, rfl⟩

/-! ### The symbol channels -/

/-- The symbol channels between calls: every interned id has been enqueued to the sink or
is still dirty, each once; every non-zero id a key of the aggregator's table carries is
interned, and every non-zero id a rollup in the sink carries has been enqueued. -/
structure SymbolsExported (rt : AgentRuntime) : Prop where
  stackChannel : Interned.Exported StackTrace.id (fun t => t.frames ≠ []) rt.symbolizer.stackTable
    (rt.sink.stackTraces.map StackTrace.id)
  dataChannel : Interned.Exported DataSymbol.id (fun d => d.id ≠ 0) rt.symbolizer.dataTable
    (rt.sink.dataObjects.map DataSymbol.id)
  tableStacks : ∀ key ∈ rt.aggregator.table.map Prod.fst, key.callstackId ≠ 0 →
    key.callstackId ∈ rt.symbolizer.stackTable.entries.map Prod.fst
  tableData : ∀ key ∈ rt.aggregator.table.map Prod.fst, key.dataObjectId ≠ 0 →
    key.dataObjectId ∈ rt.symbolizer.dataTable.entries.map Prod.fst
  rollupStacks : ∀ key ∈ rt.sink.rollups.map Prod.fst, key.callstackId ≠ 0 →
    key.callstackId ∈ rt.sink.stackTraces.map StackTrace.id
  rollupData : ∀ key ∈ rt.sink.rollups.map Prod.fst, key.dataObjectId ≠ 0 →
    key.dataObjectId ∈ rt.sink.dataObjects.map DataSymbol.id

theorem symbolsExported_new (cfg : AgentConfig) (cpus : List Int) (bpfObject : Option Bool)
    (k : Kernel) : (new cfg cpus bpfObject k).SymbolsExported := by
  obtain ⟨sink, table, -, -⟩ := samplePathFresh_new cfg cpus bpfObject k
  have sym : (new cfg cpus bpfObject k).symbolizer = .empty := rfl
  refine ⟨?_, ?_, ?_, ?_, ?_, ?_⟩ <;> simp only [sym, sink, table, Sink.empty, List.map_nil,
    List.not_mem_nil, false_imp_iff, implies_true]
  exacts [Interned.exported_empty _ _, Interned.exported_empty _ _]

theorem SymbolsExported.of_samplePath {rt rt' : AgentRuntime} (inv : rt.SymbolsExported)
    (same : rt'.samplePath = rt.samplePath) : rt'.SymbolsExported := by
  simp only [samplePath, Prod.mk.injEq] at same
  obtain ⟨sym, sink, table, -⟩ := same
  exact ⟨sym ▸ sink ▸ inv.stackChannel, sym ▸ sink ▸ inv.dataChannel, table ▸ sym ▸ inv.tableStacks,
    table ▸ sym ▸ inv.tableData, sink ▸ inv.rollupStacks, sink ▸ inv.rollupData⟩

theorem SymbolsExported.emitReadySample {rt : AgentRuntime} (inv : rt.SymbolsExported)
    (env : SymbolEnv) (b : Bundle) : (rt.emitReadySample env b).SymbolsExported := by
  unfold AgentRuntime.emitReadySample
  split
  · exact inv
  obtain ⟨s', frames, found, framed, stacked, data⟩ :=
    rt.aggregator.addSample_symbols env rt.symbolizer b.sample b.stack
  have sym : (rt.aggregator.addSample env (some rt.symbolizer) b.sample b.stack).1.getD
      rt.symbolizer = s' := by rw [found]; rfl
  have grown : ∀ x ∈ rt.symbolizer.stackTable.entries.map Prod.fst,
      x ∈ s'.stackTable.entries.map Prod.fst := fun x mem => by
    rw [stacked]; exact Interned.mem_keys_tryEmplace.mpr (.inr mem)
  have grownData : ∀ x ∈ rt.symbolizer.dataTable.entries.map Prod.fst,
      x ∈ s'.dataTable.entries.map Prod.fst := fun x mem => by
    rcases data with ⟨-, same⟩ | ⟨obj, -, same⟩ <;> rw [same]
    exacts [mem, Interned.mem_keys_tryEmplace.mpr (.inr mem)]
  refine ⟨?_, ?_, ?_, ?_, inv.rollupStacks, inv.rollupData⟩ <;>
    simp only [sym, Sink.stackTraces_enqueueRawSample, Sink.dataObjects_enqueueRawSample]
  · rw [stacked]; exact inv.stackChannel.tryEmplace _ _ _ _ rfl framed
  · rcases data with ⟨-, same⟩ | ⟨obj, named, same⟩ <;> rw [same]
    exacts [inv.dataChannel, inv.dataChannel.tryEmplace _ _ _ _ rfl named]
  · intro key mem nonzero
    rcases Aggregator.mem_keys_insert mem with rfl | old
    · rw [stacked]; exact Interned.mem_keys_tryEmplace.mpr (.inl rfl)
    · exact grown _ (inv.tableStacks key old nonzero)
  · intro key mem nonzero
    rcases Aggregator.mem_keys_insert mem with rfl | old
    · rcases data with ⟨zero, -⟩ | ⟨obj, -, same⟩
      · exact absurd zero nonzero
      · rw [same]; exact Interned.mem_keys_tryEmplace.mpr (.inl rfl)
    · exact grownData _ (inv.tableData key old nonzero)

theorem SymbolsExported.drainFlushCycle {rt : AgentRuntime} (inv : rt.SymbolsExported) :
    rt.drainFlushCycle.1.SymbolsExported := by
  obtain ⟨⟨stackIds, framed⟩, stacksSent⟩ := inv.stackChannel.pending _ _
  obtain ⟨⟨dataIds, named⟩, dataSent⟩ := inv.dataChannel.pending _ _
  obtain ⟨sink, sym, table⟩ := rt.drainFlushCycle_fst framed named
  have sent : ∀ key ∈ rt.aggregator.table.map Prod.fst, key.callstackId ≠ 0 →
      key.callstackId ∈ (rt.sink.stackTraces ++ rt.symbolizer.stackTable.pending).map
        StackTrace.id := fun key mem nonzero => by
    rw [List.map_append, stackIds, ← inv.stackChannel.keys]; exact inv.tableStacks key mem nonzero
  have sentData : ∀ key ∈ rt.aggregator.table.map Prod.fst, key.dataObjectId ≠ 0 →
      key.dataObjectId ∈ (rt.sink.dataObjects ++ rt.symbolizer.dataTable.pending).map
        DataSymbol.id := fun key mem nonzero => by
    rw [List.map_append, dataIds, ← inv.dataChannel.keys]; exact inv.tableData key mem nonzero
  refine ⟨?_, ?_, ?_, ?_, ?_, ?_⟩ <;> simp only [sink, sym, table, List.map_nil, List.not_mem_nil,
    false_imp_iff, implies_true]
  · simpa [stackIds] using stacksSent
  · simpa [dataIds] using dataSent
  · simp only [List.map_append, List.mem_append]
    rintro key (old | new) nonzero
    exacts [.inl (inv.rollupStacks key old nonzero),
      by simpa using sent key new nonzero]
  · simp only [List.map_append, List.mem_append]
    rintro key (old | new) nonzero
    exacts [.inl (inv.rollupData key old nonzero),
      by simpa using sentData key new nonzero]

theorem SymbolsExported.runSingleFlushCycle {rt : AgentRuntime} (inv : rt.SymbolsExported)
    (now : UInt64) (k : Kernel) : (rt.runSingleFlushCycle now k).SymbolsExported :=
  inv.drainFlushCycle.of_samplePath (samplePath_reactToLoad _ _ _ _)

/-- The calls the symbol channels are fed by: an emission, or a flush cycle at `now` with
the kernel's answers `k`. -/
inductive EmitCall where
  | emitReadySample (env : SymbolEnv) (b : Bundle)
  | runSingleFlushCycle (now : UInt64) (k : Kernel)

def emitStep (rt : AgentRuntime) : EmitCall → AgentRuntime
  | .emitReadySample env b => rt.emitReadySample env b
  | .runSingleFlushCycle now k => rt.runSingleFlushCycle now k

def runEmits (rt : AgentRuntime) : List EmitCall → AgentRuntime
  | [] => rt
  | c :: cs => (rt.emitStep c).runEmits cs

theorem SymbolsExported.runEmits {rt : AgentRuntime} (inv : rt.SymbolsExported)
    (calls : List EmitCall) : (rt.runEmits calls).SymbolsExported := by
  induction calls generalizing rt with
  | nil => exact inv
  | cons c cs ih =>
    cases c with
    | emitReadySample env b => exact ih (inv.emitReadySample env b)
    | runSingleFlushCycle now k => exact ih (inv.runSingleFlushCycle now k)

/-- Symbol-channel completeness: after any run of emissions and flush cycles of the runtime
as constructed, every non-zero stack and data-object id of a rollup in the sink has been
enqueued to the sink's stack, respectively data-object, queue, and no id is enqueued twice. -/
theorem symbol_channels_complete (cfg : AgentConfig) (cpus : List Int)
    (bpfObject : Option Bool) (k : Kernel) (calls : List EmitCall) :
    (∀ key ∈ ((new cfg cpus bpfObject k).runEmits calls).sink.rollups.map Prod.fst,
      key.callstackId ≠ 0 → key.callstackId ∈
        ((new cfg cpus bpfObject k).runEmits calls).sink.stackTraces.map StackTrace.id) ∧
    (∀ key ∈ ((new cfg cpus bpfObject k).runEmits calls).sink.rollups.map Prod.fst,
      key.dataObjectId ≠ 0 → key.dataObjectId ∈
        ((new cfg cpus bpfObject k).runEmits calls).sink.dataObjects.map DataSymbol.id) ∧
    (((new cfg cpus bpfObject k).runEmits calls).sink.stackTraces.map StackTrace.id).Nodup ∧
    (((new cfg cpus bpfObject k).runEmits calls).sink.dataObjects.map DataSymbol.id).Nodup := by
  have inv := (symbolsExported_new cfg cpus bpfObject k).runEmits calls
  refine ⟨inv.rollupStacks, inv.rollupData, ?_, ?_⟩
  · have nd := inv.stackChannel.nodup
    rw [inv.stackChannel.keys] at nd
    exact nd.of_append_left
  · have nd := inv.dataChannel.nodup
    rw [inv.dataChannel.keys] at nd
    exact nd.of_append_left

/-! ### Conservation of samples -/

theorem emitReadySample_spec (rt : AgentRuntime) (env : SymbolEnv) (b : Bundle) :
    (rt.emitReadySample env b).sink.rawRows = rt.sink.rawRows ++
      (if rt.targetManager.allow b.sample then [⟨b.sample, b.stack, rt.aggregator.weight b.sample⟩]
       else []) ∧
    (rt.emitReadySample env b).samplesTotal =
      (if rt.targetManager.allow b.sample then rt.samplesTotal + 1 else rt.samplesTotal) ∧
    (rt.emitReadySample env b).skewAdjuster = rt.skewAdjuster ∧
    (rt.emitReadySample env b).targetManager = rt.targetManager ∧
    (rt.emitReadySample env b).sink.rollups = rt.sink.rollups := by
  unfold emitReadySample
  split <;> simp_all [Sink.enqueueRawSample, Aggregator.weight]

theorem emitAll_spec (rt : AgentRuntime) (env : SymbolEnv) (bs : List Bundle) :
    (rt.emitAll env bs).sink.rawRows.map RawRow.bundle =
      rt.sink.rawRows.map RawRow.bundle ++ bs.filter (rt.targetManager.allow ·.sample) ∧
    (rt.samplesTotal = UInt64.ofNat rt.sink.rawRows.length →
      (rt.emitAll env bs).samplesTotal = UInt64.ofNat (rt.emitAll env bs).sink.rawRows.length) ∧
    (rt.emitAll env bs).skewAdjuster = rt.skewAdjuster ∧
    (rt.emitAll env bs).targetManager = rt.targetManager := by
  induction bs generalizing rt with
  | nil => simp [emitAll]
  | cons b bs ih =>
    obtain ⟨rows, total, skew, filter, -⟩ := rt.emitReadySample_spec env b
    obtain ⟨rows', counted, skew', filter'⟩ := ih (rt.emitReadySample env b)
    refine ⟨?_, fun h => counted ?_, skew'.trans skew, filter'.trans filter⟩
    · rw [emitAll, rows', rows, filter, List.filter_cons]
      split <;> simp_all [RawRow.bundle]
    · rw [rows, total]
      split <;> simp [h, ofNat_add_one]

theorem calibrate_sample (rt : AgentRuntime) (now : UInt64) (sample : Sample) :
    (rt.calibrate now sample).2 = { sample with tsc := (rt.calibrate now sample).2.tsc } := by
  unfold calibrate
  split <;> rfl

/-- `HandleSample`'s calibration changes a sample's `tsc` and nothing else. -/
def Calibrated (x : Sample × LbrStack) (b : Bundle) : Prop :=
  b.stack = x.2 ∧ b.sample = { x.1 with tsc := b.sample.tsc }

/-- The raw channel after the samples `inputs` were handed to `HandleSample` under the
filter `m`: the skew adjuster has processed them, calibrated, and the raw queue holds what
it emitted and the filter let through; the sample count is the queue's length modulo `2^64`. -/
structure Conserved (m : MonitoringTargetManager) (inputs : List (Sample × LbrStack))
    (rt : AgentRuntime) : Prop where
  targetManager : rt.targetManager = m
  counted : rt.samplesTotal = UInt64.ofNat rt.sink.rawRows.length
  fed : ∃ fed : List Bundle, List.Forall₂ Calibrated inputs fed ∧
    rt.skewAdjuster = ((SkewAdjuster.new msFlowSkidNs 4).processAll fed).1 ∧
    rt.sink.rawRows.map RawRow.bundle =
      ((SkewAdjuster.new msFlowSkidNs 4).processAll fed).2.filter (m.allow ·.sample)

/-- The rollup channel balances the raw one: the rollups enqueued and the table still held
sum the raw rows' costs, and while there are fewer than `2^64` raw rows they count them. -/
structure Balanced (rt : AgentRuntime) : Prop where
  samples : rt.sink.rawRows.length < 2 ^ 64 →
    (rt.sink.rollups.map (·.2.samples.toNat)).sum +
      (rt.aggregator.table.map (·.2.samples.toNat)).sum = rt.sink.rawRows.length
  normCost : (rt.sink.rollups.map (·.2.normCost)).sum +
      (rt.aggregator.table.map (·.2.normCost)).sum = (rt.sink.rawRows.map (·.normCost)).sum

theorem Conserved.of_samplePath {m : MonitoringTargetManager} {inputs : List (Sample × LbrStack)}
    {rt rt' : AgentRuntime} (inv : Conserved m inputs rt) (same : rt'.samplePath = rt.samplePath) :
    Conserved m inputs rt' := by
  simp only [samplePath, Prod.mk.injEq] at same
  obtain ⟨-, sink, -, -, skew, filter, total⟩ := same
  exact ⟨filter ▸ inv.targetManager, sink ▸ total ▸ inv.counted, skew ▸ sink ▸ inv.fed⟩

theorem Balanced.of_samplePath {rt rt' : AgentRuntime} (inv : rt.Balanced)
    (same : rt'.samplePath = rt.samplePath) : rt'.Balanced := by
  simp only [samplePath, Prod.mk.injEq] at same
  obtain ⟨-, sink, table, -⟩ := same
  exact ⟨sink ▸ table ▸ inv.samples, sink ▸ table ▸ inv.normCost⟩

theorem Conserved.handleSample {m : MonitoringTargetManager} {inputs : List (Sample × LbrStack)}
    {rt : AgentRuntime} (inv : Conserved m inputs rt) (now : UInt64) (env : SymbolEnv)
    (sample : Sample) (lbr : LbrStack) :
    Conserved m (inputs ++ [(sample, lbr)]) (rt.handleSample now env sample lbr) := by
  obtain ⟨rows, counted, skew, filter⟩ :=
    (rt.admitSample now sample lbr).1.emitAll_spec env (rt.admitSample now sample lbr).2
  obtain ⟨fed, calibrated, skewEq, rowsEq⟩ := inv.fed
  rw [AgentRuntime.handleSample]
  refine ⟨filter.trans inv.targetManager, counted inv.counted,
    fed ++ [⟨(rt.calibrate now sample).2, lbr⟩],
    List.rel_append calibrated (.cons ⟨rfl, calibrate_sample rt now sample⟩ .nil), ?_, ?_⟩
  · rw [skew, SkewAdjuster.processAll_append, ← skewEq]
    dsimp only [admitSample]
  · rw [rows, SkewAdjuster.processAll_append, ← skewEq, List.filter_append, ← rowsEq,
      ← inv.targetManager]
    dsimp only [admitSample]

theorem drainFlushCycle_rows (rt : AgentRuntime) :
    rt.drainFlushCycle.1.sink.rawRows = rt.sink.rawRows ∧
    rt.drainFlushCycle.1.sink.rollups = rt.sink.rollups ++ rt.aggregator.table ∧
    rt.drainFlushCycle.1.aggregator.table = [] ∧
    rt.drainFlushCycle.1.skewAdjuster = rt.skewAdjuster ∧
    rt.drainFlushCycle.1.targetManager = rt.targetManager ∧
    rt.drainFlushCycle.1.samplesTotal = rt.samplesTotal := by
  simp only [drainFlushCycle, (Sink.foldl_enqueueDataObject_rows _ _).1,
    (Sink.foldl_enqueueDataObject_rows _ _).2, (Sink.foldl_enqueueStack_rows _ _).1,
    (Sink.foldl_enqueueStack_rows _ _).2, drainRollups_sink, Aggregator.flush]
  simp

theorem runSingleFlushCycle_rows (rt : AgentRuntime) (now : UInt64) (k : Kernel) :
    (rt.runSingleFlushCycle now k).sink.rawRows = rt.sink.rawRows ∧
    (rt.runSingleFlushCycle now k).skewAdjuster = rt.skewAdjuster ∧
    (rt.runSingleFlushCycle now k).targetManager = rt.targetManager ∧
    (rt.runSingleFlushCycle now k).samplesTotal = rt.samplesTotal := by
  have kept := samplePath_reactToLoad rt.drainFlushCycle.1 now k rt.drainFlushCycle.2
  simp only [samplePath, Prod.mk.injEq] at kept
  obtain ⟨rows, -, -, skew, filter, total⟩ := rt.drainFlushCycle_rows
  exact ⟨kept.2.1 ▸ rows, kept.2.2.2.2.1 ▸ skew, kept.2.2.2.2.2.1 ▸ filter,
    kept.2.2.2.2.2.2 ▸ total⟩

theorem Conserved.runSingleFlushCycle {m : MonitoringTargetManager}
    {inputs : List (Sample × LbrStack)} {rt : AgentRuntime} (inv : Conserved m inputs rt)
    (now : UInt64) (k : Kernel) : Conserved m inputs (rt.runSingleFlushCycle now k) := by
  obtain ⟨rows, skew, filter, total⟩ := rt.runSingleFlushCycle_rows now k
  exact ⟨filter ▸ inv.targetManager, rows ▸ total ▸ inv.counted, skew ▸ rows ▸ inv.fed⟩

theorem Balanced.runSingleFlushCycle {rt : AgentRuntime} (inv : rt.Balanced) (now : UInt64)
    (k : Kernel) : (rt.runSingleFlushCycle now k).Balanced := by
  obtain ⟨rows, rollups, table, -⟩ := rt.drainFlushCycle_rows
  have drained : rt.drainFlushCycle.1.Balanced := by
    constructor <;> simp only [rows, rollups, table, List.map_append, List.sum_append,
      List.map_nil, List.sum_nil, add_zero]
    exacts [inv.samples, inv.normCost]
  exact drained.of_samplePath (samplePath_reactToLoad _ _ _ _)

/-! The proviso of the law: no `AddSample` of the run outgrows `max_entries`. -/

/-- Whether this emission's `AddSample` grows the table past `max_entries`, clearing it. -/
def emitOverflows (rt : AgentRuntime) (env : SymbolEnv) (b : Bundle) : Bool :=
  rt.targetManager.allow b.sample &&
    decide ((Aggregator.upsert rt.aggregator.table
      (rt.aggregator.aggregationKey env (some rt.symbolizer) b.sample b.stack).2
      (rt.aggregator.weight b.sample)).length > rt.aggregator.cfg.maxEntries)

def emitAllOverflows (rt : AgentRuntime) (env : SymbolEnv) : List Bundle → Bool
  | [] => false
  | b :: bs => rt.emitOverflows env b || (rt.emitReadySample env b).emitAllOverflows env bs

theorem Balanced.emitReadySample {rt : AgentRuntime} (inv : rt.Balanced) (env : SymbolEnv)
    (b : Bundle) (quiet : rt.emitOverflows env b = false) : (rt.emitReadySample env b).Balanced := by
  unfold AgentRuntime.emitReadySample
  split
  · exact inv
  · rename_i allowed
    have allow : rt.targetManager.allow b.sample = true := by simpa using allowed
    have fits : ¬ (Aggregator.upsert rt.aggregator.table
        (rt.aggregator.aggregationKey env (some rt.symbolizer) b.sample b.stack).2
        (rt.aggregator.weight b.sample)).length > rt.aggregator.cfg.maxEntries := by
      simpa [emitOverflows, allow] using quiet
    constructor <;> simp only [Sink.enqueueRawSample, Aggregator.addSample, Aggregator.insert,
      if_neg fits, List.length_append, List.length_singleton, List.map_append, List.sum_append,
      List.map_cons, List.map_nil, List.sum_cons, List.sum_nil, add_zero,
      Aggregator.sum_normCost_upsert]
    · intro short
      have sum := inv.samples (by omega)
      rw [Aggregator.sum_toNat_upsert _ _ _ (by omega)]
      omega
    · rw [← inv.normCost, Aggregator.weight]; ac_rfl

theorem Balanced.emitAll {rt : AgentRuntime} (inv : rt.Balanced) (env : SymbolEnv)
    (bs : List Bundle) (quiet : rt.emitAllOverflows env bs = false) : (rt.emitAll env bs).Balanced := by
  induction bs generalizing rt with
  | nil => exact inv
  | cons b bs ih =>
    simp only [emitAllOverflows, Bool.or_eq_false_iff] at quiet
    exact ih (inv.emitReadySample env b quiet.1) quiet.2

/-- The calls of the conservation law: a sample from the consumer at `now`, or a flush
cycle at `now` with the kernel's answers `k`. -/
inductive SampleCall where
  | handleSample (now : UInt64) (env : SymbolEnv) (sample : Sample) (lbr : LbrStack)
  | runSingleFlushCycle (now : UInt64) (k : Kernel)

/-- The samples handed to `HandleSample`, in order. -/
def SampleCall.inputs : List SampleCall → List (Sample × LbrStack)
  | [] => []
  | .handleSample _ _ sample lbr :: calls => (sample, lbr) :: inputs calls
  | .runSingleFlushCycle _ _ :: calls => inputs calls

def sampleStep (rt : AgentRuntime) : SampleCall → AgentRuntime
  | .handleSample now env sample lbr => rt.handleSample now env sample lbr
  | .runSingleFlushCycle now k => rt.runSingleFlushCycle now k

def runSamples (rt : AgentRuntime) : List SampleCall → AgentRuntime
  | [] => rt
  | c :: cs => (rt.sampleStep c).runSamples cs

def callOverflows (rt : AgentRuntime) : SampleCall → Bool
  | .handleSample now env sample lbr =>
    (rt.admitSample now sample lbr).1.emitAllOverflows env (rt.admitSample now sample lbr).2
  | .runSingleFlushCycle _ _ => false

def runOverflows (rt : AgentRuntime) : List SampleCall → Bool
  | [] => false
  | c :: cs => rt.callOverflows c || (rt.sampleStep c).runOverflows cs

/-- Whether an emission of `Stop`'s drain of the skew windows overflows. -/
def stopOverflows (rt : AgentRuntime) (env : SymbolEnv) : Bool :=
  { rt with skewAdjuster := rt.skewAdjuster.flush.1 }.emitAllOverflows env rt.skewAdjuster.flush.2

theorem runSamples_cons (rt : AgentRuntime) (c : SampleCall) (cs : List SampleCall) :
    rt.runSamples (c :: cs) = (rt.sampleStep c).runSamples cs := rfl

theorem Conserved.runSamples {m : MonitoringTargetManager} {inputs : List (Sample × LbrStack)}
    {rt : AgentRuntime} (inv : Conserved m inputs rt) (calls : List SampleCall) :
    Conserved m (inputs ++ SampleCall.inputs calls) (rt.runSamples calls) := by
  induction calls generalizing inputs rt with
  | nil => simpa [runSamples, SampleCall.inputs] using inv
  | cons c cs ih =>
    rw [runSamples_cons]
    cases c with
    | handleSample now env sample lbr =>
      have step := @ih _ _ (inv.handleSample now env sample lbr)
      rw [List.append_assoc, List.singleton_append] at step
      exact step
    | runSingleFlushCycle now k => exact @ih _ _ (inv.runSingleFlushCycle now k)

theorem Balanced.runSamples {rt : AgentRuntime} (inv : rt.Balanced) (calls : List SampleCall)
    (quiet : rt.runOverflows calls = false) : (rt.runSamples calls).Balanced := by
  induction calls generalizing rt with
  | nil => exact inv
  | cons c cs ih =>
    simp only [runOverflows, Bool.or_eq_false_iff] at quiet
    refine ih ?_ quiet.2
    cases c with
    | handleSample now env sample lbr =>
      have admitted : (rt.admitSample now sample lbr).1.Balanced := ⟨inv.samples, inv.normCost⟩
      exact admitted.emitAll env _ quiet.1
    | runSingleFlushCycle now k => exact inv.runSingleFlushCycle now k

theorem samplePath_stop (rt : AgentRuntime) (now : UInt64) (env : SymbolEnv) (k : Kernel) :
    (rt.stop now env k).samplePath =
      (({ rt with skewAdjuster := rt.skewAdjuster.flush.1 }.emitAll env
        rt.skewAdjuster.flush.2).runSingleFlushCycle now k).samplePath := by
  unfold stop
  dsimp only
  split
  · split <;> dsimp only [samplePath]
  · rfl

theorem Conserved.stop {m : MonitoringTargetManager} {inputs : List (Sample × LbrStack)}
    {rt : AgentRuntime} (inv : Conserved m inputs rt) (now : UInt64) (env : SymbolEnv)
    (k : Kernel) : ∃ fed : List Bundle, List.Forall₂ Calibrated inputs fed ∧
      (rt.stop now env k).sink.rawRows.map RawRow.bundle =
        ((SkewAdjuster.new msFlowSkidNs 4).run fed).filter (m.allow ·.sample) ∧
      (rt.stop now env k).samplesTotal = UInt64.ofNat (rt.stop now env k).sink.rawRows.length := by
  obtain ⟨fed, calibrated, skewEq, rowsEq⟩ := inv.fed
  have kept := samplePath_stop rt now env k
  simp only [samplePath, Prod.mk.injEq] at kept
  obtain ⟨rows, counted, -, filter⟩ := emitAll_spec
    { rt with skewAdjuster := rt.skewAdjuster.flush.1 } env rt.skewAdjuster.flush.2
  obtain ⟨rows', -, -, total'⟩ := runSingleFlushCycle_rows
    ({ rt with skewAdjuster := rt.skewAdjuster.flush.1 }.emitAll env rt.skewAdjuster.flush.2) now k
  refine ⟨fed, calibrated, ?_, ?_⟩
  · rw [kept.2.1, rows', rows, SkewAdjuster.run, List.filter_append]
    simp only [rowsEq, skewEq, filter, inv.targetManager]
  · rw [kept.2.1, kept.2.2.2.2.2.2, rows', total']
    exact counted inv.counted

theorem runSingleFlushCycle_table (rt : AgentRuntime) (now : UInt64) (k : Kernel) :
    (rt.runSingleFlushCycle now k).aggregator.table = [] := by
  have kept := samplePath_reactToLoad rt.drainFlushCycle.1 now k rt.drainFlushCycle.2
  simp only [samplePath, Prod.mk.injEq] at kept
  exact kept.2.2.1.trans rt.drainFlushCycle_rows.2.2.1

theorem Balanced.stop {rt : AgentRuntime} (inv : rt.Balanced) (now : UInt64) (env : SymbolEnv)
    (k : Kernel) (quiet : rt.stopOverflows env = false) :
    ((rt.stop now env k).sink.rawRows.length < 2 ^ 64 →
      ((rt.stop now env k).sink.rollups.map (·.2.samples.toNat)).sum =
        (rt.stop now env k).sink.rawRows.length) ∧
    ((rt.stop now env k).sink.rollups.map (·.2.normCost)).sum =
      ((rt.stop now env k).sink.rawRows.map (·.normCost)).sum := by
  have base : ({ rt with skewAdjuster := rt.skewAdjuster.flush.1 } : AgentRuntime).Balanced :=
    ⟨inv.samples, inv.normCost⟩
  have flushed := (base.emitAll env _ quiet).runSingleFlushCycle now k
  have kept := samplePath_stop rt now env k
  simp only [samplePath, Prod.mk.injEq] at kept
  have samples := flushed.samples
  have normCost := flushed.normCost
  simp only [runSingleFlushCycle_table, List.map_nil, List.sum_nil, add_zero] at samples normCost
  rw [kept.2.1]
  exact ⟨samples, normCost⟩

/-- `y` is the raw row of `x`: the same stack and sample but for a normalized `tsc` and a
flow id filled in where it was 0. -/
def RowOf (x : Sample × LbrStack) (r : RawRow) : Prop :=
  r.stack = x.2 ∧ ∃ tsc flow, r.sample = { x.1 with tsc := tsc, flowId := flow } ∧
    (x.1.flowId ≠ 0 → flow = x.1.flowId)

theorem rows_per_cpu {m : MonitoringTargetManager} {inputs : List (Sample × LbrStack)}
    {fed : List Bundle} {rows : List RawRow} (calibrated : List.Forall₂ Calibrated inputs fed)
    (emitted : rows.map RawRow.bundle =
      ((SkewAdjuster.new msFlowSkidNs 4).run fed).filter (m.allow ·.sample)) (c : UInt32) :
    List.Forall₂ RowOf (inputs.filter fun x => m.allow x.1 && x.1.cpu == c)
      (rows.filter (·.sample.cpu == c)) := by
  have onCpu : (rows.filter (·.sample.cpu == c)).map RawRow.bundle =
      (SkewAdjuster.backfill (SkewAdjuster.new msFlowSkidNs 4).toleranceNs none
        (fed.filter (·.sample.cpu == c))).filter (m.allow ·.sample) := by
    calc (rows.filter (·.sample.cpu == c)).map RawRow.bundle
        = ((rows.map RawRow.bundle).filter (·.sample.cpu == c)) := by rw [List.filter_map]; rfl
      _ = (((SkewAdjuster.new msFlowSkidNs 4).run fed).filter (·.sample.cpu == c)).filter
            (m.allow ·.sample) := by simp only [emitted, List.filter_filter, Bool.and_comm]
      _ = _ := by rw [SkewAdjuster.run_filter]
  have backfilled : List.Forall₂ SkewAdjuster.Backfilled
      ((fed.filter (·.sample.cpu == c)).filter (m.allow ·.sample))
      ((rows.filter (·.sample.cpu == c)).map RawRow.bundle) := by
    rw [onCpu]
    refine List.rel_filter (fun x y (h : SkewAdjuster.Backfilled x y) => ?_)
      (SkewAdjuster.backfill_none _ _)
    obtain ⟨f, rfl, -⟩ := h
    have same : m.allow (SkewAdjuster.adopt x f).sample = m.allow x.sample := m.allow_congr rfl rfl rfl
    dsimp only
    rw [same]
  have kept : List.Forall₂ Calibrated (inputs.filter fun x => m.allow x.1 && x.1.cpu == c)
      ((fed.filter (·.sample.cpu == c)).filter (m.allow ·.sample)) := by
    rw [List.filter_filter]
    refine List.rel_filter (fun x b (h : Calibrated x b) => ?_) calibrated
    have same : m.allow b.sample = m.allow x.1 :=
      m.allow_congr (by rw [h.2]) (by rw [h.2]) (by rw [h.2])
    have cpu : b.sample.cpu = x.1.cpu := by rw [h.2]
    dsimp only
    rw [same, cpu]
  refine (List.forall₂_map_right_iff.mp (forall₂_comp kept backfilled)).imp ?_
  rintro x r ⟨b, ⟨stack, sample⟩, f, same, keep⟩
  simp only [RawRow.bundle, SkewAdjuster.adopt, Bundle.mk.injEq] at same
  have flow : b.sample.flowId = x.1.flowId := by rw [sample]
  refine ⟨same.2.trans stack, b.sample.tsc, f, same.1.trans ?_, fun nz => (keep (flow ▸ nz)).trans flow⟩
  rw [sample]

theorem Conserved.fresh {rt : AgentRuntime} (fresh : rt.SamplePathFresh) :
    Conserved rt.targetManager [] rt :=
  ⟨rfl, by simp [fresh.sink, fresh.samplesTotal, Sink.empty],
    [], .nil, fresh.skewAdjuster, by simp [fresh.sink, Sink.empty, SkewAdjuster.processAll]⟩

/-- End-to-end conservation of the raw and rollup channels over every run of samples and
flush cycles ended by `Stop`, from a runtime whose sample path is as constructed: per CPU,
the samples the target filter lets through reach the raw queue exactly once, in order,
changed only in the normalized `tsc` and a back-filled flow id; the 64-bit sample count is
the raw queue's length modulo `2^64`; and if no `AddSample` overflowed, the rollups sum the
raw rows' costs and, below `2^64` raw rows, count them. -/
theorem sample_conservation (rt : AgentRuntime) (fresh : rt.SamplePathFresh)
    (calls : List SampleCall) (now : UInt64) (env : SymbolEnv) (k : Kernel) :
    (∀ c : UInt32, List.Forall₂ RowOf
      ((SampleCall.inputs calls).filter fun x => rt.targetManager.allow x.1 && x.1.cpu == c)
      (((rt.runSamples calls).stop now env k).sink.rawRows.filter (·.sample.cpu == c))) ∧
    ((rt.runSamples calls).stop now env k).samplesTotal =
      UInt64.ofNat ((rt.runSamples calls).stop now env k).sink.rawRows.length ∧
    ((rt.runOverflows calls || (rt.runSamples calls).stopOverflows env) = false →
      (((rt.runSamples calls).stop now env k).sink.rawRows.length < 2 ^ 64 →
        (((rt.runSamples calls).stop now env k).sink.rollups.map (·.2.samples.toNat)).sum =
          ((rt.runSamples calls).stop now env k).sink.rawRows.length) ∧
      (((rt.runSamples calls).stop now env k).sink.rollups.map (·.2.normCost)).sum =
        (((rt.runSamples calls).stop now env k).sink.rawRows.map (·.normCost)).sum) := by
  obtain ⟨fed, calibrated, emitted, counted⟩ :=
    ((Conserved.fresh fresh).runSamples calls).stop now env k
  rw [List.nil_append] at calibrated
  refine ⟨fun c => rows_per_cpu calibrated emitted c, counted, fun quiet => ?_⟩
  rw [Bool.or_eq_false_iff] at quiet
  have balanced : rt.Balanced :=
    ⟨by simp [fresh.sink, fresh.table, Sink.empty], by simp [fresh.sink, fresh.table, Sink.empty]⟩
  exact (balanced.runSamples calls quiet.1).stop now env k quiet.2

/-- One all-zero sample through the runtime built from the default configuration, then
`Stop`: nothing overflows, and the law holds. -/
theorem sample_conservation_single :
    (new {} [] none .allOk).SamplePathFresh ∧
    ((new {} [] none .allOk).runOverflows [.handleSample 0 blankEnv Sample.zero []] ||
      ((new {} [] none .allOk).runSamples [.handleSample 0 blankEnv Sample.zero []]).stopOverflows
        blankEnv) = false ∧
    ((∀ c : UInt32, List.Forall₂ RowOf
      ((SampleCall.inputs [.handleSample 0 blankEnv Sample.zero []]).filter
        fun x => (new {} [] none .allOk).targetManager.allow x.1 && x.1.cpu == c)
      ((((new {} [] none .allOk).runSamples [.handleSample 0 blankEnv Sample.zero []]).stop 0
        blankEnv .allOk).sink.rawRows.filter (·.sample.cpu == c))) ∧
    (((new {} [] none .allOk).runSamples [.handleSample 0 blankEnv Sample.zero []]).stop 0 blankEnv
      .allOk).samplesTotal =
      UInt64.ofNat (((new {} [] none .allOk).runSamples [.handleSample 0 blankEnv Sample.zero []]).stop
        0 blankEnv .allOk).sink.rawRows.length ∧
    (((new {} [] none .allOk).runOverflows [.handleSample 0 blankEnv Sample.zero []] ||
      ((new {} [] none .allOk).runSamples [.handleSample 0 blankEnv Sample.zero []]).stopOverflows
        blankEnv) = false →
      ((((new {} [] none .allOk).runSamples [.handleSample 0 blankEnv Sample.zero []]).stop 0
        blankEnv .allOk).sink.rawRows.length < 2 ^ 64 →
        ((((new {} [] none .allOk).runSamples [.handleSample 0 blankEnv Sample.zero []]).stop 0
          blankEnv .allOk).sink.rollups.map (·.2.samples.toNat)).sum =
          (((new {} [] none .allOk).runSamples [.handleSample 0 blankEnv Sample.zero []]).stop 0
            blankEnv .allOk).sink.rawRows.length) ∧
      ((((new {} [] none .allOk).runSamples [.handleSample 0 blankEnv Sample.zero []]).stop 0
        blankEnv .allOk).sink.rollups.map (·.2.normCost)).sum =
        ((((new {} [] none .allOk).runSamples [.handleSample 0 blankEnv Sample.zero []]).stop 0
          blankEnv .allOk).sink.rawRows.map (·.normCost)).sum)) :=
  ⟨samplePathFresh_new _ _ _ _, rfl,
    sample_conservation _ (samplePathFresh_new _ _ _ _) _ _ _ _⟩

theorem inputs_replicate (n : Nat) (now : UInt64) (env : SymbolEnv) (sample : Sample)
    (lbr : LbrStack) :
    SampleCall.inputs (List.replicate n (.handleSample now env sample lbr)) =
      List.replicate n (sample, lbr) := by
  induction n with
  | zero => rfl
  | succ n ih => rw [List.replicate_succ, SampleCall.inputs, ih, List.replicate_succ]

theorem length_rows_of_cpu {m : MonitoringTargetManager} {inputs : List (Sample × LbrStack)}
    {rows : List RawRow} (perCpu : ∀ c : UInt32, List.Forall₂ RowOf
      (inputs.filter fun x => m.allow x.1 && x.1.cpu == c) (rows.filter (·.sample.cpu == c)))
    {c : UInt32} (one : ∀ x ∈ inputs, x.1.cpu = c) :
    rows.length = (inputs.filter (m.allow ·.1)).length := by
  have onC : ∀ r ∈ rows, r.sample.cpu = c := by
    intro r mem
    by_contra off
    have counts := (perCpu r.sample.cpu).length_eq
    rw [List.filter_eq_nil_iff.2 fun x listed => by simp [one x listed, Ne.symm off]] at counts
    exact List.not_mem_nil r (List.eq_nil_of_length_eq_zero counts.symm ▸
      List.mem_filter.2 ⟨mem, beq_self_eq_true _⟩)
  rw [← List.filter_eq_self.2 fun r mem => beq_iff_eq.2 (onC r mem), ← (perCpu c).length_eq]
  congr 1
  exact List.filter_congr fun x listed => by simp [one x listed]

/-- `2^64` all-zero samples through the runtime built from the default configuration, then
`Stop`: every one reaches the raw queue, and `samples_total_` is back at 0. -/
theorem sample_count_wraps :
    let rt := ((new {} [] none .allOk).runSamples
      (List.replicate (2 ^ 64) (.handleSample 0 blankEnv Sample.zero []))).stop 0 blankEnv .allOk
    rt.sink.rawRows.length = 2 ^ 64 ∧ rt.samplesTotal = 0 := by
  obtain ⟨fed, calibrated, emitted, counted⟩ :=
    ((Conserved.fresh (samplePathFresh_new {} [] none .allOk)).runSamples
      (List.replicate (2 ^ 64) (.handleSample 0 blankEnv Sample.zero []))).stop 0 blankEnv .allOk
  rw [List.nil_append, inputs_replicate] at calibrated
  have allowed : (fun x : Sample × LbrStack =>
      (new {} [] none .allOk).targetManager.allow x.1) (Sample.zero, []) = true := rfl
  have all := length_rows_of_cpu (rows_per_cpu calibrated emitted)
    fun x listed => (List.eq_of_mem_replicate listed ▸ rfl : x.1.cpu = 0)
  rw [List.filter_replicate, if_pos allowed, List.length_replicate] at all
  exact ⟨all, counted.trans (by rw [all]; rfl)⟩

end AgentRuntime

end MicroSentinel
