import MicroSentinel.Components
import MicroSentinel.Aggregator
import MicroSentinel.SkewAdjuster
import MicroSentinel.ModeController
import MicroSentinel.PmuRotator

/-! `AgentRuntime` (`runtime.cpp`): the components it owns and every entry point the
consumer thread, the flush loop, the control plane, the anomaly monitor and the rotator
call into, each a function of the state. What is handed to `ClickHouseSink` and
`MetricsExporter` is state too: the records enqueued, per queue, and the gauge map. The
steady clock and the kernel's answers are per call. -/
namespace MicroSentinel

/-- `ClickHouseSink::RawRow`. -/
structure RawRow where
  sample : Sample
  stack : LbrStack
  normCost : ℚ

/-- Everything enqueued to `ClickHouseSink`, per queue, in enqueue order. -/
structure Sink where
  rollups : List (AggregationKey × AggregatedValue)
  stackTraces : List StackTrace
  rawRows : List RawRow
  dataObjects : List DataSymbol

namespace Sink

def empty : Sink := ⟨[], [], [], []⟩

def enqueue (s : Sink) (key : AggregationKey) (value : AggregatedValue) : Sink :=
  { s with rollups := s.rollups ++ [(key, value)] }

def enqueueStack (s : Sink) (trace : StackTrace) : Sink :=
  if trace.frames = [] then s else { s with stackTraces := s.stackTraces ++ [trace] }

def enqueueRawSample (s : Sink) (sample : Sample) (stack : LbrStack) (normCost : ℚ) : Sink :=
  { s with rawRows := s.rawRows ++ [⟨sample, stack, normCost⟩] }

def enqueueDataObject (s : Sink) (symbol : DataSymbol) : Sink :=
  if symbol.id = 0 then s else { s with dataObjects := s.dataObjects ++ [symbol] }

end Sink

/-- `MetricsExporter::SetGauge`: `gauges_[name] = value`. -/
def setGauge (gauges : List (String × WithTop ℚ)) (name : String) (value : WithTop ℚ) :
    List (String × WithTop ℚ) :=
  (name, value) :: gauges.filter (·.1 ≠ name)

def flowMetricName (event : UInt32) : String :=
  if event = msEvtL3Miss then "ms_flow_micromiss_rate"
  else if event = msEvtRemoteDram then "ms_remote_dram_rate"
  else if event = msEvtBranchMispred then "ms_branch_mispred_rate"
  else if event = msEvtIcacheStall then "ms_icache_stall_rate"
  else if event = msEvtAvxDownclock then "ms_avx_downclock_rate"
  else if event = msEvtStallBackend then "ms_backend_stall_rate"
  else if event = msEvtXsnpHitm then "ms_false_sharing_rate"
  else "ms_flow_event_norm"

def directionLabel (dir : UInt8) : String :=
  if dir = 0 then "rx" else if dir = 1 then "tx" else "unknown"

/-- `InterferenceClassName` of the key's class code. -/
def interferenceClassName (code : UInt8) : String :=
  if code = 0 then "data_path" else if code = 1 then "control_path"
  else if code = 2 then "execution_resource" else if code = 3 then "topology" else "unknown"

/-- The gauge name the flush cycle prints for a rollup. -/
def flowGaugeName (key : AggregationKey) : String :=
  flowMetricName key.pmuEvent ++ "\x7bflow=\"" ++ toString key.flowId ++
    "\",function=\"0x" ++ Symbolizer.hex key.functionHash ++
    "\",stack=\"0x" ++ Symbolizer.hex key.callstackId ++
    "\",event=\"" ++ toString key.pmuEvent ++ "\",numa=\"" ++ toString key.numaNode ++
    "\",direction=\"" ++ directionLabel key.direction ++
    "\",class=\"" ++ interferenceClassName key.interferenceClass ++
    "\",data_object=\"0x" ++ Symbolizer.hex key.dataObjectId ++ "\"\x7d"

/-- `samples_per_sec`: `flushed / (interval / 1000.0)`, infinite for a zero interval. -/
def samplesPerSec (flushed : Nat) (interval : UInt64) : WithTop ℚ :=
  if interval = 0 then ⊤ else (((flushed : ℚ) / ((interval.toNat : ℚ) / 1000) : ℚ) : WithTop ℚ)

/-- The budget ratio of a flush cycle: `samples_per_sec / budget`, or 1 without a budget. -/
def budgetRatio (perSec : WithTop ℚ) (budget : ℚ) : WithTop ℚ :=
  if budget > 0 then perSec.map (· / budget) else 1

inductive SafetyLevel where
  | normal
  | shedHeavy
  deriving DecidableEq

structure PmuConfigUpdate where
  hasSentinel : Bool := false
  sentinelGroups : List PmuGroupConfig := []
  hasDiagnostic : Bool := false
  diagnosticGroups : List PmuGroupConfig := []

structure AgentRuntime where
  cfg : AgentConfig
  symbolizer : Symbolizer
  aggregator : Aggregator
  skewAdjuster : SkewAdjuster
  targetManager : MonitoringTargetManager
  tscCalibrator : Option TscCalibrator
  sink : Sink
  gauges : List (String × WithTop ℚ)
  samplesTotal : UInt64
  currentMode : AgentMode
  modeController : ModeController
  bucketState : BucketState
  safetyLevel : SafetyLevel
  bpf : BpfOrchestrator
  pmuRotator : Option PmuRotator
  pmuRotatorStarted : Bool

namespace AgentRuntime

/-- The constructor. `cpus` is the CPU list of the orchestrator; `bpfObject` is `none`
when `LoadBpfObject` or `AttachNetPrograms` fails, else whether the cookie map was found;
`k` answers the map updates of `Init`. -/
def new (cfg : AgentConfig) (cpus : List Int) (bpfObject : Option Bool) (k : Kernel) :
    AgentRuntime :=
  let thresholds := runtimeThresholds cfg
  let bucket : BucketState :=
    ⟨cfg.perf.sentinelSampleBudget,
     if cfg.perf.diagnosticSampleBudget < cfg.perf.sentinelSampleBudget then
       cfg.perf.sentinelSampleBudget else cfg.perf.diagnosticSampleBudget,
     cfg.perf.hardDropNs⟩
  let cfg := { cfg with thresholds := thresholds,
                        perf.diagnosticSampleBudget := bucket.diagnosticBudget }
  let bpf := match if cfg.perf.mockMode then none else bpfObject with
    | none => BpfOrchestrator.loaded cfg.perf cpus false
    | some cookieMapFd => ((BpfOrchestrator.loaded cfg.perf cpus cookieMapFd).init k).1
  let mode := if cfg.diagnosticMode then AgentMode.diagnostic else .sentinel
  { cfg := { cfg with perf.mockMode := !bpf.ready }
    symbolizer := .empty
    aggregator := (Aggregator.new cfg.aggregator).setSampleScale 1
    skewAdjuster := SkewAdjuster.new msFlowSkidNs 4
    targetManager := .new
    tscCalibrator := if cfg.tscCalibration.enabled then some (.new cfg.tscCalibration) else none
    sink := .empty
    gauges := []
    samplesTotal := 0
    currentMode := mode
    modeController := (ModeController.new thresholds).force mode
    bucketState := bucket
    safetyLevel := .normal
    bpf := if bpf.ready then
      bpf.syncBudgetConfig bucket.sentinelBudget bucket.diagnosticBudget bucket.hardDropNs else bpf
    pmuRotator := if bpf.ready then some (.new cfg.perf.rotationWindow) else none
    pmuRotatorStarted := false }

/-- The rotator's `on_scale_` callback. -/
def publishScale (rt : AgentRuntime) (scale : ℚ) : AgentRuntime :=
  { rt with aggregator := rt.aggregator.setSampleScale scale,
            gauges := setGauge rt.gauges "ms_pmu_scale" scale }

/-- `pmu_rotator_->UpdateMode(mode)`, which the runtime calls on a started rotator only. -/
def rotatorUpdateMode (rt : AgentRuntime) (mode : AgentMode) : AgentRuntime :=
  match rt.pmuRotator with
  | some rot =>
    if rt.pmuRotatorStarted then
      let r := rot.updateMode rt.bpf mode
      { rt with pmuRotator := some r.1 }.publishScale r.2
    else rt
  | none => rt

def applyMode (rt : AgentRuntime) (k : Kernel) (mode : AgentMode) : AgentRuntime :=
  let rt := { rt with currentMode := mode, modeController := rt.modeController.force mode }
  let rt := if rt.bpf.ready then
      let r := rt.bpf.switchMode k mode
      if r.2 then { rt with bpf := r.1 }.rotatorUpdateMode mode else { rt with bpf := r.1 }
    else rt
  { rt with gauges := setGauge rt.gauges "ms_agent_mode" (if mode = .diagnostic then 1 else 0) }

/-- `Start`, as far as it acts on the runtime's state: the mode is applied and the rotator
started once the orchestrator is ready. -/
def start (rt : AgentRuntime) (k : Kernel) : AgentRuntime :=
  if rt.bpf.ready then
    let rt := rt.applyMode k rt.currentMode
    match rt.pmuRotator with
    | some rot =>
      if !rt.pmuRotatorStarted then
        let r := rot.start rt.bpf rt.currentMode
        let rt := { rt with pmuRotator := some r.1, pmuRotatorStarted := true }
        match r.2 with
        | some scale => rt.publishScale scale
        | none => rt
      else rt
    | none => rt
  else rt

def emitReadySample (rt : AgentRuntime) (env : SymbolEnv) (b : Bundle) : AgentRuntime :=
  if !rt.targetManager.allow b.sample then rt
  else
    let norm := if b.sample.gsoSegs > 1 then rt.aggregator.sampleScale / b.sample.gsoSegs.toNat
      else rt.aggregator.sampleScale
    let added := rt.aggregator.addSample env (some rt.symbolizer) b.sample b.stack
    { rt with sink := rt.sink.enqueueRawSample b.sample b.stack norm,
              aggregator := added.2,
              symbolizer := added.1.getD rt.symbolizer,
              samplesTotal := rt.samplesTotal + 1 }

/-- The emit callback over the bundles the skew adjuster hands it, in order. -/
def emitAll (rt : AgentRuntime) (env : SymbolEnv) : List Bundle → AgentRuntime
  | [] => rt
  | b :: bs => (rt.emitReadySample env b).emitAll env bs

/-- The sample `HandleSample` hands on, its `tsc` normalized when there is a calibrator, and
the calibrator after the call. -/
def calibrate (rt : AgentRuntime) (now : UInt64) (sample : Sample) :
    Option TscCalibrator × Sample :=
  match rt.tscCalibrator with
  | some tc =>
    let r := tc.normalize now sample.cpu sample.tsc
    (some r.1, { sample with tsc := r.2 })
  | none => (none, sample)

/-- `HandleSample` up to the emit callback: the calibrated sample handed to the skew
adjuster; the state it leaves and the bundles handed on. -/
def admitSample (rt : AgentRuntime) (now : UInt64) (sample : Sample) (lbr : LbrStack) :
    AgentRuntime × List Bundle :=
  let calibrated := rt.calibrate now sample
  let processed := rt.skewAdjuster.process ⟨calibrated.2, lbr⟩
  ({ rt with tscCalibrator := calibrated.1, skewAdjuster := processed.1 }, processed.2)

def handleSample (rt : AgentRuntime) (now : UInt64) (env : SymbolEnv) (sample : Sample)
    (lbr : LbrStack) : AgentRuntime :=
  (rt.admitSample now sample lbr).1.emitAll env (rt.admitSample now sample lbr).2

def maybeAdjustSafety (rt : AgentRuntime) (k : Kernel) (ratio : WithTop ℚ) : AgentRuntime :=
  let high := rt.cfg.perf.safetyHighWatermark
  let low := rt.cfg.perf.safetyLowWatermark
  let desired := if high > 0 ∧ ratio > (high : WithTop ℚ) then SafetyLevel.shedHeavy
    else if low > 0 ∧ ratio < (low : WithTop ℚ) then .normal else rt.safetyLevel
  if desired = rt.safetyLevel then rt
  else
    let limit : UInt64 := if desired = .shedHeavy then max 1 rt.cfg.perf.shedEventLimit else 0
    let rt := { rt with safetyLevel := desired }
    let rt := if rt.bpf.ready then { rt with bpf := rt.bpf.setMaxEventsPerGroup k limit } else rt
    let rt := rt.rotatorUpdateMode rt.currentMode
    { rt with gauges := setGauge rt.gauges "ms_sampling_throttled"
                          (if desired = .shedHeavy then 1 else 0) }

/-- The `Flush` callback on each entry: the rollup to the sink, its cost to its gauge. -/
def drainRollups (sink : Sink) (gauges : List (String × WithTop ℚ)) :
    List (AggregationKey × AggregatedValue) → Sink × List (String × WithTop ℚ)
  | [] => (sink, gauges)
  | (key, value) :: rest =>
    drainRollups (sink.enqueue key value) (setGauge gauges (flowGaugeName key) value.normCost) rest

/-- The first half of `RunSingleFlushCycle`: the aggregator drained to the sink and the
gauges, then the symbolizer's new stacks and data objects to the sink; with the number of
samples flushed. -/
def drainFlushCycle (rt : AgentRuntime) : AgentRuntime × UInt64 :=
  let flushed := rt.aggregator.flush
  let drained := drainRollups rt.sink rt.gauges flushed.2.1
  let traces := rt.symbolizer.consumeStacks
  let objects := traces.1.consumeDataObjects
  ({ rt with aggregator := flushed.1, symbolizer := objects.1, gauges := drained.2,
             sink := objects.2.foldl Sink.enqueueDataObject
                       (traces.2.foldl Sink.enqueueStack drained.1) },
   flushed.2.2)

/-- The second half, once samples were flushed: the load ratio against the active budget
drives the safety level and the mode controller. -/
def reactToLoad (rt : AgentRuntime) (now : UInt64) (k : Kernel) (flushed : UInt64) :
    AgentRuntime :=
  if flushed > 0 then
    let perSec := samplesPerSec flushed.toNat rt.cfg.aggregator.flushInterval
    let rt := { rt with gauges := setGauge rt.gauges "ms_samples_per_sec" perSec }
    let budget := if rt.currentMode = .sentinel then rt.cfg.perf.sentinelSampleBudget
      else rt.cfg.perf.diagnosticSampleBudget
    let ratio := budgetRatio perSec budget.toNat
    let rt := rt.maybeAdjustSafety k ratio
    let mc := rt.modeController.update now ratio
    let rt := { rt with modeController := mc }
    if mc.mode ≠ rt.currentMode then rt.applyMode k mc.mode else rt
  else rt

/-- `RunSingleFlushCycle(cfg_.aggregator.flush_interval)` at steady-clock time `now`. -/
def runSingleFlushCycle (rt : AgentRuntime) (now : UInt64) (k : Kernel) : AgentRuntime :=
  rt.drainFlushCycle.1.reactToLoad now k rt.drainFlushCycle.2

/-- `Stop`: the skew windows drained through the emit callback, a last flush cycle, and
the rotator stopped. -/
def stop (rt : AgentRuntime) (now : UInt64) (env : SymbolEnv) (k : Kernel) : AgentRuntime :=
  let drained := rt.skewAdjuster.flush
  let rt := ({ rt with skewAdjuster := drained.1 }.emitAll env drained.2).runSingleFlushCycle now k
  match rt.pmuRotator with
  | some rot =>
    if rt.pmuRotatorStarted then { rt with pmuRotator := some rot.stop, pmuRotatorStarted := false }
    else rt
  | none => rt

def handleBucketUpdate (rt : AgentRuntime) (k : Kernel) (req : BucketUpdateRequest) :
    AgentRuntime :=
  let applied := applyBucketUpdate req rt.currentMode rt.bucketState
  let state := applied.2
  let rt := { rt with bucketState := state,
                      cfg.perf.sentinelSampleBudget := state.sentinelBudget,
                      cfg.perf.diagnosticSampleBudget := state.diagnosticBudget,
                      cfg.perf.hardDropNs := state.hardDropNs }
  if rt.bpf.ready then
    let bpf := rt.bpf.syncBudgetConfig state.sentinelBudget state.diagnosticBudget state.hardDropNs
    let bpf := if applied.1.reprogramRequired then
        (bpf.updateSampleBudget k rt.currentMode state.sentinelBudget state.diagnosticBudget
          state.hardDropNs).1
      else bpf
    { rt with bpf := bpf }
  else rt

def handlePmuConfig (rt : AgentRuntime) (k : Kernel) (update : PmuConfigUpdate) :
    AgentRuntime :=
  let sentinelUpdated := update.hasSentinel && !update.sentinelGroups.isEmpty
  let diagnosticUpdated := update.hasDiagnostic && !update.diagnosticGroups.isEmpty
  let cfg := if sentinelUpdated then { rt.cfg with perf.sentinelGroups := update.sentinelGroups }
    else rt.cfg
  let cfg := if diagnosticUpdated then { cfg with perf.diagnosticGroups := update.diagnosticGroups }
    else cfg
  let rt := { rt with cfg := cfg }
  if !(sentinelUpdated || diagnosticUpdated) || !rt.bpf.ready then rt
  else
    let bpf := rt.bpf.updateGroupConfig
      (if update.hasSentinel then some cfg.perf.sentinelGroups else none)
      (if update.hasDiagnostic then some cfg.perf.diagnosticGroups else none)
    let r := bpf.switchMode k rt.currentMode
    if r.2 then { rt with bpf := r.1 }.rotatorUpdateMode rt.currentMode else { rt with bpf := r.1 }

def handleAnomaly (rt : AgentRuntime) (now : UInt64) (k : Kernel) (signal : AnomalySignal) :
    AgentRuntime :=
  let gauges := match signal.type with
    | .throughputDrop =>
      setGauge (setGauge rt.gauges "ms_throughput_ratio" signal.ratio) "ms_throughput_bps"
        signal.value
    | .latencySpike =>
      setGauge (setGauge rt.gauges "ms_latency_ratio" signal.ratio) "ms_latency_us" signal.value
  let mc := rt.modeController.notifyAnomaly now signal
  let rt := { rt with gauges := gauges, modeController := mc }
  if mc.mode ≠ rt.currentMode then rt.applyMode k mc.mode else rt

def handleTargetUpdate (rt : AgentRuntime) (cgroupPids : String → List UInt32)
    (specs : List TargetSpec) : AgentRuntime :=
  { rt with targetManager := MonitoringTargetManager.update cgroupPids specs }

/-- A window of the rotator's `Run` elapsing. -/
def rotatePmu (rt : AgentRuntime) (k : Kernel) : AgentRuntime :=
  match rt.pmuRotator with
  | some rot =>
    if rt.pmuRotatorStarted then
      let r := rot.tick rt.bpf k
      let rt := { rt with pmuRotator := some r.1, bpf := r.2.1 }
      match r.2.2 with
      | some scale => rt.publishScale scale
      | none => rt
    else rt
  | none => rt

/-- The runtime's entry points: a sample from the consumer, a flush cycle, the control
plane's requests, an anomaly signal and a rotator window. -/
inductive Call where
  | handleSample (env : SymbolEnv) (sample : Sample) (lbr : LbrStack)
  | runSingleFlushCycle
  | applyMode (mode : AgentMode)
  | handleBucketUpdate (req : BucketUpdateRequest)
  | handlePmuConfig (update : PmuConfigUpdate)
  | handleAnomaly (signal : AnomalySignal)
  | handleTargetUpdate (cgroupPids : String → List UInt32) (specs : List TargetSpec)
  | rotatePmu

/-- A call with the steady-clock time it runs at and the kernel's answers to it. -/
structure Event where
  now : UInt64
  kernel : Kernel
  call : Call

def step (rt : AgentRuntime) (e : Event) : AgentRuntime :=
  match e.call with
  | .handleSample env sample lbr => rt.handleSample e.now env sample lbr
  | .runSingleFlushCycle => rt.runSingleFlushCycle e.now e.kernel
  | .applyMode mode => rt.applyMode e.kernel mode
  | .handleBucketUpdate req => rt.handleBucketUpdate e.kernel req
  | .handlePmuConfig update => rt.handlePmuConfig e.kernel update
  | .handleAnomaly signal => rt.handleAnomaly e.now e.kernel signal
  | .handleTargetUpdate cgroupPids specs => rt.handleTargetUpdate cgroupPids specs
  | .rotatePmu => rt.rotatePmu e.kernel

def run (rt : AgentRuntime) : List Event → AgentRuntime
  | [] => rt
  | e :: es => (rt.step e).run es

/-! ### What the control operations leave alone -/

/-- The part of the state the sample path reads and writes: the symbolizer, the sink, the
aggregator's table and configuration, the skew windows, the target filter and the sample
count. -/
def samplePath (rt : AgentRuntime) : Symbolizer × Sink ×
    List (AggregationKey × AggregatedValue) × AggregatorConfig × SkewAdjuster ×
    MonitoringTargetManager × UInt64 :=
  (rt.symbolizer, rt.sink, rt.aggregator.table, rt.aggregator.cfg, rt.skewAdjuster,
    rt.targetManager, rt.samplesTotal)

theorem samplePath_rotatorUpdateMode (rt : AgentRuntime) (mode : AgentMode) :
    (rt.rotatorUpdateMode mode).samplePath = rt.samplePath := by
  unfold rotatorUpdateMode
  split
  · split <;> rfl
  · rfl

theorem samplePath_applyMode (rt : AgentRuntime) (k : Kernel) (mode : AgentMode) :
    (rt.applyMode k mode).samplePath = rt.samplePath := by
  unfold applyMode
  dsimp only
  split
  · split
    · exact samplePath_rotatorUpdateMode _ mode
    · rfl
  · rfl

theorem samplePath_maybeAdjustSafety (rt : AgentRuntime) (k : Kernel) (ratio : WithTop ℚ) :
    (rt.maybeAdjustSafety k ratio).samplePath = rt.samplePath := by
  unfold maybeAdjustSafety
  dsimp only
  rw [apply_ite samplePath]
  refine ite_eq_left_iff.2 fun _ => (samplePath_rotatorUpdateMode _ _).trans ?_
  split <;> rfl

theorem samplePath_reactToLoad (rt : AgentRuntime) (now : UInt64) (k : Kernel) (flushed : UInt64) :
    (rt.reactToLoad now k flushed).samplePath = rt.samplePath := by
  unfold reactToLoad
  by_cases busy : flushed > 0
  · rw [if_pos busy]
    dsimp only
    rw [apply_ite samplePath, samplePath_applyMode, ite_self]
    exact samplePath_maybeAdjustSafety _ k _
  · rw [if_neg busy]

/-! ### The target filter -/

/-- After a target update, whatever filter the runtime held before, a sample passes exactly
when the `MonitoringTargetSet` semantics of the new list selects it. -/
theorem target_filter_semantics (rt : AgentRuntime) (cgroupPids : String → List UInt32)
    (specs : List TargetSpec) (sample : Sample) :
    (rt.handleTargetUpdate cgroupPids specs).targetManager.allow sample = true ↔
      MonitoringTargetManager.Selects cgroupPids specs sample :=
  MonitoringTargetManager.allow_update_iff cgroupPids specs sample

/-- A `Cgroup` spec with an empty path sets the pid filter but reads no `cgroup.procs`: with
pid 42 read for every path, the sample of pid 42 is still rejected. -/
theorem empty_cgroup_path_blocks :
    42 ∈ (fun _ : String => [(42 : UInt32)]) "" ∧
    (MonitoringTargetManager.update (fun _ => [42]) [{ type := .cgroup, path := "" }]).allow
      { Sample.zero with pid := 42 } = false :=
  ⟨List.mem_singleton_self _, rfl⟩

end AgentRuntime

end MicroSentinel
