import MicroSentinel.ProcMaps
import MicroSentinel.RuntimeData
import MicroSentinel.ControlPlane

/-! The gauges `RunSingleFlushCycle` (`runtime.cpp`) writes to `MetricsExporter` for the
aggregator's rollups. A gauge's name prints the rollup's flow, function, stack, event, NUMA
node, direction, class and data object between quotes, so two rollups share a gauge exactly
when those labels agree: the time bucket never enters the name, and direction codes past 1
and class codes past 3 print as `unknown`. `SetGauge` overwrites and nothing erases, so along
every run after `Start` each such gauge holds the cost of the last rollup handed to the sink
under its name. -/
namespace MicroSentinel

/-! ### A gauge's name, quote by quote -/

/-- The texts of `flowGaugeName` between its quotes. -/
def flowGaugeFields (key : AggregationKey) : List (List Char) :=
  [(flowMetricName key.pmuEvent ++ "\x7bflow=").toList, (toString key.flowId).toList,
   ",function=".toList, ("0x" ++ Symbolizer.hex key.functionHash).toList,
   ",stack=".toList, ("0x" ++ Symbolizer.hex key.callstackId).toList,
   ",event=".toList, (toString key.pmuEvent).toList,
   ",numa=".toList, (toString key.numaNode).toList,
   ",direction=".toList, (directionLabel key.direction).toList,
   ",class=".toList, (interferenceClassName key.interferenceClass).toList,
   ",data_object=".toList, ("0x" ++ Symbolizer.hex key.dataObjectId).toList, "\x7d".toList]

theorem flowGaugeName_toList (key : AggregationKey) :
    (flowGaugeName key).toList = ['"'].intercalate (flowGaugeFields key) := by
  simp [flowGaugeName, flowGaugeFields, List.intercalate, String.toList]

theorem toDigits_hex (n : Nat) : (∀ c ∈ Nat.toDigits 16 n, ∃ k < 16, c = Nat.digitChar k) ∧
    hexValue (Nat.toDigits 16 n) = n := by
  obtain ⟨d, eq, -, digits, value⟩ := toDigitsCore_value (fun c => (hexDigit c).getD 0)
    (show 1 < 16 by decide) (fun k lt => by simp [(digitChar_hex k lt).1]) (n + 1) n []
    (Nat.lt_succ_self _)
  rw [List.append_nil] at eq
  rw [Nat.toDigits, eq]
  exact ⟨digits, value⟩

theorem quote_not_mem_toString (n : Nat) : '"' ∉ (toString n).toList := fun mem => by
  simpa using (decimalValue_toString n).2.1 _ mem

theorem quote_not_mem_hex (n : UInt64) : '"' ∉ ("0x" ++ Symbolizer.hex n).toList := by
  simp only [Symbolizer.hex, String.toList, String.data_append, List.mem_append, not_or]
  refine ⟨by decide, fun mem => ?_⟩
  obtain ⟨k, lt, eq⟩ := (toDigits_hex n.toNat).1 _ mem
  exact (show ∀ k < 16, Nat.digitChar k ≠ '"' by decide) k lt eq.symm

theorem flowGaugeFields_plain (key : AggregationKey) : ∀ l ∈ flowGaugeFields key, '"' ∉ l := by
  have metric : '"' ∉ (flowMetricName key.pmuEvent ++ "\x7bflow=").toList := by
    unfold flowMetricName; split_ifs <;> decide
  have direction : '"' ∉ (directionLabel key.direction).toList := by
    unfold directionLabel; split_ifs <;> decide
  have kind : '"' ∉ (interferenceClassName key.interferenceClass).toList := by
    unfold interferenceClassName; split_ifs <;> decide
  simp only [flowGaugeFields, List.forall_mem_cons, List.forall_mem_nil, and_true]
  exact ⟨metric, quote_not_mem_toString _, by decide, quote_not_mem_hex _, by decide,
    quote_not_mem_hex _, by decide, quote_not_mem_toString _, by decide, quote_not_mem_toString _,
    by decide, direction, by decide, kind, by decide, quote_not_mem_hex _, by decide⟩

theorem flowGaugeFields_eq {k₁ k₂ : AggregationKey}
    (same : flowGaugeName k₁ = flowGaugeName k₂) : flowGaugeFields k₁ = flowGaugeFields k₂ := by
  have split := congrArg (fun name => name.toList.splitOn '"') same
  simpa only [flowGaugeName_toList, List.splitOn_intercalate _ '"' (flowGaugeFields_plain _)
    (List.cons_ne_nil _ _)] using split

theorem eq_of_toString {m n : Nat} (same : (toString m).toList = (toString n).toList) : m = n := by
  rw [← (decimalValue_toString m).2.2, same, (decimalValue_toString n).2.2]

theorem eq_of_hex {m n : UInt64}
    (same : ("0x" ++ Symbolizer.hex m).toList = ("0x" ++ Symbolizer.hex n).toList) : m = n := by
  simp only [Symbolizer.hex, String.toList, String.data_append, List.append_cancel_left_eq] at same
  exact UInt64.toNat.inj (by rw [← (toDigits_hex m.toNat).2, same, (toDigits_hex n.toNat).2])

/-- Two rollups share a gauge exactly when their flow, function, stack, event, NUMA node and
data object agree and their direction and class print the same: the bucket is not in the
name. -/
theorem flowGaugeName_eq_iff (k₁ k₂ : AggregationKey) :
    flowGaugeName k₁ = flowGaugeName k₂ ↔
      k₁.flowId = k₂.flowId ∧ k₁.functionHash = k₂.functionHash ∧
      k₁.callstackId = k₂.callstackId ∧ k₁.pmuEvent = k₂.pmuEvent ∧
      k₁.numaNode = k₂.numaNode ∧ directionLabel k₁.direction = directionLabel k₂.direction ∧
      interferenceClassName k₁.interferenceClass = interferenceClassName k₂.interferenceClass ∧
      k₁.dataObjectId = k₂.dataObjectId := by
  constructor
  · intro same
    have fields := flowGaugeFields_eq same
    simp only [flowGaugeFields, List.cons.injEq, and_true, true_and] at fields
    obtain ⟨-, flow, fn, stack, event, numa, dir, kind, obj⟩ := fields
    exact ⟨UInt64.toNat.inj (eq_of_toString flow), eq_of_hex fn, eq_of_hex stack,
      UInt32.toNat.inj (eq_of_toString event), UInt16.toNat.inj (eq_of_toString numa),
      String.ext dir, String.ext kind, eq_of_hex obj⟩
  · rintro ⟨flow, fn, stack, event, numa, dir, kind, obj⟩
    simp only [flowGaugeName, flow, fn, stack, event, numa, dir, kind, obj]

/-! ### The gauge map along a run -/

theorem lookup_setGauge_ne (gauges : List (String × WithTop ℚ)) {name other : String}
    (value : WithTop ℚ) (ne : other ≠ name) :
    (setGauge gauges name value).lookup other = gauges.lookup other := by
  rw [setGauge, List.lookup_cons, beq_false_of_ne ne]
  show (gauges.filter (·.1 ≠ name)).lookup other = gauges.lookup other
  induction gauges with
  | nil => rfl
  | cons g gs ih =>
    obtain ⟨n, v⟩ := g
    by_cases drop : n = name
    · rw [List.filter_cons_of_neg (by simpa using drop), ih, List.lookup_cons,
        beq_false_of_ne (drop ▸ ne)]
    · rw [List.filter_cons_of_pos (by simpa using drop), List.lookup_cons, List.lookup_cons, ih]

theorem flowGaugeName_ne {name : String} (plain : '"' ∉ name.toList) (key : AggregationKey) :
    name ≠ flowGaugeName key := by
  rintro rfl
  exact plain (by rw [flowGaugeName_toList]; simp [flowGaugeFields, List.intercalate])

/-- The cost of the last rollup of `rollups` under the gauge `name`, as `SetGauge` leaves it. -/
def lastCost (rollups : List (AggregationKey × AggregatedValue)) (name : String) :
    Option (WithTop ℚ) :=
  ((rollups.filter fun r => flowGaugeName r.1 = name).getLast?).map
    fun r => (r.2.normCost : WithTop ℚ)

theorem lastCost_append (older newer : List (AggregationKey × AggregatedValue)) (name : String) :
    lastCost (older ++ newer) name = (lastCost newer name).or (lastCost older name) := by
  simp only [lastCost, List.filter_append, List.getLast?_append, Option.map_or']

namespace AgentRuntime

theorem lookup_drainRollups (sink : Sink) (gauges : List (String × WithTop ℚ))
    (entries : List (AggregationKey × AggregatedValue)) (key : AggregationKey) :
    (drainRollups sink gauges entries).2.lookup (flowGaugeName key) =
      (lastCost entries (flowGaugeName key)).or (gauges.lookup (flowGaugeName key)) := by
  induction entries generalizing sink gauges with
  | nil => rfl
  | cons e es ih =>
    obtain ⟨k, v⟩ := e
    rw [drainRollups, ih, ← List.singleton_append, lastCost_append, Option.or_assoc]
    refine congrArg (lastCost es (flowGaugeName key)).or ?_
    by_cases mine : flowGaugeName k = flowGaugeName key
    · rw [← mine, lookup_setGauge]; simp [lastCost]
    · rw [lookup_setGauge_ne _ _ (Ne.symm mine)]; simp [lastCost, mine]

/-- What the flow gauges show, and the rollups the sink has received. -/
def flowView (rt : AgentRuntime) :
    List (AggregationKey × AggregatedValue) × (AggregationKey → Option (WithTop ℚ)) :=
  (rt.sink.rollups, fun key => rt.gauges.lookup (flowGaugeName key))

/-- Each flow gauge holds the cost of the last rollup the sink received under its name. -/
def FlowGauges (rt : AgentRuntime) : Prop :=
  ∀ key, rt.flowView.2 key = lastCost rt.flowView.1 (flowGaugeName key)

theorem FlowGauges.of_flowView {rt rt' : AgentRuntime} (inv : FlowGauges rt)
    (same : rt'.flowView = rt.flowView) : FlowGauges rt' := by
  unfold FlowGauges; rw [same]; exact inv

theorem flowView_setGauge (rt : AgentRuntime) {name : String} (plain : '"' ∉ name.toList)
    (value : WithTop ℚ) :
    { rt with gauges := setGauge rt.gauges name value }.flowView = rt.flowView := by
  simp only [flowView, lookup_setGauge_ne _ _ (flowGaugeName_ne plain _).symm]

theorem flowView_publishScale (rt : AgentRuntime) (scale : ℚ) :
    (rt.publishScale scale).flowView = rt.flowView :=
  flowView_setGauge rt (by decide) _

theorem flowView_rotatorUpdateMode (rt : AgentRuntime) (mode : AgentMode) :
    (rt.rotatorUpdateMode mode).flowView = rt.flowView := by
  unfold rotatorUpdateMode
  split
  · split
    · exact flowView_publishScale _ _
    · rfl
  · rfl

theorem flowView_applyMode (rt : AgentRuntime) (k : Kernel) (mode : AgentMode) :
    (rt.applyMode k mode).flowView = rt.flowView := by
  unfold applyMode
  dsimp only
  rw [flowView_setGauge _ (by decide)]
  split
  · split
    · exact flowView_rotatorUpdateMode _ mode
    · rfl
  · rfl

theorem flowView_maybeAdjustSafety (rt : AgentRuntime) (k : Kernel) (ratio : WithTop ℚ) :
    (rt.maybeAdjustSafety k ratio).flowView = rt.flowView := by
  unfold maybeAdjustSafety
  dsimp only
  rw [apply_ite flowView]
  refine ite_eq_left_iff.2 fun _ => ?_
  rw [flowView_setGauge _ (by decide), flowView_rotatorUpdateMode]
  split <;> rfl

theorem flowView_reactToLoad (rt : AgentRuntime) (now : UInt64) (k : Kernel) (flushed : UInt64) :
    (rt.reactToLoad now k flushed).flowView = rt.flowView := by
  unfold reactToLoad
  split
  · dsimp only
    rw [apply_ite flowView, flowView_applyMode, ite_self]
    exact (flowView_maybeAdjustSafety _ k _).trans (flowView_setGauge _ (by decide) _)
  · rfl

theorem flowView_handleAnomaly (rt : AgentRuntime) (now : UInt64) (k : Kernel)
    (signal : AnomalySignal) : (rt.handleAnomaly now k signal).flowView = rt.flowView := by
  unfold handleAnomaly
  dsimp only
  rw [apply_ite flowView, flowView_applyMode, ite_self]
  split <;>
  exact (flowView_setGauge { rt with gauges := setGauge rt.gauges _ _ } (by decide) _).trans
    (flowView_setGauge rt (by decide) _)

theorem flowView_emitAll (rt : AgentRuntime) (env : SymbolEnv) (bundles : List Bundle) :
    (rt.emitAll env bundles).flowView = rt.flowView := by
  induction bundles generalizing rt with
  | nil => rfl
  | cons b bs ih =>
    rw [emitAll, ih]
    unfold emitReadySample
    split <;> rfl

theorem flowView_handleBucketUpdate (rt : AgentRuntime) (k : Kernel)
    (req : BucketUpdateRequest) :
    (rt.handleBucketUpdate k req).flowView = rt.flowView := by
  unfold handleBucketUpdate
  dsimp only
  split <;> rfl

theorem flowView_handlePmuConfig (rt : AgentRuntime) (k : Kernel) (update : PmuConfigUpdate) :
    (rt.handlePmuConfig k update).flowView = rt.flowView := by
  unfold handlePmuConfig
  dsimp only
  rw [apply_ite flowView]
  refine ite_eq_left_iff.2 fun _ => ?_
  rw [apply_ite flowView, flowView_rotatorUpdateMode, ite_self]
  rfl

theorem flowView_rotatePmu (rt : AgentRuntime) (k : Kernel) :
    (rt.rotatePmu k).flowView = rt.flowView := by
  unfold rotatePmu
  split
  · split
    · dsimp only
      split
      · exact flowView_publishScale _ _
      · rfl
    · rfl
  · rfl

theorem flowView_start (rt : AgentRuntime) (k : Kernel) : (rt.start k).flowView = rt.flowView := by
  unfold start
  split
  · dsimp only
    split
    · split
      · split
        · exact (flowView_publishScale _ _).trans (flowView_applyMode _ _ _)
        · exact flowView_applyMode _ _ _
      · exact flowView_applyMode _ _ _
    · exact flowView_applyMode _ _ _
  · rfl

theorem FlowGauges.drainFlushCycle {rt : AgentRuntime} (inv : FlowGauges rt) :
    FlowGauges rt.drainFlushCycle.1 := by
  intro key
  have rollups :
      rt.drainFlushCycle.1.sink.rollups = rt.sink.rollups ++ rt.aggregator.flush.2.1 := by
    simp only [AgentRuntime.drainFlushCycle, (Sink.foldl_enqueueDataObject_rows _ _).1,
      (Sink.foldl_enqueueStack_rows _ _).1, drainRollups_sink]
  have gauges : rt.drainFlushCycle.1.gauges =
      (drainRollups rt.sink rt.gauges rt.aggregator.flush.2.1).2 := rfl
  simp only [flowView, rollups, gauges, lastCost_append, lookup_drainRollups]
  exact congrArg _ (inv key)

theorem FlowGauges.step {rt : AgentRuntime} (inv : FlowGauges rt) (e : Event) :
    FlowGauges (rt.step e) := by
  obtain ⟨now, k, call⟩ := e
  cases call with
  | handleSample env sample lbr => exact inv.of_flowView (flowView_emitAll _ _ _)
  | runSingleFlushCycle => exact inv.drainFlushCycle.of_flowView (flowView_reactToLoad _ _ _ _)
  | applyMode mode => exact inv.of_flowView (flowView_applyMode _ _ _)
  | handleBucketUpdate req => exact inv.of_flowView (flowView_handleBucketUpdate _ _ _)
  | handlePmuConfig update => exact inv.of_flowView (flowView_handlePmuConfig _ _ _)
  | handleAnomaly signal => exact inv.of_flowView (flowView_handleAnomaly _ _ _ _)
  | handleTargetUpdate cgroupPids specs => exact inv
  | rotatePmu => exact inv.of_flowView (flowView_rotatePmu _ _)

theorem FlowGauges.run {rt : AgentRuntime} (inv : FlowGauges rt) (events : List Event) :
    FlowGauges (rt.run events) := by
  induction events generalizing rt with
  | nil => exact inv
  | cons e es ih => exact ih (inv.step e)

theorem flowGauges_start (cfg : AgentConfig) (cpus : List Int) (bpfObject : Option Bool)
    (k₀ k : Kernel) : FlowGauges ((new cfg cpus bpfObject k₀).start k) :=
  (show FlowGauges (new cfg cpus bpfObject k₀) from fun _ => rfl).of_flowView (flowView_start _ k)

end AgentRuntime

end MicroSentinel
