import MicroSentinel.Config
import Mathlib.Data.Rat.Floor
import Mathlib.Tactic.Ring

/-! Three components of `AgentRuntime` small enough to share a module: the TSC
calibrator (`tsc_calibrator.cpp`), the monitoring-target filter (`monitoring_targets.cpp`)
and the token-bucket update rule (`bucket_update.cpp`). The calibrator's `NowNs()` and the
`cgroup.procs` files the filter reads are arguments. -/
namespace MicroSentinel

/-! ### `TscCalibrator` -/

/-- `TscCalibrator::CpuModel`. -/
structure CpuModel where
  slope : ℚ := 1
  offset : ℚ := 0
  lastRaw : UInt64 := 0
  lastRef : UInt64 := 0
  initialized : Bool := false
  passthroughSteadyNs : Bool := false

structure TscCalibrator where
  cfg : TscCalibrationConfig
  models : List CpuModel

namespace TscCalibrator

def kMinAlpha : ℚ := 1 / 1000
def kMaxAlpha : ℚ := 1 / 2

/-- `std::clamp(v, lo, hi)`. -/
def clamp (v lo hi : ℚ) : ℚ := if v < lo then lo else if hi < v then hi else v

/-- `static_cast<uint64_t>` of a non-negative `double`: its integer part, wrapped past
`2^64`, where the C++ cast is undefined. -/
def toUInt64 (x : ℚ) : UInt64 := UInt64.ofNat x.floor.toNat

def new (cfg : TscCalibrationConfig) : TscCalibrator := ⟨cfg, []⟩

/-- `EnsureModel`: the vector grown with default models to hold `cpu`. -/
def ensureModel (models : List CpuModel) (cpu : Nat) : List CpuModel :=
  if cpu ≥ models.length then models ++ List.replicate (cpu + 1 - models.length) ({} : CpuModel)
  else models

/-- `Normalize(cpu, raw_tsc)` at steady-clock time `now`: the calibrator after the call and
the timestamp it returns. -/
def normalize (tc : TscCalibrator) (now : UInt64) (cpu : UInt32) (rawTsc : UInt64) :
    TscCalibrator × UInt64 :=
  if !tc.cfg.enabled then (tc, rawTsc)
  else
    let slopeAlpha := clamp tc.cfg.slopeAlpha kMinAlpha kMaxAlpha
    let offsetAlpha := clamp tc.cfg.offsetAlpha kMinAlpha kMaxAlpha
    let models := ensureModel tc.models cpu.toNat
    let model := models.getD cpu.toNat {}
    let store := fun (m : CpuModel) => { tc with models := models.set cpu.toNat m }
    if !model.initialized then
      let ratio : ℚ := (rawTsc.toNat : ℚ) / now.toNat
      if now > 0 ∧ rawTsc > 0 ∧ 3 / 4 < ratio ∧ ratio < 3 / 2 then
        (store { model with initialized := true, passthroughSteadyNs := true, lastRaw := rawTsc,
                            lastRef := now }, rawTsc)
      else
        (store { model with initialized := true, slope := 1,
                            offset := (now.toNat : ℚ) - rawTsc.toNat, lastRaw := rawTsc,
                            lastRef := now }, now)
    else if model.passthroughSteadyNs then ({ tc with models := models }, rawTsc)
    else
      let rawDelta := if rawTsc ≥ model.lastRaw then rawTsc - model.lastRaw else 0
      let refDelta := now - model.lastRef
      let slopeEst : ℚ := (refDelta.toNat : ℚ) / rawDelta.toNat
      let slope := if rawDelta > 0 ∧ refDelta > 0 ∧ 0 < slopeEst ∧ slopeEst < 10 then
        slopeAlpha * slopeEst + (1 - slopeAlpha) * model.slope else model.slope
      let offsetEst := (now.toNat : ℚ) - slope * rawTsc.toNat
      let offset := offsetAlpha * offsetEst + (1 - offsetAlpha) * model.offset
      let normalized := slope * rawTsc.toNat + offset
      (store { model with slope := slope, offset := offset, lastRaw := rawTsc, lastRef := now },
        toUInt64 (if normalized < 0 then 0 else normalized))

/-- `Normalize(cpu, raw_i)` on one CPU for each clock reading and raw stamp, in order: the
calibrator after the calls and the values they return. -/
def normalizeAll (tc : TscCalibrator) (cpu : UInt32) :
    List (UInt64 × UInt64) → TscCalibrator × List UInt64
  | [] => (tc, [])
  | (now, raw) :: calls =>
    ((normalizeAll (tc.normalize now cpu raw).1 cpu calls).1,
      (tc.normalize now cpu raw).2 :: (normalizeAll (tc.normalize now cpu raw).1 cpu calls).2)

/-- Three calls on CPU 0 under the default configuration, at one clock reading and with rising
raw stamps: the third returns less than the second, the offset average pulling the output
back toward the clock. -/
theorem calibrated_time_goes_back :
    (normalizeAll (new {}) 0 [(1000000, 1000), (1000000, 2000), (1000000, 2001)]).2 =
      [1000000, 1000950, 1000903] := by
  with_unfolding_all rfl

end TscCalibrator

/-! ### `MonitoringTargetManager` -/

structure FlowTarget where
  ingressIfindex : UInt16 := 0
  l4Proto : UInt8 := 0
  deriving DecidableEq

inductive TargetType where
  | all
  | cgroup
  | process
  | flow
  deriving DecidableEq

structure TargetSpec where
  type : TargetType := .all
  path : String := ""
  pid : UInt32 := 0
  flow : FlowTarget := {}

/-- The flow test of `Allow`: each field is a wildcard at 0. -/
def FlowTarget.Matches (flow : FlowTarget) (sample : Sample) : Prop :=
  (flow.ingressIfindex = 0 ∨ flow.ingressIfindex = sample.ingressIfindex) ∧
    (flow.l4Proto = 0 ∨ flow.l4Proto = sample.l4Proto)

/-- The pids a spec puts in `allowed_pids_`: the pid of a `Process` spec, and those read for a
`Cgroup` spec with a path; never 0. -/
def TargetSpec.Names (cgroupPids : String → List UInt32) (spec : TargetSpec) (pid : UInt32) :
    Prop :=
  pid ≠ 0 ∧ (spec.type = .process ∧ spec.pid = pid ∨
    spec.type = .cgroup ∧ spec.path ≠ "" ∧ pid ∈ cgroupPids spec.path)

/-- The filter; `allowed_pids_` is an `unordered_set`, kept as a list without repeats. -/
structure MonitoringTargetManager where
  allowedPids : List UInt32
  flowTargets : List FlowTarget
  allowAll : Bool
  hasPidFilter : Bool
  hasFlowFilter : Bool

namespace MonitoringTargetManager

def new : MonitoringTargetManager := ⟨[], [], true, false, false⟩

def allow (m : MonitoringTargetManager) (sample : Sample) : Bool :=
  if m.allowAll then true
  else if m.hasPidFilter && !m.allowedPids.contains sample.pid then false
  else if !m.hasFlowFilter then true
  else m.flowTargets.any fun flow =>
    (flow.ingressIfindex == 0 || flow.ingressIfindex == sample.ingressIfindex) &&
      (flow.l4Proto == 0 || flow.l4Proto == sample.l4Proto)

/-- The loop of `Update`, from the sets built so far; it stops after an `All` spec.
`cgroupPids path` are the pids `LoadCgroupPids` parses from `path/cgroup.procs`. -/
def collect (cgroupPids : String → List UInt32) :
    List TargetSpec → MonitoringTargetManager → MonitoringTargetManager
  | [], m => m
  | spec :: rest, m =>
    let m := match spec.type with
      | .all => new
      | .process => { m with hasPidFilter := true,
                             allowedPids := if spec.pid ≠ 0 then m.allowedPids.insert spec.pid
                                            else m.allowedPids }
      | .cgroup => { m with hasPidFilter := true,
                            allowedPids := if spec.path ≠ "" then
                              ((cgroupPids spec.path).filter (· ≠ 0)).foldl
                                (fun pids pid => pids.insert pid) m.allowedPids
                              else m.allowedPids }
      | .flow => { m with hasFlowFilter := true, flowTargets := m.flowTargets ++ [spec.flow] }
    if m.allowAll then m else collect cgroupPids rest m

/-- `Update(specs)`: the filter is rebuilt from the specs alone; none means allow all. -/
def update (cgroupPids : String → List UInt32) (specs : List TargetSpec) :
    MonitoringTargetManager :=
  collect cgroupPids specs ⟨[], [], specs.isEmpty, false, false⟩

/-! #### What a target list selects -/

/-- The `MonitoringTargetSet` semantics: no spec or an `All` spec selects every sample;
otherwise a sample is selected when its pid is named, if a `Process` or `Cgroup` spec is
listed, and when a listed flow matches it, if a `Flow` spec is listed. -/
def Selects (cgroupPids : String → List UInt32) (specs : List TargetSpec) (sample : Sample) :
    Prop :=
  specs = [] ∨ (∃ s ∈ specs, s.type = .all) ∨
    ((∀ s ∈ specs, s.type ≠ .process ∧ s.type ≠ .cgroup) ∨
      ∃ s ∈ specs, s.Names cgroupPids sample.pid) ∧
    ((∀ s ∈ specs, s.type ≠ .flow) ∨ ∃ s ∈ specs, s.type = .flow ∧ s.flow.Matches sample)

/-- The body of `Update`'s loop for one spec. -/
def addSpec (cgroupPids : String → List UInt32) (spec : TargetSpec)
    (m : MonitoringTargetManager) : MonitoringTargetManager :=
  match spec.type with
  | .all => new
  | .process => { m with hasPidFilter := true,
                         allowedPids := if spec.pid ≠ 0 then m.allowedPids.insert spec.pid
                                        else m.allowedPids }
  | .cgroup => { m with hasPidFilter := true,
                        allowedPids := if spec.path ≠ "" then
                          ((cgroupPids spec.path).filter (· ≠ 0)).foldl
                            (fun pids pid => pids.insert pid) m.allowedPids
                          else m.allowedPids }
  | .flow => { m with hasFlowFilter := true, flowTargets := m.flowTargets ++ [spec.flow] }

theorem collect_cons (cgroupPids : String → List UInt32) (spec : TargetSpec)
    (rest : List TargetSpec) (m : MonitoringTargetManager) :
    collect cgroupPids (spec :: rest) m =
      if (addSpec cgroupPids spec m).allowAll then addSpec cgroupPids spec m
      else collect cgroupPids rest (addSpec cgroupPids spec m) := rfl

theorem mem_foldl_insert (pid : UInt32) (acc pids : List UInt32) :
    pid ∈ pids.foldl (fun pids pid => pids.insert pid) acc ↔ pid ∈ acc ∨ pid ∈ pids := by
  induction pids generalizing acc with
  | nil => simp
  | cons q pids ih => rw [List.foldl_cons, ih, List.mem_insert_iff, List.mem_cons]; tauto

theorem addSpec_of_ne_all (cgroupPids : String → List UInt32) {spec : TargetSpec}
    (h : spec.type ≠ .all) (m : MonitoringTargetManager) :
    (addSpec cgroupPids spec m).allowAll = m.allowAll ∧
    ((addSpec cgroupPids spec m).hasPidFilter = true ↔
      m.hasPidFilter = true ∨ spec.type = .process ∨ spec.type = .cgroup) ∧
    (∀ pid, pid ∈ (addSpec cgroupPids spec m).allowedPids ↔
      pid ∈ m.allowedPids ∨ spec.Names cgroupPids pid) ∧
    ((addSpec cgroupPids spec m).hasFlowFilter = true ↔
      m.hasFlowFilter = true ∨ spec.type = .flow) ∧
    (∀ flow, flow ∈ (addSpec cgroupPids spec m).flowTargets ↔
      flow ∈ m.flowTargets ∨ spec.type = .flow ∧ spec.flow = flow) := by
  cases e : spec.type with
  | all => exact absurd e h
  | process =>
    refine ⟨by simp [addSpec, e], by simp [addSpec, e], fun pid => ?_, by simp [addSpec, e],
      by simp [addSpec, e]⟩
    by_cases zero : spec.pid = 0 <;> simp [addSpec, e, zero, TargetSpec.Names] <;> aesop
  | cgroup =>
    refine ⟨by simp [addSpec, e], by simp [addSpec, e], fun pid => ?_, by simp [addSpec, e],
      by simp [addSpec, e]⟩
    by_cases empty : spec.path = "" <;>
      simp [addSpec, e, empty, TargetSpec.Names, mem_foldl_insert]
    tauto
  | flow =>
    simp [addSpec, e, TargetSpec.Names]
    exact fun flow => or_congr_right eq_comm

theorem allowAll_collect (cgroupPids : String → List UInt32) (specs : List TargetSpec)
    (all : ∃ s ∈ specs, s.type = .all) :
    ∀ m : MonitoringTargetManager, (collect cgroupPids specs m).allowAll = true := by
  induction specs with
  | nil => simp at all
  | cons spec rest ih =>
    intro m
    rw [collect_cons]
    by_cases first : spec.type = .all
    · simp [addSpec, first, new]
    · have later : ∃ s ∈ rest, s.type = .all := by
        obtain ⟨s, mem, h⟩ := all
        rcases List.mem_cons.1 mem with rfl | mem
        · exact absurd h first
        · exact ⟨s, mem, h⟩
      split
      · assumption
      · exact ih later _

theorem collect_of_no_all (cgroupPids : String → List UInt32) (specs : List TargetSpec)
    (none : ∀ s ∈ specs, s.type ≠ .all) :
    ∀ m : MonitoringTargetManager, m.allowAll = false →
      (collect cgroupPids specs m).allowAll = false ∧
      ((collect cgroupPids specs m).hasPidFilter = true ↔
        m.hasPidFilter = true ∨ ∃ s ∈ specs, s.type = .process ∨ s.type = .cgroup) ∧
      (∀ pid, pid ∈ (collect cgroupPids specs m).allowedPids ↔
        pid ∈ m.allowedPids ∨ ∃ s ∈ specs, s.Names cgroupPids pid) ∧
      ((collect cgroupPids specs m).hasFlowFilter = true ↔
        m.hasFlowFilter = true ∨ ∃ s ∈ specs, s.type = .flow) ∧
      (∀ flow, flow ∈ (collect cgroupPids specs m).flowTargets ↔
        flow ∈ m.flowTargets ∨ ∃ s ∈ specs, s.type = .flow ∧ s.flow = flow) := by
  induction specs with
  | nil => intro m h; simp [collect, h]
  | cons spec rest ih =>
    intro m h
    obtain ⟨all, pid, pids, flow, flows⟩ :=
      addSpec_of_ne_all cgroupPids (none spec (List.mem_cons_self _ _)) m
    obtain ⟨all', pid', pids', flow', flows'⟩ :=
      ih (fun s mem => none s (List.mem_cons_of_mem _ mem)) _ (all.trans h)
    rw [collect_cons, if_neg (by rw [all, h]; decide)]
    refine ⟨all', ?_, fun p => ?_, ?_, fun f => ?_⟩ <;>
      simp only [pid', pid, pids', pids, flow', flow, flows', flows, List.exists_mem_cons_iff,
        or_assoc]

theorem allow_iff (m : MonitoringTargetManager) (sample : Sample) :
    m.allow sample = true ↔ m.allowAll = true ∨
      ((m.hasPidFilter = true → sample.pid ∈ m.allowedPids) ∧
        (m.hasFlowFilter = true → ∃ flow ∈ m.flowTargets, flow.Matches sample)) := by
  unfold allow
  cases m.allowAll <;> cases m.hasPidFilter <;> cases m.hasFlowFilter <;>
    simp [FlowTarget.Matches]

theorem allow_update_iff (cgroupPids : String → List UInt32) (specs : List TargetSpec)
    (sample : Sample) :
    (update cgroupPids specs).allow sample = true ↔ Selects cgroupPids specs sample := by
  rw [allow_iff, update]
  by_cases empty : specs = []
  · subst empty; simp [collect, Selects]
  by_cases all : ∃ s ∈ specs, s.type = .all
  · simp [allowAll_collect _ _ all, Selects, all]
  · obtain ⟨allowAll, pid, pids, flow, flows⟩ := collect_of_no_all cgroupPids specs
      (fun s m h => all ⟨s, m, h⟩) ⟨[], [], specs.isEmpty, false, false⟩ (by simpa using empty)
    rw [allowAll, pid, pids, flow]
    have flowsMatch : (∃ flow, (∃ s ∈ specs, s.type = .flow ∧ s.flow = flow) ∧
        flow.Matches sample) ↔ ∃ s ∈ specs, s.type = .flow ∧ s.flow.Matches sample :=
      ⟨fun ⟨_, ⟨s, mem, kind, rfl⟩, m⟩ => ⟨s, mem, kind, m⟩,
        fun ⟨s, mem, kind, m⟩ => ⟨s.flow, ⟨s, mem, kind, rfl⟩, m⟩⟩
    simp only [Selects, empty, all, flows, false_or, Bool.false_eq_true, List.not_mem_nil,
      flowsMatch, imp_iff_not_or, not_exists, not_and, not_or, ne_eq]

end MonitoringTargetManager

/-! ### `ApplyBucketUpdate` -/

structure BucketUpdateRequest where
  hasSentinel : Bool := false
  sentinelBudget : UInt64 := 0
  hasDiagnostic : Bool := false
  diagnosticBudget : UInt64 := 0
  hasHardDrop : Bool := false
  hardDropNs : UInt64 := 0

structure BucketState where
  sentinelBudget : UInt64 := 0
  diagnosticBudget : UInt64 := 0
  hardDropNs : UInt64 := 0
  deriving DecidableEq

structure BucketUpdateOutcome where
  reprogramRequired : Bool := false
  activeBudget : UInt64 := 0

/-- The budget of a mode: `active_budget` of `ApplyBucketUpdate`. -/
def BucketState.budgetFor (state : BucketState) : AgentMode → UInt64
  | .sentinel => state.sentinelBudget
  | .diagnostic => state.diagnosticBudget

/-- `ApplyBucketUpdate(req, mode, state)`: the outcome and the state it leaves. -/
def applyBucketUpdate (req : BucketUpdateRequest) (mode : AgentMode) (state : BucketState) :
    BucketUpdateOutcome × BucketState :=
  let sentinelChanged := req.hasSentinel && req.sentinelBudget > 0
  let state := if sentinelChanged then { state with sentinelBudget := req.sentinelBudget } else state
  let diagnosticChanged := req.hasDiagnostic && req.diagnosticBudget > 0
  let diagAutoAdjusted := !diagnosticChanged && sentinelChanged &&
    decide (state.diagnosticBudget < state.sentinelBudget)
  let state := if diagnosticChanged then { state with diagnosticBudget := req.diagnosticBudget }
    else if diagAutoAdjusted then { state with diagnosticBudget := state.sentinelBudget } else state
  let dropChanged := req.hasHardDrop && req.hardDropNs > 0
  let state := if dropChanged then { state with hardDropNs := req.hardDropNs } else state
  let activeBudgetChanged := (mode == .sentinel && sentinelChanged) ||
    (mode == .diagnostic && (diagnosticChanged || diagAutoAdjusted))
  (⟨dropChanged || activeBudgetChanged, state.budgetFor mode⟩, state)

theorem applyBucketUpdate_unchanged (req : BucketUpdateRequest) (mode : AgentMode)
    (state : BucketState) (quiet : (applyBucketUpdate req mode state).1.reprogramRequired = false) :
    (applyBucketUpdate req mode state).2.budgetFor mode = state.budgetFor mode ∧
      (applyBucketUpdate req mode state).2.hardDropNs = state.hardDropNs := by
  simp only [applyBucketUpdate] at quiet ⊢
  generalize (req.hasSentinel && decide (req.sentinelBudget > 0)) = sentinel at quiet ⊢
  generalize (req.hasDiagnostic && decide (req.diagnosticBudget > 0)) = diagnostic at quiet ⊢
  generalize (req.hasHardDrop && decide (req.hardDropNs > 0)) = drop at quiet ⊢
  cases mode <;> cases sentinel <;> cases diagnostic <;> cases drop <;>
    simp_all [BucketState.budgetFor]
  -- the Diagnostic budget is lifted only above itself
  simp [UInt64.not_lt.2 quiet]

theorem applyBucketUpdate_budget_ne_zero (req : BucketUpdateRequest) (mode : AgentMode)
    (state : BucketState) (m : AgentMode) (nonzero : state.budgetFor m ≠ 0) :
    (applyBucketUpdate req mode state).2.budgetFor m ≠ 0 := by
  have pos : ∀ {x y : UInt64}, x < y → y ≠ 0 := fun h zero => by
    rw [zero, u64_lt] at h; exact Nat.not_lt_zero _ h
  have changed : ∀ {b : Bool} {x : UInt64}, (b && decide (x > 0)) = true → x ≠ 0 := fun h =>
    pos (of_decide_eq_true (Bool.and_eq_true _ _ ▸ h).2)
  cases m
  · simp only [BucketState.budgetFor, applyBucketUpdate, apply_ite BucketState.sentinelBudget,
      ite_self] at nonzero ⊢
    split_ifs with sentinel
    exacts [changed sentinel, nonzero]
  · simp only [BucketState.budgetFor, applyBucketUpdate, apply_ite BucketState.diagnosticBudget,
      apply_ite BucketState.sentinelBudget, ite_self] at nonzero ⊢
    generalize (if (req.hasSentinel && decide (req.sentinelBudget > 0)) = true then
      req.sentinelBudget else state.sentinelBudget) = sentinel
    split_ifs with diagnostic lifted
    · exact changed diagnostic
    · exact pos (of_decide_eq_true (Bool.and_eq_true _ _ ▸ lifted).2)
    · exact nonzero

/-! ### Sequences of bucket updates -/

/-- A request that sets the Sentinel budget: `has_sentinel` with a budget above 0. -/
def BucketUpdateRequest.carriesSentinel (req : BucketUpdateRequest) : Bool :=
  req.hasSentinel && req.sentinelBudget > 0

/-- A request that sets the Diagnostic budget. -/
def BucketUpdateRequest.carriesDiagnostic (req : BucketUpdateRequest) : Bool :=
  req.hasDiagnostic && req.diagnosticBudget > 0

/-- `bucket_state_` after `ApplyBucketUpdate` of each request in turn, each in its mode. -/
def applyBucketUpdates (state : BucketState) (reqs : List (BucketUpdateRequest × AgentMode)) :
    BucketState :=
  reqs.foldl (fun s r => (applyBucketUpdate r.1 r.2 s).2) state

theorem applyBucketUpdate_state (req : BucketUpdateRequest) (mode : AgentMode)
    (state : BucketState) :
    (applyBucketUpdate req mode state).2 =
      ⟨if req.carriesSentinel then req.sentinelBudget else state.sentinelBudget,
        if req.carriesDiagnostic then req.diagnosticBudget
        else if req.carriesSentinel ∧ state.diagnosticBudget < req.sentinelBudget then
          req.sentinelBudget
        else state.diagnosticBudget,
        if req.hasHardDrop && req.hardDropNs > 0 then req.hardDropNs else state.hardDropNs⟩ := by
  have s : (req.hasSentinel && decide (req.sentinelBudget > 0)) = req.carriesSentinel := rfl
  have d : (req.hasDiagnostic && decide (req.diagnosticBudget > 0)) = req.carriesDiagnostic := rfl
  simp only [applyBucketUpdate, s, d]
  cases req.carriesSentinel <;> cases req.carriesDiagnostic <;>
    cases req.hasHardDrop && decide (req.hardDropNs > 0) <;> simp <;> split_ifs <;> simp

theorem sentinel_le_diagnostic_apply {req : BucketUpdateRequest} (sentinel : req.carriesSentinel)
    (diagnostic : ¬req.carriesDiagnostic) (mode : AgentMode) (state : BucketState) :
    (applyBucketUpdate req mode state).2.sentinelBudget ≤
      (applyBucketUpdate req mode state).2.diagnosticBudget := by
  rw [applyBucketUpdate_state, if_pos sentinel, if_neg diagnostic]
  dsimp only
  split_ifs with lower
  · exact UInt64.le_refl _
  · exact UInt64.not_lt.1 fun low => lower ⟨sentinel, low⟩

theorem budgets_apply_of_quiet {req : BucketUpdateRequest} (sentinel : ¬req.carriesSentinel)
    (diagnostic : ¬req.carriesDiagnostic) (mode : AgentMode) (state : BucketState) :
    (applyBucketUpdate req mode state).2.sentinelBudget = state.sentinelBudget ∧
      (applyBucketUpdate req mode state).2.diagnosticBudget = state.diagnosticBudget := by
  rw [applyBucketUpdate_state, if_neg sentinel, if_neg diagnostic,
    if_neg fun lift => sentinel lift.1]
  exact ⟨rfl, rfl⟩

theorem applyBucketUpdates_of_quiet (state : BucketState)
    (reqs : List (BucketUpdateRequest × AgentMode))
    (quiet : ∀ r ∈ reqs, ¬r.1.carriesSentinel ∧ ¬r.1.carriesDiagnostic) :
    (applyBucketUpdates state reqs).sentinelBudget = state.sentinelBudget ∧
      (applyBucketUpdates state reqs).diagnosticBudget = state.diagnosticBudget := by
  induction reqs generalizing state with
  | nil => exact ⟨rfl, rfl⟩
  | cons r reqs ih =>
    obtain ⟨sentinel, diagnostic⟩ := quiet r (List.mem_cons_self r reqs)
    obtain ⟨s, d⟩ := budgets_apply_of_quiet sentinel diagnostic r.2 state
    obtain ⟨s', d'⟩ := ih (applyBucketUpdate r.1 r.2 state).2
      fun r' mem => quiet r' (List.mem_cons_of_mem r mem)
    exact ⟨s'.trans s, d'.trans d⟩

theorem applyBucketUpdate_twice (req : BucketUpdateRequest) (m₁ m₂ : AgentMode)
    (state : BucketState) :
    (applyBucketUpdate req m₂ (applyBucketUpdate req m₁ state).2).2 =
      (applyBucketUpdate req m₁ state).2 := by
  rw [applyBucketUpdate_state, applyBucketUpdate_state req m₁]
  simp only [BucketState.mk.injEq]
  refine ⟨by split_ifs <;> rfl, ?_, by split_ifs <;> rfl⟩
  split_ifs <;> simp_all [u64_lt]

theorem applyBucketUpdates_append (state : BucketState)
    (pre post : List (BucketUpdateRequest × AgentMode)) :
    applyBucketUpdates state (pre ++ post) =
      applyBucketUpdates (applyBucketUpdates state pre) post :=
  List.foldl_append _ _ _ _

open BucketUpdateRequest in
/-- Bucket-update laws. Over any sequence, when the last request that sets a budget sets the
Sentinel budget alone, the Diagnostic budget ends at least as high as the Sentinel one; a
request applied twice in a row, in any modes, leaves the state it leaves once; and the active
budget an update reports is the new state's budget for its mode. -/
theorem bucket_update_laws :
    (∀ (state : BucketState) (pre : List (BucketUpdateRequest × AgentMode))
      (req : BucketUpdateRequest) (mode : AgentMode)
      (post : List (BucketUpdateRequest × AgentMode)),
      req.carriesSentinel → ¬req.carriesDiagnostic →
      (∀ r ∈ post, ¬r.1.carriesSentinel ∧ ¬r.1.carriesDiagnostic) →
      (applyBucketUpdates state (pre ++ (req, mode) :: post)).sentinelBudget ≤
        (applyBucketUpdates state (pre ++ (req, mode) :: post)).diagnosticBudget) ∧
    (∀ (req : BucketUpdateRequest) (m₁ m₂ : AgentMode) (state : BucketState),
      (applyBucketUpdate req m₂ (applyBucketUpdate req m₁ state).2).2 =
        (applyBucketUpdate req m₁ state).2) ∧
    ∀ (req : BucketUpdateRequest) (mode : AgentMode) (state : BucketState),
      (applyBucketUpdate req mode state).1.activeBudget =
        (applyBucketUpdate req mode state).2.budgetFor mode := by
  refine ⟨fun state pre req mode post sentinel diagnostic quiet => ?_, applyBucketUpdate_twice,
    fun _ _ _ => rfl⟩
  rw [applyBucketUpdates_append]
  obtain ⟨s, d⟩ := applyBucketUpdates_of_quiet (applyBucketUpdate req mode
    (applyBucketUpdates state pre)).2 post quiet
  show (applyBucketUpdates _ post).sentinelBudget ≤ (applyBucketUpdates _ post).diagnosticBudget
  rw [s, d]
  exact sentinel_le_diagnostic_apply sentinel diagnostic mode _

end MicroSentinel
