import MicroSentinel.Config
import Mathlib.Order.WithBot
import Mathlib.Tactic.NormNum

/-! `ModeController` (`fs_detector.cpp`): the Sentinel/Diagnostic hysteresis driven by
the load ratio of each flush cycle, and the anomaly hold. A load ratio is a `double`
that a zero flush interval makes infinite, so it lives in `WithTop ℚ`; the clock is the
`now` each call reads. -/
namespace MicroSentinel

inductive AnomalyType where
  | throughputDrop
  | latencySpike
  deriving DecidableEq, Repr

structure AnomalySignal where
  type : AnomalyType
  ratio : ℚ
  value : ℚ
  timestampNs : UInt64

structure ModeController where
  thresholds : ModeThresholds
  mode : AgentMode
  lastAnomalyNs : UInt64
  lastThroughputRatio : ℚ
  lastLatencyRatio : ℚ

/-- The thresholds `AgentRuntime`'s constructor hands the controller: the anomaly
detector's positive settings replace the configured triggers and quiet period. -/
def runtimeThresholds (cfg : AgentConfig) : ModeThresholds :=
  let th := cfg.thresholds
  let th := if cfg.anomaly.throughputRatioTrigger > 0 then
    { th with throughputRatioTrigger := cfg.anomaly.throughputRatioTrigger } else th
  let th := if cfg.anomaly.latencyRatioTrigger > 0 then
    { th with latencyRatioTrigger := cfg.anomaly.latencyRatioTrigger } else th
  -- `refractory_period.count() > 0` on the signed count
  if 0 < cfg.anomaly.refractoryPeriod.toNat ∧ cfg.anomaly.refractoryPeriod.toNat < 2 ^ 63 then
    { th with anomalyQuietPeriod := cfg.anomaly.refractoryPeriod } else th

namespace ModeController

def new (thresholds : ModeThresholds) : ModeController := ⟨thresholds, .sentinel, 0, 1, 1⟩

def force (mc : ModeController) (mode : AgentMode) : ModeController := { mc with mode := mode }

def anomalyHoldActive (mc : ModeController) (now : UInt64) : Bool :=
  let holdNs := mc.thresholds.anomalyQuietPeriod * 1000000
  if holdNs = 0 then false
  else if mc.lastAnomalyNs = 0 then false
  else now ≥ mc.lastAnomalyNs && now - mc.lastAnomalyNs < holdNs

/-- `Update(load_ratio)`; the mode it returns is the new controller's. -/
def update (mc : ModeController) (now : UInt64) (loadRatio : WithTop ℚ) : ModeController :=
  match mc.mode with
  | .sentinel =>
    if loadRatio > (mc.thresholds.sentinelToDiag : WithTop ℚ) then { mc with mode := .diagnostic }
    else mc
  | .diagnostic =>
    if !mc.anomalyHoldActive now && loadRatio < (mc.thresholds.diagToSentinel : WithTop ℚ) then
      { mc with mode := .sentinel }
    else mc

def notifyAnomaly (mc : ModeController) (now : UInt64) (signal : AnomalySignal) :
    ModeController :=
  let mc := { mc with lastAnomalyNs := if signal.timestampNs ≠ 0 then signal.timestampNs else now }
  match signal.type with
  | .throughputDrop =>
    let mc := { mc with lastThroughputRatio := signal.ratio }
    if signal.ratio > 0 ∧ signal.ratio < mc.thresholds.throughputRatioTrigger then
      { mc with mode := .diagnostic } else mc
  | .latencySpike =>
    let mc := { mc with lastLatencyRatio := signal.ratio }
    if signal.ratio > mc.thresholds.latencyRatioTrigger then { mc with mode := .diagnostic } else mc

@[simp] theorem thresholds_update (mc : ModeController) (now : UInt64) (r : WithTop ℚ) :
    (mc.update now r).thresholds = mc.thresholds := by
  unfold update; split <;> split_ifs <;> rfl

@[simp] theorem anomalyHoldActive_update (mc : ModeController) (now now' : UInt64)
    (r : WithTop ℚ) : (mc.update now r).anomalyHoldActive now' = mc.anomalyHoldActive now' := by
  unfold update; split <;> split_ifs <;> rfl

@[simp] theorem mode_update (mc : ModeController) (now : UInt64) (r : WithTop ℚ) :
    (mc.update now r).mode = match mc.mode with
      | .sentinel => if (mc.thresholds.sentinelToDiag : WithTop ℚ) < r then .diagnostic
        else .sentinel
      | .diagnostic =>
        if !mc.anomalyHoldActive now && r < (mc.thresholds.diagToSentinel : WithTop ℚ) then
          .sentinel
        else .diagnostic := by
  unfold update; split <;> split_ifs <;> simp_all

theorem update_update_mode (mc : ModeController) (now₁ now₂ : UInt64) (r : WithTop ℚ)
    (quiet₁ : mc.anomalyHoldActive now₁ = false) (quiet₂ : mc.anomalyHoldActive now₂ = false) :
    ((mc.update now₁ r).update now₂ r).mode = (mc.update now₁ r).mode ↔
      ¬ ((mc.thresholds.sentinelToDiag : WithTop ℚ) < r ∧
        r < (mc.thresholds.diagToSentinel : WithTop ℚ)) := by
  cases mode : mc.mode <;>
    by_cases up : (mc.thresholds.sentinelToDiag : WithTop ℚ) < r <;>
    by_cases down : r < (mc.thresholds.diagToSentinel : WithTop ℚ) <;>
    simp [mode, up, down, quiet₁, quiet₂]

/-! ### Runs of calls -/

/-- A call on the controller: `Update` and `NotifyAnomaly` with the reading of `NowNs` they
make, or `Force`. -/
inductive Call where
  | update (now : UInt64) (loadRatio : WithTop ℚ)
  | notifyAnomaly (now : UInt64) (signal : AnomalySignal)
  | force (mode : AgentMode)

def step (mc : ModeController) : Call → ModeController
  | .update now r => mc.update now r
  | .notifyAnomaly now signal => mc.notifyAnomaly now signal
  | .force mode => mc.force mode

def run (mc : ModeController) (calls : List Call) : ModeController := calls.foldl step mc

/-- The `Update` calls of a list of clock readings and load ratios. -/
def updates (us : List (UInt64 × WithTop ℚ)) : List Call := us.map fun u => .update u.1 u.2

/-- The signals on which `NotifyAnomaly` stores Diagnostic. -/
def Triggers (th : ModeThresholds) (signal : AnomalySignal) : Prop :=
  match signal.type with
  | .throughputDrop => 0 < signal.ratio ∧ signal.ratio < th.throughputRatioTrigger
  | .latencySpike => th.latencyRatioTrigger < signal.ratio

instance (th : ModeThresholds) (signal : AnomalySignal) : Decidable (Triggers th signal) := by
  unfold Triggers; split <;> infer_instance

@[simp] theorem lastAnomalyNs_update (mc : ModeController) (now : UInt64) (r : WithTop ℚ) :
    (mc.update now r).lastAnomalyNs = mc.lastAnomalyNs := by
  unfold update; split <;> split_ifs <;> rfl

@[simp] theorem thresholds_notifyAnomaly (mc : ModeController) (now : UInt64)
    (signal : AnomalySignal) : (mc.notifyAnomaly now signal).thresholds = mc.thresholds := by
  unfold notifyAnomaly; cases signal.type <;> dsimp only <;> split_ifs <;> rfl

@[simp] theorem lastAnomalyNs_notifyAnomaly (mc : ModeController) (now : UInt64)
    (signal : AnomalySignal) : (mc.notifyAnomaly now signal).lastAnomalyNs =
      if signal.timestampNs ≠ 0 then signal.timestampNs else now := by
  unfold notifyAnomaly; cases signal.type <;> dsimp only <;> split_ifs <;> rfl

theorem run_replicate_succ (mc : ModeController) (c : Call) (m : Nat) :
    run mc (List.replicate (m + 1) c) = step (run mc (List.replicate m c)) c := by
  rw [List.replicate_succ', run, List.foldl_append, List.foldl_cons, List.foldl_nil, ← run]

theorem run_replicate_update (mc : ModeController) (now : UInt64) (r : WithTop ℚ) (m : Nat) :
    (run mc (List.replicate m (.update now r))).thresholds = mc.thresholds ∧
      (run mc (List.replicate m (.update now r))).lastAnomalyNs = mc.lastAnomalyNs := by
  induction m with
  | zero => exact ⟨rfl, rfl⟩
  | succ m ih => rw [run_replicate_succ]; simpa [step] using ih

theorem mode_notifyAnomaly (mc : ModeController) (now : UInt64) (signal : AnomalySignal)
    (trigger : Triggers mc.thresholds signal) :
    (mc.notifyAnomaly now signal).mode = .diagnostic := by
  obtain ⟨type, ratio, value, stamp⟩ := signal
  cases type <;> simp only [Triggers] at trigger <;> simp [notifyAnomaly, trigger]

theorem anomalyHoldActive_of_within (mc : ModeController) (now : UInt64)
    (noWrap : mc.thresholds.anomalyQuietPeriod.toNat * 1000000 < 2 ^ 64)
    (anchored : mc.lastAnomalyNs ≠ 0) (after : mc.lastAnomalyNs ≤ now)
    (within : now.toNat <
      mc.lastAnomalyNs.toNat + mc.thresholds.anomalyQuietPeriod.toNat * 1000000) :
    mc.anomalyHoldActive now = true := by
  have hold : (mc.thresholds.anomalyQuietPeriod * 1000000).toNat =
      mc.thresholds.anomalyQuietPeriod.toNat * 1000000 :=
    (Fin.val_mul _ _).trans (Nat.mod_eq_of_lt noWrap)
  have elapsed := UInt64.toNat_sub_of_le _ _ after
  rw [u64_le] at after
  unfold anomalyHoldActive
  rw [if_neg (by rw [u64_eq, hold]; simp; omega), if_neg anchored]
  simp only [Bool.and_eq_true, decide_eq_true_eq, u64_le, u64_lt, elapsed, hold]
  omega

theorem mode_run_updates (mc : ModeController) (us : List (UInt64 × WithTop ℚ))
    (diagnostic : mc.mode = .diagnostic) (held : ∀ u ∈ us, mc.anomalyHoldActive u.1 = true) :
    (run mc (updates us)).mode = .diagnostic := by
  induction us generalizing mc with
  | nil => exact diagnostic
  | cons u us ih =>
    refine ih (mc.update u.1 u.2) ?_ fun v mem => ?_
    · simp [diagnostic, held u (List.mem_cons_self _ _)]
    · rw [anomalyHoldActive_update]; exact held v (List.mem_cons_of_mem _ mem)

theorem anomalyHoldActive_notifyAnomaly (mc : ModeController) (n now : UInt64)
    (signal : AnomalySignal) (stamp : signal.timestampNs ≤ n)
    (anchored : signal.timestampNs ≠ 0 ∨ n ≠ 0)
    (noWrap : mc.thresholds.anomalyQuietPeriod.toNat * 1000000 < 2 ^ 64) (after : n ≤ now)
    (within : now.toNat <
      signal.timestampNs.toNat + mc.thresholds.anomalyQuietPeriod.toNat * 1000000) :
    (mc.notifyAnomaly n signal).anomalyHoldActive now = true := by
  have quiet := thresholds_notifyAnomaly mc n signal
  rw [u64_le] at stamp after
  by_cases zero : signal.timestampNs = 0
  · have last : (mc.notifyAnomaly n signal).lastAnomalyNs = n := by simp [zero]
    rw [zero] at within
    refine anomalyHoldActive_of_within _ _ (quiet ▸ noWrap)
      (by rw [last]; exact anchored.resolve_left (not_not.2 zero)) (by rw [last]; exact after) ?_
    rw [last, quiet]; simp only [UInt64.toNat_zero, Nat.zero_add] at within; omega
  · have last : (mc.notifyAnomaly n signal).lastAnomalyNs = signal.timestampNs := by simp [zero]
    refine anomalyHoldActive_of_within _ _ (quiet ▸ noWrap) (by rw [last]; exact zero)
      (by rw [last, u64_le]; exact Nat.le_trans stamp after) ?_
    rw [last, quiet]; exact within

end ModeController

@[simp] theorem sentinelToDiag_runtimeThresholds (cfg : AgentConfig) :
    (runtimeThresholds cfg).sentinelToDiag = cfg.thresholds.sentinelToDiag := by
  unfold runtimeThresholds; split_ifs <;> rfl

@[simp] theorem diagToSentinel_runtimeThresholds (cfg : AgentConfig) :
    (runtimeThresholds cfg).diagToSentinel = cfg.thresholds.diagToSentinel := by
  unfold runtimeThresholds; split_ifs <;> rfl

open ModeController in
/-- For every configuration `main` starts the agent with, a constant load ratio makes
consecutive `Update`s alternate exactly in diagnostic mode, for ratios in (0, 1.02). -/
theorem mode_update_stable (args : List String) (readFile : String → Option String)
    (cfg : AgentConfig) (launch : mainConfig args readFile = .start cfg) (mc : ModeController)
    (derived : mc.thresholds = runtimeThresholds cfg) (now₁ now₂ : UInt64) (r : WithTop ℚ)
    (quiet₁ : mc.anomalyHoldActive now₁ = false) (quiet₂ : mc.anomalyHoldActive now₂ = false) :
    ((mc.update now₁ r).update now₂ r).mode = (mc.update now₁ r).mode ↔
      ¬ (cfg.diagnosticMode = true ∧ 0 < r ∧ r < ((102 / 100 : ℚ) : WithTop ℚ)) := by
  obtain ⟨low, high⟩ := mainConfig_hysteresis launch
  rw [update_update_mode mc now₁ now₂ r quiet₁ quiet₂, derived,
    sentinelToDiag_runtimeThresholds, diagToSentinel_runtimeThresholds, low, high]
  cases cfg.diagnosticMode
  · have apart : ¬ ((110 / 100 : ℚ) : WithTop ℚ) < ((102 / 100 : ℚ) : WithTop ℚ) := by
      rw [WithTop.coe_lt_coe]; norm_num
    simpa using fun (up : _ < r) down => apart (up.trans down)
  · simp

/-- The configuration `--diagnostic` alone gives `main`. -/
def diagnosticConfig : AgentConfig :=
  { ({} : AgentConfig) with diagnosticMode := true, thresholds.sentinelToDiag := 0 }

/-- `--diagnostic` on its own, at load ratio 1/2 from Sentinel mode: two cycles, two modes. -/
theorem mode_update_stable_diagnostic :
    mainConfig ["--diagnostic"] (fun _ => none) = .start diagnosticConfig ∧
    (((ModeController.new (runtimeThresholds diagnosticConfig)).update 0 ((1 / 2 : ℚ) : WithTop ℚ)).update
        0 ((1 / 2 : ℚ) : WithTop ℚ)).mode ≠
      ((ModeController.new (runtimeThresholds diagnosticConfig)).update 0
        ((1 / 2 : ℚ) : WithTop ℚ)).mode :=
  ⟨rfl, fun same => (mode_update_stable ["--diagnostic"] (fun _ => none) diagnosticConfig rfl
    (ModeController.new (runtimeThresholds diagnosticConfig)) rfl 0 0 ((1 / 2 : ℚ) : WithTop ℚ)
    rfl rfl |>.mp same) ⟨rfl, by norm_num, by rw [WithTop.coe_lt_coe]; norm_num⟩⟩

open ModeController in
/-- Started with `--diagnostic` alone, under a constant load ratio of 1/2 and no anomaly, the
controller alternates at every flush cycle: after `n` `Update`s it is in Diagnostic mode exactly
when `n` is odd. -/
theorem diagnostic_mode_flaps :
    mainConfig ["--diagnostic"] (fun _ => none) = .start diagnosticConfig ∧
    ∀ (n : Nat) (now : UInt64),
      (run (new (runtimeThresholds diagnosticConfig))
        (List.replicate n (.update now ((1 / 2 : ℚ) : WithTop ℚ)))).mode =
        if n % 2 = 1 then .diagnostic else .sentinel := by
  refine ⟨rfl, fun n now => ?_⟩
  induction n with
  | zero => rfl
  | succ n ih =>
    have kept := run_replicate_update (new (runtimeThresholds diagnosticConfig)) now
      ((1 / 2 : ℚ) : WithTop ℚ) n
    rw [run_replicate_succ, step, mode_update, ih]
    simp only [kept.1, anomalyHoldActive, kept.2]
    simp only [new, sentinelToDiag_runtimeThresholds, diagToSentinel_runtimeThresholds]
    rcases Nat.mod_two_eq_zero_or_one n with even | odd
    · have next : (n + 1) % 2 = 1 := by omega
      simp [even, next, diagnosticConfig]
    · have next : (n + 1) % 2 ≠ 1 := by omega
      norm_num [odd, next, diagnosticConfig]

end MicroSentinel
