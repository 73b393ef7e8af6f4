import MicroSentinel.Runtime

/-! The control plane of `AgentRuntime` over the BPF orchestrator: what a failed mode switch
or rotation leaves behind, and how the kernel's token bucket follows `bucket_state_` along
every run after `Start`. -/
namespace MicroSentinel

/-! ### The orchestrator's copy of the bucket state -/

/-- The orchestrator is ready, has groups for both modes and holds the bucket state's budgets
and hard-drop threshold. -/
structure BucketSynced (o : BpfOrchestrator) (state : BucketState) : Prop where
  ready : o.ready = true
  groups : ∀ m, o.groupsFor m ≠ []
  budgets : ∀ m, o.budgetFor m = state.budgetFor m
  hardDrop : o.cfg.hardDropNs = state.hardDropNs

/-- Moreover the kernel's `ms_tb_cfg` is the one the bucket state asks for in `mode`, unless
the budget for `mode` is 0: then the kernel's budget is 0 too, under some older threshold. -/
structure BucketAgrees (o : BpfOrchestrator) (state : BucketState) (mode : AgentMode)
    extends BucketSynced o state : Prop where
  written : o.maps.tbCfg = some (TbCfg.of (state.budgetFor mode) state.hardDropNs) ∨
    state.budgetFor mode = 0 ∧ ∃ h, o.maps.tbCfg = some ⟨0, h⟩

theorem BucketState.budgetFor_eq (state : BucketState) (mode : AgentMode) :
    state.budgetFor mode =
      if mode = .sentinel then state.sentinelBudget else state.diagnosticBudget := by
  cases mode <;> rfl

namespace BpfOrchestrator

theorem groupsFor_congr {o o' : BpfOrchestrator} (same : o'.cfg = o.cfg) :
    o'.groupsFor = o.groupsFor := by
  funext m
  cases m <;> simp only [groupsFor, same]

theorem budgetFor_congr {o o' : BpfOrchestrator} (same : o'.cfg = o.cfg) :
    o'.budgetFor = o.budgetFor := by
  funext m
  cases m <;> simp only [budgetFor, same]

end BpfOrchestrator

section Orchestrator

variable {o o' : BpfOrchestrator} {state : BucketState} {mode : AgentMode} {k : Kernel}

theorem BucketSynced.of_cfg (inv : BucketSynced o state) (cfg : o'.cfg = o.cfg)
    (ready : o'.ready = o.ready) : BucketSynced o' state :=
  ⟨ready.trans inv.ready, by rw [BpfOrchestrator.groupsFor_congr cfg]; exact inv.groups,
    by rw [BpfOrchestrator.budgetFor_congr cfg]; exact inv.budgets, by rw [cfg]; exact inv.hardDrop⟩

theorem BucketAgrees.of_frame (inv : BucketAgrees o state mode)
    (same : o'.bucketFrame = o.bucketFrame) : BucketAgrees o' state mode := by
  simp only [BpfOrchestrator.bucketFrame, Prod.mk.injEq] at same
  exact ⟨inv.toBucketSynced.of_cfg same.1 same.2.1, by rw [same.2.2]; exact inv.written⟩

theorem BucketSynced.switchMode (inv : BucketSynced o state) (ok : k.tbCfgUpdate = true)
    (mode : AgentMode) : BucketAgrees (o.switchMode k mode).1 state mode := by
  rcases o.switchMode_cases k mode with ⟨-, groups | refused⟩ | ⟨-, -, frame, -⟩
  · exact absurd groups (inv.groups mode)
  · exact absurd (ok.symm.trans refused) Bool.noConfusion
  · simp only [BpfOrchestrator.bucketFrame, Prod.mk.injEq] at frame
    exact ⟨inv.of_cfg frame.1 frame.2.1,
      .inl (by rw [frame.2.2, inv.budgets, inv.hardDrop])⟩

theorem BucketSynced.updateGroupConfig (inv : BucketSynced o state)
    (sentinel diagnostic : Option (List PmuGroupConfig)) :
    BucketSynced (o.updateGroupConfig sentinel diagnostic) state ∧
      (o.updateGroupConfig sentinel diagnostic).maps.tbCfg = o.maps.tbCfg := by
  have sentinelGroups := inv.groups .sentinel
  have diagnosticGroups := inv.groups .diagnostic
  unfold BpfOrchestrator.groupsFor at sentinelGroups diagnosticGroups
  unfold BpfOrchestrator.updateGroupConfig
  split <;> split <;> refine ⟨⟨inv.ready, fun m => ?_, inv.budgets, inv.hardDrop⟩, rfl⟩ <;>
    cases m <;> simp_all [BpfOrchestrator.groupsFor]

end Orchestrator

namespace AgentRuntime

/-! ### What each entry point does to the token bucket -/

/-- What the token-bucket invariant reads of the runtime. -/
def bucketView (rt : AgentRuntime) :
    (PerfConsumerConfig × Bool × Option TbCfg) × BucketState × AgentMode :=
  (rt.bpf.bucketFrame, rt.bucketState, rt.currentMode)

/-- The token-bucket invariant of the runtime's own orchestrator, bucket state and mode. -/
def BucketInvariant (rt : AgentRuntime) : Prop :=
  BucketAgrees rt.bpf rt.bucketState rt.currentMode

theorem BucketInvariant.of_view {rt : AgentRuntime} {o : BpfOrchestrator} {state : BucketState}
    {mode : AgentMode} (inv : BucketAgrees o state mode)
    (view : rt.bucketView = (o.bucketFrame, state, mode)) : rt.BucketInvariant := by
  simp only [bucketView, Prod.mk.injEq] at view
  unfold BucketInvariant
  rw [view.2.1, view.2.2]
  exact inv.of_frame view.1

theorem bucketState_of_bucketView {rt rt' : AgentRuntime} (same : rt'.bucketView = rt.bucketView) :
    rt'.bucketState = rt.bucketState := by
  simp only [bucketView, Prod.mk.injEq] at same
  exact same.2.1

@[simp] theorem bpf_rotatorUpdateMode (rt : AgentRuntime) (mode : AgentMode) :
    (rt.rotatorUpdateMode mode).bpf = rt.bpf := by
  unfold rotatorUpdateMode
  split <;> (try split) <;> rfl

@[simp] theorem bucketState_rotatorUpdateMode (rt : AgentRuntime) (mode : AgentMode) :
    (rt.rotatorUpdateMode mode).bucketState = rt.bucketState := by
  unfold rotatorUpdateMode
  split <;> (try split) <;> rfl

@[simp] theorem currentMode_rotatorUpdateMode (rt : AgentRuntime) (mode : AgentMode) :
    (rt.rotatorUpdateMode mode).currentMode = rt.currentMode := by
  unfold rotatorUpdateMode
  split <;> (try split) <;> rfl

theorem bucketView_rotatorUpdateMode (rt : AgentRuntime) (mode : AgentMode) :
    (rt.rotatorUpdateMode mode).bucketView = rt.bucketView := by
  simp only [bucketView, bpf_rotatorUpdateMode, bucketState_rotatorUpdateMode,
    currentMode_rotatorUpdateMode]

theorem bucketView_maybeAdjustSafety (rt : AgentRuntime) (k : Kernel) (ratio : WithTop ℚ) :
    (rt.maybeAdjustSafety k ratio).bucketView = rt.bucketView := by
  unfold maybeAdjustSafety
  dsimp only
  rw [apply_ite bucketView]
  refine ite_eq_left_iff.2 fun _ => ?_
  by_cases ready : rt.bpf.ready <;>
    simp only [ready, if_true, if_false, Bool.false_eq_true, bucketView, bpf_rotatorUpdateMode,
      bucketState_rotatorUpdateMode, currentMode_rotatorUpdateMode,
      BpfOrchestrator.bucketFrame_setMaxEventsPerGroup]

theorem bucketView_emitAll (rt : AgentRuntime) (env : SymbolEnv) (bundles : List Bundle) :
    (rt.emitAll env bundles).bucketView = rt.bucketView := by
  induction bundles generalizing rt with
  | nil => rfl
  | cons b bs ih =>
    rw [emitAll, ih]
    unfold emitReadySample
    split <;> rfl

theorem bucketView_handleSample (rt : AgentRuntime) (now : UInt64) (env : SymbolEnv)
    (sample : Sample) (lbr : LbrStack) :
    (rt.handleSample now env sample lbr).bucketView = rt.bucketView := by
  rw [handleSample, bucketView_emitAll]
  rfl

theorem bucketView_rotatePmu (rt : AgentRuntime) (k : Kernel) :
    (rt.rotatePmu k).bucketView = rt.bucketView := by
  unfold rotatePmu
  split
  · rename_i rot _
    split
    · have frame : (rot.tick rt.bpf k).2.1.bucketFrame = rt.bpf.bucketFrame := by
        unfold PmuRotator.tick
        split
        · rfl
        · dsimp only
          split <;> exact (rt.bpf.rotateToGroup_cases k _).1
      dsimp only
      split <;> simp only [bucketView, publishScale, frame]
    · rfl
  · rfl

theorem bucketView_ite_rotatorUpdateMode {told : Prop} [Decidable told] {rt rt' : AgentRuntime}
    (mode : AgentMode) (same : rt.bucketView = rt'.bucketView) :
    (if told then rt.rotatorUpdateMode mode else rt').bucketView = rt'.bucketView := by
  split
  · exact (bucketView_rotatorUpdateMode rt mode).trans same
  · rfl

theorem bucketView_applyMode (rt : AgentRuntime) (k : Kernel) (mode : AgentMode)
    (ready : rt.bpf.ready = true) :
    (rt.applyMode k mode).bucketView =
      ((rt.bpf.switchMode k mode).1.bucketFrame, rt.bucketState, mode) := by
  unfold applyMode
  simp only [ready, if_true]
  split
  · exact bucketView_rotatorUpdateMode _ mode
  · rfl

@[simp] theorem bucketState_applyMode (rt : AgentRuntime) (k : Kernel) (mode : AgentMode) :
    (rt.applyMode k mode).bucketState = rt.bucketState := by
  simp only [applyMode, apply_ite AgentRuntime.bucketState, bucketState_rotatorUpdateMode, ite_self]

/-- `rt'` is `rt` up to what the token bucket does not read, possibly followed by an
`ApplyMode`: what a flush cycle and an anomaly signal do. -/
def ModeStep (k : Kernel) (rt rt' : AgentRuntime) : Prop :=
  ∃ mid : AgentRuntime, mid.bucketView = rt.bucketView ∧
    (rt' = mid ∨ ∃ mode, rt' = mid.applyMode k mode)

theorem modeStep_ite {rt mid : AgentRuntime} (same : mid.bucketView = rt.bucketView) (k : Kernel)
    (switch : Prop) [Decidable switch] (mode : AgentMode) :
    ModeStep k rt (if switch then mid.applyMode k mode else mid) := by
  split
  · exact ⟨mid, same, .inr ⟨mode, rfl⟩⟩
  · exact ⟨mid, same, .inl rfl⟩

theorem modeStep_runSingleFlushCycle (rt : AgentRuntime) (now : UInt64) (k : Kernel) :
    ModeStep k rt (rt.runSingleFlushCycle now k) := by
  unfold runSingleFlushCycle reactToLoad
  by_cases load : rt.drainFlushCycle.2 > 0
  · rw [if_pos load]
    exact modeStep_ite (by exact bucketView_maybeAdjustSafety _ _ _) k _ _
  · rw [if_neg load]
    exact ⟨rt.drainFlushCycle.1, rfl, .inl rfl⟩

theorem modeStep_handleAnomaly (rt : AgentRuntime) (now : UInt64) (k : Kernel)
    (signal : AnomalySignal) : ModeStep k rt (rt.handleAnomaly now k signal) :=
  modeStep_ite (by rfl) k _ _

theorem ModeStep.bucketState {k : Kernel} {rt rt' : AgentRuntime} (step : ModeStep k rt rt') :
    rt'.bucketState = rt.bucketState := by
  obtain ⟨mid, same, rfl | ⟨mode, rfl⟩⟩ := step
  · exact bucketState_of_bucketView same
  · rw [bucketState_applyMode]
    exact bucketState_of_bucketView same

theorem bucketView_skipOrSwitch (rt : AgentRuntime) (cfg : AgentConfig) (skip : Bool)
    (r : BpfOrchestrator × Bool) (mode : AgentMode) :
    (if skip = true then { rt with cfg := cfg } else
        if r.2 then { rt with cfg := cfg, bpf := r.1 }.rotatorUpdateMode mode
        else { rt with cfg := cfg, bpf := r.1 }).bucketView = rt.bucketView ∨
      (if skip = true then { rt with cfg := cfg } else
        if r.2 then { rt with cfg := cfg, bpf := r.1 }.rotatorUpdateMode mode
        else { rt with cfg := cfg, bpf := r.1 }).bucketView =
        (r.1.bucketFrame, rt.bucketState, rt.currentMode) := by
  split
  · exact .inl rfl
  · exact .inr (bucketView_ite_rotatorUpdateMode _ rfl)

theorem bucketView_handlePmuConfig (rt : AgentRuntime) (k : Kernel) (update : PmuConfigUpdate) :
    (rt.handlePmuConfig k update).bucketView = rt.bucketView ∨
      ∃ sentinel diagnostic, (rt.handlePmuConfig k update).bucketView =
        (((rt.bpf.updateGroupConfig sentinel diagnostic).switchMode k rt.currentMode).1.bucketFrame,
          rt.bucketState, rt.currentMode) := by
  rcases bucketView_skipOrSwitch rt _ _ _ rt.currentMode with same | switched
  exacts [.inl same, .inr ⟨_, _, switched⟩]

theorem BucketSynced.applyMode {rt : AgentRuntime} (inv : BucketSynced rt.bpf rt.bucketState)
    {k : Kernel} (ok : k.tbCfgUpdate = true) (mode : AgentMode) :
    (rt.applyMode k mode).BucketInvariant :=
  BucketInvariant.of_view (inv.switchMode ok mode) (bucketView_applyMode rt k mode inv.ready)

section Steps

variable {rt : AgentRuntime} {k : Kernel}

theorem BucketInvariant.of_modeStep (inv : rt.BucketInvariant) {rt' : AgentRuntime}
    (step : ModeStep k rt rt') (ok : k.tbCfgUpdate = true) : rt'.BucketInvariant := by
  obtain ⟨mid, same, rfl | ⟨mode, rfl⟩⟩ := step
  · exact of_view inv same
  · exact BucketSynced.applyMode (of_view inv same).toBucketSynced ok mode

theorem BucketInvariant.handlePmuConfig (inv : rt.BucketInvariant) (ok : k.tbCfgUpdate = true)
    (update : PmuConfigUpdate) : (rt.handlePmuConfig k update).BucketInvariant := by
  rcases bucketView_handlePmuConfig rt k update with same | ⟨sentinel, diagnostic, switched⟩
  · exact of_view inv same
  · exact of_view ((inv.toBucketSynced.updateGroupConfig sentinel diagnostic).1.switchMode ok _)
      switched

theorem BucketInvariant.handleBucketUpdate (inv : rt.BucketInvariant)
    (ok : k.tbCfgUpdate = true) (req : BucketUpdateRequest) :
    (rt.handleBucketUpdate k req).BucketInvariant := by
  unfold AgentRuntime.handleBucketUpdate
  dsimp only
  rw [if_pos inv.ready]
  generalize applied : applyBucketUpdate req rt.currentMode rt.bucketState = outcome
  obtain ⟨result, state⟩ := outcome
  have synced : BucketSynced (rt.bpf.syncBudgetConfig state.sentinelBudget state.diagnosticBudget
      state.hardDropNs) state :=
    ⟨inv.ready, fun m => by cases m; exacts [inv.groups .sentinel, inv.groups .diagnostic],
      fun m => by cases m <;> rfl, rfl⟩
  show BucketAgrees _ state rt.currentMode
  split
  · unfold BpfOrchestrator.updateSampleBudget
    dsimp only
    rw [← BucketState.budgetFor_eq]
    split
    · rename_i refused
      simp only [BpfOrchestrator.syncBudgetConfig, inv.ready, Bool.not_true, Bool.false_or,
        decide_eq_true_eq] at refused
      have before : rt.bucketState.budgetFor rt.currentMode = 0 := by
        by_contra nonzero
        exact applyBucketUpdate_budget_ne_zero req rt.currentMode rt.bucketState _ nonzero
          (by rw [applied]; exact refused)
      refine ⟨synced, .inr ⟨refused, ?_⟩⟩
      rcases inv.written with written | ⟨-, h, written⟩
      · exact ⟨_, by rw [before] at written; exact written⟩
      · exact ⟨h, written⟩
    · obtain ⟨seq, written⟩ := BpfOrchestrator.configureTokenBucket_written _ k
        (state.budgetFor rt.currentMode) state.hardDropNs ok
      rw [written]
      exact ⟨synced.of_cfg rfl rfl, .inl rfl⟩
  · rename_i quiet
    have unchanged := applyBucketUpdate_unchanged req rt.currentMode rt.bucketState
      (by rw [applied]; simpa using quiet)
    rw [applied] at unchanged
    exact ⟨synced, by rw [unchanged.1, unchanged.2]; exact inv.written⟩

end Steps

theorem BucketInvariant.step {rt : AgentRuntime} (inv : rt.BucketInvariant) (e : Event)
    (ok : e.kernel.tbCfgUpdate = true) : (rt.step e).BucketInvariant := by
  obtain ⟨now, k, call⟩ := e
  cases call with
  | handleSample env sample lbr => exact of_view inv (bucketView_handleSample _ _ _ _ _)
  | runSingleFlushCycle => exact inv.of_modeStep (modeStep_runSingleFlushCycle rt now k) ok
  | applyMode mode => exact BucketSynced.applyMode inv.toBucketSynced ok mode
  | handleBucketUpdate req => exact inv.handleBucketUpdate ok req
  | handlePmuConfig update => exact inv.handlePmuConfig ok update
  | handleAnomaly signal => exact inv.of_modeStep (modeStep_handleAnomaly rt now k signal) ok
  | handleTargetUpdate cgroupPids specs => exact inv
  | rotatePmu => exact of_view inv (bucketView_rotatePmu _ _)

theorem BucketInvariant.run {rt : AgentRuntime} (inv : rt.BucketInvariant) (events : List Event)
    (ok : ∀ e ∈ events, e.kernel.tbCfgUpdate = true) : (rt.run events).BucketInvariant := by
  induction events generalizing rt with
  | nil => exact inv
  | cons e es ih =>
    rw [AgentRuntime.run]
    exact ih (inv.step e (ok e (.head _))) fun e' mem => ok e' (.tail _ mem)

theorem step_bucketState (rt : AgentRuntime) (e : Event) :
    (rt.step e).bucketState = rt.bucketState ∨
      ∃ req, (rt.step e).bucketState = (applyBucketUpdate req rt.currentMode rt.bucketState).2 := by
  obtain ⟨now, k, call⟩ := e
  cases call with
  | handleBucketUpdate req =>
    refine .inr ⟨req, ?_⟩
    show (rt.handleBucketUpdate k req).bucketState = _
    unfold handleBucketUpdate
    dsimp only
    split <;> rfl
  | handleSample env sample lbr =>
    exact .inl (bucketState_of_bucketView (bucketView_handleSample rt now env sample lbr))
  | runSingleFlushCycle => exact .inl (modeStep_runSingleFlushCycle rt now k).bucketState
  | applyMode mode => exact .inl (bucketState_applyMode ..)
  | handlePmuConfig update =>
    left
    rcases bucketView_handlePmuConfig rt k update with same | ⟨_, _, switched⟩
    · exact bucketState_of_bucketView same
    · simp only [bucketView, Prod.mk.injEq] at switched
      exact switched.2.1
  | handleAnomaly signal => exact .inl (modeStep_handleAnomaly rt now k signal).bucketState
  | handleTargetUpdate cgroupPids specs => exact .inl rfl
  | rotatePmu => exact .inl (bucketState_of_bucketView (bucketView_rotatePmu rt k))

theorem budgetFor_run_ne_zero {rt : AgentRuntime} (nonzero : ∀ m, rt.bucketState.budgetFor m ≠ 0)
    (events : List Event) : ∀ m, (rt.run events).bucketState.budgetFor m ≠ 0 := by
  induction events generalizing rt with
  | nil => exact nonzero
  | cons e es ih =>
    rw [AgentRuntime.run]
    refine ih fun m => ?_
    rcases step_bucketState rt e with same | ⟨req, updated⟩
    · rw [same]; exact nonzero m
    · rw [updated]; exact applyBucketUpdate_budget_ne_zero _ _ _ m (nonzero m)

/-! ### The run from `Start` -/

theorem new_bpf (cfg : AgentConfig) (cpus : List Int) (bpfObject : Option Bool) (k : Kernel) :
    ∃ b : BpfOrchestrator,
      (∀ m, b.groupsFor m = (BpfOrchestrator.loaded cfg.perf cpus false).groupsFor m) ∧
      (new cfg cpus bpfObject k).bpf =
        if b.ready then
          b.syncBudgetConfig (new cfg cpus bpfObject k).bucketState.sentinelBudget
            (new cfg cpus bpfObject k).bucketState.diagnosticBudget
            (new cfg cpus bpfObject k).bucketState.hardDropNs
        else b := by
  refine ⟨_, fun m => ?_, rfl⟩
  split <;> cases m <;> simp only [BpfOrchestrator.groupsFor, BpfOrchestrator.cfg_init] <;> rfl

theorem synced_new (cfg : AgentConfig) (cpus : List Int) (bpfObject : Option Bool) (k : Kernel)
    (ready : (new cfg cpus bpfObject k).bpf.ready = true)
    (groups : ∀ m, (BpfOrchestrator.loaded cfg.perf cpus false).groupsFor m ≠ []) :
    BucketSynced (new cfg cpus bpfObject k).bpf (new cfg cpus bpfObject k).bucketState := by
  obtain ⟨b, same, built⟩ := new_bpf cfg cpus bpfObject k
  have up : b.ready = true := by
    rw [built] at ready
    split at ready
    · assumption
    · exact ready
  rw [built, if_pos up]
  exact ⟨up, fun m => (same m).trans_ne (groups m), fun m => by cases m <;> rfl, rfl⟩

theorem BucketSynced.start {rt : AgentRuntime} (inv : BucketSynced rt.bpf rt.bucketState)
    {k : Kernel} (ok : k.tbCfgUpdate = true) : (rt.start k).BucketInvariant := by
  have applied := BucketSynced.applyMode inv ok rt.currentMode
  unfold AgentRuntime.start
  rw [if_pos inv.ready]
  dsimp only
  split <;> (try split) <;> (try split) <;> exact applied

theorem bucketState_start (rt : AgentRuntime) (k : Kernel) :
    (rt.start k).bucketState = rt.bucketState := by
  unfold start
  split
  · dsimp only
    split <;> (try split) <;> (try split) <;> exact bucketState_applyMode rt k rt.currentMode
  · rfl

theorem budgetFor_new_ne_zero (cfg : AgentConfig) (cpus : List Int) (bpfObject : Option Bool)
    (k : Kernel) (nonzero : cfg.perf.sentinelSampleBudget ≠ 0) (m : AgentMode) :
    (new cfg cpus bpfObject k).bucketState.budgetFor m ≠ 0 := by
  cases m
  · exact nonzero
  · show (if cfg.perf.diagnosticSampleBudget < cfg.perf.sentinelSampleBudget then _ else _) ≠ 0
    split
    · exact nonzero
    · rename_i above
      intro zero
      simp only [zero, UInt64.lt_def, BitVec.lt_def] at above
      exact nonzero (UInt64.eq_of_toBitVec_eq (BitVec.eq_of_toNat_eq (by simp at above ⊢; omega)))

@[simp] theorem currentMode_applyMode (rt : AgentRuntime) (k : Kernel) (mode : AgentMode) :
    (rt.applyMode k mode).currentMode = mode := by
  simp only [applyMode, apply_ite AgentRuntime.currentMode, currentMode_rotatorUpdateMode, ite_self]

end AgentRuntime

@[simp] theorem lookup_setGauge (gauges : List (String × WithTop ℚ)) (name : String)
    (value : WithTop ℚ) : (setGauge gauges name value).lookup name = some value := by
  simp [setGauge, List.lookup_cons]

/-! ### A failed reprogramming -/

/-- What a failed reprogramming leaves: a `SwitchMode` that returns false changed nothing, or
wrote the mode's token bucket and then either kept the links, groups and index or detached
every link and cleared the groups; a `RotateToGroup` that returns false changed nothing, or
detached every link and kept the token bucket, groups and index; and `ApplyMode` sets
`current_mode_` and the `ms_agent_mode` gauge whatever `SwitchMode` returns. -/
theorem failed_reprogramming_effects :
    (∀ (o : BpfOrchestrator) (k : Kernel) (mode : AgentMode), (o.switchMode k mode).2 = false →
      (o.switchMode k mode).1 = o ∨
      (o.switchMode k mode).1.maps.tbCfg = some (TbCfg.of (o.budgetFor mode) o.cfg.hardDropNs) ∧
        ((o.switchMode k mode).1.perfLinks = o.perfLinks ∧
            (o.switchMode k mode).1.activeGroups = o.activeGroups ∧
            (o.switchMode k mode).1.activeGroupIndex = o.activeGroupIndex ∨
          (o.switchMode k mode).1.perfLinks = [] ∧ (o.switchMode k mode).1.activeGroups = [] ∧
            (o.switchMode k mode).1.activeGroupIndex = 0)) ∧
    (∀ (o : BpfOrchestrator) (k : Kernel) (index : Nat), (o.rotateToGroup k index).2 = false →
      (o.rotateToGroup k index).1 = o ∨
      (o.rotateToGroup k index).1.perfLinks = [] ∧
        (o.rotateToGroup k index).1.maps.tbCfg = o.maps.tbCfg ∧
        (o.rotateToGroup k index).1.activeGroups = o.activeGroups ∧
        (o.rotateToGroup k index).1.activeGroupIndex = o.activeGroupIndex) ∧
    (∀ (rt : AgentRuntime) (k : Kernel) (mode : AgentMode),
      (rt.applyMode k mode).currentMode = mode ∧
      (rt.applyMode k mode).gauges.lookup "ms_agent_mode" =
        some (if mode = .diagnostic then 1 else 0)) := by
  refine ⟨fun o k mode failed => ?_, fun o k index failed => ?_, fun rt k mode => ?_⟩
  · rcases o.switchMode_cases k mode with ⟨unchanged, -⟩ | ⟨-, -, frame, kept | ⟨cleared, zero, detached⟩⟩
    · exact .inl (congrArg Prod.fst unchanged)
    · simp only [BpfOrchestrator.bucketFrame, Prod.mk.injEq] at frame
      exact .inr ⟨frame.2.2, .inl kept.2⟩
    · simp only [BpfOrchestrator.bucketFrame, Prod.mk.injEq] at frame
      exact .inr ⟨frame.2.2, .inr ⟨detached failed, cleared, zero⟩⟩
  · rcases (o.rotateToGroup_cases k index).2 failed with unchanged | ⟨detached, frame⟩
    · exact .inl unchanged
    · simp only [BpfOrchestrator.attachFrame, BpfOrchestrator.bucketFrame, Prod.mk.injEq] at frame
      exact .inr ⟨detached, frame.1.2.2, frame.2⟩
  · exact ⟨AgentRuntime.currentMode_applyMode rt k mode, lookup_setGauge _ _ _⟩

/-- Every system call succeeds but `perf_event_open`. -/
def openFails : Kernel := { Kernel.allOk with perfEventOpen := fun _ => false }

/-- The default configuration on CPU 0, started in Sentinel mode. -/
def sentinelStarted : AgentRuntime := (AgentRuntime.new {} [0] (some true) .allOk).start .allOk

/-- `ApplyMode(Diagnostic)` there, every `perf_event_open` failing. -/
def failedSwitch : AgentRuntime := sentinelStarted.applyMode openFails .diagnostic

/-- The failed switch is no no-op: `SwitchMode` returns false, yet the kernel's token bucket
now holds the Diagnostic budget 20000 instead of 5000, the Sentinel link is detached, and
`current_mode_` and the gauge say Diagnostic. -/
theorem failed_switch_not_noop :
    (sentinelStarted.bpf.switchMode openFails .diagnostic).2 = false ∧
    sentinelStarted.bpf.maps.tbCfg = some ⟨5000, 8000⟩ ∧
    failedSwitch.bpf.maps.tbCfg = some ⟨20000, 8000⟩ ∧
    sentinelStarted.bpf.perfLinks.length = 1 ∧ failedSwitch.bpf.perfLinks = [] ∧
    sentinelStarted.currentMode = .sentinel ∧ failedSwitch.currentMode = .diagnostic ∧
    sentinelStarted.gauges.lookup "ms_agent_mode" = some 0 ∧
    failedSwitch.gauges.lookup "ms_agent_mode" = some 1 := by
  decide

/-- The amended law at the failed switch, and at a rotation with no active group. -/
theorem failed_switch_detaches :
    ((sentinelStarted.bpf.switchMode openFails .diagnostic).2 = false ∧
      ((sentinelStarted.bpf.switchMode openFails .diagnostic).1 = sentinelStarted.bpf ∨
        (sentinelStarted.bpf.switchMode openFails .diagnostic).1.maps.tbCfg =
            some (TbCfg.of (sentinelStarted.bpf.budgetFor .diagnostic)
              sentinelStarted.bpf.cfg.hardDropNs) ∧
          ((sentinelStarted.bpf.switchMode openFails .diagnostic).1.perfLinks =
                sentinelStarted.bpf.perfLinks ∧
              (sentinelStarted.bpf.switchMode openFails .diagnostic).1.activeGroups =
                sentinelStarted.bpf.activeGroups ∧
              (sentinelStarted.bpf.switchMode openFails .diagnostic).1.activeGroupIndex =
                sentinelStarted.bpf.activeGroupIndex ∨
            (sentinelStarted.bpf.switchMode openFails .diagnostic).1.perfLinks = [] ∧
              (sentinelStarted.bpf.switchMode openFails .diagnostic).1.activeGroups = [] ∧
              (sentinelStarted.bpf.switchMode openFails .diagnostic).1.activeGroupIndex = 0))) ∧
    ((sentinelStarted.bpf.rotateToGroup openFails 0).2 = false ∧
      ((sentinelStarted.bpf.rotateToGroup openFails 0).1 = sentinelStarted.bpf ∨
        (sentinelStarted.bpf.rotateToGroup openFails 0).1.perfLinks = [] ∧
          (sentinelStarted.bpf.rotateToGroup openFails 0).1.maps.tbCfg =
            sentinelStarted.bpf.maps.tbCfg ∧
          (sentinelStarted.bpf.rotateToGroup openFails 0).1.activeGroups =
            sentinelStarted.bpf.activeGroups ∧
          (sentinelStarted.bpf.rotateToGroup openFails 0).1.activeGroupIndex =
            sentinelStarted.bpf.activeGroupIndex)) :=
  ⟨⟨by decide, failed_reprogramming_effects.1 _ _ _ (by decide)⟩,
    ⟨by decide, failed_reprogramming_effects.2.1 _ _ _ (by decide)⟩⟩

/-! ### The kernel's token bucket along a run -/

/-- After `Start` with the orchestrator ready, along every run whose `ms_tb_cfg` updates
succeed, the kernel's token bucket holds the bucket state's budget for the current mode, and
its hard-drop threshold (4 * `MS_FLOW_SKID_NS` for 0) whenever that budget is not 0; budgets
stay non-zero when the configured Sentinel budget is; and a request that asks for no
reprogramming changed neither the active budget nor the threshold. -/
theorem token_bucket_follows_state (args : List String) (readFile : String → Option String)
    (cfg : AgentConfig) (launch : mainConfig args readFile = .start cfg) (cpus : List Int)
    (bpfObject : Option Bool) (k₀ k₁ : Kernel)
    (ready : (AgentRuntime.new cfg cpus bpfObject k₀).bpf.ready = true)
    (ok₁ : k₁.tbCfgUpdate = true) (events : List AgentRuntime.Event)
    (ok : ∀ e ∈ events, e.kernel.tbCfgUpdate = true) :
    let rt := ((AgentRuntime.new cfg cpus bpfObject k₀).start k₁).run events
    (rt.bpf.maps.tbCfg =
        some (TbCfg.of (rt.bucketState.budgetFor rt.currentMode) rt.bucketState.hardDropNs) ∨
      rt.bucketState.budgetFor rt.currentMode = 0 ∧ ∃ h, rt.bpf.maps.tbCfg = some ⟨0, h⟩) ∧
    (cfg.perf.sentinelSampleBudget ≠ 0 → ∀ m, rt.bucketState.budgetFor m ≠ 0) ∧
    ∀ (req : BucketUpdateRequest) (mode : AgentMode) (state : BucketState),
      (applyBucketUpdate req mode state).1.reprogramRequired = false →
      (applyBucketUpdate req mode state).2.budgetFor mode = state.budgetFor mode ∧
        (applyBucketUpdate req mode state).2.hardDropNs = state.hardDropNs := by
  intro rt
  have groups := mainConfig_groups launch
  have synced := AgentRuntime.synced_new cfg cpus bpfObject k₀ ready fun m => by
    cases m
    · simp [BpfOrchestrator.groupsFor, BpfOrchestrator.loaded, groups.1]
    · simp [BpfOrchestrator.groupsFor, BpfOrchestrator.loaded, groups.2]
  refine ⟨((AgentRuntime.BucketSynced.start synced ok₁).run events ok).written, fun nonzero => ?_,
    applyBucketUpdate_unchanged⟩
  refine AgentRuntime.budgetFor_run_ne_zero (fun m => ?_) events
  rw [AgentRuntime.bucketState_start]
  exact AgentRuntime.budgetFor_new_ne_zero cfg cpus bpfObject k₀ nonzero m

/-- A token-bucket request that changes only `hard_drop_ns`, to 5000. -/
def lowerThreshold : AgentRuntime.Event :=
  ⟨0, .allOk, .handleBucketUpdate { hasHardDrop := true, hardDropNs := 5000 }⟩

/-- The law on the default launch on CPU 0, through that request. -/
theorem token_bucket_default_launch :
    mainConfig [] (fun _ => none) = .start {} ∧
    (AgentRuntime.new {} [0] (some true) .allOk).bpf.ready = true ∧
    let rt := ((AgentRuntime.new {} [0] (some true) .allOk).start .allOk).run [lowerThreshold]
    (rt.bpf.maps.tbCfg =
        some (TbCfg.of (rt.bucketState.budgetFor rt.currentMode) rt.bucketState.hardDropNs) ∨
      rt.bucketState.budgetFor rt.currentMode = 0 ∧ ∃ h, rt.bpf.maps.tbCfg = some ⟨0, h⟩) ∧
    (({} : AgentConfig).perf.sentinelSampleBudget ≠ 0 → ∀ m, rt.bucketState.budgetFor m ≠ 0) ∧
    ∀ (req : BucketUpdateRequest) (mode : AgentMode) (state : BucketState),
      (applyBucketUpdate req mode state).1.reprogramRequired = false →
      (applyBucketUpdate req mode state).2.budgetFor mode = state.budgetFor mode ∧
        (applyBucketUpdate req mode state).2.hardDropNs = state.hardDropNs :=
  ⟨rfl, rfl, token_bucket_follows_state [] (fun _ => none) {} rfl [0] (some true) .allOk .allOk rfl rfl
    [lowerThreshold] (by decide)⟩

/-- `--sentinel-budget=0`, which `main` accepts. -/
def zeroBudgetConfig : AgentConfig := { perf := { sentinelSampleBudget := 0 } }

/-- Launched with that configuration, then the request lowering the threshold. -/
def staleThreshold : AgentRuntime :=
  ((AgentRuntime.new zeroBudgetConfig [0] (some true) .allOk).start .allOk).run [lowerThreshold]

/-- With the Sentinel budget 0, the request asks for reprogramming, but `UpdateSampleBudget`
refuses the zero active budget: the kernel keeps the threshold 8000 while the bucket state
says 5000. -/
theorem token_bucket_stale_threshold :
    mainConfig ["--sentinel-budget=0"] (fun _ => none) = .start zeroBudgetConfig ∧
    (AgentRuntime.new zeroBudgetConfig [0] (some true) .allOk).bpf.ready = true ∧
    staleThreshold.currentMode = .sentinel ∧
    staleThreshold.bucketState.budgetFor .sentinel = 0 ∧
    staleThreshold.bucketState.hardDropNs = 5000 ∧
    staleThreshold.bpf.maps.tbCfg = some ⟨0, 8000⟩ ∧
    staleThreshold.bpf.maps.tbCfg ≠
      some (TbCfg.of (staleThreshold.bucketState.budgetFor staleThreshold.currentMode)
        staleThreshold.bucketState.hardDropNs) := by
  refine ⟨rfl, rfl, rfl, rfl, rfl, ?_, ?_⟩ <;> decide

end MicroSentinel
