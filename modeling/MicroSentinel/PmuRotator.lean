import MicroSentinel.BpfOrchestrator

/-! `PmuRotator` (`pmu_rotator.cpp`): the worker that rotates the orchestrator through the
active PMU groups, one per window, and publishes the sample scale (the number of groups
time-sharing the counters) through its callback. A wake-up of `Run` at the end of a
window is `tick`; the scale a call publishes is returned with the new state. -/
namespace MicroSentinel

structure PmuRotator where
  /-- `window_`, in milliseconds. -/
  window : UInt64
  running : Bool
  mode : AgentMode
  modeDirty : Bool
  groupCount : Nat
  currentIndex : Nat

namespace PmuRotator

/-- The constructor; a window that is not positive becomes 5000 ms. -/
def new (window : UInt64) : PmuRotator :=
  ⟨if 0 < window.toNat ∧ window.toNat < 2 ^ 63 then window else 5000, false, .sentinel, false,
    0, 0⟩

/-- `RefreshState`: the rotator after reading the orchestrator's groups, and the scale it
hands `on_scale_`. -/
def refreshState (rot : PmuRotator) (orch : BpfOrchestrator) : PmuRotator × ℚ :=
  let count := orch.activeGroupCount
  ({ rot with groupCount := count,
              currentIndex := if count = 0 then 0 else min orch.currentGroupIndex (count - 1),
              modeDirty := false },
   if count > 0 then (max 1 count : Nat) else 1)

/-- `Start`: a second start does nothing and publishes nothing. -/
def start (rot : PmuRotator) (orch : BpfOrchestrator) (mode : AgentMode) :
    PmuRotator × Option ℚ :=
  if rot.running then (rot, none)
  else
    let r := refreshState { rot with running := true, mode := mode } orch
    (r.1, some r.2)

def updateMode (rot : PmuRotator) (orch : BpfOrchestrator) (mode : AgentMode) : PmuRotator × ℚ :=
  refreshState { rot with mode := mode, modeDirty := true } orch

def stop (rot : PmuRotator) : PmuRotator := { rot with running := false }

/-- One window of `Run` elapsing: with two groups or more, rotate to the next one; a failed
rotation re-reads the orchestrator. -/
def tick (rot : PmuRotator) (orch : BpfOrchestrator) (k : Kernel) :
    PmuRotator × BpfOrchestrator × Option ℚ :=
  if rot.groupCount ≤ 1 then (rot, orch, none)
  else
    let next := (rot.currentIndex + 1) % rot.groupCount
    let r := orch.rotateToGroup k next
    if r.2 then ({ rot with currentIndex := next }, r.1, none)
    else
      let s := refreshState rot r.1
      (s.1, r.1, some s.2)

end PmuRotator

/-! ### `mu_` as the worker holds it -/

/-- What a thread does to a `std::mutex`. -/
inductive MutexOp where
  | lock
  | unlock
  deriving DecidableEq, Repr

/-- Whether a thread holds a `std::mutex` after `ops`, from `held`; `none` once it locks the
mutex it already holds. `std::mutex` is not recursive: that lock never returns, the thread
waits for itself. -/
def holdAfter : Bool → List MutexOp → Option Bool
  | held, [] => some held
  | held, .lock :: ops => if held then none else holdAfter true ops
  | _, .unlock :: ops => holdAfter false ops

namespace PmuRotator

/-- The `std::lock_guard<std::mutex> lk(mu_)` of `RefreshState`, taken and released there. -/
def refreshStateOps : List MutexOp := [.lock, .unlock]

/-- `cv_.wait_for(lk, window_, ...)` gives `mu_` up while it waits and takes it back. -/
def waitOps : List MutexOp := [.unlock, .lock]

/-- What the window `tick` models does to `mu_`, entered holding `lk`: nothing with at most
one group; else `lk.unlock()` and `lk.lock()` around `RotateToGroup` and, when the rotation
fails, the `RefreshState` that `Run` calls with `lk` still held. -/
def tickOps (rot : PmuRotator) (orch : BpfOrchestrator) (k : Kernel) : List MutexOp :=
  if rot.groupCount ≤ 1 then []
  else [.unlock, .lock] ++
    if (orch.rotateToGroup k ((rot.currentIndex + 1) % rot.groupCount)).2 then []
    else refreshStateOps

theorem holdAfter_tickOps (rot : PmuRotator) (orch : BpfOrchestrator) (k : Kernel) :
    holdAfter true (rot.tickOps orch k) =
      if 1 < rot.groupCount ∧
          (orch.rotateToGroup k ((rot.currentIndex + 1) % rot.groupCount)).2 = false
      then none else some true := by
  unfold tickOps
  by_cases few : rot.groupCount ≤ 1
  · simp [few, holdAfter]
  · have many : 1 < rot.groupCount := by omega
    cases (orch.rotateToGroup k ((rot.currentIndex + 1) % rot.groupCount)).2 <;>
      simp [few, many, holdAfter, refreshStateOps]

end PmuRotator

namespace BpfOrchestrator

theorem switchMode_activeGroups (o : BpfOrchestrator) (k : Kernel) (mode : AgentMode) :
    (o.switchMode k mode).2 = false ∨ (o.switchMode k mode).1.activeGroups = [] := by
  unfold switchMode
  split
  · exact .inl rfl
  · dsimp only
    split
    · exact .inl rfl
    · exact .inr rfl

theorem rotateToGroup_of_empty (o : BpfOrchestrator) (k : Kernel) (index : Nat)
    (empty : o.activeGroups = []) : o.rotateToGroup k index = (o, false) := by
  simp [rotateToGroup, empty]

theorem setMaxEventsPerGroup_of_empty (o : BpfOrchestrator) (k : Kernel) (limit : UInt64)
    (empty : o.activeGroups = []) :
    o.setMaxEventsPerGroup k limit =
      { o with maxEventsPerGroup := if limit = 0 then noEventLimit else limit } := by
  unfold setMaxEventsPerGroup
  split <;> simp [empty]

end BpfOrchestrator

/-- Two Sentinel groups, the default Diagnostic group (three events) first. -/
def twoGroupConfig : PerfConsumerConfig :=
  { ({} : PerfConsumerConfig) with
    sentinelGroups := ({} : PerfConsumerConfig).diagnosticGroups ++
      ({} : PerfConsumerConfig).sentinelGroups }

/-- The orchestrator `Init` leaves for `twoGroupConfig` on CPU 0. -/
def twoGroupOrchestrator : BpfOrchestrator :=
  ((BpfOrchestrator.loaded twoGroupConfig [0] true).init .allOk).1

/-- `SwitchMode(Sentinel)` there, every system call succeeding. -/
def twoGroupSwitch : BpfOrchestrator × Bool := twoGroupOrchestrator.switchMode .allOk .sentinel

/-- `SwitchMode(Sentinel)` with two groups and every attach succeeding returns true, yet
leaves `ActiveGroupCount() = 0`: the rotator then publishes scale 1, not 2, the rotation
to group 1 fails, and `SetMaxEventsPerGroup(1)` keeps all three events attached. -/
theorem switch_mode_drops_groups :
    twoGroupSwitch.2 = true ∧ twoGroupSwitch.1.activeGroupCount = 0 ∧
    twoGroupSwitch.1.currentGroupIndex = 0 ∧
    ((PmuRotator.new 5000).start twoGroupSwitch.1 .sentinel).2 = some 1 ∧
    ((PmuRotator.new 5000).updateMode twoGroupSwitch.1 .sentinel).2 = 1 ∧
    (twoGroupSwitch.1.rotateToGroup .allOk 1).2 = false ∧
    twoGroupSwitch.1.perfLinks.length = 3 ∧
    (twoGroupSwitch.1.setMaxEventsPerGroup .allOk 1).perfLinks.length = 3 := by
  have ok : twoGroupSwitch.2 = true := rfl
  have empty : twoGroupSwitch.1.activeGroups = [] :=
    (BpfOrchestrator.switchMode_activeGroups _ _ _).resolve_left (by rw [← twoGroupSwitch, ok]; decide)
  refine ⟨ok, by simp [BpfOrchestrator.activeGroupCount, empty], rfl, ?_, ?_,
    by rw [BpfOrchestrator.rotateToGroup_of_empty _ _ _ empty], rfl,
    by rw [BpfOrchestrator.setMaxEventsPerGroup_of_empty _ _ _ empty]; rfl⟩
  all_goals simp [PmuRotator.start, PmuRotator.updateMode, PmuRotator.refreshState,
    PmuRotator.new, BpfOrchestrator.activeGroupCount, empty]

/-- The orchestrator of `twoGroupConfig` after `Init` with its two Sentinel groups active,
as a `SwitchMode` that keeps them on success leaves it (the copy in `part_010`). -/
def twoGroupsActive : BpfOrchestrator :=
  { twoGroupOrchestrator with activeGroups := twoGroupConfig.sentinelGroups }

end MicroSentinel
