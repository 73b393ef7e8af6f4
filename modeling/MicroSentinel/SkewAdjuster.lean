import MicroSentinel.Types

/-! `SkewAdjuster` (`config_loader.cpp`): one deque of bundles per CPU. `Process`
appends the arrival, rescans the deque for flow-0 entries (`AdjustWindow`) and
emits all but the newest (`DrainReady`); `Flush` empties every deque in CPU
order. The emit callback is the list of bundles it receives, in order. -/
namespace MicroSentinel

/-- `SkewAdjuster::Bundle`. -/
structure Bundle where
  sample : Sample
  stack : LbrStack
  deriving DecidableEq

/-- `CpuWindow`; the deque's front is the head of the list. -/
structure CpuWindow where
  entries : List Bundle
  deriving DecidableEq

/-- `AbsDiff`. -/
def absDiff (a b : UInt64) : UInt64 := if a > b then a - b else b - a

/-- `std::numeric_limits<uint64_t>::max()`, the initial `best_delta`. -/
def u64Max : UInt64 := 18446744073709551615

structure SkewAdjuster where
  toleranceNs : UInt64
  maxWindow : Nat
  perCpu : List CpuWindow
  two_le_maxWindow : 2 ≤ maxWindow

namespace SkewAdjuster

/-- The constructor: a zero tolerance means `MS_FLOW_SKID_NS`, windows hold at least two. -/
def new (toleranceNs : UInt64) (maxWindow : Nat) : SkewAdjuster where
  toleranceNs := if toleranceNs ≠ 0 then toleranceNs else msFlowSkidNs
  maxWindow := if maxWindow ≥ 2 then maxWindow else 2
  perCpu := []
  two_le_maxWindow := by split <;> omega

/-- One candidate loop of `AdjustWindow` over `(best_flow, best_delta)`, candidates in
scan order: flow-0 candidates are skipped, the first one past the tolerance stops it. -/
def scanCandidates (tol tsc : UInt64) : List Bundle → UInt64 × UInt64 → UInt64 × UInt64
  | [], best => best
  | c :: cs, best =>
    if c.sample.flowId = 0 then scanCandidates tol tsc cs best
    else if absDiff c.sample.tsc tsc > tol then best
    else if absDiff c.sample.tsc tsc < best.2 then
      scanCandidates tol tsc cs (c.sample.flowId, absDiff c.sample.tsc tsc)
    else scanCandidates tol tsc cs best

def adopt (b : Bundle) (flow : UInt64) : Bundle :=
  { b with sample := { b.sample with flowId := flow } }

/-- Iteration `i` of the outer loop of `AdjustWindow`: backwards from `i - 1`, then
forwards from `i + 1`, over the entries as earlier iterations left them. -/
def adjustEntry (tol : UInt64) (entries : List Bundle) (i : Nat) : List Bundle :=
  match entries[i]? with
  | none => entries
  | some b =>
    if b.sample.flowId ≠ 0 then entries
    else
      let best := scanCandidates tol b.sample.tsc (entries.drop (i + 1))
        (scanCandidates tol b.sample.tsc (entries.take i).reverse (0, u64Max))
      if best.1 ≠ 0 then entries.set i (adopt b best.1) else entries

def adjustWindow (tol : UInt64) (w : CpuWindow) : CpuWindow :=
  if w.entries.length < 2 then w
  else ⟨(List.range w.entries.length).foldl (adjustEntry tol) w.entries⟩

/-- The `while (size > 1)` loop of `DrainReady`: popped entries and what is kept. -/
def popAllButLast : List Bundle → List Bundle × List Bundle
  | [] => ([], [])
  | [b] => ([], [b])
  | b :: c :: rest => (b :: (popAllButLast (c :: rest)).1, (popAllButLast (c :: rest)).2)

def drainReady (maxWindow : Nat) (w : CpuWindow) : List Bundle × CpuWindow :=
  let popped := popAllButLast w.entries
  if popped.2.length > maxWindow then (popped.1 ++ popped.2.take 1, ⟨popped.2.drop 1⟩)
  else (popped.1, ⟨popped.2⟩)

def ensureCpu (perCpu : List CpuWindow) (cpu : Nat) : List CpuWindow :=
  if cpu ≥ perCpu.length then perCpu ++ List.replicate (cpu + 1 - perCpu.length) ⟨[]⟩
  else perCpu

/-- `Process`: the new state and the bundles handed to the callback. -/
def process (sa : SkewAdjuster) (b : Bundle) : SkewAdjuster × List Bundle :=
  let cpu := b.sample.cpu.toNat
  let perCpu := ensureCpu sa.perCpu cpu
  let drained := drainReady sa.maxWindow
    (adjustWindow sa.toleranceNs ⟨(perCpu.getD cpu ⟨[]⟩).entries ++ [b]⟩)
  ({ sa with perCpu := perCpu.set cpu drained.2 }, drained.1)

/-- `Flush`: `DrainAll` on every window, in CPU order. -/
def flush (sa : SkewAdjuster) : SkewAdjuster × List Bundle :=
  ({ sa with perCpu := sa.perCpu.map fun _ => ⟨[]⟩ }, (sa.perCpu.map CpuWindow.entries).flatten)

/-- `Process` on each bundle in turn. -/
def processAll (sa : SkewAdjuster) : List Bundle → SkewAdjuster × List Bundle
  | [] => (sa, [])
  | b :: bs =>
    let first := sa.process b
    let rest := processAll first.1 bs
    (rest.1, first.2 ++ rest.2)

/-- Everything emitted by `Process` over `bs` followed by `Flush`. -/
def run (sa : SkewAdjuster) (bs : List Bundle) : List Bundle :=
  (sa.processAll bs).2 ++ (flush (sa.processAll bs).1).2

end SkewAdjuster

end MicroSentinel

namespace MicroSentinel.SkewAdjuster

/-! ### The window of one CPU, abstractly

Between calls a window holds at most the newest bundle of its CPU, so every
`AdjustWindow` sees one older entry `p` and the arrival `x`. -/

/-- A candidate wins in `AdjustWindow` when it is within the tolerance and strictly
below the initial `best_delta`. -/
def Close (tol a b : UInt64) : Prop := absDiff a b ≤ tol ∧ absDiff a b < u64Max

instance (tol a b : UInt64) : Decidable (Close tol a b) := inferInstanceAs (Decidable (_ ∧ _))

theorem absDiff_comm (a b : UInt64) : absDiff a b = absDiff b a := by
  unfold absDiff
  by_cases ab : a > b <;> by_cases ba : b > a
  · exact absurd ab (UInt64.lt_asymm ba)
  all_goals simp only [ab, ba, if_true, if_false]
  have : a = b := u64_eq.2 (by rw [gt_iff_lt, u64_lt] at ab ba; omega)
  rw [this]

theorem close_comm {tol a b : UInt64} : Close tol a b ↔ Close tol b a := by
  rw [Close, Close, absDiff_comm]

/-- What `AdjustWindow` makes of the window `[p, x]`: the older entry may take the
arrival's flow id, the arrival may take the older entry's. -/
def settle (tol : UInt64) (p x : Bundle) : Bundle × Bundle :=
  (if p.sample.flowId = 0 ∧ x.sample.flowId ≠ 0 ∧ Close tol p.sample.tsc x.sample.tsc
    then adopt p x.sample.flowId else p,
   if x.sample.flowId = 0 ∧ p.sample.flowId ≠ 0 ∧ Close tol p.sample.tsc x.sample.tsc
    then adopt x p.sample.flowId else x)

/-- The output of one CPU's window for the arrivals `xs`, `pending` being what the
window holds: each older entry leaves once the next arrival is settled against it. -/
def backfill (tol : UInt64) : Option Bundle → List Bundle → List Bundle
  | none, [] => []
  | some p, [] => [p]
  | none, x :: xs => backfill tol (some x) xs
  | some p, x :: xs => (settle tol p x).1 :: backfill tol (some (settle tol p x).2) xs

@[simp] theorem scanCandidates_nil (tol tsc : UInt64) (best : UInt64 × UInt64) :
    scanCandidates tol tsc [] best = best := rfl

theorem scanCandidates_single (tol tsc : UInt64) (c : Bundle) :
    scanCandidates tol tsc [c] (0, u64Max) =
      if c.sample.flowId ≠ 0 ∧ Close tol c.sample.tsc tsc
      then (c.sample.flowId, absDiff c.sample.tsc tsc) else (0, u64Max) := by
  by_cases zero : c.sample.flowId = 0
  · simp [scanCandidates, zero]
  · by_cases far : absDiff c.sample.tsc tsc > tol
    · have : ¬ absDiff c.sample.tsc tsc ≤ tol := UInt64.not_le.2 far
      simp [scanCandidates, zero, far, Close, this]
    · have near : absDiff c.sample.tsc tsc ≤ tol := UInt64.not_lt.1 far
      by_cases below : absDiff c.sample.tsc tsc < u64Max <;>
        simp [scanCandidates, zero, far, below, Close, near]

theorem adjustWindow_single (tol : UInt64) (x : Bundle) :
    adjustWindow tol ⟨[x]⟩ = ⟨[x]⟩ := by
  simp [adjustWindow]

theorem adjustEntry_older (tol : UInt64) (p x : Bundle) :
    adjustEntry tol [p, x] 0 = [(settle tol p x).1, x] := by
  by_cases zero : p.sample.flowId = 0
  · by_cases wins : x.sample.flowId ≠ 0 ∧ Close tol x.sample.tsc p.sample.tsc
    · have : Close tol p.sample.tsc x.sample.tsc := close_comm.1 wins.2
      simp [adjustEntry, settle, scanCandidates_single, zero, wins, this]
    · have : ¬ (x.sample.flowId ≠ 0 ∧ Close tol p.sample.tsc x.sample.tsc) := by
        rwa [close_comm]
      simp [adjustEntry, settle, scanCandidates_single, zero, wins, this]
  · simp [adjustEntry, settle, zero]

theorem adjustEntry_arrival (tol : UInt64) (p x : Bundle) :
    adjustEntry tol [(settle tol p x).1, x] 1 = [(settle tol p x).1, (settle tol p x).2] := by
  by_cases zero : x.sample.flowId = 0
  · have older : (settle tol p x).1 = p := by simp [settle, zero]
    rw [older]
    by_cases wins : p.sample.flowId ≠ 0 ∧ Close tol p.sample.tsc x.sample.tsc
    · simp [adjustEntry, settle, scanCandidates_single, zero, wins]
    · simp [adjustEntry, settle, scanCandidates_single, zero, wins]
  · simp [adjustEntry, settle, zero]

theorem adjustWindow_pair (tol : UInt64) (p x : Bundle) :
    adjustWindow tol ⟨[p, x]⟩ = ⟨[(settle tol p x).1, (settle tol p x).2]⟩ := by
  simp only [adjustWindow, List.length_cons, List.length_nil]
  simp [List.range_succ, adjustEntry_older, adjustEntry_arrival]

/-- The window `Process` and `Flush` use for CPU `i` (empty past the vector's end). -/
def window (sa : SkewAdjuster) (i : Nat) : CpuWindow := sa.perCpu.getD i ⟨[]⟩

/-- The state between calls: each window holds at most one bundle, of its own CPU. -/
structure Settled (sa : SkewAdjuster) : Prop where
  short : ∀ i, (sa.window i).entries.length ≤ 1
  onCpu : ∀ i, ∀ b ∈ (sa.window i).entries, b.sample.cpu.toNat = i

theorem getD_ensureCpu (perCpu : List CpuWindow) (cpu i : Nat) :
    (ensureCpu perCpu cpu).getD i ⟨[]⟩ = perCpu.getD i ⟨[]⟩ := by
  unfold ensureCpu
  split
  · simp only [List.getD_eq_getElem?_getD]
    by_cases hi : i < perCpu.length
    · rw [List.getElem?_append_left hi]
    · have past : perCpu[i]? = none := List.getElem?_eq_none (by omega)
      rw [past, List.getElem?_append_right (by omega), List.getElem?_replicate]
      split <;> rfl
  · rfl

theorem lt_length_ensureCpu (perCpu : List CpuWindow) (cpu : Nat) :
    cpu < (ensureCpu perCpu cpu).length := by
  unfold ensureCpu
  split
  · simp only [List.length_append, List.length_replicate]; omega
  · omega

theorem getD_set_window (perCpu : List CpuWindow) (c i : Nat) (w : CpuWindow)
    (bound : c < perCpu.length) :
    (perCpu.set c w).getD i ⟨[]⟩ = if i = c then w else perCpu.getD i ⟨[]⟩ := by
  by_cases h : i = c
  · subst h; simp [bound]
  · simp [h, List.getElem?_set_ne (Ne.symm h)]

theorem window_process (sa : SkewAdjuster) (b : Bundle) (i : Nat) :
    (sa.process b).1.window i =
      if i = b.sample.cpu.toNat then
        (drainReady sa.maxWindow (adjustWindow sa.toleranceNs
          ⟨(sa.window b.sample.cpu.toNat).entries ++ [b]⟩)).2
      else sa.window i := by
  simp only [process, window, getD_set_window _ _ _ _ (lt_length_ensureCpu _ _), getD_ensureCpu]

theorem drainReady_single (maxWindow : Nat) (atLeast : 1 ≤ maxWindow) (x : Bundle) :
    drainReady maxWindow ⟨[x]⟩ = ([], ⟨[x]⟩) := by
  simp [drainReady, popAllButLast]; omega

theorem drainReady_pair (maxWindow : Nat) (atLeast : 1 ≤ maxWindow) (p x : Bundle) :
    drainReady maxWindow ⟨[p, x]⟩ = ([p], ⟨[x]⟩) := by
  simp [drainReady, popAllButLast]; omega

theorem process_cases (sa : SkewAdjuster) (hs : sa.Settled) (b : Bundle) :
    ((sa.window b.sample.cpu.toNat).entries = [] ∧ (sa.process b).2 = [] ∧
      ((sa.process b).1.window b.sample.cpu.toNat).entries = [b]) ∨
    ∃ p, (sa.window b.sample.cpu.toNat).entries = [p] ∧
      (sa.process b).2 = [(settle sa.toleranceNs p b).1] ∧
      ((sa.process b).1.window b.sample.cpu.toNat).entries = [(settle sa.toleranceNs p b).2] := by
  have atLeast : 1 ≤ sa.maxWindow := by have := sa.two_le_maxWindow; omega
  have emitted : (sa.process b).2 = (drainReady sa.maxWindow (adjustWindow sa.toleranceNs
      ⟨(sa.window b.sample.cpu.toNat).entries ++ [b]⟩)).1 := by
    simp only [process, window, getD_ensureCpu]
  have kept := window_process sa b b.sample.cpu.toNat
  rw [if_pos rfl] at kept
  have shape : (sa.window b.sample.cpu.toNat).entries = [] ∨
      ∃ p, (sa.window b.sample.cpu.toNat).entries = [p] := by
    match (sa.window b.sample.cpu.toNat).entries, hs.short b.sample.cpu.toNat with
    | [], _ => exact .inl rfl
    | [p], _ => exact .inr ⟨p, rfl⟩
  rcases shape with empty | ⟨p, single⟩
  · rw [empty, List.nil_append, adjustWindow_single, drainReady_single _ atLeast] at emitted kept
    exact .inl ⟨empty, emitted, congrArg CpuWindow.entries kept⟩
  · rw [single, List.singleton_append, adjustWindow_pair, drainReady_pair _ atLeast] at emitted kept
    exact .inr ⟨p, single, emitted, congrArg CpuWindow.entries kept⟩

@[simp] theorem settle_fst_cpu (tol : UInt64) (p x : Bundle) :
    (settle tol p x).1.sample.cpu = p.sample.cpu := by
  simp only [settle]; split <;> rfl

@[simp] theorem settle_snd_cpu (tol : UInt64) (p x : Bundle) :
    (settle tol p x).2.sample.cpu = x.sample.cpu := by
  simp only [settle]; split <;> rfl

theorem settled_new (tol : UInt64) (maxWindow : Nat) : (new tol maxWindow).Settled :=
  ⟨fun _ => by simp [window, new], fun _ => by simp [window, new]⟩

theorem window_process_other (sa : SkewAdjuster) (b : Bundle) (i : Nat)
    (other : i ≠ b.sample.cpu.toNat) : (sa.process b).1.window i = sa.window i := by
  rw [window_process, if_neg other]

theorem settled_process (sa : SkewAdjuster) (hs : sa.Settled) (b : Bundle) :
    (sa.process b).1.Settled := by
  have arrival : ((sa.process b).1.window b.sample.cpu.toNat).entries = [b] ∨
      ∃ p, ((sa.process b).1.window b.sample.cpu.toNat).entries =
        [(settle sa.toleranceNs p b).2] := by
    rcases process_cases sa hs b with ⟨-, -, h⟩ | ⟨p, -, -, h⟩
    exacts [.inl h, .inr ⟨p, h⟩]
  constructor
  all_goals
    intro i
    by_cases same : i = b.sample.cpu.toNat
    case neg => first | exact window_process_other sa b i same ▸ hs.short i
                      | exact window_process_other sa b i same ▸ hs.onCpu i
    subst same
    rcases arrival with h | ⟨p, h⟩ <;> simp [h]

@[simp] theorem toleranceNs_process (sa : SkewAdjuster) (b : Bundle) :
    (sa.process b).1.toleranceNs = sa.toleranceNs := rfl

@[simp] theorem toleranceNs_processAll (sa : SkewAdjuster) (bs : List Bundle) :
    (sa.processAll bs).1.toleranceNs = sa.toleranceNs := by
  induction bs generalizing sa with
  | nil => rfl
  | cons b bs ih => rw [processAll, ih, toleranceNs_process]

theorem processAll_append (sa : SkewAdjuster) (bs : List Bundle) (b : Bundle) :
    sa.processAll (bs ++ [b]) = (((sa.processAll bs).1.process b).1,
      (sa.processAll bs).2 ++ ((sa.processAll bs).1.process b).2) := by
  induction bs generalizing sa with
  | nil => simp [processAll]
  | cons x xs ih => simp [processAll, ih]

theorem settled_processAll (sa : SkewAdjuster) (hs : sa.Settled) (bs : List Bundle) :
    (sa.processAll bs).1.Settled := by
  induction bs generalizing sa with
  | nil => exact hs
  | cons b bs ih => simp only [processAll]; exact ih _ (settled_process sa hs b)

theorem process_filter (sa : SkewAdjuster) (hs : sa.Settled) (b : Bundle) (c : UInt32)
    (rest : List Bundle) :
    (sa.process b).2.filter (·.sample.cpu == c) ++
      backfill sa.toleranceNs ((sa.process b).1.window c.toNat).entries.head? rest =
    backfill sa.toleranceNs (sa.window c.toNat).entries.head?
      ((if b.sample.cpu = c then [b] else []) ++ rest) := by
  by_cases same : b.sample.cpu = c
  · subst same
    rcases process_cases sa hs b with ⟨old, emitted, kept⟩ | ⟨p, old, emitted, kept⟩
    · simp [old, emitted, kept, backfill]
    · have onCpu : p.sample.cpu = b.sample.cpu :=
        UInt32.toNat.inj (hs.onCpu _ p (by simp [old]))
      simp [old, emitted, kept, backfill, onCpu]
  · have apart : c.toNat ≠ b.sample.cpu.toNat := fun h => same (UInt32.toNat.inj h).symm
    have silent : (sa.process b).2.filter (·.sample.cpu == c) = [] := by
      rcases process_cases sa hs b with ⟨-, emitted, -⟩ | ⟨p, old, emitted, -⟩
      · simp [emitted]
      · have onCpu : p.sample.cpu = b.sample.cpu :=
          UInt32.toNat.inj (hs.onCpu _ p (by simp [old]))
        simp [emitted, onCpu, same]
    simp [silent, window_process_other sa b _ apart, same]

theorem processAll_filter (sa : SkewAdjuster) (hs : sa.Settled) (bs : List Bundle) (c : UInt32)
    (rest : List Bundle) :
    (sa.processAll bs).2.filter (·.sample.cpu == c) ++
      backfill sa.toleranceNs ((sa.processAll bs).1.window c.toNat).entries.head? rest =
    backfill sa.toleranceNs (sa.window c.toNat).entries.head?
      (bs.filter (·.sample.cpu == c) ++ rest) := by
  induction bs generalizing sa with
  | nil => rfl
  | cons b bs ih =>
    have step := ih (sa.process b).1 (settled_process sa hs b)
    simp only [toleranceNs_process] at step
    simp only [processAll, List.filter_append, List.append_assoc, toleranceNs_processAll,
      toleranceNs_process, step, process_filter sa hs]
    by_cases same : b.sample.cpu = c <;> simp [same]

theorem filter_flatten_windows (ws : List CpuWindow) (k : Nat) (c : UInt32)
    (onCpu : ∀ i, ∀ b ∈ (ws.getD i ⟨[]⟩).entries, b.sample.cpu.toNat = k + i) :
    (ws.map CpuWindow.entries).flatten.filter (·.sample.cpu == c) =
      if k ≤ c.toNat then (ws.getD (c.toNat - k) ⟨[]⟩).entries else [] := by
  induction ws generalizing k with
  | nil => simp
  | cons w ws ih =>
    have later := ih (k + 1) fun i b mem => by
      have := onCpu (i + 1) b (by simpa using mem); omega
    have head : ∀ b ∈ w.entries, b.sample.cpu.toNat = k := fun b mem => by
      simpa using onCpu 0 b (by simpa using mem)
    simp only [List.map_cons, List.flatten_cons, List.filter_append, later]
    by_cases here : c.toNat = k
    · have all : w.entries.filter (·.sample.cpu == c) = w.entries :=
        List.filter_eq_self.2 fun b mem => by
          simpa using UInt32.toNat.inj ((head b mem).trans here.symm)
      simp [all, here]
    · have none : w.entries.filter (·.sample.cpu == c) = [] :=
        List.filter_eq_nil_iff.2 fun b mem same => here (by
          simpa [← head b mem] using congrArg UInt32.toNat (beq_iff_eq.1 same).symm)
      rw [none, List.nil_append]
      by_cases below : k + 1 ≤ c.toNat
      · have shift : c.toNat - k = (c.toNat - (k + 1)) + 1 := by omega
        simp [below, show k ≤ c.toNat by omega, shift]
      · simp [below, show ¬ k ≤ c.toNat by omega]

theorem flush_filter (sa : SkewAdjuster) (hs : sa.Settled) (c : UInt32) :
    (flush sa).2.filter (·.sample.cpu == c) = (sa.window c.toNat).entries := by
  simpa [flush, window] using
    filter_flatten_windows sa.perCpu 0 c fun i b mem => by simpa using hs.onCpu i b mem

theorem backfill_window (tol : UInt64) (w : CpuWindow) (short : w.entries.length ≤ 1) :
    backfill tol w.entries.head? [] = w.entries := by
  match w.entries, short with
  | [], _ => rfl
  | [_], _ => rfl

theorem run_filter (tol : UInt64) (maxWindow : Nat) (bs : List Bundle) (c : UInt32) :
    ((new tol maxWindow).run bs).filter (·.sample.cpu == c) =
      backfill (new tol maxWindow).toleranceNs none (bs.filter (·.sample.cpu == c)) := by
  have hs := settled_processAll _ (settled_new tol maxWindow) bs
  have sim := processAll_filter _ (settled_new tol maxWindow) bs c []
  have empty : ((new tol maxWindow).window c.toNat).entries = [] := by simp [window, new]
  rw [backfill_window _ _ (hs.short c.toNat), empty, List.append_nil] at sim
  rw [run, List.filter_append, flush_filter _ hs]
  exact sim

/-! ### Conservation and order -/

/-- `y` is `x` with only its flow id possibly replaced, and only a zero one. -/
def Backfilled (x y : Bundle) : Prop :=
  ∃ f, y = adopt x f ∧ (x.sample.flowId ≠ 0 → f = x.sample.flowId)

@[simp] theorem adopt_adopt (b : Bundle) (f g : UInt64) : adopt (adopt b f) g = adopt b g := rfl
@[simp] theorem adopt_flowId (b : Bundle) (f : UInt64) : (adopt b f).sample.flowId = f := rfl
theorem adopt_self (b : Bundle) : adopt b b.sample.flowId = b := rfl

theorem backfilled_refl (x : Bundle) : Backfilled x x := ⟨_, (adopt_self x).symm, fun _ => rfl⟩

theorem backfilled_settle_fst (tol : UInt64) {p₀ p : Bundle} (x : Bundle)
    (h : Backfilled p₀ p) : Backfilled p₀ (settle tol p x).1 := by
  obtain ⟨f, rfl, keep⟩ := h
  simp only [settle, adopt_flowId, adopt_adopt]
  split
  case isTrue wins => exact ⟨_, rfl, fun nz => absurd ((keep nz).symm.trans wins.1) nz⟩
  case isFalse => exact ⟨f, rfl, keep⟩

theorem backfilled_settle_snd (tol : UInt64) (p x : Bundle) : Backfilled x (settle tol p x).2 := by
  simp only [settle]
  split
  case isTrue wins => exact ⟨_, rfl, fun nz => absurd wins.1 nz⟩
  case isFalse => exact backfilled_refl x

theorem backfill_some (tol : UInt64) (xs : List Bundle) :
    ∀ {p₀ p : Bundle}, Backfilled p₀ p →
      List.Forall₂ Backfilled (p₀ :: xs) (backfill tol (some p) xs) := by
  induction xs with
  | nil => intro p₀ p h; exact .cons h .nil
  | cons x xs ih =>
    intro p₀ p h
    exact .cons (backfilled_settle_fst tol x h) (ih (backfilled_settle_snd tol p x))

theorem backfill_none (tol : UInt64) (xs : List Bundle) :
    List.Forall₂ Backfilled xs (backfill tol none xs) := by
  cases xs with
  | nil => exact .nil
  | cons x xs => exact backfill_some tol xs (backfilled_refl x)

/-- Every bundle handed to `Process` is emitted exactly once: per CPU, the emitted
sequence is the input sequence, in order, each bundle changed at most in a zero flow id;
and after every `Process` call each window holds at most one bundle. -/
theorem skew_conservation (tol : UInt64) (maxWindow : Nat) (bs : List Bundle) :
    (∀ c : UInt32, List.Forall₂ Backfilled (bs.filter (·.sample.cpu == c))
      (((new tol maxWindow).run bs).filter (·.sample.cpu == c))) ∧
    ∀ n i, (((new tol maxWindow).processAll (bs.take n)).1.window i).entries.length ≤ 1 := by
  refine ⟨fun c => ?_, fun n i => ?_⟩
  · rw [run_filter]; exact backfill_none _ _
  · exact (settled_processAll _ (settled_new tol maxWindow) _).short i

/-! ### Where a back-filled flow id comes from -/

/-- The entry the window holds after each arrival, starting from `p`. -/
def arrivals (tol : UInt64) : Bundle → List Bundle → List Bundle
  | p, [] => [p]
  | p, x :: xs => p :: arrivals tol (settle tol p x).2 xs

theorem arrivals_length (tol : UInt64) (p : Bundle) (xs : List Bundle) :
    (arrivals tol p xs).length = xs.length + 1 := by
  induction xs generalizing p with
  | nil => rfl
  | cons x xs ih => simp [arrivals, ih]

theorem arrivals_zero (tol : UInt64) (p : Bundle) (xs : List Bundle) :
    (arrivals tol p xs)[0]? = some p := by
  cases xs <;> simp [arrivals]

theorem arrivals_succ (tol : UInt64) (xs : List Bundle) :
    ∀ {p a x : Bundle} {k : Nat}, (arrivals tol p xs)[k]? = some a → xs[k]? = some x →
      (arrivals tol p xs)[k + 1]? = some (settle tol a x).2 := by
  induction xs with
  | nil => intro p a x k _ hx; simp at hx
  | cons y ys ih =>
    intro p a x k ha hx
    cases k with
    | zero =>
      simp only [arrivals, List.getElem?_cons_zero, Option.some.injEq] at ha hx
      subst ha hx
      simp [arrivals, arrivals_zero]
    | succ k => simpa [arrivals] using ih (by simpa [arrivals] using ha) (by simpa using hx)

theorem arrivals_backfilled (tol : UInt64) (xs : List Bundle) :
    ∀ {p₀ p a : Bundle} {k : Nat}, Backfilled p₀ p → (arrivals tol p xs)[k]? = some a →
      ∃ x, (p₀ :: xs)[k]? = some x ∧ Backfilled x a := by
  induction xs with
  | nil =>
    intro p₀ p a k h ha
    cases k <;> simp_all [arrivals]
  | cons y ys ih =>
    intro p₀ p a k h ha
    cases k with
    | zero => simp_all [arrivals]
    | succ k => simpa using ih (backfilled_settle_snd tol p y) (by simpa [arrivals] using ha)

theorem backfill_getElem (tol : UInt64) (xs : List Bundle) :
    ∀ (p : Bundle) (k : Nat), (backfill tol (some p) xs)[k]? =
      (arrivals tol p xs)[k]?.map fun a => match xs[k]? with
        | some x => (settle tol a x).1
        | none => a := by
  induction xs with
  | nil => intro p k; cases k <;> simp [backfill, arrivals]
  | cons x xs ih =>
    intro p k
    cases k with
    | zero => simp [backfill, arrivals_zero]
    | succ k => simpa [backfill, arrivals] using ih _ k

theorem settle_fst_flowId (tol : UInt64) (p x : Bundle) : (settle tol p x).1.sample.flowId =
    if p.sample.flowId = 0 ∧ x.sample.flowId ≠ 0 ∧ Close tol p.sample.tsc x.sample.tsc
    then x.sample.flowId else p.sample.flowId := by
  simp only [settle]; split <;> rfl

theorem settle_snd_flowId (tol : UInt64) (p x : Bundle) : (settle tol p x).2.sample.flowId =
    if x.sample.flowId = 0 ∧ p.sample.flowId ≠ 0 ∧ Close tol p.sample.tsc x.sample.tsc
    then p.sample.flowId else x.sample.flowId := by
  simp only [settle]; split <;> rfl

@[simp] theorem settle_fst_tsc (tol : UInt64) (p x : Bundle) :
    (settle tol p x).1.sample.tsc = p.sample.tsc := by
  simp only [settle]; split <;> rfl

@[simp] theorem settle_snd_tsc (tol : UInt64) (p x : Bundle) :
    (settle tol p x).2.sample.tsc = x.sample.tsc := by
  simp only [settle]; split <;> rfl

theorem settle_fst_of_zero (tol : UInt64) (p : Bundle) {x : Bundle} (zero : x.sample.flowId = 0) :
    (settle tol p x).1 = p := by
  simp [settle, zero]

theorem Backfilled.tsc {x y : Bundle} (h : Backfilled x y) : y.sample.tsc = x.sample.tsc := by
  obtain ⟨f, rfl, -⟩ := h; rfl

theorem Backfilled.flowId {x y : Bundle} (h : Backfilled x y) (nz : x.sample.flowId ≠ 0) :
    y.sample.flowId = x.sample.flowId := by
  obtain ⟨f, rfl, keep⟩ := h; exact keep nz

theorem window_entry (tol : UInt64) (x₀ : Bundle) (xs : List Bundle) {k : Nat} {x : Bundle}
    (hx : (x₀ :: xs)[k]? = some x) :
    ∃ a, (arrivals tol x₀ xs)[k]? = some a ∧ Backfilled x a ∧ (k = 0 → a = x) ∧
      ∀ j, k = j + 1 → ∃ p a', (x₀ :: xs)[j]? = some p ∧ (arrivals tol x₀ xs)[j]? = some a' ∧
        Backfilled p a' ∧ a = (settle tol a' x).2 := by
  have bound : k < (arrivals tol x₀ xs).length := by
    have := (List.getElem?_eq_some_iff.1 hx).1
    rw [arrivals_length]; simpa using this
  obtain ⟨a, ha⟩ : ∃ a, (arrivals tol x₀ xs)[k]? = some a := ⟨_, List.getElem?_eq_getElem bound⟩
  obtain ⟨x', hx', back⟩ := arrivals_backfilled tol xs (backfilled_refl x₀) ha
  rw [hx, Option.some.injEq] at hx'
  subst hx'
  refine ⟨a, ha, back, ?_, ?_⟩
  · rintro rfl
    simp only [arrivals_zero, List.getElem?_cons_zero, Option.some.injEq] at ha hx
    exact ha.symm.trans hx
  · rintro j rfl
    obtain ⟨a', ha'⟩ : ∃ a', (arrivals tol x₀ xs)[j]? = some a' :=
      ⟨_, List.getElem?_eq_getElem (by omega)⟩
    obtain ⟨p, hp, back'⟩ := arrivals_backfilled tol xs (backfilled_refl x₀) ha'
    have next := arrivals_succ tol xs ha' (by simpa using hx)
    rw [ha, Option.some.injEq] at next
    exact ⟨p, a', hp, ha', back', next⟩

theorem held_flowId (tol : UInt64) {a a' x : Bundle} (settled : a = (settle tol a' x).2)
    (zero : x.sample.flowId = 0) :
    (a.sample.flowId ≠ 0 ↔ a'.sample.flowId ≠ 0 ∧ Close tol a'.sample.tsc x.sample.tsc) ∧
    (a.sample.flowId ≠ 0 → a.sample.flowId = a'.sample.flowId) := by
  subst settled
  rw [settle_snd_flowId]
  split
  case isTrue wins => exact ⟨iff_of_true wins.2.1 wins.2, fun _ => rfl⟩
  case isFalse loses => simp_all

theorem backfill_source (tol : UInt64) (x₀ : Bundle) (xs : List Bundle) {k : Nat} {x y : Bundle}
    (hx : (x₀ :: xs)[k]? = some x) (hy : (backfill tol (some x₀) xs)[k]? = some y)
    (zero : x.sample.flowId = 0) :
    (y.sample.flowId ≠ 0 →
      (∃ q, xs[k]? = some q ∧ q.sample.flowId = y.sample.flowId ∧
        Close tol x.sample.tsc q.sample.tsc) ∨
      ∃ j p y', k = j + 1 ∧ (x₀ :: xs)[j]? = some p ∧ (backfill tol (some x₀) xs)[j]? = some y' ∧
        y'.sample.flowId = y.sample.flowId ∧ Close tol p.sample.tsc x.sample.tsc) ∧
    (y.sample.flowId = 0 →
      (∀ q, xs[k]? = some q → q.sample.flowId ≠ 0 → ¬ Close tol x.sample.tsc q.sample.tsc) ∧
      ∀ j p, k = j + 1 → (x₀ :: xs)[j]? = some p → p.sample.flowId ≠ 0 →
        ¬ Close tol p.sample.tsc x.sample.tsc) := by
  obtain ⟨a, ha, back, first, later⟩ := window_entry tol x₀ xs hx
  have out := backfill_getElem tol xs x₀ k
  rw [hy, ha, Option.map_some', Option.some.injEq] at out
  have tsc : a.sample.tsc = x.sample.tsc := back.tsc
  -- a predecessor with a close non-zero flow id would have been taken on arrival
  have before : a.sample.flowId = 0 → ∀ j p, k = j + 1 → (x₀ :: xs)[j]? = some p →
      p.sample.flowId ≠ 0 → ¬ Close tol p.sample.tsc x.sample.tsc := by
    intro held j p step hp nz close
    obtain ⟨p', a', hp', ha', back', settled⟩ := later j step
    rw [hp, Option.some.injEq] at hp'
    subst hp'
    exact (held_flowId tol settled zero).1.2 ⟨back'.flowId nz ▸ nz, back'.tsc ▸ close⟩ held
  by_cases held : a.sample.flowId = 0
  · cases hq : xs[k]? with
    | none =>
      rw [hq] at out
      subst out
      exact ⟨fun nz => absurd held nz, fun _ => ⟨fun q h => by simp at h, before held⟩⟩
    | some q =>
      rw [hq] at out
      subst out
      rw [settle_fst_flowId, tsc]
      split
      next wins => exact ⟨fun _ => .inl ⟨q, rfl, rfl, wins.2.2⟩, fun z => absurd z wins.2.1⟩
      next loses =>
        exact ⟨fun nz => absurd held nz, fun _ => ⟨fun q' h nz => by
          rw [Option.some.injEq] at h; subst h; exact fun c => loses ⟨held, nz, c⟩, before held⟩⟩
  · have keep : y = a := by
      rw [out]; split <;> simp [settle, held]
    subst keep
    refine ⟨fun _ => .inr ?_, fun z => absurd z held⟩
    obtain ⟨j, rfl⟩ : ∃ j, k = j + 1 := by
      cases k with
      | zero => exact absurd ((first rfl) ▸ zero) held
      | succ j => exact ⟨j, rfl⟩
    obtain ⟨p, a', hp, ha', back', settled⟩ := later j rfl
    have source := held_flowId tol settled zero
    obtain ⟨nz', close⟩ := source.1.1 held
    have prev := backfill_getElem tol xs x₀ j
    have next : xs[j]? = some x := by simpa using hx
    simp only [ha', next, Option.map_some', settle_fst_of_zero tol a' zero] at prev
    exact ⟨j, p, a', rfl, hp, prev, (source.2 held).symm, back'.tsc ▸ close⟩

theorem forall₂_backfilled {xs ys : List Bundle} (h : List.Forall₂ Backfilled xs ys) {k : Nat}
    {x y : Bundle} (hx : xs[k]? = some x) (hy : ys[k]? = some y) : Backfilled x y := by
  obtain ⟨bx, rfl⟩ := List.getElem?_eq_some_iff.1 hx
  obtain ⟨bound, rfl⟩ := List.getElem?_eq_some_iff.1 hy
  exact h.get bx bound

/-- The donor of a flow id `f` filled in at position `k` (arrival `x`) of a CPU's
arrivals `xs`: the next arrival, close to `x`; or an earlier arrival from which a run of
flow-0 arrivals, each close to the one before, leads to `x`. -/
def Donated (tol : UInt64) (xs : List Bundle) (k : Nat) (x : Bundle) (f : UInt64) : Prop :=
  (∃ q, xs[k + 1]? = some q ∧ q.sample.flowId = f ∧ Close tol x.sample.tsc q.sample.tsc) ∨
  ∃ j < k, (∃ d, xs[j]? = some d ∧ d.sample.flowId = f) ∧
    ∀ m, j < m → m ≤ k → ∃ a b, xs[m - 1]? = some a ∧ xs[m]? = some b ∧
      b.sample.flowId = 0 ∧ Close tol a.sample.tsc b.sample.tsc

theorem backfill_donated (tol : UInt64) (x₀ : Bundle) (xs : List Bundle) (k : Nat) :
    ∀ {x y : Bundle}, (x₀ :: xs)[k]? = some x → (backfill tol (some x₀) xs)[k]? = some y →
      x.sample.flowId = 0 → y.sample.flowId ≠ 0 → Donated tol (x₀ :: xs) k x y.sample.flowId := by
  induction k with
  | zero =>
    intro x y hx hy zero nz
    rcases (backfill_source tol x₀ xs hx hy zero).1 nz with ⟨q, hq, rest⟩ | ⟨j, -, -, step, -⟩
    · exact .inl ⟨q, by simpa using hq, rest⟩
    · omega
  | succ k ih =>
    intro x y hx hy zero nz
    rcases (backfill_source tol x₀ xs hx hy zero).1 nz with
      ⟨q, hq, rest⟩ | ⟨j, p, y', step, hp, hy', same, close⟩
    · exact .inl ⟨q, by simpa using hq, rest⟩
    right
    obtain rfl : k = j := by omega
    have last : ∃ a b, (x₀ :: xs)[k + 1 - 1]? = some a ∧ (x₀ :: xs)[k + 1]? = some b ∧
        b.sample.flowId = 0 ∧ Close tol a.sample.tsc b.sample.tsc := ⟨p, x, hp, hx, zero, close⟩
    by_cases carried : p.sample.flowId = 0
    · rcases ih hp hy' carried (same ▸ nz) with ⟨q, hq, flow, -⟩ | ⟨i, lt, donor, run⟩
      · rw [hx, Option.some.injEq] at hq
        subst hq
        exact absurd (flow.trans same) (zero ▸ nz.symm)
      · refine ⟨i, by omega, same ▸ donor, fun m lo hi => ?_⟩
        by_cases top : m = k + 1
        · exact top ▸ last
        · exact run m lo (by omega)
    · have flow := (forall₂_backfilled (backfill_some tol xs (backfilled_refl x₀)) hp hy').flowId
        carried
      refine ⟨k, by omega, ⟨p, hp, flow ▸ same⟩, fun m lo hi => ?_⟩
      obtain rfl : m = k + 1 := by omega
      exact last

/-- On every CPU, a flow id the adjuster fills in has a donor reached through arrivals
each close to the next (`Donated`), and flow id 0 is kept only when neither neighbouring
arrival carries a non-zero flow id close to it. -/
theorem skew_backfill_donor (tol : UInt64) (maxWindow : Nat) (bs : List Bundle) (c : UInt32)
    (k : Nat) (x y : Bundle) (hx : (bs.filter (·.sample.cpu == c))[k]? = some x)
    (hy : (((new tol maxWindow).run bs).filter (·.sample.cpu == c))[k]? = some y)
    (zero : x.sample.flowId = 0) :
    (y.sample.flowId ≠ 0 → Donated (new tol maxWindow).toleranceNs
      (bs.filter (·.sample.cpu == c)) k x y.sample.flowId) ∧
    (y.sample.flowId = 0 →
      (∀ q, (bs.filter (·.sample.cpu == c))[k + 1]? = some q → q.sample.flowId ≠ 0 →
        ¬ Close (new tol maxWindow).toleranceNs x.sample.tsc q.sample.tsc) ∧
      ∀ j p, k = j + 1 → (bs.filter (·.sample.cpu == c))[j]? = some p → p.sample.flowId ≠ 0 →
        ¬ Close (new tol maxWindow).toleranceNs p.sample.tsc x.sample.tsc) := by
  rw [run_filter] at hy
  generalize bs.filter (·.sample.cpu == c) = xs at hx hy ⊢
  cases xs with
  | nil => simp at hx
  | cons x₀ xs =>
    refine ⟨backfill_donated _ x₀ xs k hx hy zero, fun kept => ?_⟩
    obtain ⟨next, prev⟩ := (backfill_source _ x₀ xs hx hy zero).2 kept
    exact ⟨fun q hq => next q (by simpa using hq), prev⟩

/-- A CPU stream with non-decreasing timestamps: a flow-carrying sample, then two flow-0
samples each exactly the tolerance after the one before. -/
def chainedArrivals : List Bundle :=
  [⟨{ Sample.zero with tsc := 0, flowId := 5 }, []⟩, ⟨{ Sample.zero with tsc := 2000 }, []⟩,
    ⟨{ Sample.zero with tsc := 4000 }, []⟩]

theorem chained_donor : Donated (new 2000 4).toleranceNs
    (chainedArrivals.filter (·.sample.cpu == 0)) 2 ⟨{ Sample.zero with tsc := 4000 }, []⟩ 5 :=
  (skew_backfill_donor 2000 4 chainedArrivals 0 2 _ ⟨{ Sample.zero with tsc := 4000, flowId := 5 }, []⟩
    (by decide) (by decide) rfl).1 (by decide)

/-- The back-fill rule as the spec words it: a donor with that input flow id within the
tolerance and no flow-carrying neighbour nearer than it, and flow id 0 kept only when no
neighbour carries a flow id within the tolerance. -/
def NearestDonor (tol : UInt64) (xs ys : List Bundle) : Prop :=
  ∀ (k : Nat) (x y : Bundle), xs[k]? = some x → ys[k]? = some y → x.sample.flowId = 0 →
    (y.sample.flowId ≠ 0 → ∃ d ∈ xs, d.sample.flowId = y.sample.flowId ∧
      absDiff d.sample.tsc x.sample.tsc ≤ tol ∧
      ∀ a, (xs[k + 1]? = some a ∨ ∃ j, k = j + 1 ∧ xs[j]? = some a) → a.sample.flowId ≠ 0 →
        ¬ absDiff a.sample.tsc x.sample.tsc < absDiff d.sample.tsc x.sample.tsc) ∧
    (y.sample.flowId = 0 → ∀ a, (xs[k + 1]? = some a ∨ ∃ j, k = j + 1 ∧ xs[j]? = some a) →
      a.sample.flowId ≠ 0 → ¬ absDiff a.sample.tsc x.sample.tsc ≤ tol)

/-- The filled-in flow id travels: the third sample of `chainedArrivals` takes flow 5 from
the second, which took it from the first, 4000 ns away at a 2000 ns tolerance. -/
theorem skew_nearest_donor_fails : ¬ ∀ (tol : UInt64) (maxWindow : Nat) (bs : List Bundle)
    (c : UInt32), ((bs.filter (·.sample.cpu == c)).map (·.sample.tsc)).Pairwise (· ≤ ·) →
    NearestDonor (new tol maxWindow).toleranceNs (bs.filter (·.sample.cpu == c))
      (((new tol maxWindow).run bs).filter (·.sample.cpu == c)) := by
  intro claim
  obtain ⟨d, mem, flow, near, -⟩ := (claim 2000 4 chainedArrivals 0 (by decide) 2
    ⟨{ Sample.zero with tsc := 4000 }, []⟩ ⟨{ Sample.zero with tsc := 4000, flowId := 5 }, []⟩
    (by decide) (by decide) rfl).1 (by decide)
  have onCpu : chainedArrivals.filter (·.sample.cpu == 0) = chainedArrivals := by decide
  rw [onCpu] at mem
  simp only [chainedArrivals, List.mem_cons, List.not_mem_nil, or_false] at mem
  rcases mem with rfl | rfl | rfl <;> revert flow near <;> decide

end MicroSentinel.SkewAdjuster
