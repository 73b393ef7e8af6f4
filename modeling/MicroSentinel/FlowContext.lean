import MicroSentinel.Cookies
import MicroSentinel.TokenBucket

/-! How the kernel sampler attributes a PMU sample to a network flow (the first program of
`micro_sentinel_kern.bpf.c`). `capture_flow_ctx` and `capture_flow_ctx_xdp` record each
packet's flow in the per-CPU `ms_curr_ctx[0]` and push it on the sixteen-slot ring `ms_hist`;
`ms_pmu_handler` gives a sample the current context's flow or, where that is 0 or older than
`MS_FLOW_SKID_NS`, the latest flow of the ring within `MS_FLOW_SKID_NS` of the sample.

One CPU is modelled. Its per-CPU arrays start zeroed, and their lookups, at keys below their
sizes, never fail; `ms_if_filter_ctrl` is an array too. What the helpers return (the packet's
flow hash, the clock, the registers, the branch snapshot) is the reading of each event.

The ring is proved to hold the last sixteen pushes, newest first, and the whole per-CPU
program to emit exactly the samples of an abstract sampler that keeps the list of
captures. -/
namespace MicroSentinel

/-- `MS_HISTORY_LEN`. -/
def msHistoryLen : Nat := 16

/-- `ms_flow_ctx`. -/
structure FlowCtx where
  tsc : UInt64
  flowId : UInt64
  gsoSegs : UInt32
  ingressIfindex : UInt16
  l4Proto : UInt8
  direction : UInt8
  deriving DecidableEq, Repr

/-- `ms_hist_slot`. -/
structure HistSlot where
  tsc : UInt64
  flowId : UInt64
  deriving DecidableEq, Repr

def FlowCtx.zero : FlowCtx := ⟨0, 0, 0, 0, 0, 0⟩

def HistSlot.zero : HistSlot := ⟨0, 0⟩

/-- The slot a capture pushes: its time and flow. -/
def FlowCtx.slot (ctx : FlowCtx) : HistSlot := ⟨ctx.tsc, ctx.flowId⟩

/-- One CPU's maps: `ms_curr_ctx[0]`, `ms_hist`, `ms_hist_head[0]`, `ms_tb[0]` and the branch
buffer `ms_lbr_tmp_map[0]`. -/
structure CpuMaps where
  ctx : FlowCtx
  hist : Fin msHistoryLen → HistSlot
  head : UInt32
  tb : TokenBucket
  lbrTmp : Mathlib.Vector LbrEntry msLbrMax

/-- The per-CPU arrays as the kernel creates them. -/
def CpuMaps.zero : CpuMaps :=
  ⟨.zero, fun _ => .zero, 0, ⟨0, 0, 0, 0⟩, .replicate msLbrMax zeroEntry⟩

/-! ### The history ring -/

/-- The slot of `ms_hist` at a key the code has reduced modulo `MS_HISTORY_LEN`. -/
def histKey (idx : UInt32) : Fin msHistoryLen :=
  ⟨idx.toNat % msHistoryLen, Nat.mod_lt _ (by decide)⟩

/-- `ms_hist_push(tsc, flow_id)`: the slot after `ms_hist_head` takes the flow and becomes the
head. -/
def msHistPush (tsc flowId : UInt64) (cpu : CpuMaps) : CpuMaps :=
  let idx := (cpu.head + 1) % 16
  { cpu with head := idx, hist := Function.update cpu.hist (histKey idx) ⟨tsc, flowId⟩ }

/-- The slots the loop of `find_flow_in_history` reads, in its order: from `ms_hist_head`
back. -/
def histView (cpu : CpuMaps) : List HistSlot :=
  (List.range msHistoryLen).map fun i =>
    cpu.hist (histKey ((cpu.head + 16 - UInt32.ofNat i) % 16))

/-- One round of that loop, on the best flow and its distance so far: a slot in
`[ts_begin, ts_end]` nearer `ts_end` replaces them. -/
def keepBest (tsBegin tsEnd : UInt64) (best : UInt64 × UInt64) (slot : HistSlot) :
    UInt64 × UInt64 :=
  if slot.tsc < tsBegin ∨ slot.tsc > tsEnd then best
  else if tsEnd - slot.tsc < best.2 then (slot.flowId, tsEnd - slot.tsc) else best

/-- The loop over a list of slots, from no flow at distance `(__u64)-1`. -/
def bestFlow (tsBegin tsEnd : UInt64) (slots : List HistSlot) : UInt64 :=
  (slots.foldl (keepBest tsBegin tsEnd) (0, 0 - 1)).1

/-- `find_flow_in_history(ts_begin, ts_end)`. -/
def findFlowInHistory (cpu : CpuMaps) (tsBegin tsEnd : UInt64) : UInt64 :=
  bestFlow tsBegin tsEnd (histView cpu)

/-! ### The context injectors -/

/-- `ms_if_filter_ctrl[0]` and the keys of `ms_if_filter_map`. -/
structure IfFilter where
  ctrl : UInt32
  allowed : List UInt32
  deriving DecidableEq, Repr

/-- The allowlist check of `capture_flow_ctx`: with `ms_if_filter_ctrl[0] == 1`, only an
interface that `ms_if_filter_map` holds. -/
def IfFilter.admits (filter : IfFilter) (ifindex : UInt16) : Bool :=
  !(filter.ctrl = 1) || filter.allowed.contains ifindex.toUInt32

/-- What `capture_flow_ctx` reads of an `sk_buff`: `calc_flow_hash(skb, direction)`, the
device's `ifindex` where there is a device, `gso_segs` of its shared info where that reads,
and `extract_l4_proto(skb)`. -/
structure SkbReading where
  flowId : UInt64
  devIfindex : Option UInt32
  gsoSegs : Option UInt16
  l4Proto : UInt8
  deriving DecidableEq, Repr

/-- `calc_ifindex`: the device's `ifindex` as the `__u16` it returns. -/
def calcIfindex : Option UInt32 → UInt16
  | some ifindex => ifindex.toUInt16
  | none => 0

/-- `calc_gso_segs`: the segment count where it reads and is not 0, else 1. -/
def calcGsoSegs : Option UInt16 → UInt32
  | some segs => if segs = 0 then 1 else segs.toUInt32
  | none => 1

/-- The context `capture_flow_ctx` writes for a packet at `now`. -/
def skbCtx (direction : UInt8) (now : UInt64) (skb : SkbReading) : FlowCtx :=
  ⟨now, skb.flowId, calcGsoSegs skb.gsoSegs, calcIfindex skb.devIfindex, skb.l4Proto, direction⟩

/-- `capture_flow_ctx(skb, direction)` at `now`: nothing for an interface the filter refuses,
else the new context, pushed on the ring. -/
def captureFlowCtx (filter : IfFilter) (direction : UInt8) (now : UInt64) (skb : SkbReading)
    (cpu : CpuMaps) : CpuMaps :=
  if filter.admits (calcIfindex skb.devIfindex) then
    msHistPush now skb.flowId { cpu with ctx := skbCtx direction now skb }
  else cpu

/-- What `capture_flow_ctx_xdp` reads of an `xdp_md`: the flow `calc_flow_hash_xdp` returns,
the L4 protocol where `parse_xdp_tuple` succeeds, and `ingress_ifindex`. -/
structure XdpReading where
  flowId : UInt64
  l4Proto : Option UInt8
  ingressIfindex : UInt32
  deriving DecidableEq, Repr

/-- The context `capture_flow_ctx_xdp` writes for a packet at `now`. -/
def xdpCtx (now : UInt64) (xdp : XdpReading) : FlowCtx :=
  ⟨now, xdp.flowId, 1, xdp.ingressIfindex.toUInt16, xdp.l4Proto.getD 0, 0⟩

/-- `capture_flow_ctx_xdp` at `now`. -/
def captureFlowCtxXdp (now : UInt64) (xdp : XdpReading) (cpu : CpuMaps) : CpuMaps :=
  msHistPush now xdp.flowId { cpu with ctx := xdpCtx now xdp }

/-! ### The PMU handler -/

/-- What the helpers of `ms_pmu_handler` return: the clock, the interrupted `ip` and the
sampled address, `bpf_get_current_pid_tgid`, the CPU and NUMA node, the attach cookie, what
`bpf_get_branch_snapshot` returns and the entries it writes, and whether
`bpf_perf_event_output` succeeds. -/
structure PmuReading where
  now : UInt64
  ip : UInt64
  addr : UInt64
  pidTgid : UInt64
  cpu : UInt32
  numaNode : UInt16
  cookie : UInt64
  branchRet : Int
  branches : List LbrEntry
  outputOk : Bool

/-- The flow `ms_pmu_handler` gives a sample taken at `sampleTs`: the context's, unless it is 0
or more than `MS_FLOW_SKID_NS` old; then the one `lookup` finds within `MS_FLOW_SKID_NS` of the
sample, where that is not 0. -/
def sampleFlow (lookup : UInt64 → UInt64 → UInt64) (ctx : FlowCtx) (sampleTs : UInt64) :
    UInt64 :=
  if ctx.flowId = 0 ∨ (sampleTs > ctx.tsc ∧ sampleTs - ctx.tsc > msFlowSkidNs) then
    if lookup (sampleTs - msFlowSkidNs) (sampleTs + msFlowSkidNs) ≠ 0 then
      lookup (sampleTs - msFlowSkidNs) (sampleTs + msFlowSkidNs)
    else ctx.flowId
  else ctx.flowId

/-- `bpf_get_branch_snapshot` writing `branches` over the start of the buffer. -/
def writeBranches (buf : Mathlib.Vector LbrEntry msLbrMax) (branches : List LbrEntry) :
    Mathlib.Vector LbrEntry msLbrMax :=
  Mathlib.Vector.ofFn fun i => (branches[i.val]?).getD (buf.get i)

/-- `lbr_nr`: the snapshot's return where positive, at most `MS_LBR_MAX`, else 0. -/
def lbrCount (ret : Int) : Nat := if 0 < ret then min ret.toNat msLbrMax else 0

/-- The `ms_sample` the handler fills from the reading, the context, the flow it chose and the
branch buffer: `lbr_nr` entries copied, the rest left zero. -/
def buildSample (maps : KernelMaps) (r : PmuReading) (ctx : FlowCtx) (flowId : UInt64)
    (lbrTmp : Mathlib.Vector LbrEntry msLbrMax) : Sample :=
  ⟨r.now, r.cpu, (r.pidTgid >>> 32).toUInt32, r.pidTgid.toUInt32, mapHwEvent maps r.cookie,
    r.ip, r.addr, flowId, if ctx.gsoSegs = 0 then 1 else ctx.gsoSegs, ctx.ingressIfindex,
    r.numaNode, ctx.l4Proto, ctx.direction, UInt8.ofNat (lbrCount r.branchRet), 0,
    Mathlib.Vector.ofFn fun i => if i.val < lbrCount r.branchRet then lbrTmp.get i else zeroEntry⟩

/-- `ms_pmu_handler` once it has the context and the history `lookup`: the bucket and branch
buffer it leaves and the sample it emits. A sample `allow_sample` refuses changes only the
bucket; one `bpf_perf_event_output` fails to emit is lost. -/
def handleSample (maps : KernelMaps) (r : PmuReading) (ctx : FlowCtx)
    (lookup : UInt64 → UInt64 → UInt64) (tb : TokenBucket)
    (lbrTmp : Mathlib.Vector LbrEntry msLbrMax) :
    (TokenBucket × Mathlib.Vector LbrEntry msLbrMax) × Option Sample :=
  let allowed := allowSample maps.tbCfg maps.tbCtrlSeq r.now tb
  if allowed.2 then
    ((allowed.1, writeBranches lbrTmp r.branches),
      if r.outputOk then
        some (buildSample maps r ctx (sampleFlow lookup ctx r.now)
          (writeBranches lbrTmp r.branches))
      else none)
  else ((allowed.1, lbrTmp), none)

/-- `ms_pmu_handler` on one interrupt: the CPU's maps after it and the sample it emits. -/
def msPmuHandler (maps : KernelMaps) (r : PmuReading) (cpu : CpuMaps) : CpuMaps × Option Sample :=
  let out := handleSample maps r cpu.ctx (findFlowInHistory cpu) cpu.tb cpu.lbrTmp
  ({ cpu with tb := out.1.1, lbrTmp := out.1.2 }, out.2)

/-! ### Runs on one CPU -/

/-- What happens on a CPU: a received packet (`ms_ctx_inject`), a packet at XDP
(`ms_ctx_inject_xdp`), a PMU interrupt (`ms_pmu_handler`), or the agent's `ms_update_tb`. -/
inductive Event where
  | skb (now : UInt64) (skb : SkbReading)
  | xdp (now : UInt64) (xdp : XdpReading)
  | pmu (r : PmuReading)
  | updateTb (now : UInt64)

/-- One event: the CPU's maps after it and the sample it emits. -/
def step (maps : KernelMaps) (filter : IfFilter) (cpu : CpuMaps) :
    Event → CpuMaps × Option Sample
  | .skb now skb => (captureFlowCtx filter 0 now skb cpu, none)
  | .xdp now xdp => (captureFlowCtxXdp now xdp cpu, none)
  | .pmu r => msPmuHandler maps r cpu
  | .updateTb now => ({ cpu with tb := msUpdateTb maps.tbCfg now cpu.tb }, none)

/-- Events in turn through `step`: the state at the end and the samples emitted, in order. -/
def runEvents {σ : Type} (step : σ → Event → σ × Option Sample) :
    σ → List Event → σ × List Sample
  | s, [] => (s, [])
  | s, e :: es =>
    ((runEvents step (step s e).1 es).1, (step s e).2.toList ++ (runEvents step (step s e).1 es).2)

/-- The events of one CPU in turn: its maps at the end and the samples emitted, in order. -/
def run (maps : KernelMaps) (filter : IfFilter) :
    CpuMaps → List Event → CpuMaps × List Sample :=
  runEvents (step maps filter)

/-! ### The ring holds the last sixteen pushes -/

theorem toNat_add_u32 (a b : UInt32) : (a + b).toNat = (a.toNat + b.toNat) % 2 ^ 32 := rfl

theorem toNat_sub_u32 (a b : UInt32) : (a - b).toNat = (2 ^ 32 - b.toNat + a.toNat) % 2 ^ 32 :=
  BitVec.toNat_sub _ _

theorem toNat_ofNat_u32 (n : Nat) : (UInt32.ofNat n).toNat = n % 2 ^ 32 := rfl

theorem histKey_val (idx : UInt32) : (histKey idx).val = idx.toNat % msHistoryLen := rfl

theorem toNat_back {head : UInt32} (lt : head.toNat < msHistoryLen) {i : Nat} (hi : i ≤ 16) :
    ((head + 16 - UInt32.ofNat i) % 16).toNat = (head.toNat + 16 - i) % 16 := by
  rw [UInt32.toNat_mod, toNat_sub_u32, toNat_add_u32, toNat_ofNat_u32]
  change (2 ^ 32 - i % 2 ^ 32 + (head.toNat + 16) % 2 ^ 32) % 2 ^ 32 % 16 = _
  unfold msHistoryLen at lt
  omega

theorem toNat_next (head : UInt32) : ((head + 1) % 16).toNat = (head.toNat + 1) % 16 := by
  rw [UInt32.toNat_mod, toNat_add_u32]
  change (head.toNat + 1) % 2 ^ 32 % 16 = _
  omega

theorem histKey_back {head : UInt32} (lt : head.toNat < msHistoryLen) {i : Nat} (hi : i ≤ 16) :
    (histKey ((head + 16 - UInt32.ofNat i) % 16)).val = (head.toNat + 16 - i) % 16 := by
  rw [histKey_val, toNat_back lt hi]
  exact Nat.mod_mod _ _

namespace CpuMaps
variable (cpu : CpuMaps)

theorem head_msHistPush (tsc flowId : UInt64) :
    (msHistPush tsc flowId cpu).head.toNat = (cpu.head.toNat + 1) % 16 := toNat_next _

theorem hist_msHistPush (tsc flowId : UInt64) :
    (msHistPush tsc flowId cpu).hist =
      Function.update cpu.hist (histKey ((cpu.head + 1) % 16)) ⟨tsc, flowId⟩ := rfl

theorem histView_msHistPush (lt : cpu.head.toNat < msHistoryLen) (tsc flowId : UInt64) :
    histView (msHistPush tsc flowId cpu) = ⟨tsc, flowId⟩ :: (histView cpu).take 15 := by
  have next : (msHistPush tsc flowId cpu).head.toNat < msHistoryLen :=
    (head_msHistPush cpu tsc flowId).trans_lt (Nat.mod_lt _ (by decide))
  have pushed : histKey (msHistPush tsc flowId cpu).head = histKey ((cpu.head + 1) % 16) := rfl
  rw [histView, histView, ← List.map_take, List.take_range,
    show min 15 msHistoryLen = 15 from rfl,
    show msHistoryLen = 15 + 1 from rfl, List.range_succ_eq_map, List.map_cons, List.map_map]
  congr 1
  · have same : histKey (((msHistPush tsc flowId cpu).head + 16 - UInt32.ofNat 0) % 16) =
        histKey ((cpu.head + 1) % 16) := by
      rw [← pushed]
      exact Fin.ext (by rw [histKey_back next (by decide), histKey_val]; unfold msHistoryLen; omega)
    rw [same, hist_msHistPush, Function.update_same]
  · refine List.map_congr_left fun i mem => ?_
    have lt15 := List.mem_range.1 mem
    have back : histKey (((msHistPush tsc flowId cpu).head + 16 - UInt32.ofNat (i + 1)) % 16) =
        histKey ((cpu.head + 16 - UInt32.ofNat i) % 16) := Fin.ext (by
      rw [histKey_back next (by omega), histKey_back lt (by omega), head_msHistPush]
      unfold msHistoryLen at lt
      omega)
    have other :
        histKey ((cpu.head + 16 - UInt32.ofNat i) % 16) ≠ histKey ((cpu.head + 1) % 16) :=
      fun same => by
        have := congrArg Fin.val same
        rw [histKey_back lt (by omega), histKey_val, toNat_next] at this
        unfold msHistoryLen at lt this
        omega
    simp only [Function.comp, back, hist_msHistPush]
    exact Function.update_noteq other _ _
end CpuMaps

/-- The ring holds `pushes`, newest first, over the zeroed slots it started with. -/
structure Holds (cpu : CpuMaps) (pushes : List HistSlot) : Prop where
  head_lt : cpu.head.toNat < msHistoryLen
  view : histView cpu = (pushes ++ List.replicate msHistoryLen HistSlot.zero).take msHistoryLen

theorem Holds.zero : Holds CpuMaps.zero [] := ⟨by decide, by decide⟩

theorem Holds.push {cpu : CpuMaps} {pushes : List HistSlot} (h : Holds cpu pushes)
    (tsc flowId : UInt64) : Holds (msHistPush tsc flowId cpu) (⟨tsc, flowId⟩ :: pushes) := by
  refine ⟨(cpu.head_msHistPush tsc flowId).trans_lt (Nat.mod_lt _ (by decide)), ?_⟩
  rw [cpu.histView_msHistPush h.head_lt, h.view, List.take_take]
  rfl

/-- The ring after any pushes, oldest first, holds the last sixteen, newest first. -/
theorem Holds.pushAll {cpu : CpuMaps} {held : List HistSlot} (h : Holds cpu held)
    (pushes : List HistSlot) :
    Holds (pushes.foldl (fun cpu s => msHistPush s.tsc s.flowId cpu) cpu)
      (pushes.reverse ++ held) := by
  induction pushes generalizing cpu held with
  | nil => exact h
  | cons s rest ih =>
    rw [List.foldl_cons, List.reverse_cons, List.append_assoc, List.singleton_append]
    exact ih (h.push s.tsc s.flowId)

/-- Two pushes on a zeroed ring. -/
theorem ring_two_pushes :
    Holds CpuMaps.zero [] ∧
      Holds (([⟨1, 7⟩, ⟨2, 8⟩] : List HistSlot).foldl (fun cpu s => msHistPush s.tsc s.flowId cpu)
        CpuMaps.zero) (([⟨1, 7⟩, ⟨2, 8⟩] : List HistSlot).reverse ++ []) :=
  ⟨Holds.zero, Holds.pushAll Holds.zero _⟩

/-- A slot in `[tsBegin, tsEnd]`. -/
def InWindow (tsBegin tsEnd : UInt64) (slot : HistSlot) : Prop :=
  tsBegin ≤ slot.tsc ∧ slot.tsc ≤ tsEnd

instance (tsBegin tsEnd : UInt64) (slot : HistSlot) : Decidable (InWindow tsBegin tsEnd slot) :=
  inferInstanceAs (Decidable (_ ∧ _))

/-- A slot `find_flow_in_history` can take for `[tsBegin, tsEnd]`: inside it, at a distance from
`tsEnd` below the `(__u64)-1` the loop starts from. -/
def Candidate (tsBegin tsEnd : UInt64) (slot : HistSlot) : Prop :=
  InWindow tsBegin tsEnd slot ∧ tsEnd - slot.tsc ≠ 0 - 1

instance (tsBegin tsEnd : UInt64) (slot : HistSlot) : Decidable (Candidate tsBegin tsEnd slot) :=
  inferInstanceAs (Decidable (_ ∧ _))

section Lookup
variable {tsBegin tsEnd : UInt64}

theorem keepBest_eq (best : UInt64 × UInt64) (slot : HistSlot) :
    keepBest tsBegin tsEnd best slot =
      if InWindow tsBegin tsEnd slot ∧ tsEnd - slot.tsc < best.2 then
        (slot.flowId, tsEnd - slot.tsc)
      else best := by
  unfold keepBest InWindow
  by_cases inside : tsBegin ≤ slot.tsc ∧ slot.tsc ≤ tsEnd
  · rw [if_neg (by simp only [gt_iff_lt, u64_lt, u64_le] at *; omega)]
    simp only [inside, true_and]
  · rw [if_pos (by simp only [gt_iff_lt, u64_lt, u64_le] at *; omega),
      if_neg (fun h => inside h.1)]

theorem dist_lt_iff {s x : HistSlot} (hs : s.tsc ≤ tsEnd) (hx : x.tsc ≤ tsEnd) :
    tsEnd - s.tsc < tsEnd - x.tsc ↔ x.tsc < s.tsc := by
  rw [u64_lt, u64_lt, UInt64.toNat_sub_of_le _ _ hs, UInt64.toNat_sub_of_le _ _ hx]
  rw [u64_le] at hs hx
  omega

theorem foldl_keepBest (l : List HistSlot) (f d : UInt64) :
    ((∀ s ∈ l, InWindow tsBegin tsEnd s → d ≤ tsEnd - s.tsc) ∧
        l.foldl (keepBest tsBegin tsEnd) (f, d) = (f, d)) ∨
      ∃ pre s post, l = pre ++ s :: post ∧ InWindow tsBegin tsEnd s ∧ tsEnd - s.tsc < d ∧
        l.foldl (keepBest tsBegin tsEnd) (f, d) = (s.flowId, tsEnd - s.tsc) ∧
        (∀ x ∈ pre, InWindow tsBegin tsEnd x → tsEnd - s.tsc < tsEnd - x.tsc) ∧
        (∀ x ∈ post, InWindow tsBegin tsEnd x → tsEnd - s.tsc ≤ tsEnd - x.tsc) := by
  induction l generalizing f d with
  | nil => exact .inl ⟨fun _ m => absurd m (List.not_mem_nil _), rfl⟩
  | cons x l ih =>
    rw [List.foldl_cons, keepBest_eq]
    by_cases take : InWindow tsBegin tsEnd x ∧ tsEnd - x.tsc < d
    · rw [if_pos take]
      refine .inr ?_
      rcases ih x.flowId (tsEnd - x.tsc) with
        ⟨far, same⟩ | ⟨pre, s, post, rfl, win, near, res, before, after⟩
      · exact ⟨[], x, l, rfl, take.1, take.2, same,
          fun _ m => absurd m (List.not_mem_nil _), far⟩
      · refine ⟨x :: pre, s, post, rfl, win, u64_lt.2 (Nat.lt_trans near take.2), res, ?_,
          after⟩
        rintro y (_ | ⟨_, m⟩) w
        exacts [near, before y m w]
    · rw [if_neg take]
      have far : InWindow tsBegin tsEnd x → d ≤ tsEnd - x.tsc := fun w =>
        u64_le.2 (Nat.le_of_not_lt fun lt => take ⟨w, u64_lt.2 lt⟩)
      rcases ih f d with ⟨rest, same⟩ | ⟨pre, s, post, rfl, win, near, res, before, after⟩
      · refine .inl ⟨?_, same⟩
        rintro y (_ | ⟨_, m⟩) w
        exacts [far w, rest y m w]
      · refine .inr ⟨x :: pre, s, post, rfl, win, near, res, ?_, after⟩
        rintro y (_ | ⟨_, m⟩) w
        exacts [u64_lt.2 (Nat.lt_of_lt_of_le near (far w)), before y m w]

/-- `find_flow_in_history`'s loop over any slots in its order: 0 where none can be taken, else
the flow of the latest slot of the window, the first on a tie. -/
theorem bestFlow_spec (slots : List HistSlot) :
    ((∀ s ∈ slots, ¬Candidate tsBegin tsEnd s) ∧ bestFlow tsBegin tsEnd slots = 0) ∨
      ∃ pre s post, slots = pre ++ s :: post ∧ Candidate tsBegin tsEnd s ∧
        bestFlow tsBegin tsEnd slots = s.flowId ∧
        (∀ x ∈ pre, Candidate tsBegin tsEnd x → x.tsc < s.tsc) ∧
        (∀ x ∈ post, Candidate tsBegin tsEnd x → x.tsc ≤ s.tsc) := by
  rcases foldl_keepBest slots 0 (0 - 1) with
    ⟨far, same⟩ | ⟨pre, s, post, split, win, near, res, before, after⟩
  · refine .inl ⟨fun s m c => c.2 ?_, by rw [bestFlow, same]⟩
    have far := u64_le.1 (far s m c.1)
    have bound := UInt64.toNat_lt_size (tsEnd - s.tsc)
    have max : (0 - 1 : UInt64).toNat = 2 ^ 64 - 1 := rfl
    exact u64_eq.2 (by unfold UInt64.size at bound; omega)
  · refine .inr ⟨pre, s, post, split, ⟨win, fun max => ?_⟩, by rw [bestFlow, res],
      fun x m c => (dist_lt_iff win.2 c.1.2).1 (before x m c.1), fun x m c => ?_⟩
    · rw [max] at near
      exact Nat.lt_irrefl _ near
    · have nearer := after x m c.1
      have hs := win.2
      have hx := c.1.2
      rw [u64_le, UInt64.toNat_sub_of_le _ _ hs, UInt64.toNat_sub_of_le _ _ hx] at nearer
      rw [u64_le] at hs hx ⊢
      omega

end Lookup

/-! ### The abstract sampler -/

/-- What one CPU's sampler is for: the contexts captured so far, newest first, with the bucket
and the branch buffer. -/
structure Sampler where
  captures : List FlowCtx
  tb : TokenBucket
  lbrTmp : Mathlib.Vector LbrEntry msLbrMax

namespace Sampler

def zero : Sampler := ⟨[], ⟨0, 0, 0, 0⟩, .replicate msLbrMax zeroEntry⟩

/-- The current context: the latest capture, zero before any. -/
def ctx (s : Sampler) : FlowCtx := s.captures.headD .zero

/-- The slots of the last sixteen captures, newest first, over zero slots. -/
def recent (s : Sampler) : List HistSlot :=
  (s.captures.map FlowCtx.slot ++ List.replicate msHistoryLen HistSlot.zero).take msHistoryLen

def capture (c : FlowCtx) (s : Sampler) : Sampler := { s with captures := c :: s.captures }

/-- One event: a packet the filter admits is captured; a PMU interrupt looks its flow up in
the recent captures. -/
def step (maps : KernelMaps) (filter : IfFilter) (s : Sampler) : Event → Sampler × Option Sample
  | .skb now skb =>
    (if filter.admits (calcIfindex skb.devIfindex) then s.capture (skbCtx 0 now skb) else s, none)
  | .xdp now xdp => (s.capture (xdpCtx now xdp), none)
  | .pmu r =>
    let out := handleSample maps r s.ctx (fun b e => bestFlow b e s.recent) s.tb s.lbrTmp
    ({ s with tb := out.1.1, lbrTmp := out.1.2 }, out.2)
  | .updateTb now => ({ s with tb := msUpdateTb maps.tbCfg now s.tb }, none)

def run (maps : KernelMaps) (filter : IfFilter) :
    Sampler → List Event → Sampler × List Sample :=
  runEvents (step maps filter)

end Sampler

theorem runEvents_sim {σ τ : Type} {step : σ → Event → σ × Option Sample}
    {step' : τ → Event → τ × Option Sample} (R : σ → τ → Prop)
    (sim : ∀ s t e, R s t → R (step s e).1 (step' t e).1 ∧ (step s e).2 = (step' t e).2) :
    ∀ (es : List Event) (s : σ) (t : τ), R s t →
      R (runEvents step s es).1 (runEvents step' t es).1 ∧
        (runEvents step s es).2 = (runEvents step' t es).2
  | [], _, _, h => ⟨h, rfl⟩
  | e :: es, s, t, h => by
    obtain ⟨related, same⟩ := sim s t e h
    obtain ⟨rest, emitted⟩ := runEvents_sim R sim es _ _ related
    exact ⟨rest, by rw [runEvents, runEvents, same, emitted]⟩

/-- The CPU's maps stand for the sampler: the current context, the ring holding the captures'
slots, the same bucket and branch buffer. -/
structure Refines (cpu : CpuMaps) (s : Sampler) : Prop where
  ctx : cpu.ctx = s.ctx
  ring : Holds cpu (s.captures.map FlowCtx.slot)
  tb : cpu.tb = s.tb
  lbrTmp : cpu.lbrTmp = s.lbrTmp

theorem Refines.zero : Refines CpuMaps.zero Sampler.zero := ⟨rfl, Holds.zero, rfl, rfl⟩

theorem Refines.capture {cpu : CpuMaps} {s : Sampler} (h : Refines cpu s) (c : FlowCtx) :
    Refines (msHistPush c.tsc c.flowId { cpu with ctx := c }) (s.capture c) :=
  ⟨rfl, (⟨h.ring.head_lt, h.ring.view⟩ : Holds { cpu with ctx := c } _).push c.tsc c.flowId,
    h.tb, h.lbrTmp⟩

theorem Refines.findFlowInHistory {cpu : CpuMaps} {s : Sampler} (h : Refines cpu s) :
    findFlowInHistory cpu = fun b e => bestFlow b e s.recent := by
  funext b e
  rw [MicroSentinel.findFlowInHistory, h.ring.view]
  rfl

theorem Refines.step {cpu : CpuMaps} {s : Sampler} (h : Refines cpu s) (maps : KernelMaps)
    (filter : IfFilter) (e : Event) :
    Refines (step maps filter cpu e).1 (s.step maps filter e).1 ∧
      (step maps filter cpu e).2 = (s.step maps filter e).2 := by
  cases e with
  | skb now skb =>
    refine ⟨?_, rfl⟩
    dsimp only [MicroSentinel.step, Sampler.step, captureFlowCtx]
    split_ifs
    exacts [h.capture (skbCtx 0 now skb), h]
  | xdp now xdp => exact ⟨h.capture (xdpCtx now xdp), rfl⟩
  | pmu r =>
    refine ⟨⟨h.ctx, ⟨h.ring.head_lt, h.ring.view⟩, ?_, ?_⟩, ?_⟩ <;>
      simp only [MicroSentinel.step, Sampler.step, msPmuHandler, h.findFlowInHistory, h.ctx, h.tb,
        h.lbrTmp]
  | updateTb now =>
    refine ⟨⟨h.ctx, ⟨h.ring.head_lt, h.ring.view⟩, ?_, h.lbrTmp⟩, rfl⟩
    simp only [MicroSentinel.step, Sampler.step, h.tb]

/-- Over every sequence of packets, interrupts and bucket updates on a CPU, the kernel
programs emit exactly the samples of the sampler that keeps the list of captures, and their
maps stand for its state at the end. -/
theorem run_refines_sampler (maps : KernelMaps) (filter : IfFilter) (events : List Event) :
    Refines (run maps filter CpuMaps.zero events).1
        (Sampler.run maps filter Sampler.zero events).1 ∧
      (run maps filter CpuMaps.zero events).2 = (Sampler.run maps filter Sampler.zero events).2 :=
  runEvents_sim Refines (fun _ _ e h => h.step maps filter e) events _ _ Refines.zero


/-- A packet `capture_flow_ctx` drops at the interface filter. -/
def Event.filtered (filter : IfFilter) : Event → Bool
  | .skb _ reading => !filter.admits (calcIfindex reading.devIfindex)
  | _ => false

theorem run_cons (maps : KernelMaps) (filter : IfFilter) (cpu : CpuMaps) (e : Event)
    (es : List Event) :
    run maps filter cpu (e :: es) =
      ((run maps filter (step maps filter cpu e).1 es).1,
        (step maps filter cpu e).2.toList ++ (run maps filter (step maps filter cpu e).1 es).2) :=
  rfl

/-- Packets on interfaces the allowlist leaves out are invisible: dropping them from any run
changes neither the maps at its end nor a single sample. -/
theorem run_without_filtered (maps : KernelMaps) (filter : IfFilter) :
    ∀ (events : List Event) (cpu : CpuMaps),
      run maps filter cpu (events.filter fun e => !e.filtered filter) = run maps filter cpu events
  | [], _ => rfl
  | e :: es, cpu => by
    have rest := run_without_filtered maps filter es
    by_cases drop : e.filtered filter = true
    · obtain ⟨now, skb, rfl⟩ : ∃ now skb, e = .skb now skb := by
        cases e <;> first | exact ⟨_, _, rfl⟩ | cases drop
      have refused : filter.admits (calcIfindex skb.devIfindex) = false := by
        simpa [Event.filtered] using drop
      rw [List.filter_cons_of_neg (by simp [drop]), rest, run_cons]
      simp only [step, captureFlowCtx, refused, Bool.false_eq_true, if_false, Option.toList_none,
        List.nil_append]
    · rw [List.filter_cons_of_pos (by simpa using drop), run_cons, run_cons, rest]

/-! ### The rate cap over whole runs -/

/-- The times of a run's PMU interrupts, each an `allow_sample(now)` call. -/
def pmuTimes : List Event → List UInt64
  | [] => []
  | .pmu r :: es => r.now :: pmuTimes es
  | _ :: es => pmuTimes es

/-- An `ms_update_tb` of the agent. -/
def Event.isUpdateTb : Event → Bool
  | .updateTb _ => true
  | _ => false

theorem handleSample_tb (maps : KernelMaps) (r : PmuReading) (ctx : FlowCtx)
    (lookup : UInt64 → UInt64 → UInt64) (tb : TokenBucket)
    (lbrTmp : Mathlib.Vector LbrEntry msLbrMax) :
    (handleSample maps r ctx lookup tb lbrTmp).1.1 =
      (allowSample maps.tbCfg maps.tbCtrlSeq r.now tb).1 := by
  dsimp only [handleSample]
  split_ifs <;> rfl

theorem handleSample_emits {maps : KernelMaps} {r : PmuReading} {ctx : FlowCtx}
    {lookup : UInt64 → UInt64 → UInt64} {tb : TokenBucket}
    {lbrTmp : Mathlib.Vector LbrEntry msLbrMax} {s : Sample}
    (h : s ∈ (handleSample maps r ctx lookup tb lbrTmp).2) :
    (allowSample maps.tbCfg maps.tbCtrlSeq r.now tb).2 = true ∧ s.tsc = r.now := by
  dsimp only [handleSample] at h
  split_ifs at h with allowed
  · cases h
    exact ⟨allowed, rfl⟩
  all_goals cases h

open TokenBucket in
theorem emitted_le_admitted (maps : KernelMaps) (filter : IfFilter) (a b : UInt64) :
    ∀ (events : List Event) (cpu : CpuMaps), (∀ e ∈ events, e.isUpdateTb = false) →
      (run maps filter cpu events).2.countP (fun s => a ≤ s.tsc ∧ s.tsc ≤ b) ≤
        admittedIn a b (trace maps.tbCfg maps.tbCtrlSeq cpu.tb (pmuTimes events))
  | [], _, _ => by simp [run, runEvents]
  | e :: es, cpu, noUpdate => by
    have rest := emitted_le_admitted maps filter a b es (step maps filter cpu e).1
      fun e' m => noUpdate e' (List.mem_cons_of_mem _ m)
    rw [run_cons, List.countP_append]
    cases e with
    | skb now skb =>
      have same : (captureFlowCtx filter 0 now skb cpu).tb = cpu.tb := by
        dsimp only [captureFlowCtx]
        split <;> rfl
      simpa [step, pmuTimes, same] using rest
    | xdp now xdp => simpa [step, pmuTimes] using rest
    | pmu r =>
      have spent : (step maps filter cpu (.pmu r)).1.tb =
          (allowSample maps.tbCfg maps.tbCtrlSeq r.now cpu.tb).1 := handleSample_tb ..
      rw [pmuTimes, trace, admittedIn_cons, ← spent]
      refine (Nat.add_le_add ?_ rest).trans_eq (Nat.add_comm _ _)
      cases emitted : (step maps filter cpu (.pmu r)).2 with
      | none => exact Nat.zero_le _
      | some s =>
        obtain ⟨allowed, stamped⟩ := handleSample_emits (show s ∈ (handleSample maps r cpu.ctx
          (findFlowInHistory cpu) cpu.tb cpu.lbrTmp).2 from emitted)
        rw [Option.toList_some, List.countP_cons, List.countP_nil, stamped]
        by_cases inside : a ≤ r.now ∧ r.now ≤ b <;> simp [inside, allowed]
    | updateTb now => nomatch noUpdate (.updateTb now) (List.mem_cons_self _ _)

open TokenBucket in
/-- Between two `ms_update_tb`s a CPU emits samples at the configured rate: over every run of
packets and interrupts at positive non-decreasing times, from a bucket `allow_sample` restarts
or that holds at most `max(L, MS_TOKEN_HEADROOM)` tokens, every window `[a, b]` holds at most
`max(L, MS_TOKEN_HEADROOM) + 1 + L * (b - a) / 10^9` of the samples it emits. -/
theorem run_sample_rate_cap (maps : KernelMaps) (filter : IfFilter) (cpu : CpuMaps)
    (events : List Event)
    (fresh : Capped (getTbLimit maps.tbCfg) cpu.tb ∨ ¬Synced maps.tbCtrlSeq cpu.tb)
    (noUpdate : ∀ e ∈ events, e.isUpdateTb = false)
    (sorted : (pmuTimes events).Sorted (· ≤ ·))
    (pos : ∀ t ∈ pmuTimes events, 0 < t) (a b : UInt64) :
    1000000000 * (run maps filter cpu events).2.countP (fun s => a ≤ s.tsc ∧ s.tsc ≤ b) ≤
      1000000000 * (max (getTbLimit maps.tbCfg).toNat msTokenHeadroom.toNat + 1) +
        (getTbLimit maps.tbCfg).toNat * (b.toNat - a.toNat) :=
  (Nat.mul_le_mul_left _ (emitted_le_admitted maps filter a b events cpu noUpdate)).trans
    (admittedIn_le _ fresh sorted pos a b)

open TokenBucket in
/-- Two interrupts and a packet on a fresh CPU under the default configuration. -/
theorem run_sample_rate_cap_fresh_cpu :
    let r : PmuReading := ⟨1, 0, 0, 0, 0, 0, 0, 0, [], true⟩
    let events : List Event := [.pmu r, .skb 2 ⟨7, some 1, none, 6⟩, .pmu { r with now := 3 }]
    (¬Synced (some 1) CpuMaps.zero.tb) ∧ (∀ e ∈ events, e.isUpdateTb = false) ∧
      (pmuTimes events).Sorted (· ≤ ·) ∧ (∀ t ∈ pmuTimes events, 0 < t) ∧
      1000000000 * (run ⟨none, some 1, [], none⟩ ⟨0, []⟩ CpuMaps.zero events).2.countP
          (fun s => 0 ≤ s.tsc ∧ s.tsc ≤ 3) ≤
        1000000000 * (max (getTbLimit none).toNat msTokenHeadroom.toNat + 1) +
          (getTbLimit none).toNat * ((3 : UInt64).toNat - (0 : UInt64).toNat) :=
  ⟨fun h => h.used rfl, by decide, by decide, by decide,
    run_sample_rate_cap ⟨none, some 1, [], none⟩ ⟨0, []⟩ CpuMaps.zero _
      (.inr fun h => h.used rfl)
      (by decide) (by decide) (by decide) 0 3⟩

end MicroSentinel
