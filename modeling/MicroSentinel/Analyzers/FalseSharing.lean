import MicroSentinel.Analyzers.RemoteDram
import Mathlib.Data.UInt

/-! `FalseSharingDetector` (`fs_detector.cpp`): HITM samples counted per 64-byte line, per
CPU and per pid, and each line reported, past its filters, once its newest sample is older
than the window. `cpu_hits` grows to `sample.cpu + 1` computed in 32 bits, so the write after
it can fall outside the vector; `Observe` is `none` there, and a run fails exactly when it
observes a HITM sample from CPU `2^32 - 1`, a CPU id `bpf_get_smp_processor_id` never gives.
Past that, the table is the summary of the samples observed since each line's last eviction,
and each finding counts, modulo `2^64`, the samples its line had when a flush evicted it. -/
namespace MicroSentinel

/-- `FalseSharingDetector::Stats`. -/
structure LineStats where
  totalHits : UInt64
  lastTsc : UInt64
  cpuHits : List UInt64
  pidHits : List (UInt32 × UInt64)
  deriving DecidableEq

structure FalseSharingFinding where
  lineAddr : UInt64
  totalHits : UInt64
  cpuHits : List UInt64
  dominantPid : UInt32
  object : DataObject
  deriving DecidableEq

structure FalseSharingDetector where
  windowNs : UInt64
  threshold : UInt64
  table : List (UInt64 × LineStats)
  deriving DecidableEq

/-- `DataObject{}`. -/
def DataObject.empty : DataObject := ⟨"", 0, 0, "", "", "", 0⟩

namespace FalseSharingDetector

open Table

/-- The constructor; the runtime takes the defaults, a 50 ms window and a threshold of 100. -/
def new (windowNs threshold : UInt64) : FalseSharingDetector := ⟨windowNs, threshold, []⟩

def LineStats.empty : LineStats := ⟨0, 0, [], []⟩

/-- `sample.data_addr & ~(64ULL - 1ULL)`. -/
def lineOf (sample : Sample) : UInt64 := sample.dataAddr &&& ~~~(64 - 1)

/-- `std::vector::resize(n, 0)`. -/
def resize (v : List UInt64) (n : Nat) : List UInt64 := v.take n ++ List.replicate (n - v.length) 0

/-- The update of a line by `Observe`, or none where `cpu_hits[sample.cpu]` lies past the
vector: the vector grows to `sample.cpu + 1`, computed in 32 bits. -/
def observeLine (stats : LineStats) (sample : Sample) : Option LineStats :=
  let cpuHits := if stats.cpuHits.length ≤ sample.cpu.toNat then
      resize stats.cpuHits (sample.cpu + 1).toNat else stats.cpuHits
  if sample.cpu.toNat < cpuHits.length then
    some ⟨stats.totalHits + 1, sample.tsc,
      cpuHits.set sample.cpu.toNat (cpuHits.getD sample.cpu.toNat 0 + 1),
      assign stats.pidHits sample.pid (get stats.pidHits sample.pid 0 + 1)⟩
  else none

def observe (d : FalseSharingDetector) (sample : Sample) : Option FalseSharingDetector :=
  if sample.pmuEvent ≠ msEvtXsnpHitm then some d
  else (observeLine (get d.table (lineOf sample) LineStats.empty) sample).map fun stats =>
    { d with table := assign d.table (lineOf sample) stats }

/-- The CPUs with hits. -/
def activeCpus (cpuHits : List UInt64) : Nat := (cpuHits.filter (· ≠ 0)).length

def maxHits (cpuHits : List UInt64) : UInt64 := cpuHits.foldl max 0

/-- `dominance >= 0.9` for `dominance = double(max_hits) / double(total_hits)`, read exactly:
`10 * max_hits >= 9 * total_hits`, and a zero total makes the quotient infinite, or NaN when
`max_hits` is 0 too. -/
def dominated (maxHits totalHits : UInt64) : Bool :=
  if totalHits = 0 then maxHits ≠ 0 else 9 * totalHits.toNat ≤ 10 * maxHits.toNat

/-- The loop over `pid_hits`: the first pid with the most hits, 0 when none has any. -/
def dominantPid (pidHits : List (UInt32 × UInt64)) : UInt32 :=
  (pidHits.foldl (fun best p => if p.2 > best.2 then p else best) (0, 0)).1

/-- `finding.object`: `ResolveData(dominant_pid, line)` when there is a symbolizer and a pid. -/
def objectOf (resolveData : Option (UInt32 → UInt64 → DataObject)) (pid : UInt32)
    (line : UInt64) : DataObject :=
  match resolveData with
  | some resolve => if pid ≠ 0 then resolve pid line else .empty
  | none => .empty

/-- The finding of an expired line, past the three filters of `Flush`. -/
def finding? (d : FalseSharingDetector) (resolveData : Option (UInt32 → UInt64 → DataObject))
    (e : UInt64 × LineStats) : Option FalseSharingFinding :=
  if e.2.totalHits < d.threshold then none
  else if activeCpus e.2.cpuHits < 2 then none
  else if dominated (maxHits e.2.cpuHits) e.2.totalHits then none
  else some ⟨e.1, e.2.totalHits, e.2.cpuHits, dominantPid e.2.pidHits,
    objectOf resolveData (dominantPid e.2.pidHits) e.1⟩

/-- `Flush(now_tsc, cb)`: the detector after it and the findings handed to `cb`, in table
order; `resolveData` is the symbolizer's `ResolveData`, none for a null `symbolizer_`. -/
def flush (d : FalseSharingDetector) (now : UInt64)
    (resolveData : Option (UInt32 → UInt64 → DataObject)) :
    FalseSharingDetector × List FalseSharingFinding :=
  ({ d with table := (expire (·.lastTsc) d.windowNs now d.table).2 },
    (expire (·.lastTsc) d.windowNs now d.table).1.filterMap (d.finding? resolveData))

theorem length_resize (v : List UInt64) (n : Nat) : (resize v n).length = n := by
  simp only [resize, List.length_append, List.length_take, List.length_replicate]; omega

theorem sum_resize {v : List UInt64} {n : Nat} (le : v.length ≤ n) : (resize v n).sum = v.sum := by
  simp [resize, List.take_of_length_le le, nsmul_zero]

theorem sum_set_succ {v : List UInt64} {i : Nat} (inside : i < v.length) :
    (v.set i (v.getD i 0 + 1)).sum = v.sum + 1 := by
  induction v generalizing i with
  | nil => simp at inside
  | cons x v ih =>
    cases i with
    | zero => simp [add_right_comm]
    | succ i =>
      have := ih (i := i) (by simpa using inside)
      rw [List.getD_eq_getElem?_getD] at this
      simp [this, add_assoc]

theorem sum_assign_succ (t : List (UInt32 × UInt64)) (pid : UInt32) :
    ((assign t pid (get t pid 0 + 1)).map (·.2)).sum = (t.map (·.2)).sum + 1 := by
  induction t with
  | nil => simp [assign, Table.get]
  | cons p t ih =>
    obtain ⟨k, w⟩ := p
    by_cases h : k = pid
    · subst h; simp [assign, Table.get, add_right_comm]
    · simp [assign, Table.get, h, List.lookup_cons, beq_false_of_ne (Ne.symm h), ← ih, add_assoc]

theorem getD_resize {v : List UInt64} {n : Nat} (le : v.length ≤ n) (i : Nat) :
    (resize v n).getD i 0 = v.getD i 0 := by
  rw [resize, List.take_of_length_le le]
  simp only [List.getD_eq_getElem?_getD]
  by_cases inside : i < v.length
  · rw [List.getElem?_append_left inside]
  · rw [List.getElem?_append_right (by omega), List.getElem?_replicate,
      List.getElem?_eq_none (by omega : v.length ≤ i)]
    split_ifs <;> rfl

theorem observeLine_eq_none_iff (stats : LineStats) (sample : Sample) :
    observeLine stats sample = none ↔
      stats.cpuHits.length ≤ sample.cpu.toNat ∧ sample.cpu = 4294967295 := by
  have next : (sample.cpu + 1).toNat = (sample.cpu.toNat + 1) % 2 ^ 32 := rfl
  have bound := sample.cpu.toNat_lt_size
  have top : sample.cpu = 4294967295 ↔ sample.cpu.toNat = 4294967295 :=
    ⟨congrArg UInt32.toNat, fun h => UInt32.toNat.inj h⟩
  simp only [UInt32.size] at bound
  unfold observeLine
  dsimp only
  by_cases grow : stats.cpuHits.length ≤ sample.cpu.toNat
  · rw [if_pos grow, top, length_resize, next]
    by_cases fits : sample.cpu.toNat < (sample.cpu.toNat + 1) % 2 ^ 32
    · rw [if_pos fits]
      simp only [reduceCtorEq, false_iff, not_and]
      omega
    · rw [if_neg fits]
      simp only [grow, true_and, true_iff]
      omega
  · rw [if_neg grow, if_pos (by omega)]
    simp only [reduceCtorEq, grow, false_and]

theorem observe_eq_none_iff (d : FalseSharingDetector) (sample : Sample) :
    d.observe sample = none ↔ sample.pmuEvent = msEvtXsnpHitm ∧
      (get d.table (lineOf sample) LineStats.empty).cpuHits.length ≤ sample.cpu.toNat ∧
      sample.cpu = 4294967295 := by
  unfold observe
  by_cases hitm : sample.pmuEvent = msEvtXsnpHitm
  · simp only [hitm, ne_eq, not_true_eq_false, if_false, Option.map_eq_none', true_and,
      observeLine_eq_none_iff]
  · simp only [hitm, ne_eq, not_false_eq_true, if_true, false_and, iff_false]
    exact Option.some_ne_none _

/-! ### Where `Observe` succeeds -/

theorem toNat_lt_of_ne {cpu : UInt32} (low : cpu ≠ 4294967295) : cpu.toNat < 4294967295 := by
  have bound := cpu.toNat_lt_size
  have ne : cpu.toNat ≠ 4294967295 := fun top => low (UInt32.toNat.inj top)
  simp only [UInt32.size] at bound
  omega

theorem toNat_succ {cpu : UInt32} (low : cpu ≠ 4294967295) : (cpu + 1).toNat = cpu.toNat + 1 := by
  have := toNat_lt_of_ne low
  show (cpu.toNat + 1) % 2 ^ 32 = _
  omega

theorem observeLine_of_ne (stats : LineStats) {sample : Sample} (low : sample.cpu ≠ 4294967295) :
    ∃ cpuHits : List UInt64, cpuHits.length = max stats.cpuHits.length (sample.cpu.toNat + 1) ∧
      (∀ i, cpuHits.getD i 0 = stats.cpuHits.getD i 0) ∧ cpuHits.sum = stats.cpuHits.sum ∧
      observeLine stats sample = some ⟨stats.totalHits + 1, sample.tsc,
        cpuHits.set sample.cpu.toNat (cpuHits.getD sample.cpu.toNat 0 + 1),
        assign stats.pidHits sample.pid (get stats.pidHits sample.pid 0 + 1)⟩ := by
  unfold observeLine
  by_cases grow : stats.cpuHits.length ≤ sample.cpu.toNat
  · refine ⟨resize stats.cpuHits (sample.cpu.toNat + 1), by rw [length_resize]; omega,
      getD_resize (by omega), sum_resize (by omega), ?_⟩
    dsimp only
    rw [if_pos grow, toNat_succ low, if_pos (by rw [length_resize]; omega)]
  · refine ⟨stats.cpuHits, by omega, fun _ => rfl, rfl, ?_⟩
    dsimp only
    rw [if_neg grow, if_pos (by omega)]

/-! ### What a line's counters count -/

/-- A line's update by a sample, where `Observe` makes one. -/
def record (stats : LineStats) (sample : Sample) : LineStats :=
  (observeLine stats sample).getD stats

theorem observeLine_eq_record (stats : LineStats) {sample : Sample}
    (low : sample.cpu ≠ 4294967295) : observeLine stats sample = some (record stats sample) := by
  obtain ⟨_, -, -, -, update⟩ := observeLine_of_ne stats low
  rw [record, update]; rfl

/-- What a line's counters say of the samples they count, each modulo `2^64`: the hits, the
newest stamp, the hits per CPU and per pid, which both add up to the hits, and a vector just
long enough for every CPU. -/
structure Counts (samples : List Sample) (stats : LineStats) : Prop where
  total : stats.totalHits = UInt64.ofNat samples.length
  last : stats.lastTsc = ((samples.getLast?).map (·.tsc)).getD 0
  perCpu : ∀ i, stats.cpuHits.getD i 0 = UInt64.ofNat (samples.countP (·.cpu.toNat = i))
  perPid : ∀ pid, get stats.pidHits pid 0 = UInt64.ofNat (samples.countP (·.pid = pid))
  cpuSum : stats.cpuHits.sum = stats.totalHits
  pidSum : (stats.pidHits.map (·.2)).sum = stats.totalHits
  width : ∀ n, stats.cpuHits.length ≤ n ↔ ∀ s ∈ samples, s.cpu.toNat < n

theorem ofNat_add_ite (n : Nat) (p : Prop) [Decidable p] :
    UInt64.ofNat (n + if p then 1 else 0) = if p then UInt64.ofNat n + 1 else UInt64.ofNat n := by
  split_ifs
  · exact ofNat_add_one n
  · rfl

theorem countP_concat {p : Sample → Bool} (samples : List Sample) (s : Sample) :
    (samples ++ [s]).countP p = samples.countP p + if p s then 1 else 0 := by
  rw [List.countP_append, List.countP_singleton]

theorem Counts.nil : Counts [] LineStats.empty :=
  ⟨rfl, rfl, fun _ => by simp [LineStats.empty], fun _ => rfl, rfl, rfl,
    fun _ => by simp [LineStats.empty]⟩

theorem Counts.step {samples : List Sample} {stats : LineStats} (c : Counts samples stats)
    {sample : Sample} (low : sample.cpu ≠ 4294967295) :
    Counts (samples ++ [sample]) (record stats sample) := by
  obtain ⟨cpuHits, length, same, sum, update⟩ := observeLine_of_ne stats low
  rw [record, update, Option.getD_some]
  constructor
  · rw [List.length_append, List.length_singleton, ofNat_add_one, ← c.total]
  · rw [List.getLast?_concat]; rfl
  · intro i
    simp only [countP_concat, decide_eq_true_eq, ofNat_add_ite, ← c.perCpu, ← same i,
      List.getD_eq_getElem?_getD, List.getElem?_set]
    by_cases at' : sample.cpu.toNat = i
    · subst at'
      rw [if_pos rfl, if_pos (by omega), if_pos rfl, Option.getD_some]
    · rw [if_neg at', if_neg at']
  · intro pid
    simp only [countP_concat, decide_eq_true_eq, ofNat_add_ite, ← c.perPid, get_assign]
    by_cases mine : sample.pid = pid
    · subst mine; simp
    · simp [mine, Ne.symm mine]
  · rw [sum_set_succ (by rw [length]; omega), sum, c.cpuSum]
  · rw [sum_assign_succ, c.pidSum]
  · intro n
    rw [List.length_set, length, max_le_iff, c.width, List.forall_mem_append,
      List.forall_mem_singleton, Nat.add_one_le_iff]

theorem counts_foldl {samples : List Sample} (low : ∀ s ∈ samples, s.cpu ≠ 4294967295) :
    Counts samples (samples.foldl record LineStats.empty) := by
  induction samples using List.reverseRecOn with
  | nil => exact Counts.nil
  | append_singleton samples s ih =>
    rw [List.foldl_concat]
    exact (ih fun t mem => low t (List.mem_append_left _ mem)).step
      (low s (List.mem_append_right _ (List.mem_singleton_self s)))

/-! ### What the detector stands for

The HITM samples observed since their line was last evicted. A flush evicts every line whose
newest sample is stale, and the filters of `Flush` read the line's summary. -/

/-- The table the pending samples summarize. -/
def summary (pending : List Sample) : List (UInt64 × LineStats) :=
  summarize lineOf record LineStats.empty pending

/-- The stamp of a line's newest pending sample. -/
def lastStamp (pending : List Sample) (line : UInt64) : UInt64 :=
  (((pending.filter (lineOf · = line)).getLast?).map (·.tsc)).getD 0

/-- A sample is stale at `now` when its line's newest sample fails the window test. -/
def stale (window now : UInt64) (pending : List Sample) (sample : Sample) : Bool :=
  now - lastStamp pending (lineOf sample) > window

/-- A call of the runtime on the detector. -/
inductive Call where
  | observe (sample : Sample)
  | flush (now : UInt64)

/-- A run of calls with one symbolizer: the detector after it and every finding, in order;
`none` where an `Observe` writes past `cpu_hits`. -/
def run (d : FalseSharingDetector) (resolveData : Option (UInt32 → UInt64 → DataObject)) :
    List Call → Option (FalseSharingDetector × List FalseSharingFinding)
  | [] => some (d, [])
  | .observe sample :: calls => (d.observe sample).bind fun d' => run d' resolveData calls
  | .flush now :: calls => (run (d.flush now resolveData).1 resolveData calls).map
      fun r => (r.1, (d.flush now resolveData).2 ++ r.2)

/-- The HITM samples a run observes. -/
def observed : List Call → List Sample
  | [] => []
  | .observe sample :: calls =>
    if sample.pmuEvent = msEvtXsnpHitm then sample :: observed calls else observed calls
  | .flush _ :: calls => observed calls

/-- The abstract detector: the pending samples after a run, and the samples each flush
evicts. -/
def specRun (window : UInt64) : List Sample → List Call → List Sample × List (List Sample)
  | pending, [] => (pending, [])
  | pending, .observe sample :: calls =>
    specRun window (if sample.pmuEvent = msEvtXsnpHitm then pending ++ [sample] else pending) calls
  | pending, .flush now :: calls =>
    ((specRun window (pending.filter fun s => !stale window now pending s) calls).1,
      pending.filter (stale window now pending) ::
        (specRun window (pending.filter fun s => !stale window now pending s) calls).2)

/-! ### The table summarizes the pending samples -/

section
variable {pending : List Sample} (low : ∀ s ∈ pending, s.cpu ≠ 4294967295)
include low

theorem counts_get_summary (line : UInt64) :
    Counts (pending.filter (lineOf · = line)) (get (summary pending) line LineStats.empty) := by
  rw [summary, get_summarize]
  exact counts_foldl fun s mem => low s (List.mem_filter.1 mem).1

theorem observe_summary (d : FalseSharingDetector) (summarizes : d.table = summary pending)
    (sample : Sample) :
    d.observe sample = if sample.pmuEvent = msEvtXsnpHitm ∧ sample.cpu = 4294967295 then none
      else some ⟨d.windowNs, d.threshold,
        summary (if sample.pmuEvent = msEvtXsnpHitm then pending ++ [sample] else pending)⟩ := by
  by_cases hitm : sample.pmuEvent = msEvtXsnpHitm
  · by_cases top : sample.cpu = 4294967295
    · rw [if_pos ⟨hitm, top⟩, observe_eq_none_iff, summarizes]
      refine ⟨hitm, ((counts_get_summary low _).width _).2 fun s mem => ?_, top⟩
      rw [top]
      exact toNat_lt_of_ne (low s (List.mem_filter.1 mem).1)
    · rw [if_neg fun both => top both.2, if_pos hitm, observe, if_neg (not_not.2 hitm),
        summarizes, observeLine_eq_record _ top, Option.map_some', summary, summary,
        summarize_append_singleton]
  · rw [if_neg fun both => hitm both.1, if_neg hitm, observe, if_pos hitm, ← summarizes]

theorem stale_eq (window now : UInt64) (s : Sample) :
    stale window now pending s = decide (now -
      ((pending.filter (lineOf · = lineOf s)).foldl record LineStats.empty).lastTsc > window) := by
  rw [(counts_foldl fun t mem => low t (List.mem_filter.1 mem).1).last]; rfl

theorem flush_summary (d : FalseSharingDetector) (summarizes : d.table = summary pending)
    (now : UInt64) (resolveData : Option (UInt32 → UInt64 → DataObject)) :
    (d.flush now resolveData).1 =
      { d with table := summary (pending.filter fun s => !stale d.windowNs now pending s) } ∧
    (d.flush now resolveData).2 =
      (summary (pending.filter (stale d.windowNs now pending))).filterMap
        (d.finding? resolveData) := by
  have kept := filter_summarize lineOf record LineStats.empty pending
    fun e => !decide (now - e.lastTsc > d.windowNs)
  have gone := filter_summarize lineOf record LineStats.empty pending
    fun e => decide (now - e.lastTsc > d.windowNs)
  have stamps : stale d.windowNs now pending = fun s => decide (now - ((pending.filter
      (lineOf · = lineOf s)).foldl record LineStats.empty).lastTsc > d.windowNs) :=
    funext (stale_eq low _ _)
  simp only [flush, expire_eq, summarizes, summary, kept, gone, stamps, and_self]

end

@[simp] theorem finding?_mk (d : FalseSharingDetector) (table : List (UInt64 × LineStats)) :
    (⟨d.windowNs, d.threshold, table⟩ : FalseSharingDetector).finding? = d.finding? := rfl

theorem observed_observe (sample : Sample) (calls : List Call) :
    (∃ s ∈ observed (.observe sample :: calls), s.cpu = 4294967295) ↔
      (sample.pmuEvent = msEvtXsnpHitm ∧ sample.cpu = 4294967295) ∨
        ∃ s ∈ observed calls, s.cpu = 4294967295 := by
  by_cases hitm : sample.pmuEvent = msEvtXsnpHitm <;> simp [observed, hitm]

theorem run_refines (d : FalseSharingDetector)
    (resolveData : Option (UInt32 → UInt64 → DataObject))
    {pending : List Sample} (low : ∀ s ∈ pending, s.cpu ≠ 4294967295)
    (summarizes : d.table = summary pending) (calls : List Call) :
    run d resolveData calls = if ∃ s ∈ observed calls, s.cpu = 4294967295 then none
      else some (⟨d.windowNs, d.threshold, summary (specRun d.windowNs pending calls).1⟩,
        (specRun d.windowNs pending calls).2.flatMap fun evicted =>
          (summary evicted).filterMap (d.finding? resolveData)) := by
  induction calls generalizing d pending with
  | nil =>
    rw [if_neg (by simp [observed]), specRun, ← summarizes]
    rfl
  | cons call calls ih =>
    cases call with
    | observe sample =>
      rw [run, observe_summary low d summarizes, if_congr (observed_observe sample calls) rfl rfl]
      by_cases fails : sample.pmuEvent = msEvtXsnpHitm ∧ sample.cpu = 4294967295
      · rw [if_pos fails, if_pos (.inl fails)]
        rfl
      · have low' : ∀ s ∈ (if sample.pmuEvent = msEvtXsnpHitm then pending ++ [sample]
            else pending), s.cpu ≠ 4294967295 := by
          split_ifs with hitm
          · refine fun s mem => (List.mem_append.1 mem).elim (low s) fun new => ?_
            rw [List.mem_singleton.1 new]
            exact fun top => fails ⟨hitm, top⟩
          · exact low
        rw [if_neg fails, Option.some_bind, ih _ low' rfl]
        simp only [fails, false_or, specRun, finding?_mk]
    | flush now =>
      obtain ⟨after, found⟩ := flush_summary low d summarizes now resolveData
      rw [run, after, ih _ (fun s mem => low s (List.mem_filter.1 mem).1) rfl]
      simp only [observed, specRun, found, finding?_mk]
      split_ifs <;> rfl

/-! ### What a run reports -/

open List in
theorem specRun_perm (window : UInt64) (pending : List Sample) (calls : List Call) :
    (pending ++ observed calls).Perm
      ((specRun window pending calls).1 ++ (specRun window pending calls).2.flatten) := by
  induction calls generalizing pending with
  | nil => rfl
  | cons call calls ih =>
    cases call with
    | observe sample =>
      by_cases hitm : sample.pmuEvent = msEvtXsnpHitm
      · simpa [observed, specRun, hitm] using ih (pending ++ [sample])
      · simpa [observed, specRun, hitm] using ih pending
    | flush now =>
      have split := (List.filter_append_perm (stale window now pending) pending).symm
      calc pending ++ observed calls
          _ ~ pending.filter (stale window now pending) ++
              ((pending.filter fun s => !stale window now pending s) ++ observed calls) := by
            simpa only [List.append_assoc] using split.append_right (observed calls)
          _ ~ pending.filter (stale window now pending) ++
              ((specRun window (pending.filter fun s => !stale window now pending s) calls).1 ++
                (specRun window (pending.filter fun s => !stale window now pending s)
                  calls).2.flatten) :=
            (ih _).append_left _
          _ ~ _ := List.perm_append_comm_assoc _ _ _

theorem finding?_eq_some {d : FalseSharingDetector}
    {resolveData : Option (UInt32 → UInt64 → DataObject)} {e : UInt64 × LineStats}
    {f : FalseSharingFinding} (found : d.finding? resolveData e = some f) :
    f.lineAddr = e.1 ∧ f.totalHits = e.2.totalHits ∧ f.cpuHits = e.2.cpuHits ∧
      d.threshold ≤ e.2.totalHits ∧ 2 ≤ activeCpus e.2.cpuHits ∧
      dominated (maxHits e.2.cpuHits) e.2.totalHits = false := by
  unfold finding? at found
  split_ifs at found with few spread share
  cases found
  exact ⟨rfl, rfl, rfl, by simp only [u64_lt, u64_le] at few ⊢; omega, by omega,
    Bool.eq_false_iff.2 share⟩

theorem counts_of_mem_findings {d : FalseSharingDetector}
    {resolveData : Option (UInt32 → UInt64 → DataObject)} {evicted : List Sample}
    (low : ∀ s ∈ evicted, s.cpu ≠ 4294967295) {f : FalseSharingFinding}
    (mem : f ∈ (summary evicted).filterMap (d.finding? resolveData)) :
    d.threshold ≤ f.totalHits ∧
      f.totalHits = UInt64.ofNat (evicted.countP (lineOf · = f.lineAddr)) ∧
      (∀ i, f.cpuHits.getD i 0 =
        UInt64.ofNat (evicted.countP fun s => lineOf s = f.lineAddr ∧ s.cpu.toNat = i)) ∧
      2 ≤ activeCpus f.cpuHits ∧ dominated (maxHits f.cpuHits) f.totalHits = false := by
  obtain ⟨e, known, found⟩ := List.mem_filterMap.1 mem
  obtain ⟨line, -, rfl⟩ := List.mem_map.1 known
  obtain ⟨rfl, total, cpus, above, spread, share⟩ := finding?_eq_some found
  have c : Counts (evicted.filter (lineOf · = f.lineAddr)) _ :=
    counts_foldl fun s mem => low s (List.mem_filter.1 mem).1
  refine ⟨total ▸ above, total.trans ?_, fun i => ?_, cpus ▸ spread, cpus ▸ total ▸ share⟩
  · rw [c.total, List.countP_eq_length_filter]
  · rw [cpus, c.perCpu, List.countP_filter]
    simp only [Bool.decide_and, Bool.and_comm]

/-- A HITM sample with every other field 0. -/
def hitmSample : Sample := { Sample.zero with pmuEvent := msEvtXsnpHitm }

/-- Two HITM samples on line 0, from CPUs 0 and 1, then a flush past the window. -/
def twoCpuCalls : List Call := [.observe hitmSample, .observe { hitmSample with cpu := 1 }, .flush 5000]

/-- One finding of two hits, one on each CPU. -/
example : (run (new 1000 2) none twoCpuCalls).map (·.2.map fun f => (f.totalHits, f.cpuHits)) =
    some [(2, [1, 1])] := by
  decide

/-! ### The counters wrap -/

theorem specRun_replicate (window : UInt64) (pending : List Sample) (n : Nat) (sample : Sample)
    (hitm : sample.pmuEvent = msEvtXsnpHitm) :
    specRun window pending (List.replicate n (.observe sample)) =
      (pending ++ List.replicate n sample, []) := by
  induction n generalizing pending with
  | zero => rw [List.replicate_zero, List.replicate_zero, List.append_nil]; rfl
  | succ n ih =>
    rw [List.replicate_succ, specRun, if_pos hitm, ih, List.append_assoc, List.singleton_append,
      ← List.replicate_succ]

theorem observed_replicate (n : Nat) (sample : Sample) (hitm : sample.pmuEvent = msEvtXsnpHitm) :
    observed (List.replicate n (.observe sample)) = List.replicate n sample := by
  induction n with
  | zero => rfl
  | succ n ih => rw [List.replicate_succ, observed, if_pos hitm, ih, List.replicate_succ]

end FalseSharingDetector

/-- A sample stamped after the flush's `now` is evicted by both analyzers: `now_tsc - last_tsc`
wraps around to more than the window. The Remote-DRAM analyzer reports the entry and drops it;
the false-sharing detector drops the line. -/
theorem analyzers_evict_future_samples :
    ((RemoteDramAnalyzer.new 1000).observe
      { Sample.zero with pmuEvent := msEvtRemoteDram, tsc := 5000 }).table = [(⟨0, 0, 0⟩, ⟨1, 5000⟩)] ∧
    ((RemoteDramAnalyzer.new 1000).observe
      { Sample.zero with pmuEvent := msEvtRemoteDram, tsc := 5000 }).flush 4000 true =
        (⟨1000, []⟩, [⟨0, 0, 0, 1⟩]) ∧
    ((FalseSharingDetector.new 1000 100).observe
      { Sample.zero with pmuEvent := msEvtXsnpHitm, tsc := 5000 }).map (·.table) =
        some [(0, ⟨1, 5000, [1], [(0, 1)]⟩)] ∧
    ((FalseSharingDetector.new 1000 100).observe
      { Sample.zero with pmuEvent := msEvtXsnpHitm, tsc := 5000 }).map
        (fun d => (d.flush 4000 none).1.table) = some [] := by
  decide

end MicroSentinel
