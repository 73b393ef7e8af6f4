import MicroSentinel.Analyzers.Table
import Mathlib.Algebra.Order.BigOperators.Group.List
import Mathlib.Algebra.Order.Group.Nat

/-! `RemoteDramAnalyzer` (`remote_dram_analyzer.cpp`): Remote-DRAM samples counted per
`(flow_id, numa_node, ifindex)`, each key reported once its newest sample is older than the
window. The table is the summary of the samples observed since each key's last eviction;
over any run, the findings report exactly those samples, modulo the 64-bit counter. -/
namespace MicroSentinel

structure RemoteDramKey where
  flowId : UInt64
  numaNode : UInt16
  ifindex : UInt16
  deriving DecidableEq

structure RemoteDramEntry where
  count : UInt64
  lastTsc : UInt64
  deriving DecidableEq

structure RemoteDramFinding where
  flowId : UInt64
  numaNode : UInt16
  ifindex : UInt16
  samples : UInt64
  deriving DecidableEq

structure RemoteDramAnalyzer where
  windowNs : UInt64
  table : List (RemoteDramKey × RemoteDramEntry)
  deriving DecidableEq

namespace RemoteDramAnalyzer

open Table

/-- The constructor: a zero window means 50 ms. -/
def new (windowNs : UInt64) : RemoteDramAnalyzer :=
  ⟨if windowNs ≠ 0 then windowNs else 50000000, []⟩

def keyOf (sample : Sample) : RemoteDramKey :=
  ⟨sample.flowId, sample.numaNode, sample.ingressIfindex⟩

/-- `entry.count++; entry.last_tsc = sample.tsc;` -/
def record (entry : RemoteDramEntry) (sample : Sample) : RemoteDramEntry :=
  ⟨entry.count + 1, sample.tsc⟩

def observe (a : RemoteDramAnalyzer) (sample : Sample) : RemoteDramAnalyzer :=
  if sample.pmuEvent ≠ msEvtRemoteDram then a
  else
    let entry := record (get a.table (keyOf sample) ⟨0, 0⟩) sample
    { a with table := assign a.table (keyOf sample) entry }

/-- The finding of an expired entry; a zero count gives none. -/
def finding? (e : RemoteDramKey × RemoteDramEntry) : Option RemoteDramFinding :=
  if e.2.count = 0 then none else some ⟨e.1.flowId, e.1.numaNode, e.1.ifindex, e.2.count⟩

/-- `Flush(now_tsc, cb)`, with `callback` false for an empty `cb`: the analyzer after it and the
findings handed to `cb`, in order. -/
def flush (a : RemoteDramAnalyzer) (now : UInt64) (callback : Bool) :
    RemoteDramAnalyzer × List RemoteDramFinding :=
  if !callback then (a, [])
  else ({ a with table := (expire (·.lastTsc) a.windowNs now a.table).2 },
    (expire (·.lastTsc) a.windowNs now a.table).1.filterMap finding?)

/-- A call of the runtime on the analyzer; `RunSingleFlushCycle` always passes a callback. -/
inductive Call where
  | observe (sample : Sample)
  | flush (now : UInt64)

/-- A run of calls: the analyzer after it and every finding, in order. -/
def run (a : RemoteDramAnalyzer) : List Call → RemoteDramAnalyzer × List RemoteDramFinding
  | [] => (a, [])
  | .observe sample :: calls => run (a.observe sample) calls
  | .flush now :: calls =>
    ((run (a.flush now true).1 calls).1, (a.flush now true).2 ++ (run (a.flush now true).1 calls).2)

/-- The Remote-DRAM samples a run observes. -/
def observed : List Call → List Sample
  | [] => []
  | .observe sample :: calls =>
    if sample.pmuEvent = msEvtRemoteDram then sample :: observed calls else observed calls
  | .flush _ :: calls => observed calls

/-! ### What the analyzer stands for

The samples observed since their key was last evicted. A flush reports every key whose
newest sample is stale with the number of its samples, and forgets them. -/

/-- The table the pending samples summarize. -/
def summary (pending : List Sample) : List (RemoteDramKey × RemoteDramEntry) :=
  summarize keyOf record ⟨0, 0⟩ pending

/-- The stamp of a key's newest pending sample. -/
def lastStamp (pending : List Sample) (k : RemoteDramKey) : UInt64 :=
  (((pending.filter (keyOf · = k)).getLast?).map (·.tsc)).getD 0

/-- A sample is stale at `now` when its key's newest sample fails the window test. -/
def stale (window now : UInt64) (pending : List Sample) (sample : Sample) : Bool :=
  now - lastStamp pending (keyOf sample) > window

/-- The number of samples per key, keys in insertion order. -/
def counts (samples : List Sample) : List (RemoteDramKey × Nat) :=
  (insertionOrder (samples.map keyOf)).map fun k => (k, (samples.filter (keyOf · = k)).length)

def specRun (window : UInt64) : List Sample → List Call → List Sample × List (RemoteDramKey × Nat)
  | pending, [] => (pending, [])
  | pending, .observe sample :: calls =>
    specRun window (if sample.pmuEvent = msEvtRemoteDram then pending ++ [sample] else pending) calls
  | pending, .flush now :: calls =>
    ((specRun window (pending.filter fun s => !stale window now pending s) calls).1,
      counts (pending.filter (stale window now pending)) ++
        (specRun window (pending.filter fun s => !stale window now pending s) calls).2)

/-- The finding a count gives once it is stored in 64 bits. -/
def report (c : RemoteDramKey × Nat) : Option RemoteDramFinding :=
  if UInt64.ofNat c.2 = 0 then none
  else some ⟨c.1.flowId, c.1.numaNode, c.1.ifindex, UInt64.ofNat c.2⟩

/-! ### The table summarizes the pending samples -/

theorem count_foldl_record (samples : List Sample) :
    (samples.foldl record ⟨0, 0⟩).count = UInt64.ofNat samples.length := by
  induction samples using List.reverseRecOn with
  | nil => rfl
  | append_singleton samples s ih =>
    rw [List.foldl_append, List.foldl_cons, List.foldl_nil, record, ih, u64_eq]
    show (samples.length % 2 ^ 64 + 1) % 2 ^ 64 = (samples ++ [s]).length % 2 ^ 64
    rw [Nat.mod_add_mod, List.length_append, List.length_singleton]

theorem lastTsc_foldl_record (samples : List Sample) :
    (samples.foldl record ⟨0, 0⟩).lastTsc = ((samples.getLast?).map (·.tsc)).getD 0 := by
  induction samples using List.reverseRecOn with
  | nil => rfl
  | append_singleton samples s _ =>
    rw [List.foldl_append, List.foldl_cons, List.foldl_nil, List.getLast?_concat]; rfl

@[simp] theorem windowNs_observe (a : RemoteDramAnalyzer) (sample : Sample) :
    (a.observe sample).windowNs = a.windowNs := by
  unfold observe; split_ifs <;> rfl

theorem table_observe (a : RemoteDramAnalyzer) (pending : List Sample)
    (summarizes : a.table = summary pending) (sample : Sample) :
    (a.observe sample).table = summary
      (if sample.pmuEvent = msEvtRemoteDram then pending ++ [sample] else pending) := by
  by_cases remote : sample.pmuEvent = msEvtRemoteDram
  · simp only [observe, remote, ne_eq, not_true_eq_false, if_false, if_true]
    rw [summary, summarize_append_singleton, ← summary, ← summarizes]
  · simp only [observe, remote, ne_eq, not_false_eq_true, if_true, if_false]
    exact summarizes

theorem stale_eq (window now : UInt64) (pending : List Sample) (s : Sample) :
    stale window now pending s = decide (now -
      ((pending.filter (keyOf · = keyOf s)).foldl record ⟨0, 0⟩).lastTsc > window) := by
  rw [lastTsc_foldl_record]; rfl

theorem filterMap_summary (samples : List Sample) :
    (summary samples).filterMap finding? = (counts samples).filterMap report := by
  simp only [summary, summarize, counts, List.filterMap_map, Function.comp_def, report,
    finding?, count_foldl_record]

theorem flush_summary (a : RemoteDramAnalyzer) (pending : List Sample)
    (summarizes : a.table = summary pending) (now : UInt64) :
    (a.flush now true).1 = ⟨a.windowNs,
      summary (pending.filter fun s => !stale a.windowNs now pending s)⟩ ∧
    (a.flush now true).2 = (counts (pending.filter (stale a.windowNs now pending))).filterMap
      report := by
  have kept := filter_summarize keyOf record ⟨0, 0⟩ pending
    fun e => !decide (now - e.lastTsc > a.windowNs)
  have gone := filter_summarize keyOf record ⟨0, 0⟩ pending
    fun e => decide (now - e.lastTsc > a.windowNs)
  simp only [flush, Bool.not_true, Bool.false_eq_true, if_false, expire_eq, summarizes, summary,
    kept, gone, stale_eq, true_and]
  refine (filterMap_summary _).trans ?_
  congr 3
  funext s
  rw [stale_eq]

theorem run_refines (a : RemoteDramAnalyzer) (pending : List Sample)
    (summarizes : a.table = summary pending) (calls : List Call) :
    (run a calls).1.table = summary (specRun a.windowNs pending calls).1 ∧
    (run a calls).2 = (specRun a.windowNs pending calls).2.filterMap report := by
  induction calls generalizing a pending with
  | nil => exact ⟨summarizes, rfl⟩
  | cons call calls ih =>
    cases call with
    | observe sample =>
      have step := ih (a.observe sample) _ (table_observe a pending summarizes sample)
      rw [windowNs_observe] at step
      exact step
    | flush now =>
      obtain ⟨after, found⟩ := flush_summary a pending summarizes now
      have step := ih _ _ (congrArg RemoteDramAnalyzer.table after)
      simp only [after] at step
      simp only [run, specRun, after, found, List.filterMap_append, step, and_self]

/-! ### What a run reports -/

theorem counts_pos {samples : List Sample} {c : RemoteDramKey × Nat} (mem : c ∈ counts samples) :
    0 < c.2 := by
  obtain ⟨k, known, rfl⟩ := List.mem_map.1 mem
  obtain ⟨s, present, same⟩ := List.mem_map.1 (mem_insertionOrder.1 known)
  exact List.length_pos_of_mem (List.mem_filter.2 ⟨present, decide_eq_true same⟩)

theorem sum_counts_eq (samples : List Sample) :
    ((counts samples).map (·.2)).sum = samples.length := by
  rw [counts, List.map_map]
  exact sum_counts keyOf samples

theorem specRun_pos (window : UInt64) (pending : List Sample) (calls : List Call)
    {c : RemoteDramKey × Nat} (mem : c ∈ (specRun window pending calls).2) : 0 < c.2 := by
  induction calls generalizing pending with
  | nil => exact absurd mem (List.not_mem_nil _)
  | cons call calls ih =>
    cases call with
    | observe sample => exact ih _ mem
    | flush now =>
      rcases List.mem_append.1 mem with gone | later
      · exact counts_pos gone
      · exact ih _ later

theorem specRun_conserves (window : UInt64) (pending : List Sample) (calls : List Call) :
    pending.length + (observed calls).length =
      (specRun window pending calls).1.length +
        ((specRun window pending calls).2.map (·.2)).sum := by
  induction calls generalizing pending with
  | nil => rfl
  | cons call calls ih =>
    cases call with
    | observe sample =>
      have step := ih (if sample.pmuEvent = msEvtRemoteDram then pending ++ [sample] else pending)
      by_cases remote : sample.pmuEvent = msEvtRemoteDram <;>
        simp only [observed, specRun, remote, if_true, if_false, List.length_append,
          List.length_cons, List.length_singleton, List.length_nil] at step ⊢ <;> omega
    | flush now =>
      have step := ih (pending.filter fun s => !stale window now pending s)
      have split := List.length_eq_length_filter_add (l := pending) (stale window now pending)
      simp only [observed, specRun, List.map_append, List.sum_append, sum_counts_eq] at step ⊢
      omega

/-- `RemoteDramFinding` read back as a key and a count. -/
def tally (f : RemoteDramFinding) : RemoteDramKey × Nat :=
  (⟨f.flowId, f.numaNode, f.ifindex⟩, f.samples.toNat)

theorem toNat_ofNat_of_lt {n : Nat} (small : n < 2 ^ 64) : (UInt64.ofNat n).toNat = n :=
  Nat.mod_eq_of_lt small

theorem map_tally_report {cs : List (RemoteDramKey × Nat)}
    (bounded : ∀ c ∈ cs, 0 < c.2 ∧ c.2 < 2 ^ 64) : (cs.filterMap report).map tally = cs := by
  induction cs with
  | nil => rfl
  | cons c cs ih =>
    obtain ⟨pos, small⟩ := bounded c (List.mem_cons_self _ _)
    have nonzero : UInt64.ofNat c.2 ≠ 0 := fun zero => by
      have := congrArg UInt64.toNat zero
      rw [toNat_ofNat_of_lt small] at this
      exact Nat.pos_iff_ne_zero.1 pos this
    rw [List.filterMap_cons, report, if_neg nonzero, List.map_cons,
      ih fun c' mem => bounded c' (List.mem_cons_of_mem _ mem)]
    simp only [tally, toNat_ofNat_of_lt small]

theorem sum_count_summary (samples : List Sample) (small : samples.length < 2 ^ 64) :
    ((summary samples).map (·.2.count.toNat)).sum = samples.length := by
  rw [← sum_counts_eq, summary, summarize, counts, List.map_map, List.map_map]
  congr 1
  refine List.map_congr_left fun k _ => ?_
  simp only [Function.comp_apply, count_foldl_record]
  exact toNat_ofNat_of_lt (Nat.lt_of_le_of_lt (List.length_filter_le _ _) small)

/-- Remote-DRAM accounting, for runs that observe fewer than `2^64` samples: the findings are
the abstract model's, one per key whose samples go stale, each with the number of its samples
since the key's previous eviction; and every observed sample is either reported once or
still counted in the table. -/
theorem remote_dram_accounting (w : UInt64) (calls : List Call)
    (few : (observed calls).length < 2 ^ 64) :
    (run (new w) calls).2.map tally = (specRun (new w).windowNs [] calls).2 ∧
    (observed calls).length = ((run (new w) calls).2.map (·.samples.toNat)).sum +
      ((run (new w) calls).1.table.map (·.2.count.toNat)).sum := by
  obtain ⟨table, found⟩ := run_refines (new w) [] rfl calls
  have conserved := specRun_conserves (new w).windowNs [] calls
  rw [List.length_nil, Nat.zero_add] at conserved
  have bounded : ∀ c ∈ (specRun (new w).windowNs [] calls).2, 0 < c.2 ∧ c.2 < 2 ^ 64 :=
    fun c mem => by
      have le : c.2 ≤ ((specRun (new w).windowNs [] calls).2.map (·.2)).sum :=
        List.le_sum_of_mem (List.mem_map_of_mem (fun c : RemoteDramKey × Nat => c.2) mem)
      exact ⟨specRun_pos _ _ _ mem, by omega⟩
  have tallied := map_tally_report bounded
  rw [← found] at tallied
  refine ⟨tallied, ?_⟩
  have reported : (run (new w) calls).2.map (·.samples.toNat) =
      ((run (new w) calls).2.map tally).map (·.2) := by rw [List.map_map]; rfl
  rw [table, sum_count_summary _ (by omega), reported, tallied]
  omega

/-- A Remote-DRAM sample with every other field 0. -/
def remoteDramSample : Sample := { Sample.zero with pmuEvent := msEvtRemoteDram }

/-- One Remote-DRAM sample, then a flush past the window: one finding, of one sample. -/
theorem remote_dram_accounting_one_sample :
    (run (new 1000) [.observe remoteDramSample, .flush 3000]).2.map tally =
      (specRun (new 1000).windowNs [] [.observe remoteDramSample, .flush 3000]).2 ∧
    (observed [.observe remoteDramSample, .flush 3000]).length =
      ((run (new 1000) [.observe remoteDramSample, .flush 3000]).2.map (·.samples.toNat)).sum +
      ((run (new 1000) [.observe remoteDramSample, .flush 3000]).1.table.map
        (·.2.count.toNat)).sum :=
  remote_dram_accounting 1000 [.observe remoteDramSample, .flush 3000] (by decide)

/-! ### The counter wraps -/

theorem specRun_replicate (window : UInt64) (pending : List Sample) (n : Nat) (sample : Sample)
    (remote : sample.pmuEvent = msEvtRemoteDram) (calls : List Call) :
    specRun window pending (List.replicate n (.observe sample) ++ calls) =
      specRun window (pending ++ List.replicate n sample) calls := by
  induction n generalizing pending with
  | zero => rw [List.replicate_zero, List.nil_append, List.replicate_zero, List.append_nil]
  | succ n ih =>
    rw [List.replicate_succ, List.cons_append, specRun, if_pos remote, ih, List.append_assoc,
      List.singleton_append, ← List.replicate_succ]

theorem observed_replicate (n : Nat) (sample : Sample) (remote : sample.pmuEvent = msEvtRemoteDram)
    (calls : List Call) :
    observed (List.replicate n (.observe sample) ++ calls) =
      List.replicate n sample ++ observed calls := by
  induction n with
  | zero => rfl
  | succ n ih => rw [List.replicate_succ, List.cons_append, observed, if_pos remote, ih]; rfl

theorem run_replicate_flush (N : Nat) (pos : 0 < N) :
    (run (new 0) (List.replicate N (.observe remoteDramSample) ++ [.flush 50000001])).1.table =
      [] ∧
    (run (new 0) (List.replicate N (.observe remoteDramSample) ++ [.flush 50000001])).2 =
      (report (keyOf remoteDramSample, N)).toList := by
  have remote : remoteDramSample.pmuEvent = msEvtRemoteDram := rfl
  have same : (List.replicate N remoteDramSample).filter
      (keyOf · = keyOf remoteDramSample) = List.replicate N remoteDramSample := by
    rw [List.filter_replicate, if_pos (decide_eq_true rfl)]
  have stamp : lastStamp (List.replicate N remoteDramSample) (keyOf remoteDramSample) = 0 := by
    rw [lastStamp, same, List.getLast?_replicate, if_neg (Nat.pos_iff_ne_zero.1 pos)]; rfl
  have gone : stale 50000000 50000001 (List.replicate N remoteDramSample) remoteDramSample :=
    by rw [stale, stamp]; decide
  obtain ⟨table, found⟩ := run_refines (new 0) [] rfl
    (List.replicate N (.observe remoteDramSample) ++ [.flush 50000001])
  rw [specRun_replicate _ _ _ _ remote, List.nil_append] at table found
  have window : (new 0).windowNs = 50000000 := rfl
  simp only [specRun, window, List.filter_replicate, gone, Bool.not_true, Bool.false_eq_true,
    if_false, if_true, List.append_nil] at table found
  refine ⟨table, ?_⟩
  rw [found, counts, List.map_replicate, insertionOrder_replicate _ pos, List.map_cons,
    List.map_nil, same, List.length_replicate, List.filterMap_cons, List.filterMap_nil]
  cases report (keyOf remoteDramSample, N) <;> rfl

/-- After `2^64` observations of one key, its counter is back at 0: the flush that evicts the
entry reports nothing, and the samples are neither reported nor left in the table. -/
theorem remote_dram_count_wraps :
    (observed (List.replicate UInt64.size (.observe remoteDramSample) ++
      [.flush 50000001])).length = UInt64.size ∧
    (run (new 0) (List.replicate UInt64.size (.observe remoteDramSample) ++
      [.flush 50000001])).2 = [] ∧
    (run (new 0) (List.replicate UInt64.size (.observe remoteDramSample) ++
      [.flush 50000001])).1.table = [] := by
  have wrapped := run_replicate_flush UInt64.size (by decide)
  refine ⟨?_, ?_, wrapped.1⟩
  · rw [observed_replicate _ _ rfl, List.length_append, List.length_replicate, observed,
      observed, List.length_nil, Nat.add_zero]
  · rw [wrapped.2, report, if_pos (by decide)]; rfl

end RemoteDramAnalyzer

end MicroSentinel
