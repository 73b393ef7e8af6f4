import MicroSentinel.Symbolizer
import Mathlib.Data.List.Dedup
import Mathlib.Algebra.BigOperators.Group.List
import Mathlib.Algebra.Order.Ring.Nat

/-! The `unordered_map` tables of `FalseSharingDetector` and `RemoteDramAnalyzer`, as
association lists in insertion order, and the eviction loop both `Flush`es run. Beside
them, what such a table stands for: the samples observed since their key was last
evicted, of which the table holds one summary per key. -/
namespace MicroSentinel.Table

variable {κ α σ : Type} [DecidableEq κ]

/-- `table_[key] = v`: the entry of `key` in place, or a new entry at the end. -/
def assign : List (κ × α) → κ → α → List (κ × α)
  | [], key, v => [(key, v)]
  | (k, w) :: rest, key, v => if k = key then (k, v) :: rest else (k, w) :: assign rest key v

/-- What `table_[key]` reads: the entry's value, or the default it inserts. -/
def get (t : List (κ × α)) (key : κ) (d : α) : α := (t.lookup key).getD d

/-- The keys of a run of insertions, in the order a table that appends new keys holds them. -/
def insertionOrder (ks : List κ) : List κ :=
  ks.foldl (fun acc k => if k ∈ acc then acc else acc ++ [k]) []

/-- The table that `update` builds from `d` over each key's samples, in insertion order. -/
def summarize (key : σ → κ) (update : α → σ → α) (d : α) (pending : List σ) : List (κ × α) :=
  (insertionOrder (pending.map key)).map fun k => (k, (pending.filter (key · = k)).foldl update d)

/-- The loop of both `Flush`es: the entries whose `now_tsc - last_tsc`, in 64 bits, exceeds
the window leave the table; each part keeps table order. -/
def expire (lastTsc : α → UInt64) (window now : UInt64) (t : List (κ × α)) :
    List (κ × α) × List (κ × α) :=
  t.partition fun e => now - lastTsc e.2 > window

/-! ### Tables -/

theorem assign_of_not_mem {t : List (κ × α)} {key : κ} (v : α) (absent : key ∉ t.map Prod.fst) :
    assign t key v = t ++ [(key, v)] := by
  induction t with
  | nil => rfl
  | cons e rest ih =>
    obtain ⟨k, w⟩ := e
    simp only [List.map_cons, List.mem_cons, not_or] at absent
    rw [assign, if_neg (Ne.symm absent.1), ih absent.2, List.cons_append]

theorem get_assign (t : List (κ × α)) (key k : κ) (v d : α) :
    get (assign t key v) k d = if k = key then v else get t k d := by
  induction t with
  | nil => by_cases same : k = key <;> simp [assign, get, lookup_cons_ite, same]
  | cons e rest ih =>
    obtain ⟨k', w⟩ := e
    rw [get] at ih
    by_cases same : k' = key
    · subst same; by_cases at' : k = k' <;> simp [assign, get, lookup_cons_ite, at']
    · by_cases at' : k = k' <;> simp [assign, get, lookup_cons_ite, same, at', ih]

theorem assign_map {ks : List κ} (f : κ → α) {key : κ} (v : α) (nodup : ks.Nodup)
    (mem : key ∈ ks) :
    assign (ks.map fun k => (k, f k)) key v = ks.map fun k => (k, if k = key then v else f k) := by
  induction ks with
  | nil => exact absurd mem (List.not_mem_nil _)
  | cons k ks ih =>
    rw [List.nodup_cons] at nodup
    by_cases same : k = key
    · subst same
      rw [List.map_cons, assign, if_pos rfl, List.map_cons, if_pos rfl]
      congr 1
      exact List.map_congr_left fun k' mem' => by rw [if_neg (ne_of_mem_of_not_mem mem' nodup.1)]
    · rw [List.map_cons, assign, if_neg same, ih nodup.2 ((List.mem_cons.1 mem).resolve_left
        (Ne.symm same)), List.map_cons, if_neg same]

theorem lookup_map (ks : List κ) (f : κ → α) (k : κ) :
    (ks.map fun k => (k, f k)).lookup k = if k ∈ ks then some (f k) else none := by
  induction ks with
  | nil => rfl
  | cons k' ks ih =>
    rw [List.map_cons, lookup_cons_ite, ih]
    by_cases same : k = k'
    · subst same; simp
    · simp [same]

/-! ### Insertion order -/

theorem insertionOrder_append_singleton' (ks : List κ) (k : κ) :
    insertionOrder (ks ++ [k]) =
      if k ∈ insertionOrder ks then insertionOrder ks else insertionOrder ks ++ [k] := by
  simp only [insertionOrder, List.foldl_append, List.foldl_cons, List.foldl_nil]

@[simp] theorem mem_insertionOrder {ks : List κ} {k : κ} : k ∈ insertionOrder ks ↔ k ∈ ks := by
  induction ks using List.reverseRecOn generalizing k with
  | nil => rfl
  | append_singleton ks k' ih =>
    rw [insertionOrder_append_singleton']
    split_ifs with known <;> simp only [List.mem_append, List.mem_singleton, ih]
    exact ⟨.inl, fun h => h.elim id fun same => same ▸ ih.1 known⟩

theorem insertionOrder_append_singleton (ks : List κ) (k : κ) :
    insertionOrder (ks ++ [k]) = if k ∈ ks then insertionOrder ks else insertionOrder ks ++ [k] :=
  by simp only [insertionOrder_append_singleton', mem_insertionOrder]

theorem nodup_insertionOrder (ks : List κ) : (insertionOrder ks).Nodup := by
  induction ks using List.reverseRecOn with
  | nil => exact List.nodup_nil
  | append_singleton ks k ih =>
    rw [insertionOrder_append_singleton]
    split_ifs with known
    · exact ih
    · exact ih.append (List.nodup_singleton k)
        (List.disjoint_singleton.2 (mt mem_insertionOrder.1 known))

theorem insertionOrder_filter (p : κ → Bool) (ks : List κ) :
    insertionOrder (ks.filter p) = (insertionOrder ks).filter p := by
  induction ks using List.reverseRecOn with
  | nil => rfl
  | append_singleton ks k ih =>
    rw [List.filter_append, insertionOrder_append_singleton]
    cases keep : p k
    · simp only [List.filter_singleton, keep, cond_false, List.append_nil, ih]
      split_ifs <;> simp [List.filter_append, keep]
    · simp only [List.filter_singleton, keep, cond_true, insertionOrder_append_singleton, ih,
        List.mem_filter, and_true]
      split_ifs <;> simp [List.filter_append, keep]

theorem insertionOrder_replicate {n : Nat} (k : κ) (pos : 0 < n) :
    insertionOrder (List.replicate n k) = [k] := by
  induction n with
  | zero => exact absurd pos (Nat.lt_irrefl 0)
  | succ n ih =>
    rw [List.replicate_succ', insertionOrder_append_singleton]
    rcases Nat.eq_zero_or_pos n with zero | more
    · subst zero; rfl
    · rw [if_pos (List.mem_replicate.2 ⟨Nat.pos_iff_ne_zero.1 more, rfl⟩), ih more]

theorem insertionOrder_perm_dedup (ks : List κ) : (insertionOrder ks).Perm ks.dedup :=
  (List.perm_ext_iff_of_nodup (nodup_insertionOrder ks) (List.nodup_dedup ks)).2 fun k => by
    simp [List.mem_dedup]

theorem sum_counts (key : σ → κ) (xs : List σ) :
    ((insertionOrder (xs.map key)).map fun k => (xs.filter (key · = k)).length).sum =
      xs.length := by
  have count : ∀ k, (xs.filter (key · = k)).length = (xs.map key).count k := fun k => by
    rw [List.count, List.countP_map, List.countP_eq_length_filter]
    congr 1
  simp only [count]
  rw [((insertionOrder_perm_dedup _).map _).sum_eq, List.sum_map_count_dedup_eq_length,
    List.length_map]

/-! ### Summaries -/

section
variable (key : σ → κ) (update : α → σ → α) (d : α)

theorem get_summarize (pending : List σ) (k : κ) :
    get (summarize key update d pending) k d = (pending.filter (key · = k)).foldl update d := by
  rw [get, summarize, lookup_map]
  split_ifs with known
  · rfl
  · have none : pending.filter (key · = k) = [] := List.filter_eq_nil_iff.2 fun s mem same =>
      known (mem_insertionOrder.2 (List.mem_map.2 ⟨s, mem, of_decide_eq_true same⟩))
    rw [none]; rfl

theorem summarize_append_singleton (pending : List σ) (s : σ) :
    summarize key update d (pending ++ [s]) =
      assign (summarize key update d pending) (key s)
        (update (get (summarize key update d pending) (key s) d) s) := by
  have grow : ∀ k, ((pending ++ [s]).filter (key · = k)).foldl update d =
      if k = key s then update ((pending.filter (key · = k)).foldl update d) s
      else (pending.filter (key · = k)).foldl update d := fun k => by
    by_cases same : k = key s
    · simp [List.filter_append, same]
    · simp [List.filter_append, Ne.symm same, same]
  rw [get_summarize]
  unfold summarize
  rw [List.map_append, List.map_singleton, insertionOrder_append_singleton]
  split_ifs with known
  · rw [assign_map _ _ (nodup_insertionOrder _) (mem_insertionOrder.2 known)]
    refine List.map_congr_left fun k _ => ?_
    rw [grow]; split_ifs with same
    · subst same; rfl
    · rfl
  · have absent : key s ∉ ((insertionOrder (pending.map key)).map fun k =>
        (k, (pending.filter (key · = k)).foldl update d)).map Prod.fst := by
      simpa [Function.comp_def] using known
    rw [assign_of_not_mem _ absent, List.map_append, List.map_singleton, grow, if_pos rfl]
    congr 1
    exact List.map_congr_left fun k mem => by
      rw [grow, if_neg fun (same : k = key s) => known (same ▸ mem_insertionOrder.1 mem)]

theorem filter_summarize (pending : List σ) (q : α → Bool) :
    (summarize key update d pending).filter (fun e => q e.2) =
      summarize key update d
        (pending.filter fun s => q ((pending.filter (key · = key s)).foldl update d)) := by
  have keys : (pending.filter fun s => q ((pending.filter (key · = key s)).foldl update d)).map key
      = (pending.map key).filter fun k => q ((pending.filter (key · = k)).foldl update d) :=
    by rw [List.filter_map]; rfl
  unfold summarize
  rw [List.filter_map, keys, insertionOrder_filter]
  refine List.map_congr_left fun k mem => ?_
  have pass := (List.mem_filter.1 mem).2
  simp only [Function.comp_apply, Prod.mk.injEq, true_and, List.filter_filter]
  congr 1
  refine List.filter_congr fun s _ => ?_
  by_cases same : key s = k
  · subst same; simpa using pass
  · simp [same]

end

/-! ### Eviction -/

omit [DecidableEq κ] in
theorem expire_eq (lastTsc : α → UInt64) (window now : UInt64) (t : List (κ × α)) :
    expire lastTsc window now t =
      (t.filter fun e => now - lastTsc e.2 > window,
        t.filter fun e => !decide (now - lastTsc e.2 > window)) :=
  List.partition_eq_filter_filter _ _

theorem stale_of_le {last window now : UInt64} (le : last ≤ now) :
    now - last > window ↔ last.toNat + window.toNat < now.toNat := by
  rw [gt_iff_lt, u64_lt, UInt64.toNat_sub_of_le _ _ le]
  rw [u64_le] at le
  omega

theorem stale_of_lt {last window now : UInt64} (lt : now < last) :
    now - last > window ↔ window.toNat + last.toNat < now.toNat + 2 ^ 64 := by
  have bound := last.toNat_lt_size
  have wrapped : (now - last).toNat = 2 ^ 64 - last.toNat + now.toNat := by
    show (2 ^ 64 - last.toNat + now.toNat) % 2 ^ 64 = _
    rw [u64_lt] at lt
    exact Nat.mod_eq_of_lt (by simp only [UInt64.size] at bound; omega)
  rw [gt_iff_lt, u64_lt, wrapped]
  simp only [UInt64.size] at bound
  omega

end MicroSentinel.Table
