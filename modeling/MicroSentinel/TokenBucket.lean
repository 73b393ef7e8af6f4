import MicroSentinel.BpfOrchestrator

/-! The kernel sampler's per-CPU token bucket (`micro_sentinel_kern.bpf.c`): `allow_sample`
as the PMU handler runs it on `ms_tb[0]`, with `ms_tb_cfg_map[0]` and `ms_tb_ctrl_map[0]`
as the agent left them, and `ms_update_tb`. The maps are arrays of one entry, so the lookup
of `ms_tb[0]` never fails; the configuration and the control word are kept optional as the
code tests them. Arithmetic is the code's 64-bit arithmetic.

Over a trace of calls the bucket keeps a ledger: an admitted sample costs 10^9 units of a
potential made of the tokens (10^9 units each) and the credit `elapsed * limit` not yet
turned into tokens, and time adds `limit` units a nanosecond. From it, every window of
`[a, b]` admits at most `max(limit, MS_TOKEN_HEADROOM) + 1 + limit * (b - a) / 10^9`
samples, provided the bucket starts below that cap or is restarted by the first call. -/
namespace MicroSentinel

/-- `MS_MAX_SAMPLES_PER_SEC`. -/
def msMaxSamplesPerSec : UInt64 := 5000

/-- `MS_TOKEN_HEADROOM`. -/
def msTokenHeadroom : UInt64 := msMaxSamplesPerSec * 2

/-- `ms_token_bucket`. -/
structure TokenBucket where
  lastTsc : UInt64
  tokens : UInt64
  cfgSeq : UInt64
  lastEmitTsc : UInt64
  deriving DecidableEq, Repr

/-- The shape shared by `get_tb_limit` and `get_hard_drop_ns`: a field of `ms_tb_cfg`, or
`default` where the map entry is missing or the field is 0. -/
def cfgOr (field : TbCfg → UInt64) (default : UInt64) : Option TbCfg → UInt64
  | some cfg => if field cfg = 0 then default else field cfg
  | none => default

def getTbLimit (cfg : Option TbCfg) : UInt64 := cfgOr TbCfg.maxSamplesPerSec msMaxSamplesPerSec cfg

def getHardDropNs (cfg : Option TbCfg) : UInt64 :=
  cfgOr TbCfg.hardDropThreshold (msFlowSkidNs * 4) cfg

theorem cfgOr_ne_zero {field : TbCfg → UInt64} {default : UInt64} (h : default ≠ 0)
    (cfg : Option TbCfg) : cfgOr field default cfg ≠ 0 := by
  cases cfg with
  | none => exact h
  | some cfg => simp only [cfgOr]; split_ifs <;> assumption

theorem getHardDropNs_ne_zero (cfg : Option TbCfg) : getHardDropNs cfg ≠ 0 :=
  cfgOr_ne_zero (by decide) cfg

namespace TokenBucket

/-- The two checks at the top of `allow_sample`: a `cfg_seq` other than `ms_tb_ctrl`'s, and
a bucket never used (`last_tsc == 0`), each restart the bucket full at `now`. -/
def resync (limit : UInt64) (ctrl : Option UInt64) (now : UInt64) (tb : TokenBucket) :
    TokenBucket :=
  let tb := match ctrl with
    | some seq => if seq ≠ tb.cfgSeq then ⟨now, limit, seq, 0⟩ else tb
    | none => tb
  if tb.lastTsc = 0 then ⟨now, limit, ctrl.getD 0, 0⟩ else tb

/-- `refill`: the whole tokens `elapsed * limit` buys, in 64 bits. -/
def refillOf (limit now : UInt64) (tb : TokenBucket) : UInt64 :=
  (now - tb.lastTsc) * limit / 1000000000

/-- A refill adds what `elapsed` buys up to `MS_TOKEN_HEADROOM` and moves `last_tsc` to
`now`; the remainder of the division is dropped with the time it stood for. -/
def refill (limit now : UInt64) (tb : TokenBucket) : TokenBucket :=
  if now - tb.lastTsc ≠ 0 ∧ refillOf limit now tb ≠ 0 then
    let tokens := tb.tokens + refillOf limit now tb
    { tb with tokens := if tokens > msTokenHeadroom then msTokenHeadroom else tokens,
              lastTsc := now }
  else tb

/-- The hard-drop window, then the token check; an admitted sample spends a token. -/
def takeToken (hardDrop now : UInt64) (tb : TokenBucket) : TokenBucket × Bool :=
  if hardDrop ≠ 0 ∧ tb.lastEmitTsc ≠ 0 ∧ now - tb.lastEmitTsc < hardDrop then (tb, false)
  else if tb.tokens = 0 then (tb, false)
  else ({ tb with tokens := tb.tokens - 1, lastEmitTsc := now }, true)

end TokenBucket

open TokenBucket in
/-- `allow_sample(now)`: the bucket it leaves in `ms_tb[0]` and its verdict. -/
def allowSample (cfg : Option TbCfg) (ctrl : Option UInt64) (now : UInt64) (tb : TokenBucket) :
    TokenBucket × Bool :=
  takeToken (getHardDropNs cfg) now
    (refill (getTbLimit cfg) now (resync (getTbLimit cfg) ctrl now tb))

/-- `ms_update_tb`, the kprobe the agent fires after a new configuration. -/
def msUpdateTb (cfg : Option TbCfg) (now : UInt64) (tb : TokenBucket) : TokenBucket :=
  { tb with tokens := getTbLimit cfg, lastTsc := now, lastEmitTsc := 0 }

namespace TokenBucket

/-- One call of `allow_sample` in a per-CPU trace: its `now`, the `refill` it computed,
and its verdict. -/
structure Call where
  now : UInt64
  refill : UInt64
  allowed : Bool
  deriving DecidableEq, Repr

/-- `allow_sample` at each time of `nows` in turn, from the bucket `tb`. -/
def trace (cfg : Option TbCfg) (ctrl : Option UInt64) : TokenBucket → List UInt64 → List Call
  | _, [] => []
  | tb, now :: nows =>
    ⟨now, refillOf (getTbLimit cfg) now (resync (getTbLimit cfg) ctrl now tb),
      (allowSample cfg ctrl now tb).2⟩ :: trace cfg ctrl (allowSample cfg ctrl now tb).1 nows

/-- The calls at times in `[a, b]` that returned true. -/
def admittedIn (a b : UInt64) (calls : List Call) : Nat :=
  calls.countP fun c => a ≤ c.now ∧ c.now ≤ b ∧ c.allowed

/-- The bucket holds no more than `allow_sample` ever fills it to under `limit`. -/
def Capped (limit : UInt64) (tb : TokenBucket) : Prop :=
  tb.tokens.toNat ≤ max limit.toNat msTokenHeadroom.toNat

/-- A bucket `allow_sample` does not restart: it carries `ms_tb_ctrl`'s `cfg_seq` and has
been used. -/
structure Synced (ctrl : Option UInt64) (tb : TokenBucket) : Prop where
  seq : ∀ s ∈ ctrl, s = tb.cfgSeq
  used : tb.lastTsc ≠ 0

/-- What a bucket is worth at `now` in units of 10^-9 token: its tokens, and the credit
`elapsed * limit` (in 64 bits) that no refill has turned into tokens yet. -/
def potential (limit now : UInt64) (tb : TokenBucket) : Nat :=
  1000000000 * tb.tokens.toNat + ((now - tb.lastTsc) * limit).toNat

theorem toNat_sub_u64 (a b : UInt64) : (a - b).toNat = (2 ^ 64 - b.toNat + a.toNat) % 2 ^ 64 :=
  BitVec.toNat_sub _ _

theorem toNat_mul_u64 (a b : UInt64) : (a * b).toNat = a.toNat * b.toNat % 2 ^ 64 := rfl

theorem toNat_add_u64 (a b : UInt64) : (a + b).toNat = (a.toNat + b.toNat) % 2 ^ 64 := rfl

theorem toNat_pred {x : UInt64} (h : x ≠ 0) : (x - 1).toNat = x.toNat - 1 :=
  UInt64.toNat_sub_of_le _ _ (u64_le.2 (Nat.one_le_iff_ne_zero.2 fun zero => h (u64_eq.2 zero)))

/-! ### One call, step by step -/

variable {limit hardDrop now : UInt64} {ctrl : Option UInt64} {tb : TokenBucket}

theorem resync_of_synced (h : Synced ctrl tb) : resync limit ctrl now tb = tb := by
  cases ctrl with
  | none => simp [resync, h.used]
  | some seq => simp [resync, h.seq seq rfl, h.used]

theorem resync_of_not_synced (h : ¬Synced ctrl tb) (limit now : UInt64) :
    ∃ seq, resync limit ctrl now tb = ⟨now, limit, seq, 0⟩ ∧ ∀ s ∈ ctrl, seq = s := by
  cases ctrl with
  | none =>
    have unused : tb.lastTsc = 0 := Classical.byContradiction fun used => h ⟨by simp, used⟩
    exact ⟨0, by simp [resync, unused], by simp⟩
  | some seq =>
    refine ⟨seq, ?_, fun s m => Option.some_inj.1 m⟩
    by_cases same : seq = tb.cfgSeq
    · have unused : tb.lastTsc = 0 := Classical.byContradiction fun used =>
        h ⟨fun s m => (Option.some_inj.1 m).symm ▸ same, used⟩
      simp [resync, same, unused]
    · simp only [resync, if_pos same]
      split_ifs <;> rfl

theorem synced_resync (pos : 0 < now) : Synced ctrl (resync limit ctrl now tb) := by
  by_cases h : Synced ctrl tb
  · rwa [resync_of_synced h]
  · obtain ⟨seq, eq, hs⟩ := resync_of_not_synced h limit now
    rw [eq]
    exact ⟨fun s m => (hs s m).symm, UInt64.ne_of_lt pos |>.symm⟩

@[simp] theorem refill_cfgSeq : (refill limit now tb).cfgSeq = tb.cfgSeq := by
  unfold refill; split_ifs <;> rfl

@[simp] theorem refill_lastEmitTsc : (refill limit now tb).lastEmitTsc = tb.lastEmitTsc := by
  unfold refill; split_ifs <;> rfl

theorem toNat_refillOf :
    (refillOf limit now tb).toNat = ((now - tb.lastTsc) * limit).toNat / 1000000000 :=
  UInt64.toNat_div _ _

theorem refill_cases (limit now : UInt64) (tb : TokenBucket) :
    (refillOf limit now tb = 0 ∧ refill limit now tb = tb) ∨
    ((refill limit now tb).lastTsc = now ∧
      (refill limit now tb).tokens.toNat ≤ msTokenHeadroom.toNat ∧
      (refill limit now tb).tokens.toNat ≤ tb.tokens.toNat + (refillOf limit now tb).toNat) := by
  have wrap := Nat.mod_le (tb.tokens.toNat + (refillOf limit now tb).toNat) (2 ^ 64)
  unfold refill
  split_ifs with h
  · dsimp only
    split_ifs with full
    · refine .inr ⟨rfl, le_refl _, ?_⟩
      have := u64_lt.1 full
      rw [toNat_add_u64] at this
      exact (Nat.le_of_lt this).trans wrap
    · exact .inr ⟨rfl, u64_le.1 (UInt64.not_lt.1 full), (toNat_add_u64 _ _).trans_le wrap⟩
  · refine .inl ⟨?_, rfl⟩
    by_cases elapsed : now - tb.lastTsc = 0
    · exact u64_eq.2 (by simp [refillOf, elapsed, toNat_mul_u64])
    · exact not_not.1 fun r => h ⟨elapsed, r⟩

@[simp] theorem takeToken_lastTsc : (takeToken hardDrop now tb).1.lastTsc = tb.lastTsc := by
  unfold takeToken; split_ifs <;> rfl

@[simp] theorem takeToken_cfgSeq : (takeToken hardDrop now tb).1.cfgSeq = tb.cfgSeq := by
  unfold takeToken; split_ifs <;> rfl

theorem takeToken_cases (hardDrop now : UInt64) (tb : TokenBucket) :
    takeToken hardDrop now tb = (tb, false) ∨
    (takeToken hardDrop now tb = ({ tb with tokens := tb.tokens - 1, lastEmitTsc := now }, true) ∧
      tb.tokens ≠ 0 ∧ ¬(hardDrop ≠ 0 ∧ tb.lastEmitTsc ≠ 0 ∧ now - tb.lastEmitTsc < hardDrop)) := by
  unfold takeToken
  split_ifs with window empty
  · exact .inl rfl
  · exact .inl rfl
  · exact .inr ⟨rfl, empty, window⟩

theorem lastEmitTsc_takeToken (h : (takeToken hardDrop now tb).2 = true) :
    (takeToken hardDrop now tb).1.lastEmitTsc = now := by
  rcases takeToken_cases hardDrop now tb with eq | ⟨eq, -⟩ <;> rw [eq] at h ⊢
  cases h

/-! ### What every call keeps -/

theorem capped_resync (h : Capped limit tb ∨ ¬Synced ctrl tb) :
    Capped limit (resync limit ctrl now tb) := by
  by_cases synced : Synced ctrl tb
  · rw [resync_of_synced synced]
    exact h.resolve_right (not_not.2 synced)
  · obtain ⟨seq, eq, -⟩ := resync_of_not_synced synced limit now
    rw [eq]
    exact le_max_left _ _

theorem capped_refill (h : Capped limit tb) : Capped limit (refill limit now tb) := by
  rcases refill_cases limit now tb with ⟨-, eq⟩ | ⟨-, headroom, -⟩
  · rwa [eq]
  · exact headroom.trans (le_max_right _ _)

theorem capped_takeToken (h : Capped limit tb) : Capped limit (takeToken hardDrop now tb).1 := by
  rcases takeToken_cases hardDrop now tb with eq | ⟨eq, nonzero, -⟩ <;> rw [eq]
  · exact h
  · show (tb.tokens - 1).toNat ≤ _
    rw [toNat_pred nonzero]
    exact (Nat.sub_le _ _).trans h

theorem synced_refill (pos : 0 < now) (h : Synced ctrl tb) : Synced ctrl (refill limit now tb) := by
  refine ⟨fun s m => (h.seq s m).trans refill_cfgSeq.symm, ?_⟩
  rcases refill_cases limit now tb with ⟨-, eq⟩ | ⟨stamp, -⟩
  · rw [eq]; exact h.used
  · rw [stamp]; exact (UInt64.ne_of_lt pos).symm

theorem synced_takeToken (h : Synced ctrl tb) : Synced ctrl (takeToken hardDrop now tb).1 :=
  ⟨fun s m => (h.seq s m).trans takeToken_cfgSeq.symm, by rw [takeToken_lastTsc]; exact h.used⟩

variable {cfg : Option TbCfg}

theorem capped_allowSample (h : Capped (getTbLimit cfg) tb ∨ ¬Synced ctrl tb) :
    Capped (getTbLimit cfg) (allowSample cfg ctrl now tb).1 :=
  capped_takeToken (capped_refill (capped_resync h))

theorem synced_allowSample (cfg : Option TbCfg) (ctrl : Option UInt64) (tb : TokenBucket)
    (pos : 0 < now) : Synced ctrl (allowSample cfg ctrl now tb).1 :=
  synced_takeToken (synced_refill pos (synced_resync pos))

theorem lastEmitTsc_allowSample (h : (allowSample cfg ctrl now tb).2 = true) :
    (allowSample cfg ctrl now tb).1.lastEmitTsc = now :=
  lastEmitTsc_takeToken h

/-! ### The ledger -/

theorem potential_stamped (h : tb.lastTsc = now) :
    potential limit now tb = 1000000000 * tb.tokens.toNat := by
  have bound : now.toNat < 2 ^ 64 := now.toNat_lt_size
  rw [potential, toNat_mul_u64, toNat_sub_u64, h, Nat.sub_add_cancel bound.le]
  simp

theorem potential_takeToken (limit hardDrop now : UInt64) (tb : TokenBucket) :
    potential limit now (takeToken hardDrop now tb).1 +
        1000000000 * (takeToken hardDrop now tb).2.toNat =
      potential limit now tb := by
  rcases takeToken_cases hardDrop now tb with eq | ⟨eq, nonzero, -⟩ <;> rw [eq]
  · simp
  · have : tb.tokens.toNat ≠ 0 := fun zero => nonzero (u64_eq.2 zero)
    simp only [potential, toNat_pred nonzero, Bool.toNat_true]
    omega

theorem potential_refill_le (limit now : UInt64) (tb : TokenBucket) :
    potential limit now (refill limit now tb) ≤ potential limit now tb := by
  rcases refill_cases limit now tb with ⟨-, eq⟩ | ⟨stamp, -, added⟩
  · rw [eq]
  · have bought := Nat.div_mul_le_self ((now - tb.lastTsc) * limit).toNat 1000000000
    rw [← toNat_refillOf] at bought
    rw [potential_stamped stamp, potential]
    omega

theorem potential_refill_lt (h : Capped limit tb) :
    potential limit now (refill limit now tb) <
      1000000000 * (max limit.toNat msTokenHeadroom.toNat + 1) := by
  rcases refill_cases limit now tb with ⟨none, eq⟩ | ⟨stamp, headroom, -⟩
  · have credit := congrArg UInt64.toNat none
    rw [toNat_refillOf, UInt64.toNat_zero] at credit
    rw [eq, potential]
    unfold Capped at h
    omega
  · rw [potential_stamped stamp]
    have := le_max_right limit.toNat msTokenHeadroom.toNat
    omega

theorem potential_advance {t t' : UInt64} (h : t ≤ t') (limit : UInt64) (tb : TokenBucket) :
    potential limit t' tb ≤ potential limit t tb + limit.toNat * (t'.toNat - t.toNat) := by
  have le := u64_le.1 h
  have shift : (t' - tb.lastTsc).toNat =
      ((t - tb.lastTsc).toNat + (t'.toNat - t.toNat)) % 2 ^ 64 := by
    rw [toNat_sub_u64, toNat_sub_u64, Nat.mod_add_mod]
    congr 1
    omega
  have wrap : ((t - tb.lastTsc).toNat * limit.toNat + (t'.toNat - t.toNat) * limit.toNat) % 2 ^ 64
      ≤ (t - tb.lastTsc).toNat * limit.toNat % 2 ^ 64 + (t'.toNat - t.toNat) * limit.toNat :=
    (Nat.mod_add_mod _ _ _).symm.trans_le (Nat.mod_le _ _)
  rw [potential, potential, toNat_mul_u64, toNat_mul_u64, shift, Nat.mod_mul_mod, Nat.add_mul,
    Nat.mul_comm limit.toNat]
  omega

theorem ledger_step (cfg : Option TbCfg) (now : UInt64) (hs : Synced ctrl tb) :
    potential (getTbLimit cfg) now (allowSample cfg ctrl now tb).1 +
      1000000000 * (allowSample cfg ctrl now tb).2.toNat ≤ potential (getTbLimit cfg) now tb := by
  rw [allowSample, resync_of_synced hs, potential_takeToken]
  exact potential_refill_le _ _ _

theorem ledger_first (now : UInt64) (h : Capped (getTbLimit cfg) tb ∨ ¬Synced ctrl tb) :
    potential (getTbLimit cfg) now (allowSample cfg ctrl now tb).1 +
      1000000000 * (allowSample cfg ctrl now tb).2.toNat <
      1000000000 * (max (getTbLimit cfg).toNat msTokenHeadroom.toNat + 1) := by
  rw [allowSample, potential_takeToken]
  exact potential_refill_lt (capped_resync h)

/-! ### Whole traces -/

theorem now_mem_trace {nows : List UInt64} {c : Call} :
    ∀ {tb : TokenBucket}, c ∈ trace cfg ctrl tb nows → c.now ∈ nows := by
  induction nows with
  | nil => simp [trace]
  | cons t nows ih =>
    intro tb mem
    rcases List.mem_cons.1 mem with rfl | mem
    · exact List.mem_cons_self _ _
    · exact List.mem_cons_of_mem _ (ih mem)

@[simp] theorem length_trace {nows : List UInt64} :
    ∀ {tb : TokenBucket}, (trace cfg ctrl tb nows).length = nows.length := by
  induction nows with
  | nil => simp [trace]
  | cons t nows ih => simp [trace, ih]

theorem admittedIn_cons (a b : UInt64) (c : Call) (calls : List Call) :
    admittedIn a b (c :: calls) =
      admittedIn a b calls + if a ≤ c.now ∧ c.now ≤ b ∧ c.allowed then 1 else 0 := by
  simp [admittedIn, List.countP_cons]

theorem admittedIn_of_lt {a b : UInt64} {nows : List UInt64} (h : ∀ t ∈ nows, b < t) :
    admittedIn a b (trace cfg ctrl tb nows) = 0 := by
  simp only [admittedIn, List.countP_eq_zero, decide_eq_true_eq]
  exact fun c mem ⟨_, le, _⟩ => UInt64.not_lt.2 le (h _ (now_mem_trace mem))

theorem admittedIn_tail (cfg : Option TbCfg) (ctrl : Option UInt64) {a b : UInt64}
    (nows : List UInt64) :
    ∀ {t : UInt64} {tb : TokenBucket}, Synced ctrl tb → a ≤ t → t ≤ b →
      (t :: nows).Sorted (· ≤ ·) → (∀ x ∈ nows, 0 < x) →
      1000000000 * admittedIn a b (trace cfg ctrl tb nows) ≤
        potential (getTbLimit cfg) t tb + (getTbLimit cfg).toNat * (b.toNat - t.toNat) := by
  induction nows with
  | nil => intros; simp [trace, admittedIn]
  | cons x nows ih =>
    intro t tb hs ha hb sorted pos
    obtain ⟨later, sorted⟩ := List.sorted_cons.1 sorted
    have hx := later x (List.mem_cons_self _ _)
    by_cases hxb : x ≤ b
    · have hax := UInt64.le_trans ha hx
      have step := ledger_step cfg x hs
      have advance := potential_advance hx (getTbLimit cfg) tb
      have rest := ih (synced_allowSample cfg ctrl tb (pos x (List.mem_cons_self _ _)))
        hax hxb sorted fun y m => pos y (List.mem_cons_of_mem _ m)
      have counted : (if a ≤ x ∧ x ≤ b ∧ (allowSample cfg ctrl x tb).2 = true then 1 else 0) =
          (allowSample cfg ctrl x tb).2.toNat := by
        cases (allowSample cfg ctrl x tb).2 <;> simp [hax, hxb]
      have split : (getTbLimit cfg).toNat * (b.toNat - t.toNat) =
          (getTbLimit cfg).toNat * (x.toNat - t.toNat) +
            (getTbLimit cfg).toNat * (b.toNat - x.toNat) := by
        rw [← Nat.mul_add]
        have := u64_le.1 hx
        have := u64_le.1 hxb
        congr 1
        omega
      rw [trace, admittedIn_cons, counted]
      omega
    · have beyond : ∀ y ∈ x :: nows, b < y := by
        refine List.forall_mem_cons.2 ⟨UInt64.not_le.1 hxb, fun y m => ?_⟩
        exact u64_lt.2 ((u64_lt.1 (UInt64.not_le.1 hxb)).trans_le
          (u64_le.1 ((List.sorted_cons.1 sorted).1 y m)))
      rw [admittedIn_of_lt beyond]
      exact Nat.zero_le _

theorem admittedIn_le (nows : List UInt64) :
    ∀ {tb : TokenBucket}, Capped (getTbLimit cfg) tb ∨ ¬Synced ctrl tb →
      nows.Sorted (· ≤ ·) → (∀ t ∈ nows, 0 < t) → ∀ a b : UInt64,
      1000000000 * admittedIn a b (trace cfg ctrl tb nows) ≤
        1000000000 * (max (getTbLimit cfg).toNat msTokenHeadroom.toNat + 1) +
          (getTbLimit cfg).toNat * (b.toNat - a.toNat) := by
  induction nows with
  | nil => intros; simp [trace, admittedIn]
  | cons t nows ih =>
    intro tb fresh sorted pos a b
    have pos' : ∀ x ∈ nows, 0 < x := fun x m => pos x (List.mem_cons_of_mem _ m)
    rw [trace, admittedIn_cons]
    by_cases hta : a ≤ t
    · by_cases htb : t ≤ b
      · have first := ledger_first t fresh
        have rest := admittedIn_tail cfg ctrl nows
          (synced_allowSample cfg ctrl tb (pos t (List.mem_cons_self _ _))) hta htb
          sorted pos'
        have counted : (if a ≤ t ∧ t ≤ b ∧ (allowSample cfg ctrl t tb).2 = true then 1 else 0) =
            (allowSample cfg ctrl t tb).2.toNat := by
          cases (allowSample cfg ctrl t tb).2 <;> simp [hta, htb]
        have shorter : (getTbLimit cfg).toNat * (b.toNat - t.toNat) ≤
            (getTbLimit cfg).toNat * (b.toNat - a.toNat) :=
          Nat.mul_le_mul_left _ (Nat.sub_le_sub_left (u64_le.1 hta) _)
        rw [counted]
        omega
      · have beyond : ∀ y ∈ nows, b < y := fun y m =>
          u64_lt.2 ((u64_lt.1 (UInt64.not_le.1 htb)).trans_le
            (u64_le.1 ((List.sorted_cons.1 sorted).1 y m)))
        rw [admittedIn_of_lt beyond, if_neg fun h => htb h.2.1]
        exact Nat.zero_le _
    · rw [if_neg fun h => hta h.1, Nat.add_zero]
      exact ih (.inl (capped_allowSample fresh)) (List.sorted_cons.1 sorted).2 pos' a b

theorem spaced_after (nows : List UInt64) :
    ∀ {tb : TokenBucket}, Synced ctrl tb → tb.lastEmitTsc ≠ 0 → (∀ x ∈ nows, tb.lastEmitTsc ≤ x) →
      nows.Sorted (· ≤ ·) → (∀ x ∈ nows, 0 < x) →
      ∀ c ∈ trace cfg ctrl tb nows, c.allowed →
        tb.lastEmitTsc.toNat + (getHardDropNs cfg).toNat ≤ c.now.toNat := by
  induction nows with
  | nil => simp [trace]
  | cons x nows ih =>
    intro tb hs emitted after sorted pos c mem allowed
    obtain ⟨later, sorted⟩ := List.sorted_cons.1 sorted
    have hx := after x (List.mem_cons_self _ _)
    have hx0 := pos x (List.mem_cons_self _ _)
    have pos' : ∀ y ∈ nows, 0 < y := fun y m => pos y (List.mem_cons_of_mem _ m)
    have synced := synced_allowSample cfg ctrl tb hx0
    have call : allowSample cfg ctrl x tb =
        takeToken (getHardDropNs cfg) x (refill (getTbLimit cfg) x tb) := by
      rw [allowSample, resync_of_synced hs]
    rw [trace] at mem
    rcases List.mem_cons.1 mem with rfl | mem
    · rcases takeToken_cases (getHardDropNs cfg) x (refill (getTbLimit cfg) x tb)
        with refused | ⟨-, -, window⟩
      · simp [call, refused] at allowed
      · simp only [refill_lastEmitTsc, not_and, UInt64.not_lt] at window
        have := u64_le.1 (window (getHardDropNs_ne_zero cfg) emitted)
        rw [UInt64.toNat_sub_of_le _ _ hx] at this
        have := u64_le.1 hx
        show _ ≤ x.toNat
        omega
    · by_cases ok : (allowSample cfg ctrl x tb).2 = true
      · have stamped := lastEmitTsc_allowSample ok
        have := ih synced (by rw [stamped]; exact (UInt64.ne_of_lt hx0).symm)
          (fun y m => by rw [stamped]; exact later y m) sorted pos' c mem allowed
        rw [stamped] at this
        have := u64_le.1 hx
        omega
      · have kept : (allowSample cfg ctrl x tb).1.lastEmitTsc = tb.lastEmitTsc := by
          rcases takeToken_cases (getHardDropNs cfg) x (refill (getTbLimit cfg) x tb)
            with refused | ⟨admitted, -⟩
          · rw [call, refused, refill_lastEmitTsc]
          · rw [call, admitted] at ok; exact absurd rfl ok
        have := ih synced (kept ▸ emitted) (fun y m => kept ▸ after y (List.mem_cons_of_mem _ m))
          sorted pos' c mem allowed
        rwa [kept] at this

theorem spaced (nows : List UInt64) :
    ∀ {tb : TokenBucket}, nows.Sorted (· ≤ ·) → (∀ t ∈ nows, 0 < t) →
      (trace cfg ctrl tb nows).Pairwise fun c d => c.allowed → d.allowed →
        c.now.toNat + (getHardDropNs cfg).toNat ≤ d.now.toNat := by
  induction nows with
  | nil => simp [trace]
  | cons t nows ih =>
    intro tb sorted pos
    obtain ⟨later, sorted⟩ := List.sorted_cons.1 sorted
    have pos' : ∀ x ∈ nows, 0 < x := fun x m => pos x (List.mem_cons_of_mem _ m)
    have ht := pos t (List.mem_cons_self _ _)
    refine List.pairwise_cons.2 ⟨fun d mem ok allowed => ?_, ih sorted pos'⟩
    have stamped := lastEmitTsc_allowSample ok
    have := spaced_after nows (synced_allowSample cfg ctrl tb ht)
      (by rw [stamped]; exact (UInt64.ne_of_lt ht).symm)
      (fun y m => by rw [stamped]; exact later y m)
      sorted pos' d mem allowed
    rwa [stamped] at this

theorem admits_all (cfg : Option TbCfg) (nows : List UInt64) :
    ∀ {tb : TokenBucket}, Synced ctrl tb → nows.length ≤ tb.tokens.toNat →
      (∀ t ∈ nows, ((t - tb.lastTsc) * getTbLimit cfg).toNat < 1000000000) →
      nows.Chain (fun s t => s.toNat + (getHardDropNs cfg).toNat ≤ t.toNat) tb.lastEmitTsc →
      ∀ c ∈ trace cfg ctrl tb nows, c.allowed := by
  induction nows with
  | nil => simp [trace]
  | cons t nows ih =>
    intro tb hs enough credit chain
    obtain ⟨spaced, chain⟩ := List.chain_cons.1 chain
    have none : refillOf (getTbLimit cfg) t tb = 0 := by
      have := credit t (List.mem_cons_self _ _)
      exact u64_eq.2 (by rw [toNat_refillOf]; simp only [UInt64.toNat_zero]; omega)
    have nonzero : tb.tokens ≠ 0 := fun zero => by
      simp only [zero, UInt64.toNat_zero, List.length_cons] at enough; omega
    have window : ¬(getHardDropNs cfg ≠ 0 ∧ tb.lastEmitTsc ≠ 0 ∧
        t - tb.lastEmitTsc < getHardDropNs cfg) := fun ⟨_, _, short⟩ => by
      have := u64_lt.1 short
      rw [UInt64.toNat_sub_of_le _ _ (u64_le.2 (by omega))] at this
      omega
    have call : allowSample cfg ctrl t tb =
        ({ tb with tokens := tb.tokens - 1, lastEmitTsc := t }, true) := by
      rw [allowSample, resync_of_synced hs, refill, if_neg fun h => h.2 none, takeToken,
        if_neg window, if_neg nonzero]
    rw [trace, call]
    refine List.forall_mem_cons.2 ⟨rfl, ih ⟨hs.seq, hs.used⟩ ?_ ?_ chain⟩
    · show nows.length ≤ (tb.tokens - 1).toNat
      rw [toNat_pred nonzero]
      simp only [List.length_cons] at enough
      omega
    · exact fun x m => credit x (List.mem_cons_of_mem _ m)

theorem chain_range'_ofNat (n : Nat) :
    ∀ s, s + n < 2 ^ 64 → ((List.range' (s + 1) n).map UInt64.ofNat).Chain
      (fun a b => a.toNat + 1 ≤ b.toNat) (UInt64.ofNat s) := by
  induction n with
  | zero => intros; exact List.Chain.nil
  | succ n ih =>
    intro s bound
    rw [List.range'_succ, List.map_cons]
    refine List.Chain.cons ?_ (ih (s + 1) (by omega))
    rw [toNat_ofNat_u64 (by omega), toNat_ofNat_u64 (by omega)]

theorem toNat_of_mem_range' {n : Nat} {t : UInt64} (bound : n < 2 ^ 64)
    (h : t ∈ (List.range' 1 n).map UInt64.ofNat) : 1 ≤ t.toNat ∧ t.toNat ≤ n := by
  obtain ⟨k, mem, rfl⟩ := List.mem_map.1 h
  rw [List.mem_range'_1] at mem
  rw [toNat_ofNat_u64 (by omega)]
  omega

end TokenBucket

open TokenBucket

/-- `allow_sample` with `max_samples_per_sec = 1`, called at 1, 1.5 s later and 3 s after the
first call: every call is admitted and the bucket holds at most one token, but the two refills
add 2 tokens where the 3 seconds buy 3. Each refill drops the half second its division
leaves over. -/
theorem refill_drops_remainder :
    trace (some ⟨1, 0⟩) (some 0) ⟨0, 0, 0, 0⟩ [1, 1500000001, 3000000001] =
      [⟨1, 0, true⟩, ⟨1500000001, 1, true⟩, ⟨3000000001, 1, true⟩] ∧
    ((trace (some ⟨1, 0⟩) (some 0) ⟨0, 0, 0, 0⟩ [1, 1500000001, 3000000001]).map
        fun c => c.refill.toNat).sum + 1 =
      (getTbLimit (some ⟨1, 0⟩)).toNat * ((3000000001 : UInt64).toNat - (1 : UInt64).toNat) /
        1000000000 := by
  decide

end MicroSentinel
