import MicroSentinel.Runtime

/-! The four batches of `ClickHouseSink` (`clickhouse_sink.cpp`) under the threads that
share them. Each `Enqueue*` call pushes its row on one vector under `mu_` and, when that
vector reached `batch_size`, calls `FlushBatch` after the lock is released; `FlushBatch`
swaps all four vectors out under `mu_` and posts them once it has let go of it; the
worker `Start` creates calls `FlushBatch` after each sleep while `running_` holds, and
`Stop` clears `running_`, joins the worker and flushes once more. A step is one thread's
critical section or one stretch of it between two, so a run is any interleaving of the
threads. A `FlushBatch`'s posts are recorded as the four vectors it swapped out, which
`flushBatch` (Sink.lean) turns into the bodies. -/
namespace MicroSentinel

namespace Sink

/-- Each vector of `a` followed by the same vector of `b`. -/
def append (a b : Sink) : Sink :=
  ⟨a.rollups ++ b.rollups, a.stackTraces ++ b.stackTraces, a.rawRows ++ b.rawRows,
    a.dataObjects ++ b.dataObjects⟩

instance : Append Sink := ⟨append⟩

attribute [ext] Sink

@[simp] theorem rollups_append (a b : Sink) : (a ++ b).rollups = a.rollups ++ b.rollups := rfl
@[simp] theorem stackTraces_append (a b : Sink) :
    (a ++ b).stackTraces = a.stackTraces ++ b.stackTraces := rfl
@[simp] theorem rawRows_append (a b : Sink) : (a ++ b).rawRows = a.rawRows ++ b.rawRows := rfl
@[simp] theorem dataObjects_append (a b : Sink) :
    (a ++ b).dataObjects = a.dataObjects ++ b.dataObjects := rfl

/-- The batches of a list, one after the other. -/
def join : List Sink → Sink
  | [] => empty
  | b :: bs => b ++ join bs

/-- The sizes of the four vectors. -/
def sizes (b : Sink) : List Nat :=
  [b.rollups.length, b.stackTraces.length, b.rawRows.length, b.dataObjects.length]

@[simp] theorem empty_append (b : Sink) : empty ++ b = b := rfl

@[simp] theorem append_empty (b : Sink) : b ++ empty = b := by
  apply Sink.ext <;> simp [empty]

theorem append_assoc (a b c : Sink) : a ++ b ++ c = a ++ (b ++ c) := by
  apply Sink.ext <;> simp

theorem join_append (bs cs : List Sink) : join (bs ++ cs) = join bs ++ join cs := by
  induction bs with
  | nil => rfl
  | cons b bs ih => rw [List.cons_append, join, join, ih, append_assoc]

end Sink

namespace ClickHouseSink

/-- A row handed to one of the `Enqueue*` calls. -/
inductive Row
  | rollup (key : AggregationKey) (value : AggregatedValue)
  | stack (trace : StackTrace)
  | raw (sample : Sample) (stack : LbrStack) (normCost : ℚ)
  | dataObject (symbol : DataSymbol)

namespace Row

/-- The early returns of `EnqueueStack` (no frames) and `EnqueueDataObject` (id 0), taken
before the lock. -/
def skipped : Row → Bool
  | stack trace => trace.frames.isEmpty
  | dataObject symbol => symbol.id == 0
  | _ => false

/-- The critical section of `Enqueue*`: the row pushed on its vector, and that vector's size. -/
def push (b : Sink) : Row → Sink × Nat
  | rollup key value =>
    let q := b.rollups ++ [(key, value)]
    ({ b with rollups := q }, q.length)
  | stack trace =>
    let q := b.stackTraces ++ [trace]
    ({ b with stackTraces := q }, q.length)
  | raw sample lbr normCost =>
    let q := b.rawRows ++ [⟨sample, lbr, normCost⟩]
    ({ b with rawRows := q }, q.length)
  | dataObject symbol =>
    let q := b.dataObjects ++ [symbol]
    ({ b with dataObjects := q }, q.length)

/-- What the call adds to the log of everything enqueued, the `Sink` of the runtime. -/
def enqueue (log : Sink) : Row → Sink
  | rollup key value => log.enqueue key value
  | stack trace => log.enqueueStack trace
  | raw sample lbr normCost => log.enqueueRawSample sample lbr normCost
  | dataObject symbol => log.enqueueDataObject symbol

theorem enqueue_of_skipped {row : Row} (skip : row.skipped) (log : Sink) : row.enqueue log = log := by
  cases row <;> simp_all [skipped, enqueue, Sink.enqueueStack, Sink.enqueueDataObject]

theorem push_of_not_skipped {row : Row} (keep : ¬row.skipped) (b : Sink) :
    (row.push b).1 = row.enqueue b := by
  cases row <;> simp_all [skipped, push, enqueue, Sink.enqueue, Sink.enqueueStack,
    Sink.enqueueRawSample, Sink.enqueueDataObject]

theorem enqueue_append (row : Row) (a b : Sink) : row.enqueue (a ++ b) = a ++ row.enqueue b := by
  cases row <;>
    simp only [enqueue, Sink.enqueue, Sink.enqueueStack, Sink.enqueueRawSample,
      Sink.enqueueDataObject] <;> (try split) <;> apply Sink.ext <;> simp

theorem push_sizes (row : Row) (b : Sink) :
    ∀ n ∈ (row.push b).1.sizes, n ∈ b.sizes ∨ n = (row.push b).2 := by
  cases row <;> simp [push, Sink.sizes]

theorem push_size_le (row : Row) {b : Sink} {k : Nat} (below : ∀ n ∈ b.sizes, n ≤ k) :
    (row.push b).2 ≤ k + 1 := by
  cases row <;> simp_all [push, Sink.sizes]

end Row

/-- Where a thread is between two steps. -/
inductive Phase
  /-- Outside the sink; for the worker, at the test of its loop. -/
  | idle
  /-- About to take `mu_` in `FlushBatch`. -/
  | flushing
  /-- In `FlushBatch` after its swap, holding the four vectors it swapped out. -/
  | sending (pending : Sink)
  /-- In `Stop`, `running_` cleared, waiting in `worker_.join()`. -/
  | joining
  /-- In `Start`, after `running_.exchange(true)` found it clear, before `worker_` is assigned. -/
  | starting
  /-- The worker, out of `RunLoop` and not yet joined. -/
  | done

namespace Phase

/-- The vectors a `FlushBatch` holds between its swap and its posts. -/
def held : Phase → List Sink
  | sending pending => [pending]
  | _ => []

def isFlushing : Phase → Bool
  | flushing => true
  | _ => false

def isJoining : Phase → Bool
  | joining => true
  | _ => false

def isStarting : Phase → Bool
  | starting => true
  | _ => false

end Phase

/-- A thread in the sink: a caller, by index, or the worker of `Start`. -/
inductive Who
  | caller (t : Nat)
  | worker

/-- The members of `ClickHouseSink` the threads share, and where each thread is. -/
structure State where
  /-- `batch_`, `stack_batch_`, `raw_batch_`, `data_batch_`. -/
  batches : Sink
  running : Bool
  /-- The worker thread while `worker_` is joinable. -/
  worker : Option Phase
  callers : List Phase
  /-- Every `FlushBatch`'s posts so far, in order, as the vectors it swapped out. -/
  posted : List Sink

namespace State

/-- A sink just built, with `callers` threads that will call into it. -/
def init (callers : Nat) : State := ⟨Sink.empty, false, none, List.replicate callers .idle, []⟩

def phase (s : State) : Who → Option Phase
  | .caller t => s.callers[t]?
  | .worker => s.worker

def setPhase (s : State) (p : Phase) : Who → State
  | .caller t => { s with callers := s.callers.set t p }
  | .worker => { s with worker := some p }

/-- Every thread's phase, the callers' then the worker's. -/
def threads (s : State) : List Phase := s.callers ++ s.worker.toList

/-- The vectors held by `FlushBatch` calls between their swap and their posts. -/
def held (s : State) : List Sink := s.threads.flatMap Phase.held

/-- The threads about to take `mu_` in `FlushBatch`. -/
def flushing (s : State) : Nat := s.threads.countP Phase.isFlushing

/-- The callers in `Stop` waiting on `worker_.join()`. -/
def joining (s : State) : Nat := s.callers.countP Phase.isJoining

/-- The callers in `Start` between its exchange and its assignment to `worker_`. -/
def starting (s : State) : Nat := s.callers.countP Phase.isStarting

end State

/-- One step of one thread. -/
inductive Act
  /-- A caller's `Enqueue*`, up to the release of `mu_`. -/
  | enqueue (t : Nat) (row : Row)
  /-- The critical section of `FlushBatch`: the four swaps. -/
  | flush (who : Who)
  /-- The rest of `FlushBatch`: the payloads of what it swapped out. -/
  | send (who : Who)
  /-- The worker's test of `running_`, then its sleep. -/
  | wake
  /-- A caller's `running_.exchange(true)` in `Start`. -/
  | start (t : Nat)
  /-- The assignment of the new thread to `worker_` that ends `Start`. -/
  | spawn (t : Nat)
  /-- A caller's `Stop`, up to `worker_.join()`. -/
  | stop (t : Nat)
  /-- The return of `worker_.join()` in `Stop`. -/
  | joined (t : Nat)

/-- The step, or `none` when the thread is not where the step starts, or when `Start`
assigns to a joinable `worker_` (`std::terminate`). -/
def step (cfg : ClickHouseConfig) (s : State) : Act → Option State
  | .enqueue t row =>
    match s.callers[t]? with
    | some .idle =>
      if row.skipped then some s
      else
        let pushed := row.push s.batches
        some { s with
          batches := pushed.1
          callers := s.callers.set t (if cfg.batchSize.toNat ≤ pushed.2 then .flushing else .idle) }
    | _ => none
  | .flush who =>
    match s.phase who with
    | some .flushing => some { s.setPhase (.sending s.batches) who with batches := Sink.empty }
    | _ => none
  | .send who =>
    match s.phase who with
    | some (.sending pending) => some { s.setPhase .idle who with posted := s.posted ++ [pending] }
    | _ => none
  | .wake =>
    match s.worker with
    | some .idle => some { s with worker := some (if s.running then .flushing else .done) }
    | _ => none
  | .start t =>
    match s.callers[t]?, s.running with
    | some .idle, true => some s
    | some .idle, false => some { s with running := true, callers := s.callers.set t .starting }
    | _, _ => none
  | .spawn t =>
    match s.callers[t]?, s.worker with
    | some .starting, none => some { s with worker := some .idle, callers := s.callers.set t .idle }
    | _, _ => none
  | .stop t =>
    match s.callers[t]?, s.running with
    | some .idle, true => some { s with running := false, callers := s.callers.set t .joining }
    | some .idle, false => some s
    | _, _ => none
  | .joined t =>
    match s.callers[t]?, s.worker with
    | some .joining, none => some { s with callers := s.callers.set t .flushing }
    | some .joining, some .done => some { s with worker := none, callers := s.callers.set t .flushing }
    | _, _ => none

def run (cfg : ClickHouseConfig) (s : State) : List Act → Option State
  | [] => some s
  | a :: acts => (step cfg s a).bind fun s' => run cfg s' acts

/-- What a step adds to the log of rows enqueued. -/
def Act.log (log : Sink) : Act → Sink
  | .enqueue _ row => row.enqueue log
  | _ => log

/-- The rows a run enqueues, in the order of its critical sections. -/
def enqueued (acts : List Act) : Sink := acts.foldl Act.log Sink.empty

/-! ### What one step does -/

theorem exists_set_of_getElem? {α : Type} {l : List α} {i : Nat} {x : α} (at_i : l[i]? = some x)
    (y : α) : ∃ a b, l = a ++ x :: b ∧ l.set i y = a ++ y :: b := by
  induction l generalizing i with
  | nil => simp at at_i
  | cons c l ih =>
    cases i with
    | zero => exact ⟨[], l, by simp_all⟩
    | succ i =>
      obtain ⟨a, b, rfl, e⟩ := ih (by simpa using at_i)
      exact ⟨c :: a, b, rfl, by simp [e]⟩

theorem countP_set_add {α : Type} {l : List α} {i : Nat} {x : α} (at_i : l[i]? = some x) (y : α)
    (f : α → Bool) :
    (l.set i y).countP f + (if f x then 1 else 0) = l.countP f + if f y then 1 else 0 := by
  obtain ⟨a, b, e, e'⟩ := exists_set_of_getElem? at_i y
  rw [e', e, List.countP_append, List.countP_append, List.countP_cons, List.countP_cons]
  omega

namespace State

variable {s : State} {who : Who} {x : Phase}

theorem threads_setPhase (h : s.phase who = some x) (p : Phase) :
    ∃ a b, s.threads = a ++ x :: b ∧ (s.setPhase p who).threads = a ++ p :: b := by
  cases who with
  | caller t =>
    obtain ⟨a, b, e, e'⟩ := exists_set_of_getElem? h p
    exact ⟨a, b ++ s.worker.toList, by simp [threads, e], by simp [threads, setPhase, e']⟩
  | worker => exact ⟨s.callers, [], by simp [threads, show s.worker = some x from h], rfl⟩

theorem held_eq {a b : List Phase} (e : s.threads = a ++ x :: b) :
    s.held = a.flatMap Phase.held ++ (x.held ++ b.flatMap Phase.held) := by
  rw [held, e, List.flatMap_append, List.flatMap_cons]

theorem flushing_eq {a b : List Phase} (e : s.threads = a ++ x :: b) :
    s.flushing = a.countP Phase.isFlushing + b.countP Phase.isFlushing +
      if x.isFlushing then 1 else 0 := by
  rw [flushing, e, List.countP_append, List.countP_cons]
  omega

theorem held_setPhase (h : s.phase who = some x) (p : Phase) (hx : x.held = [])
    (hp : p.held = []) : (s.setPhase p who).held = s.held := by
  obtain ⟨a, b, e, e'⟩ := threads_setPhase h p
  rw [held_eq e, held_eq e', hx, hp]

theorem flushing_setPhase (h : s.phase who = some x) (p : Phase) :
    (s.setPhase p who).flushing + (if x.isFlushing then 1 else 0) =
      s.flushing + if p.isFlushing then 1 else 0 := by
  obtain ⟨a, b, e, e'⟩ := threads_setPhase h p
  rw [flushing_eq e, flushing_eq e']
  omega

theorem isSome_setPhase (h : s.phase who = some x) (p : Phase) :
    (s.setPhase p who).worker.isSome = s.worker.isSome := by
  cases who with
  | caller t => rfl
  | worker => rw [show s.worker = some x from h]; rfl

@[simp] theorem batches_setPhase (p : Phase) : (s.setPhase p who).batches = s.batches := by
  cases who <;> rfl
@[simp] theorem posted_setPhase (p : Phase) : (s.setPhase p who).posted = s.posted := by
  cases who <;> rfl
@[simp] theorem running_setPhase (p : Phase) : (s.setPhase p who).running = s.running := by
  cases who <;> rfl

theorem held_spawn (none : s.worker = none) : { s with worker := some .idle }.held = s.held := by
  simp [held, threads, none, Phase.held]

theorem flushing_spawn (none : s.worker = none) :
    { s with worker := some .idle }.flushing = s.flushing := by
  simp [flushing, threads, none, Phase.isFlushing]

@[simp] theorem held_batches (b : Sink) : { s with batches := b }.held = s.held := rfl
@[simp] theorem held_posted (l : List Sink) : { s with posted := l }.held = s.held := rfl
@[simp] theorem held_running (r : Bool) : { s with running := r }.held = s.held := rfl
@[simp] theorem flushing_batches (b : Sink) : { s with batches := b }.flushing = s.flushing := rfl
@[simp] theorem flushing_posted (l : List Sink) :
    { s with posted := l }.flushing = s.flushing := rfl
@[simp] theorem flushing_running (r : Bool) :
    { s with running := r }.flushing = s.flushing := rfl

end State

section Steps

variable {cfg : ClickHouseConfig} {s s' : State}

theorem step_enqueue {t : Nat} {row : Row} (h : step cfg s (.enqueue t row) = some s') :
    s.phase (.caller t) = some .idle ∧
      (row.skipped ∧ s' = s ∨
        ¬row.skipped ∧ ∃ p : Phase,
          (p = .flushing ∧ cfg.batchSize.toNat ≤ (row.push s.batches).2 ∨
            p = .idle ∧ (row.push s.batches).2 < cfg.batchSize.toNat) ∧
          s' = { s.setPhase p (.caller t) with batches := (row.push s.batches).1 }) := by
  simp only [step] at h
  split at h <;> [skip; cases h]
  refine ⟨‹_›, ?_⟩
  split at h
  · cases h
    exact .inl ⟨‹_›, rfl⟩
  · cases h
    refine .inr ⟨‹_›, _, ?_, rfl⟩
    split <;> [exact .inl ⟨rfl, ‹_›⟩; exact .inr ⟨rfl, by omega⟩]

theorem step_flush {who : Who} (h : step cfg s (.flush who) = some s') :
    s.phase who = some .flushing ∧
      s' = { s.setPhase (.sending s.batches) who with batches := Sink.empty } := by
  simp only [step] at h
  split at h <;> [exact ⟨‹_›, (Option.some.inj h).symm⟩; cases h]

theorem step_send {who : Who} (h : step cfg s (.send who) = some s') :
    ∃ pending, s.phase who = some (.sending pending) ∧
      s' = { s.setPhase .idle who with posted := s.posted ++ [pending] } := by
  simp only [step] at h
  split at h <;> [exact ⟨_, ‹_›, (Option.some.inj h).symm⟩; cases h]

theorem step_wake (h : step cfg s .wake = some s') :
    s.phase .worker = some .idle ∧
      s' = s.setPhase (if s.running then .flushing else .done) .worker := by
  simp only [step] at h
  split at h <;> [exact ⟨‹_›, (Option.some.inj h).symm⟩; cases h]

theorem step_start {t : Nat} (h : step cfg s (.start t) = some s') :
    s.phase (.caller t) = some .idle ∧
      (s.running ∧ s' = s ∨
        ¬s.running ∧ s' = { s.setPhase .starting (.caller t) with running := true }) := by
  simp only [step] at h
  split at h <;> cases h <;> simp_all [State.phase, State.setPhase]

theorem step_spawn {t : Nat} (h : step cfg s (.spawn t) = some s') :
    s.phase (.caller t) = some .starting ∧ s.worker = none ∧
      s' = { s.setPhase .idle (.caller t) with worker := some .idle } := by
  simp only [step] at h
  split at h
  · cases h
    exact ⟨‹_›, ‹_›, rfl⟩
  · cases h

theorem spawn_eq_none_iff {t : Nat} (h : s.callers[t]? = some .starting) :
    step cfg s (.spawn t) = none ↔ s.worker.isSome := by
  cases worker : s.worker <;> simp [step, h, worker]

theorem step_stop {t : Nat} (h : step cfg s (.stop t) = some s') :
    s.phase (.caller t) = some .idle ∧
      (s.running ∧ s' = { s.setPhase .joining (.caller t) with running := false } ∨
        ¬s.running ∧ s' = s) := by
  simp only [step] at h
  split at h <;> cases h <;> simp_all [State.phase, State.setPhase]

theorem step_joined {t : Nat} (h : step cfg s (.joined t) = some s') :
    s.callers[t]? = some .joining ∧ (s.worker = none ∨ s.worker = some .done) ∧
      s' = { s with worker := none, callers := s.callers.set t .flushing } := by
  simp only [step] at h
  split at h <;> cases h <;> simp_all

end Steps

/-! ### No row lost, none posted twice -/

/-- What the `FlushBatch` calls swapped out, in the order of their swaps, followed by the
batches, is the log of rows enqueued; and each batch swapped out is posted or still held
by its `FlushBatch`. -/
def Conserves (s : State) (log : Sink) : Prop :=
  ∃ taken : List Sink, taken.Perm (s.posted ++ s.held) ∧ Sink.join taken ++ s.batches = log

namespace Conserves

variable {cfg : ClickHouseConfig} {s s' : State} {log : Sink}

theorem init (n : Nat) : Conserves (State.init n) Sink.empty :=
  ⟨[], by simp [State.init, State.held, State.threads, Phase.held], rfl⟩

theorem step {a : Act} (h : ClickHouseSink.step cfg s a = some s') (c : Conserves s log) :
    Conserves s' (a.log log) := by
  obtain ⟨taken, perm, eq⟩ := c
  cases a with
  | enqueue t row =>
    obtain ⟨idle, ⟨skip, rfl⟩ | ⟨keep, p, quiet, rfl⟩⟩ := step_enqueue h
    · exact ⟨taken, perm, by rw [Act.log, Row.enqueue_of_skipped skip, eq]⟩
    · refine ⟨taken, ?_, by rw [Act.log, Row.push_of_not_skipped keep, ← eq, Row.enqueue_append]⟩
      rwa [State.held_batches, State.posted_setPhase, State.held_setPhase idle p rfl
        (by rcases quiet with ⟨rfl, -⟩ | ⟨rfl, -⟩ <;> rfl)]
  | flush who =>
    obtain ⟨flushing, rfl⟩ := step_flush h
    obtain ⟨a, b, e, e'⟩ := State.threads_setPhase flushing (.sending s.batches)
    refine ⟨taken ++ [s.batches], ?_, by simp [Sink.join_append, Sink.join, ← eq, Act.log]⟩
    rw [State.held_batches, State.posted_setPhase, State.held_eq e']
    rw [State.held_eq e] at perm
    exact (perm.append_right _).trans ((List.perm_append_singleton _ _).trans
      ((List.perm_middle.append_left _).trans List.perm_middle).symm)
  | send who =>
    obtain ⟨pending, sending, rfl⟩ := step_send h
    obtain ⟨a, b, e, e'⟩ := State.threads_setPhase sending .idle
    refine ⟨taken, ?_, by simpa [Act.log] using eq⟩
    rw [State.held_posted, State.held_eq e']
    rw [State.held_eq e] at perm
    simpa [Phase.held] using perm.trans (List.perm_middle.append_left _)
  | wake =>
    obtain ⟨idle, rfl⟩ := step_wake h
    exact ⟨taken, by rwa [State.posted_setPhase, State.held_setPhase idle _ rfl (by split <;> rfl)],
      by simpa [Act.log] using eq⟩
  | start t =>
    obtain ⟨idle, ⟨-, rfl⟩ | ⟨-, rfl⟩⟩ := step_start h
    · exact ⟨taken, perm, eq⟩
    · exact ⟨taken, by rwa [State.held_running, State.posted_setPhase,
        State.held_setPhase idle .starting rfl rfl], eq⟩
  | spawn t =>
    obtain ⟨starting, none, rfl⟩ := step_spawn h
    exact ⟨taken, by rwa [State.held_spawn (s := s.setPhase .idle (.caller t)) none, State.posted_setPhase,
      State.held_setPhase starting .idle rfl rfl], eq⟩
  | stop t =>
    obtain ⟨idle, ⟨-, rfl⟩ | ⟨-, rfl⟩⟩ := step_stop h
    · exact ⟨taken, by rwa [State.held_running, State.posted_setPhase,
        State.held_setPhase idle .joining rfl rfl], by simpa [Act.log] using eq⟩
    · exact ⟨taken, perm, eq⟩
  | joined t =>
    obtain ⟨joining, worker, rfl⟩ := step_joined h
    obtain ⟨a, b, e, e'⟩ := exists_set_of_getElem? joining .flushing
    refine ⟨taken, ?_, eq⟩
    simp only [State.held, State.threads, e'] at perm ⊢
    rw [e] at perm
    rcases worker with worker | worker <;> simpa [worker, Phase.held] using perm

end Conserves

/-! ### How full a batch gets -/

/-- Every vector holds at most `batch_size - 1` rows, and one more for each thread on its
way into `FlushBatch`. -/
def Bounded (cfg : ClickHouseConfig) (s : State) : Prop :=
  ∀ n ∈ s.batches.sizes, n ≤ cfg.batchSize.toNat - 1 + s.flushing

namespace Bounded

variable {cfg : ClickHouseConfig} {s s' : State}

theorem init (cfg : ClickHouseConfig) (n : Nat) : Bounded cfg (State.init n) := by
  simp [Bounded, State.init, Sink.sizes, Sink.empty]

theorem mono (b : Bounded cfg s) (same : s'.batches = s.batches) (more : s.flushing ≤ s'.flushing) :
    Bounded cfg s' :=
  fun n mem => (b n (same ▸ mem)).trans (by omega)

theorem step {a : Act} (h : ClickHouseSink.step cfg s a = some s') (b : Bounded cfg s) :
    Bounded cfg s' := by
  cases a with
  | enqueue t row =>
    obtain ⟨idle, ⟨-, rfl⟩ | ⟨-, p, full, rfl⟩⟩ := step_enqueue h
    · exact b
    · intro n mem
      have count := State.flushing_setPhase idle p
      have grown := Row.push_size_le row b
      rw [State.flushing_batches]
      rcases full with ⟨rfl, full⟩ | ⟨rfl, short⟩ <;>
        rcases Row.push_sizes row s.batches n mem with old | rfl <;>
        simp only [Phase.isFlushing, if_true, Bool.false_eq_true, if_false] at count <;>
        first | omega | have := b n old; omega
  | flush who =>
    obtain ⟨-, rfl⟩ := step_flush h
    intro n mem
    simp [Sink.sizes, Sink.empty] at mem
    omega
  | send who =>
    obtain ⟨pending, sending, rfl⟩ := step_send h
    have count := State.flushing_setPhase sending .idle
    exact b.mono (by simp) (by simp only [State.flushing_posted]; simp [Phase.isFlushing] at count; omega)
  | wake =>
    obtain ⟨idle, rfl⟩ := step_wake h
    have count := State.flushing_setPhase idle (if s.running then .flushing else .done)
    exact b.mono (by simp) (by simp [Phase.isFlushing] at count; omega)
  | start t =>
    obtain ⟨idle, ⟨-, rfl⟩ | ⟨-, rfl⟩⟩ := step_start h
    · exact b
    · have count := State.flushing_setPhase idle .starting
      exact b.mono (by simp)
        (by simp only [State.flushing_running]; simp [Phase.isFlushing] at count; omega)
  | spawn t =>
    obtain ⟨starting, none, rfl⟩ := step_spawn h
    have count := State.flushing_setPhase starting .idle
    exact b.mono (by simp)
      (by rw [State.flushing_spawn (s := s.setPhase .idle (.caller t)) none]; simp [Phase.isFlushing] at count; omega)
  | stop t =>
    obtain ⟨idle, ⟨-, rfl⟩ | ⟨-, rfl⟩⟩ := step_stop h
    · have count := State.flushing_setPhase idle .joining
      exact b.mono (by simp)
        (by simp only [State.flushing_running]; simp [Phase.isFlushing] at count; omega)
    · exact b
  | joined t =>
    obtain ⟨joining, worker, rfl⟩ := step_joined h
    obtain ⟨a, c, e, e'⟩ := exists_set_of_getElem? joining .flushing
    refine b.mono rfl ?_
    simp only [State.flushing, State.threads]
    rw [e', e]
    rcases worker with worker | worker <;> simp [worker, Phase.isFlushing]

end Bounded

/-! ### The worker's life -/

/-- What the threads' phases say about the worker: `running_`, whether `worker_` is
joinable, and how many callers are inside `Start` between its exchange and its assignment,
and inside `Stop` waiting on the join. -/
structure Life where
  running : Bool
  joinable : Bool
  starting : Nat
  joining : Nat
  deriving DecidableEq

def State.life (s : State) : Life := ⟨s.running, s.worker.isSome, s.starting, s.joining⟩

/-- The situations of a sink whose `Stop`s all took their exchange outside a `Start`:
stopped; inside `Start`; running; inside `Stop`; inside `Start` while a `Stop` still waits
on the old worker. -/
def calmLives : List Life :=
  [⟨false, false, 0, 0⟩, ⟨true, false, 1, 0⟩, ⟨true, true, 0, 0⟩, ⟨false, true, 0, 1⟩,
    ⟨true, true, 1, 1⟩]

theorem calmLives_closed : ∀ l ∈ calmLives,
    (l.running = false → ⟨true, l.joinable, l.starting + 1, l.joining⟩ ∈ calmLives) ∧
    (l.joinable = false → 0 < l.starting →
      ⟨l.running, true, l.starting - 1, l.joining⟩ ∈ calmLives) ∧
    (l.running = true → l.starting = 0 →
      ⟨false, l.joinable, l.starting, l.joining + 1⟩ ∈ calmLives) ∧
    (0 < l.joining → ⟨l.running, false, l.starting, l.joining - 1⟩ ∈ calmLives) := by
  decide

theorem calmLives_starting :
    ∀ l ∈ calmLives, 0 < l.starting → (l.joinable = true ↔ 0 < l.joining) := by
  decide

/-- Whether the step is a `Stop`'s exchange taken while a `Start` is between its own exchange
and its assignment to `worker_`. -/
def Act.racesStart (s : State) : Act → Bool
  | .stop _ => s.running && 0 < s.starting
  | _ => false

/-- Whether some step of the run is such a `Stop`. -/
def racesStart (cfg : ClickHouseConfig) : State → List Act → Bool
  | _, [] => false
  | s, a :: acts => a.racesStart s ||
    match step cfg s a with
    | some s' => racesStart cfg s' acts
    | none => false

namespace State

variable {s : State} {t : Nat} {x : Phase}

theorem life_setCaller (h : s.callers[t]? = some x) (p : Phase) :
    (s.setPhase p (.caller t)).life = ⟨s.running, s.worker.isSome,
      s.starting + (if p.isStarting then 1 else 0) - (if x.isStarting then 1 else 0),
      s.joining + (if p.isJoining then 1 else 0) - (if x.isJoining then 1 else 0)⟩ := by
  have e₁ := countP_set_add h p Phase.isStarting
  have e₂ := countP_set_add h p Phase.isJoining
  simp only [life, starting, joining, setPhase, Life.mk.injEq, true_and]
  omega

theorem life_setPhase {who : Who} (h : s.phase who = some x) (p : Phase)
    (hx : x.isStarting = false ∧ x.isJoining = false)
    (hp : p.isStarting = false ∧ p.isJoining = false) : (s.setPhase p who).life = s.life := by
  cases who with
  | caller t => rw [life_setCaller h, hx.1, hx.2, hp.1, hp.2]; rfl
  | worker => simp only [life, isSome_setPhase h]; rfl

@[simp] theorem life_batches (b : Sink) : { s with batches := b }.life = s.life := rfl
@[simp] theorem life_posted (l : List Sink) : { s with posted := l }.life = s.life := rfl

theorem life_start (idle : s.callers[t]? = some .idle) :
    { s.setPhase .starting (.caller t) with running := true }.life =
      ⟨true, s.worker.isSome, s.starting + 1, s.joining⟩ :=
  congrArg (fun l : Life => { l with running := true }) (life_setCaller idle .starting)

theorem life_spawn (at_t : s.callers[t]? = some .starting) :
    { s.setPhase .idle (.caller t) with worker := some .idle }.life =
      ⟨s.running, true, s.starting - 1, s.joining⟩ :=
  congrArg (fun l : Life => { l with joinable := true }) (life_setCaller at_t .idle)

theorem life_stop (idle : s.callers[t]? = some .idle) :
    { s.setPhase .joining (.caller t) with running := false }.life =
      ⟨false, s.worker.isSome, s.starting, s.joining + 1⟩ :=
  congrArg (fun l : Life => { l with running := false }) (life_setCaller idle .joining)

theorem life_joined (at_t : s.callers[t]? = some .joining) :
    { s with worker := none, callers := s.callers.set t .flushing }.life =
      ⟨s.running, false, s.starting, s.joining - 1⟩ :=
  congrArg (fun l : Life => { l with joinable := false }) (life_setCaller at_t .flushing)

end State

/-- The sink is in one of the situations above. -/
def Lifecycle (s : State) : Prop := s.life ∈ calmLives

namespace Lifecycle

variable {cfg : ClickHouseConfig} {s s' : State}

theorem init (n : Nat) : Lifecycle (State.init n) := by
  simp [Lifecycle, State.life, State.init, State.starting, State.joining, Phase.isStarting,
    Phase.isJoining, calmLives]

theorem step {a : Act} (h : ClickHouseSink.step cfg s a = some s') (calm : a.racesStart s = false)
    (l : Lifecycle s) : Lifecycle s' := by
  obtain ⟨started, spawned, stopped, joined⟩ := calmLives_closed _ l
  cases a with
  | enqueue t row =>
    obtain ⟨idle, ⟨-, rfl⟩ | ⟨-, p, full, rfl⟩⟩ := step_enqueue h
    · exact l
    · rwa [Lifecycle, State.life_batches, State.life_setPhase idle p ⟨rfl, rfl⟩
        (by rcases full with ⟨rfl, -⟩ | ⟨rfl, -⟩ <;> exact ⟨rfl, rfl⟩)]
  | flush who =>
    obtain ⟨flushing, rfl⟩ := step_flush h
    rwa [Lifecycle, State.life_batches, State.life_setPhase flushing (.sending s.batches) ⟨rfl, rfl⟩ ⟨rfl, rfl⟩]
  | send who =>
    obtain ⟨pending, sending, rfl⟩ := step_send h
    rwa [Lifecycle, State.life_posted, State.life_setPhase sending .idle ⟨rfl, rfl⟩ ⟨rfl, rfl⟩]
  | wake =>
    obtain ⟨idle, rfl⟩ := step_wake h
    rwa [Lifecycle, State.life_setPhase idle (if s.running then .flushing else .done) ⟨rfl, rfl⟩ (by split <;> exact ⟨rfl, rfl⟩)]
  | start t =>
    obtain ⟨idle, ⟨-, rfl⟩ | ⟨clear, rfl⟩⟩ := step_start h
    · exact l
    · rw [Lifecycle, State.life_start idle]
      exact started (by simpa using clear)
  | spawn t =>
    obtain ⟨at_t, none, rfl⟩ := step_spawn h
    rw [Lifecycle, State.life_spawn at_t]
    exact spawned (by simp [State.life, none])
      (List.countP_pos_iff.2 ⟨_, List.getElem?_mem at_t, rfl⟩)
  | stop t =>
    obtain ⟨idle, ⟨running, rfl⟩ | ⟨-, rfl⟩⟩ := step_stop h
    · rw [Lifecycle, State.life_stop idle]
      exact stopped running (by simpa [Act.racesStart, running] using calm)
    · exact l
  | joined t =>
    obtain ⟨at_t, -, rfl⟩ := step_joined h
    rw [Lifecycle, State.life_joined at_t]
    exact joined (List.countP_pos_iff.2 ⟨_, List.getElem?_mem at_t, rfl⟩)

theorem run : ∀ {acts : List Act} {s s' : State}, ClickHouseSink.run cfg s acts = some s' →
    racesStart cfg s acts = false → Lifecycle s → Lifecycle s'
  | [], _, _, h, _, l => by cases h; exact l
  | _ :: _, _, _, h, calm, l => by
    obtain ⟨_, first, rest⟩ := Option.bind_eq_some.mp h
    simp only [racesStart, first, Bool.or_eq_false_iff] at calm
    exact run rest calm.2 (l.step first calm.1)

end Lifecycle

/-! ### Whole runs -/

section Runs

variable {cfg : ClickHouseConfig}

theorem run_invariant (P : State → Sink → Prop)
    (kept : ∀ {s s' : State} {a : Act} {log : Sink}, step cfg s a = some s' → P s log →
      P s' (a.log log)) :
    ∀ {acts : List Act} {s s' : State} {log : Sink}, run cfg s acts = some s' → P s log →
      P s' (acts.foldl Act.log log)
  | [], _, _, _, h, p => by cases h; exact p
  | _ :: _, _, _, _, h, p => by
    obtain ⟨_, first, rest⟩ := Option.bind_eq_some.mp h
    exact (run_invariant P kept rest (kept first p) :)

theorem run_keeps (P : State → Prop) (kept : ∀ {s s' : State} {a : Act}, step cfg s a = some s' → P s → P s')
    {acts : List Act} {s s' : State} (h : run cfg s acts = some s') (p : P s) : P s' :=
  @run_invariant cfg (fun s _ => P s) (fun step => kept step) acts s s' Sink.empty h p

variable {n : Nat} {acts : List Act} {s : State}

/-- Over every interleaving of the callers, the worker, `Start` and `Stop`, no row is lost
and none is posted twice: the batches the `FlushBatch` calls swapped out, in the order of
their swaps, followed by the four vectors, are the rows enqueued, in the order of the
critical sections; and each of those batches is posted once or still held by the
`FlushBatch` that swapped it out. -/
theorem rows_conserved (h : run cfg (State.init n) acts = some s) :
    ∃ taken : List Sink, taken.Perm (s.posted ++ s.held) ∧
      Sink.join taken ++ s.batches = enqueued acts :=
  run_invariant Conserves (fun step c => c.step step) h (Conserves.init n)

/-- Two callers and batches of two rows: the second row fills the vector, a third joins it
before either caller's `FlushBatch` takes the lock, and the first swap takes all three. -/
def raceRun : List Act :=
  [.enqueue 0 (.rollup ⟨1, 0, 0, 0, 0, 0, 0, 0, 0⟩ ⟨1, 0⟩),
   .enqueue 1 (.rollup ⟨2, 0, 0, 0, 0, 0, 0, 0, 0⟩ ⟨1, 0⟩),
   .enqueue 0 (.rollup ⟨3, 0, 0, 0, 0, 0, 0, 0, 0⟩ ⟨1, 0⟩),
   .flush (.caller 1), .flush (.caller 0), .send (.caller 0), .send (.caller 1)]

theorem rows_conserved_raceRun :
    ∃ s, run { batchSize := 2 } (State.init 2) raceRun = some s ∧
      ∃ taken : List Sink, taken.Perm (s.posted ++ s.held) ∧
        Sink.join taken ++ s.batches = enqueued raceRun :=
  ⟨_, rfl, @rows_conserved { batchSize := 2 } 2 raceRun _ rfl⟩

/-- Over every interleaving, no vector holds more than `batch_size - 1` rows plus one for
each thread between a decision to flush and the swap of its `FlushBatch`. -/
theorem batches_bounded (h : run cfg (State.init n) acts = some s) :
    ∀ m ∈ s.batches.sizes, m ≤ cfg.batchSize.toNat - 1 + s.flushing :=
  run_keeps (Bounded cfg) (fun step b => b.step step) h (Bounded.init cfg n)

theorem batches_bounded_raceRun :
    ∃ s, run { batchSize := 2 } (State.init 2) (raceRun.take 3) = some s ∧
      s.batches.sizes = [3, 0, 0, 0] ∧ s.flushing = 2 ∧
      ∀ m ∈ s.batches.sizes, m ≤ (2 : UInt64).toNat - 1 + s.flushing :=
  ⟨_, rfl, rfl, rfl, @batches_bounded { batchSize := 2 } 2 (raceRun.take 3) _ rfl⟩

/-- Over every interleaving in which no `Stop` takes its exchange inside a `Start`, a `Start`
that found `running_` clear ends in `std::terminate`, assigning to a `worker_` that is still
joinable, exactly when another caller's `Stop` has cleared `running_` and not yet returned
from `worker_.join()`. -/
theorem start_terminates_iff (h : run cfg (State.init n) acts = some s)
    (calm : racesStart cfg (State.init n) acts = false) {t : Nat}
    (starting : s.callers[t]? = some .starting) :
    step cfg s (.spawn t) = none ↔ 0 < s.joining := by
  rw [spawn_eq_none_iff starting]
  exact calmLives_starting _ (Lifecycle.run h calm (Lifecycle.init n))
    (List.countP_pos_iff.2 ⟨_, List.getElem?_mem starting, rfl⟩)

theorem start_terminates_iff_stopping :
    ∃ s, run {} (State.init 2) [.start 0, .spawn 0, .stop 0, .start 1] = some s ∧
      racesStart {} (State.init 2) [.start 0, .spawn 0, .stop 0, .start 1] = false ∧
      s.callers[1]? = some .starting ∧ (step {} s (.spawn 1) = none ↔ 0 < s.joining) :=
  ⟨_, rfl, rfl, rfl, @start_terminates_iff {} 2 [.start 0, .spawn 0, .stop 0, .start 1] _ rfl rfl 1 rfl⟩

end Runs

end ClickHouseSink


end MicroSentinel
