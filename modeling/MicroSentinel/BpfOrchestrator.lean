import MicroSentinel.Config

/-! `BpfOrchestrator` (`bpf_orchestrator.cpp`, the libbpf build with perf-event cookies)
once `LoadBpfObject` has found every program and map: the PMU groups it attaches, its
perf links with their BPF cookies, and what it wrote to the kernel's maps. Every
system call of one orchestrator call is answered by a `Kernel`, attempt by attempt. -/
namespace MicroSentinel

/-- `ms_tb_cfg`. -/
structure TbCfg where
  maxSamplesPerSec : UInt64
  hardDropThreshold : UInt64
  deriving DecidableEq, Repr

/-- The `ms_tb_cfg` that `ConfigureTokenBucket(samples_per_sec, hard_drop_ns)` writes. -/
def TbCfg.of (samplesPerSec hardDropNs : UInt64) : TbCfg :=
  ⟨samplesPerSec, if hardDropNs ≠ 0 then hardDropNs else msFlowSkidNs * 4⟩

/-- `PerfAttach`: the perf event opened for `event` on `cpu`, its BPF link, and the cookie
it was attached with (0 in legacy mode). -/
structure PerfAttach where
  cpu : Int
  event : PmuEventDesc
  cookie : UInt64
  deriving DecidableEq, Repr

/-- The maps as the kernel holds them: `ms_tb_cfg_map[0]`, `ms_tb_ctrl_map[0].cfg_seq`,
`ms_event_cookie` and `ms_active_event[0]`; `none` until the agent writes one. -/
structure KernelMaps where
  tbCfg : Option TbCfg
  tbCtrlSeq : Option UInt64
  cookies : List (UInt64 × UInt32)
  activeEvent : Option UInt32
  deriving DecidableEq, Repr

inductive AttachOutcome where
  | attached
  | notSupported
  | failed
  deriving DecidableEq, Repr

/-- The kernel's answers to one orchestrator call: the two token-bucket map updates, and
for the `i`-th (event, CPU) attempt of the attach loops, `perf_event_open`,
`bpf_program__attach_perf_event_opts` and the cookie write; the legacy loop has its own
answers per CPU. -/
structure Kernel where
  tbCfgUpdate : Bool
  tbCtrlUpdate : Bool
  perfEventOpen : Nat → Bool
  attachPerfEvent : Nat → AttachOutcome
  cookieUpdate : Nat → Bool
  activeEventUpdate : Bool
  legacyOpen : Nat → Bool
  legacyAttach : Nat → Bool

/-- Every system call succeeds. -/
def Kernel.allOk : Kernel :=
  ⟨true, true, fun _ => true, fun _ => .attached, fun _ => true, true, fun _ => true,
    fun _ => true⟩

/-- `size_t(-1)`, "no limit" for `max_events_per_group_`. -/
def noEventLimit : UInt64 := 18446744073709551615

structure BpfOrchestrator where
  cfg : PerfConsumerConfig
  cpus : List Int
  maps : KernelMaps
  perfLinks : List PerfAttach
  nextCookie : UInt64
  tbCfgSeq : UInt64
  ready : Bool
  cookieSupported : Bool
  /-- `cookie_map_fd_ >= 0`. -/
  cookieMapFd : Bool
  activeGroups : List PmuGroupConfig
  activeGroupIndex : Nat
  maxEventsPerGroup : UInt64

namespace BpfOrchestrator

/-- The orchestrator `LoadBpfObject` leaves: nothing written or attached yet. -/
def loaded (cfg : PerfConsumerConfig) (cpus : List Int) (cookieMapFd : Bool) : BpfOrchestrator :=
  ⟨cfg, cpus, ⟨none, none, [], none⟩, [], 1, 0, false, cookieMapFd, cookieMapFd, [], 0,
    noEventLimit⟩

def configureTokenBucket (o : BpfOrchestrator) (k : Kernel) (samplesPerSec hardDropNs : UInt64) :
    BpfOrchestrator × Bool :=
  if !k.tbCfgUpdate then (o, false)
  else
    let o := { o with maps.tbCfg := some (TbCfg.of samplesPerSec hardDropNs),
                      tbCfgSeq := o.tbCfgSeq + 1 }
    if !k.tbCtrlUpdate then (o, false) else ({ o with maps.tbCtrlSeq := some o.tbCfgSeq }, true)

/-- The rest of `Init` once the object is loaded and the context programs attached. -/
def init (o : BpfOrchestrator) (k : Kernel) : BpfOrchestrator × Bool :=
  let r := o.configureTokenBucket k o.cfg.sentinelSampleBudget o.cfg.hardDropNs
  if r.2 then ({ r.1 with ready := true }, true) else r

/-- `bpf_map_delete_elem` on the cookie map. -/
def deleteCookie (cookies : List (UInt64 × UInt32)) (cookie : UInt64) : List (UInt64 × UInt32) :=
  cookies.filter (·.1 ≠ cookie)

def detachPerfGroups (o : BpfOrchestrator) : BpfOrchestrator :=
  { o with
    perfLinks := [],
    maps.cookies := o.perfLinks.foldl (fun cookies a =>
      if o.cookieMapFd ∧ a.cookie ≠ 0 then deleteCookie cookies a.cookie else cookies) o.maps.cookies }

/-- `WriteCookie`: the map after the binding is written, or `none` where it fails. -/
def writeCookie (o : BpfOrchestrator) (written : Bool) (cookie : UInt64) (evt : UInt32) :
    Option KernelMaps :=
  if !o.cookieSupported || !o.cookieMapFd then none
  else if written then some { o.maps with cookies := (cookie, evt) :: deleteCookie o.maps.cookies cookie }
  else none

/-- The events of a group the attach loop reaches before its `break`. -/
def limitEvents (limit : UInt64) (events : List PmuEventDesc) : List PmuEventDesc :=
  if limit ≠ noEventLimit then events.take limit.toNat else events

/-- The (event, CPU) attempts of the cookie-mode loops, in order. -/
def attempts (o : BpfOrchestrator) (groups : List PmuGroupConfig) : List (PmuEventDesc × Int) :=
  groups.flatMap fun g => (limitEvents o.maxEventsPerGroup g.events).flatMap fun e =>
    o.cpus.map fun cpu => (e, cpu)

/-- How the cookie-mode loops end: all attempts made, with the next cookie, or an
`EOPNOTSUPP` attach that sends the call to legacy mode. -/
inductive AttachRun where
  | done (o : BpfOrchestrator) (cookie : UInt64)
  | fallback (o : BpfOrchestrator)

def attachEach (k : Kernel) : Nat → List (PmuEventDesc × Int) → BpfOrchestrator → UInt64 →
    AttachRun
  | _, [], o, cookie => .done o cookie
  | i, (evt, cpu) :: rest, o, cookie =>
    if !k.perfEventOpen i then attachEach k (i + 1) rest o cookie
    else match k.attachPerfEvent i with
      | .notSupported => .fallback o
      | .failed => attachEach k (i + 1) rest o cookie
      | .attached =>
        match o.writeCookie (k.cookieUpdate i) cookie evt.logical with
        | none => attachEach k (i + 1) rest o cookie
        | some maps =>
          attachEach k (i + 1) rest
            { o with maps := maps, perfLinks := o.perfLinks ++ [⟨cpu, evt, cookie⟩] } (cookie + 1)

/-- The legacy loop: the first event of the first group on every CPU. -/
def attachLegacyEach (k : Kernel) (evt : PmuEventDesc) : Nat → List Int → List PerfAttach
  | _, [] => []
  | j, cpu :: rest =>
    (if k.legacyOpen j && k.legacyAttach j then [⟨cpu, evt, 0⟩] else []) ++
      attachLegacyEach k evt (j + 1) rest

def attachPerfGroupsLegacy (o : BpfOrchestrator) (k : Kernel) (groups : List PmuGroupConfig) :
    BpfOrchestrator × Bool :=
  match groups with
  | { events := evt :: _, .. } :: _ =>
    if !k.activeEventUpdate then (o, false)
    else
      let links := o.perfLinks ++ attachLegacyEach k evt 0 o.cpus
      ({ o with maps.activeEvent := some evt.logical, perfLinks := links }, !links.isEmpty)
  | _ => (o, false)

def attachPerfGroups (o : BpfOrchestrator) (k : Kernel) (groups : List PmuGroupConfig) :
    BpfOrchestrator × Bool :=
  let o := o.detachPerfGroups
  if !o.cookieSupported then o.attachPerfGroupsLegacy k groups
  else match attachEach k 0 (o.attempts groups) o o.nextCookie with
    | .fallback o' => { o' with cookieSupported := false }.detachPerfGroups.attachPerfGroupsLegacy k groups
    | .done o' cookie => ({ o' with nextCookie := cookie }, !o'.perfLinks.isEmpty)

def groupsFor (o : BpfOrchestrator) : AgentMode → List PmuGroupConfig
  | .sentinel => o.cfg.sentinelGroups
  | .diagnostic => o.cfg.diagnosticGroups

def budgetFor (o : BpfOrchestrator) : AgentMode → UInt64
  | .sentinel => o.cfg.sentinelSampleBudget
  | .diagnostic => o.cfg.diagnosticSampleBudget

/-- `SwitchMode`. After the attach, `active_groups_.clear()` runs whatever `ok` is: the
`if (!ok)` guards only the log line before it. -/
def switchMode (o : BpfOrchestrator) (k : Kernel) (mode : AgentMode) : BpfOrchestrator × Bool :=
  match o.groupsFor mode with
  | [] => (o, false)
  | first :: rest =>
    let tb := o.configureTokenBucket k (o.budgetFor mode) o.cfg.hardDropNs
    if !tb.2 then (tb.1, false)
    else
      let attach := { tb.1 with activeGroups := first :: rest, activeGroupIndex := 0 }.attachPerfGroups
        k [first]
      ({ attach.1 with activeGroups := [] }, attach.2)

def rotateToGroup (o : BpfOrchestrator) (k : Kernel) (index : Nat) : BpfOrchestrator × Bool :=
  match o.activeGroups[index]? with
  | some group =>
    if !o.ready then (o, false)
    else
      let attach := o.attachPerfGroups k [group]
      if !attach.2 then (attach.1, false) else ({ attach.1 with activeGroupIndex := index }, true)
  | none => (o, false)

def updateSampleBudget (o : BpfOrchestrator) (k : Kernel) (mode : AgentMode)
    (sentinelBudget diagnosticBudget hardDropNs : UInt64) : BpfOrchestrator × Bool :=
  let activeBudget := if mode = .sentinel then sentinelBudget else diagnosticBudget
  if !o.ready || activeBudget = 0 then (o, false)
  else
    { o with cfg.sentinelSampleBudget := sentinelBudget,
             cfg.diagnosticSampleBudget := diagnosticBudget,
             cfg.hardDropNs := hardDropNs }.configureTokenBucket k activeBudget hardDropNs

def updateGroupConfig (o : BpfOrchestrator) (sentinel diagnostic : Option (List PmuGroupConfig)) :
    BpfOrchestrator :=
  let o := match sentinel with
    | some groups@(_ :: _) => { o with cfg.sentinelGroups := groups }
    | _ => o
  match diagnostic with
  | some groups@(_ :: _) => { o with cfg.diagnosticGroups := groups }
  | _ => o

def setMaxEventsPerGroup (o : BpfOrchestrator) (k : Kernel) (limit : UInt64) : BpfOrchestrator :=
  let o := { o with maxEventsPerGroup := if limit = 0 then noEventLimit else limit }
  if !o.ready then o
  else match o.activeGroups[min o.activeGroupIndex (o.activeGroups.length - 1)]? with
    | some group => (o.attachPerfGroups k [group]).1
    | none => o

def syncBudgetConfig (o : BpfOrchestrator) (sentinelBudget diagnosticBudget hardDropNs : UInt64) :
    BpfOrchestrator :=
  { o with cfg.sentinelSampleBudget := sentinelBudget,
           cfg.diagnosticSampleBudget := diagnosticBudget,
           cfg.hardDropNs := hardDropNs }

def activeGroupCount (o : BpfOrchestrator) : Nat := o.activeGroups.length

def currentGroupIndex (o : BpfOrchestrator) : Nat := o.activeGroupIndex

/-! ### What each call changes -/

/-- What the token-bucket invariant reads of the orchestrator. -/
def bucketFrame (o : BpfOrchestrator) : PerfConsumerConfig × Bool × Option TbCfg :=
  (o.cfg, o.ready, o.maps.tbCfg)

/-- What attaching perf events leaves alone: the bucket frame, the active groups and their
index. -/
def attachFrame (o : BpfOrchestrator) :
    (PerfConsumerConfig × Bool × Option TbCfg) × List PmuGroupConfig × Nat :=
  (o.bucketFrame, o.activeGroups, o.activeGroupIndex)

/-- The orchestrator a cookie-mode attach run ends in. -/
def AttachRun.state : AttachRun → BpfOrchestrator
  | .done o _ => o
  | .fallback o => o

theorem writeCookie_tbCfg {o : BpfOrchestrator} {written : Bool} {cookie : UInt64}
    {evt : UInt32} {maps : KernelMaps} (h : o.writeCookie written cookie evt = some maps) :
    maps.tbCfg = o.maps.tbCfg := by
  unfold writeCookie at h
  split_ifs at h
  cases h
  rfl

theorem attachFrame_attachEach (k : Kernel) (i : Nat) (atts : List (PmuEventDesc × Int))
    (o : BpfOrchestrator) (cookie : UInt64) :
    (attachEach k i atts o cookie).state.attachFrame = o.attachFrame := by
  induction atts generalizing i o cookie with
  | nil => rfl
  | cons att rest ih =>
    obtain ⟨evt, cpu⟩ := att
    unfold attachEach
    split
    · exact ih ..
    · split
      · rfl
      · exact ih ..
      · split
        · exact ih ..
        · rename_i maps written
          rw [ih]
          simp only [attachFrame, bucketFrame, writeCookie_tbCfg written]

theorem attachFrame_attachPerfGroupsLegacy (o : BpfOrchestrator) (k : Kernel)
    (groups : List PmuGroupConfig) :
    (o.attachPerfGroupsLegacy k groups).1.attachFrame = o.attachFrame := by
  unfold attachPerfGroupsLegacy
  split
  · split <;> rfl
  · rfl

theorem perfLinks_attachPerfGroupsLegacy (o : BpfOrchestrator) (k : Kernel)
    (groups : List PmuGroupConfig) (empty : o.perfLinks = [])
    (failed : (o.attachPerfGroupsLegacy k groups).2 = false) :
    (o.attachPerfGroupsLegacy k groups).1.perfLinks = [] := by
  unfold attachPerfGroupsLegacy at failed ⊢
  split at failed
  · cases active : k.activeEventUpdate <;> simp_all
  · exact empty

theorem attachFrame_attachPerfGroups (o : BpfOrchestrator) (k : Kernel)
    (groups : List PmuGroupConfig) :
    (o.attachPerfGroups k groups).1.attachFrame = o.attachFrame := by
  unfold attachPerfGroups
  dsimp only
  split
  · exact attachFrame_attachPerfGroupsLegacy ..
  · have run := attachFrame_attachEach k 0 (o.detachPerfGroups.attempts groups)
      o.detachPerfGroups o.detachPerfGroups.nextCookie
    split
    · rename_i ended
      rw [ended] at run
      rw [attachFrame_attachPerfGroupsLegacy]
      exact run
    · rename_i ended
      rw [ended] at run
      exact run

theorem perfLinks_attachPerfGroups (o : BpfOrchestrator) (k : Kernel)
    (groups : List PmuGroupConfig) (failed : (o.attachPerfGroups k groups).2 = false) :
    (o.attachPerfGroups k groups).1.perfLinks = [] := by
  unfold attachPerfGroups at failed ⊢
  dsimp only at failed ⊢
  split
  · exact perfLinks_attachPerfGroupsLegacy _ _ _ rfl (by simp_all)
  · split
    · exact perfLinks_attachPerfGroupsLegacy _ _ _ rfl (by simp_all)
    · simp_all

theorem configureTokenBucket_refused (o : BpfOrchestrator) (k : Kernel)
    (samplesPerSec hardDropNs : UInt64) (refused : k.tbCfgUpdate = false) :
    o.configureTokenBucket k samplesPerSec hardDropNs = (o, false) := by
  simp [configureTokenBucket, refused]

theorem configureTokenBucket_written (o : BpfOrchestrator) (k : Kernel)
    (samplesPerSec hardDropNs : UInt64) (ok : k.tbCfgUpdate = true) :
    ∃ seq, (o.configureTokenBucket k samplesPerSec hardDropNs).1 =
      { o with maps := { o.maps with tbCfg := some (TbCfg.of samplesPerSec hardDropNs),
                                     tbCtrlSeq := seq },
               tbCfgSeq := o.tbCfgSeq + 1 } := by
  unfold configureTokenBucket
  simp only [ok, Bool.not_true, Bool.false_eq_true, if_false]
  split
  · exact ⟨o.maps.tbCtrlSeq, rfl⟩
  · exact ⟨some (o.tbCfgSeq + 1), rfl⟩

theorem cfg_init (o : BpfOrchestrator) (k : Kernel) : (o.init k).1.cfg = o.cfg := by
  unfold init
  cases ok : k.tbCfgUpdate
  · simp only [configureTokenBucket_refused _ _ _ _ ok]
    rfl
  · obtain ⟨seq, written⟩ := configureTokenBucket_written o k o.cfg.sentinelSampleBudget
      o.cfg.hardDropNs ok
    dsimp only
    split <;> simp only [written]

theorem switchMode_cases (o : BpfOrchestrator) (k : Kernel) (mode : AgentMode) :
    (o.switchMode k mode = (o, false) ∧ (o.groupsFor mode = [] ∨ k.tbCfgUpdate = false)) ∨
    (o.groupsFor mode ≠ [] ∧ k.tbCfgUpdate = true ∧
      (o.switchMode k mode).1.bucketFrame =
        (o.cfg, o.ready, some (TbCfg.of (o.budgetFor mode) o.cfg.hardDropNs)) ∧
      (((o.switchMode k mode).2 = false ∧ (o.switchMode k mode).1.perfLinks = o.perfLinks ∧
          (o.switchMode k mode).1.activeGroups = o.activeGroups ∧
          (o.switchMode k mode).1.activeGroupIndex = o.activeGroupIndex) ∨
        ((o.switchMode k mode).1.activeGroups = [] ∧ (o.switchMode k mode).1.activeGroupIndex = 0 ∧
          ((o.switchMode k mode).2 = false → (o.switchMode k mode).1.perfLinks = [])))) := by
  rcases groups : o.groupsFor mode with _ | ⟨first, rest⟩
  · exact .inl ⟨by simp [switchMode, groups], .inl rfl⟩
  cases ok : k.tbCfgUpdate
  · exact .inl ⟨by simp [switchMode, groups, configureTokenBucket_refused _ _ _ _ ok], .inr rfl⟩
  right
  refine ⟨by simp, rfl, ?_⟩
  obtain ⟨seq, written⟩ := configureTokenBucket_written o k (o.budgetFor mode) o.cfg.hardDropNs ok
  have unfolded : o.switchMode k mode =
      let tb := o.configureTokenBucket k (o.budgetFor mode) o.cfg.hardDropNs
      if !tb.2 then (tb.1, false)
      else
        let attach := { tb.1 with activeGroups := first :: rest, activeGroupIndex := 0 }
          |>.attachPerfGroups k [first]
        ({ attach.1 with activeGroups := [] }, attach.2) := by
    simp only [switchMode, groups]
  rw [unfolded]
  dsimp only
  split
  · rw [written]
    exact ⟨rfl, .inl ⟨rfl, rfl, rfl, rfl⟩⟩
  · have frame := attachFrame_attachPerfGroups
      { (o.configureTokenBucket k (o.budgetFor mode) o.cfg.hardDropNs).1 with
        activeGroups := first :: rest, activeGroupIndex := 0 } k [first]
    rw [written] at frame ⊢
    simp only [attachFrame, bucketFrame, Prod.mk.injEq] at frame
    exact ⟨by simp only [bucketFrame, frame], .inr ⟨rfl, frame.2.2, perfLinks_attachPerfGroups _ _ _⟩⟩

theorem rotateToGroup_cases (o : BpfOrchestrator) (k : Kernel) (index : Nat) :
    (o.rotateToGroup k index).1.bucketFrame = o.bucketFrame ∧
    ((o.rotateToGroup k index).2 = false → (o.rotateToGroup k index).1 = o ∨
      (o.rotateToGroup k index).1.perfLinks = [] ∧
        (o.rotateToGroup k index).1.attachFrame = o.attachFrame) := by
  unfold rotateToGroup
  split
  · rename_i group _
    split
    · exact ⟨rfl, fun _ => .inl rfl⟩
    · have frame := attachFrame_attachPerfGroups o k [group]
      dsimp only
      split
      · rename_i failed
        exact ⟨congrArg Prod.fst frame,
          fun _ => .inr ⟨perfLinks_attachPerfGroups _ _ _ (by simpa using failed), frame⟩⟩
      · exact ⟨congrArg Prod.fst frame, fun h => Bool.noConfusion h⟩
  · exact ⟨rfl, fun _ => .inl rfl⟩

theorem bucketFrame_setMaxEventsPerGroup (o : BpfOrchestrator) (k : Kernel) (limit : UInt64) :
    (o.setMaxEventsPerGroup k limit).bucketFrame = o.bucketFrame := by
  unfold setMaxEventsPerGroup
  dsimp only
  split
  · rfl
  · split
    · exact congrArg Prod.fst (attachFrame_attachPerfGroups _ k _)
    · rfl

end BpfOrchestrator

end MicroSentinel
