import MicroSentinel.ModeController

/-! `AnomalyMonitor` (`anomaly_monitor.cpp`): the worker that samples the interfaces' byte
counters and a latency probe every `sample_interval`, keeps an EWMA baseline of each, and
hands the callback a signal when the throughput drops or the latency spikes. A wake-up of
`Run` is a `Reading`: what `ReadInterfaceBytes` and `ReadLatencyMicros` return, the
`steady_clock` time in seconds and `SteadyNowNs()`. The callback is the one `Start` set.
Arithmetic on `double` is exact over the rationals. `ReadInterfaceBytes` itself is modelled last,
on the text of `/proc/net/dev`. -/
namespace MicroSentinel

/-- `std::clamp(v, lo, hi)`. -/
def clamp (v lo hi : ℚ) : ℚ := if v < lo then lo else if hi < v then hi else v

/-- What `MaybeEmitThroughput` and `MaybeEmitLatency` keep between calls. -/
structure AnomalyMonitor where
  throughputReady : Bool := false
  throughputBaseline : ℚ := 0
  lastThroughputEmit : UInt64 := 0
  latencyReady : Bool := false
  latencyBaseline : ℚ := 0
  lastLatencyEmit : UInt64 := 0

namespace AnomalyMonitor

/-- `MaybeEmitThroughput(bps, now_ns)`: the first rate seeds the baseline; each later one
joins the EWMA before its ratio to the baseline is tested. -/
def maybeEmitThroughput (cfg : AnomalyDetectorConfig) (m : AnomalyMonitor) (bps : ℚ)
    (nowNs : UInt64) : AnomalyMonitor × Option AnomalySignal :=
  if !m.throughputReady then ({ m with throughputBaseline := bps, throughputReady := true }, none)
  else
    let alpha := clamp cfg.throughputEwmaAlpha (1 / 100) (9 / 10)
    let m := { m with throughputBaseline := alpha * bps + (1 - alpha) * m.throughputBaseline }
    let ratio := bps / max m.throughputBaseline 1
    if ratio < cfg.throughputRatioTrigger then
      if nowNs - m.lastThroughputEmit < cfg.refractoryPeriod * 1000000 then (m, none)
      else ({ m with lastThroughputEmit := nowNs }, some ⟨.throughputDrop, ratio, bps, nowNs⟩)
    else (m, none)

/-- `MaybeEmitLatency(latency_us, now_ns)`: the same EWMA on the latency, which signals
above its trigger instead of below. -/
def maybeEmitLatency (cfg : AnomalyDetectorConfig) (m : AnomalyMonitor) (latencyUs : ℚ)
    (nowNs : UInt64) : AnomalyMonitor × Option AnomalySignal :=
  if !m.latencyReady then ({ m with latencyBaseline := latencyUs, latencyReady := true }, none)
  else
    let alpha := clamp cfg.latencyEwmaAlpha (1 / 100) (9 / 10)
    let m := { m with latencyBaseline := alpha * latencyUs + (1 - alpha) * m.latencyBaseline }
    let ratio := latencyUs / max m.latencyBaseline 1
    if ratio > cfg.latencyRatioTrigger then
      if nowNs - m.lastLatencyEmit < cfg.refractoryPeriod * 1000000 then (m, none)
      else ({ m with lastLatencyEmit := nowNs }, some ⟨.latencySpike, ratio, latencyUs, nowNs⟩)
    else (m, none)

/-- One wake-up of `Run`: the summed receive bytes `ReadInterfaceBytes` returns (`none` when
it fails), `steady_clock::now()` in seconds, `SteadyNowNs()`, and the latency
`ReadLatencyMicros` returns. -/
structure Reading where
  bytes : Option UInt64
  time : ℚ
  nowNs : UInt64
  latencyUs : Option ℚ

/-- The locals of `Run` and the monitor they drive. -/
structure Run where
  prevBytes : UInt64 := 0
  hasPrev : Bool := false
  prevTime : ℚ
  monitor : AnomalyMonitor := {}

/-- One pass of `Run`'s loop: a failed byte read skips the pass; the first reading only
records; a later one hands `MaybeEmitThroughput` the rate when time passed and the counter
grew, then the latency goes to `MaybeEmitLatency`. -/
def Run.step (cfg : AnomalyDetectorConfig) (s : Run) (r : Reading) :
    Run × List AnomalySignal :=
  match r.bytes with
  | none => (s, [])
  | some cur =>
    let (m, throughput) :=
      if s.hasPrev then
        let delta := if cur ≥ s.prevBytes then cur - s.prevBytes else 0
        let deltaTime := r.time - s.prevTime
        if deltaTime > 0 ∧ delta > 0 then
          maybeEmitThroughput cfg s.monitor (delta.toNat / deltaTime) r.nowNs
        else (s.monitor, none)
      else (s.monitor, none)
    let (m, latency) := match r.latencyUs with
      | some us => maybeEmitLatency cfg m us r.nowNs
      | none => (m, none)
    ({ prevBytes := cur, hasPrev := true, prevTime := r.time, monitor := m },
      throughput.toList ++ latency.toList)

/-- `Run` over the readings, with the signals handed to the callback in order. -/
def Run.run (cfg : AnomalyDetectorConfig) : Run → List Reading → Run × List AnomalySignal
  | s, [] => (s, [])
  | s, r :: rs =>
    let step := s.step cfg r
    let rest := step.1.run cfg rs
    (rest.1, step.2 ++ rest.2)

theorem maybeEmitLatency_type (cfg : AnomalyDetectorConfig) (m : AnomalyMonitor)
    (latencyUs : ℚ) (nowNs : UInt64) :
    ∀ signal ∈ (maybeEmitLatency cfg m latencyUs nowNs).2, signal.type = .latencySpike := by
  unfold maybeEmitLatency
  dsimp only
  split_ifs <;> simp

theorem step_of_not_grown (cfg : AnomalyDetectorConfig) (s : Run) (r : Reading) {cur : UInt64}
    (read : r.bytes = some cur) (flat : cur ≤ s.prevBytes) :
    ∀ signal ∈ (s.step cfg r).2, signal.type = .latencySpike := by
  have zero : (if cur ≥ s.prevBytes then cur - s.prevBytes else 0) = 0 := by
    split_ifs with ge
    · exact u64_eq.2 (by rw [UInt64.toNat_sub_of_le _ _ ge]; exact Nat.sub_eq_zero_of_le flat)
    · rfl
  unfold Run.step
  rw [read]
  simp only [zero, gt_iff_lt, UInt64.lt_irrefl, and_false, if_false, ite_self]
  cases r.latencyUs with
  | none => simp
  | some us => simpa using maybeEmitLatency_type cfg s.monitor us r.nowNs

/-! ### `ReadInterfaceBytes` -/

/-- `stream >> value` into a `uint64_t`, as libstdc++'s `num_get` reads it: `strtoull` in base
10, but 0 where no digit is read and the largest value where the digits overflow. -/
def extractUInt64 (text : List Char) : UInt64 :=
  let rest := text.dropWhile isSpace
  let digits := (rest.drop (signLength rest)).takeWhile Char.isDigit
  if digits = [] then 0
  else if 2 ^ 64 ≤ decimalValue digits then UInt64.ofNat (2 ^ 64 - 1)
  else
    let magnitude := UInt64.ofNat (decimalValue digits)
    if rest.head? = some '-' then 0 - magnitude else magnitude

/-- One pass of the loop of `ReadInterfaceBytes`: a line with a colon whose trimmed name the
configuration lets through (every name when `interfaces` is empty) gives the number `>>` reads
after the colon. -/
def interfaceLineBytes (cfg : AnomalyDetectorConfig) (line : List Char) : Option UInt64 :=
  if ':' ∈ line then
    let name := line.takeWhile (· ≠ ':')
    if cfg.interfaces ≠ [] ∧ trim (String.mk name) ∉ cfg.interfaces then none
    else some (extractUInt64 (line.drop (name.length + 1)))
  else none

/-- `ReadInterfaceBytes` on the text of `/proc/net/dev` (`none` where the stream is not good):
past the two header lines, the numbers of the lines that count, summed modulo 2^64; `none`
(false) where no line counts. -/
def readInterfaceBytes (cfg : AnomalyDetectorConfig) : Option (List Char) → Option UInt64
  | none => none
  | some text =>
    let counted := ((getlines text).drop 2).filterMap (interfaceLineBytes cfg)
    if counted = [] then none else some (counted.foldl (· + ·) 0)

/-- The header lines `dev_seq_show` prints before the devices. -/
def netDevHeader : List (List Char) :=
  ["Inter-|   Receive                                                |  Transmit".toList,
    (" face |bytes    packets errs drop fifo frame compressed multicast|bytes    packets errs " ++
      "drop fifo colls carrier compressed").toList]

/-- A device as `dev_seq_printf_stats` prints it: `%6s:` for the name, ` %7llu` for the
received bytes, then the other counters, each after a space. -/
structure NetDevice where
  name : List Char
  rxBytes : UInt64
  counters : List Char
  nameWord : name ≠ [] ∧ ∀ c ∈ name, isSpace c = false ∧ c ≠ ':'
  countersLine : counters.head? = some ' ' ∧ '\n' ∉ counters
  deriving DecidableEq

/-- The device's line, without its newline. -/
def NetDevice.text (d : NetDevice) : List Char :=
  (List.replicate (6 - d.name.length) ' ' ++ d.name) ++ ':' :: ' ' ::
    (List.replicate (7 - (toString d.rxBytes).length) ' ' ++ (toString d.rxBytes).toList ++
      d.counters)

/-- `/proc/net/dev` for the devices: the header, then a line for each device. -/
def netDevFile (devices : List NetDevice) : List Char :=
  (netDevHeader ++ devices.map NetDevice.text).flatMap (· ++ ['\n'])

theorem dropWhile_of_forall {p : Char → Bool} {l : List Char} (kept : ∀ c ∈ l, p c = false) :
    l.dropWhile p = l := by
  cases l with
  | nil => rfl
  | cons c cs => exact List.dropWhile_cons_of_neg (by simp [kept c (List.mem_cons_self c cs)])

theorem extractUInt64_toString (n : UInt64) {spaces rest : List Char}
    (blank : ∀ c ∈ spaces, c = ' ') (stop : rest.head? = some ' ') :
    extractUInt64 (spaces ++ (toString n).toList ++ rest) = n := by
  obtain ⟨named, digits, value⟩ := decimalValue_toString n.toNat
  obtain ⟨c, cs, eq⟩ := List.exists_cons_of_ne_nil named
  obtain ⟨r, rs, rfl⟩ : ∃ r rs, rest = r :: rs := by
    cases rest with
    | nil => cases stop
    | cons r rs => exact ⟨r, rs, rfl⟩
  have lead : c.isDigit := digits c (eq ▸ List.mem_cons_self c cs)
  have minus : c ≠ '-' := by rintro rfl; exact absurd lead (by decide)
  have start : (spaces ++ (toString n).toList ++ r :: rs).dropWhile isSpace =
      c :: (cs ++ r :: rs) := by
    rw [List.append_assoc, List.dropWhile_append_of_pos fun c mem => by simp [blank c mem, isSpace],
      show (toString n).toList = c :: cs from eq, List.cons_append,
      List.dropWhile_cons_of_neg (by simp [isSpace_of_isDigit lead])]
  have run : (c :: (cs ++ r :: rs)).takeWhile Char.isDigit = c :: cs := by
    rw [← List.cons_append, List.takeWhile_append_of_pos fun x mem => digits x (eq ▸ mem)]
    simp [Option.some.inj stop]
  simp only [extractUInt64, start, signLength_cons _ minus (by rintro rfl; exact absurd lead (by decide)),
    List.drop_zero, run]
  rw [← eq, value, if_neg named, if_neg (show ¬2 ^ 64 ≤ n.toNat from not_le.2 n.toNat_lt_size),
    List.head?_cons,
    if_neg (by simpa using minus)]
  exact UInt64.toNat.inj (Nat.mod_eq_of_lt n.toNat_lt_size)

theorem NetDevice.newline_not_mem_text (d : NetDevice) : '\n' ∉ d.text := by
  have name : '\n' ∉ d.name := fun mem => by simpa [isSpace] using (d.nameWord.2 _ mem).1
  have digits : '\n' ∉ (toString d.rxBytes).data := fun mem => by
    simpa using (decimalValue_toString d.rxBytes.toNat).2.1 _ mem
  simp [NetDevice.text, name, digits, d.countersLine.2]

theorem interfaceLineBytes_text (cfg : AnomalyDetectorConfig) (d : NetDevice) :
    interfaceLineBytes cfg d.text =
      if cfg.interfaces = [] ∨ String.mk d.name ∈ cfg.interfaces then some d.rxBytes else none := by
  obtain ⟨-, word⟩ := d.nameWord
  have pad : ∀ c ∈ List.replicate (6 - d.name.length) ' ', c = ' ' :=
    fun c mem => (List.mem_replicate.1 mem).2
  have name : d.text.takeWhile (· ≠ ':') = List.replicate (6 - d.name.length) ' ' ++ d.name := by
    rw [NetDevice.text, List.takeWhile_append_of_pos]
    · simp
    · intro c mem
      rcases List.mem_append.1 mem with mem | mem
      · simp [pad c mem]
      · simp [(word c mem).2]
  have trimmed : trim (String.mk (List.replicate (6 - d.name.length) ' ' ++ d.name)) =
      String.mk d.name := by
    rw [trim]
    congr 1
    show ((((List.replicate (6 - d.name.length) ' ' ++ d.name).dropWhile isSpace).reverse).dropWhile
      isSpace).reverse = d.name
    rw [List.dropWhile_append_of_pos fun c mem => by simp [pad c mem, isSpace],
      dropWhile_of_forall fun c mem => (word c mem).1,
      dropWhile_of_forall fun c mem => (word c (List.mem_reverse.1 mem)).1, List.reverse_reverse]
  have after : d.text.drop ((List.replicate (6 - d.name.length) ' ' ++ d.name).length + 1) =
      (' ' :: List.replicate (7 - (toString d.rxBytes).length) ' ') ++ (toString d.rxBytes).toList ++
        d.counters := by
    rw [NetDevice.text, drop_past]
    rfl
  have counter : extractUInt64 ((' ' :: List.replicate (7 - (toString d.rxBytes).length) ' ') ++
      (toString d.rxBytes).toList ++ d.counters) = d.rxBytes :=
    extractUInt64_toString d.rxBytes (fun c mem => by
      rcases List.mem_cons.1 mem with rfl | mem
      · rfl
      · exact (List.mem_replicate.1 mem).2)
    d.countersLine.1
  rw [interfaceLineBytes, if_pos (by simp [NetDevice.text])]
  simp only [name, trimmed, after, counter]
  by_cases allowed : cfg.interfaces = [] ∨ String.mk d.name ∈ cfg.interfaces
  · rw [if_pos allowed, if_neg (by tauto)]
  · rw [if_neg allowed, if_pos (by tauto)]

theorem getlines_netDevFile (devices : List NetDevice) :
    getlines (netDevFile devices) = netDevHeader ++ devices.map NetDevice.text :=
  getlines_flatMap _ fun l mem => by
    rcases List.mem_append.1 mem with header | device
    · exact (by decide : ∀ l ∈ netDevHeader, '\n' ∉ l) l header
    · obtain ⟨d, -, rfl⟩ := List.mem_map.1 device
      exact d.newline_not_mem_text

theorem filterMap_interfaceLineBytes (cfg : AnomalyDetectorConfig) (devices : List NetDevice) :
    (devices.map NetDevice.text).filterMap (interfaceLineBytes cfg) =
      (devices.filter fun d => cfg.interfaces = [] ∨ String.mk d.name ∈ cfg.interfaces).map
        NetDevice.rxBytes := by
  induction devices with
  | nil => rfl
  | cons d ds ih =>
    rw [List.map_cons]
    by_cases allowed : cfg.interfaces = [] ∨ String.mk d.name ∈ cfg.interfaces
    · rw [List.filterMap_cons_some (by rw [interfaceLineBytes_text, if_pos allowed]),
        List.filter_cons_of_pos (by simpa using allowed), List.map_cons, ih]
    · rw [List.filterMap_cons_none (by rw [interfaceLineBytes_text, if_neg allowed]),
        List.filter_cons_of_neg (by simpa using allowed), ih]

/-- On `/proc/net/dev` as the kernel writes it, `ReadInterfaceBytes` sums, modulo 2^64, the
received bytes of the devices the configuration lets through, in file order, and fails where
it lets none through. -/
theorem readInterfaceBytes_netDevFile (cfg : AnomalyDetectorConfig) (devices : List NetDevice) :
    readInterfaceBytes cfg (some (netDevFile devices)) =
      let counted := devices.filter fun d =>
        cfg.interfaces = [] ∨ String.mk d.name ∈ cfg.interfaces
      if counted = [] then none else some (counted.foldl (fun total d => total + d.rxBytes) 0) := by
  simp only [readInterfaceBytes, getlines_netDevFile,
    List.drop_left' (show netDevHeader.length = 2 from rfl), filterMap_interfaceLineBytes,
    List.map_eq_nil_iff, List.foldl_map]

theorem step_of_unread (cfg : AnomalyDetectorConfig) (s : Run) {r : Reading} (unread : r.bytes = none) :
    s.step cfg r = (s, []) := by
  rw [Run.step, unread]

theorem readInterfaceBytes_unlisted {cfg : AnomalyDetectorConfig} {devices : List NetDevice}
    (listed : cfg.interfaces ≠ []) (unlisted : ∀ d ∈ devices, String.mk d.name ∉ cfg.interfaces) :
    readInterfaceBytes cfg (some (netDevFile devices)) = none := by
  have none : (devices.map NetDevice.text).filterMap (interfaceLineBytes cfg) = [] := by
    rw [filterMap_interfaceLineBytes, List.map_eq_nil_iff, List.filter_eq_nil_iff]
    exact fun d mem => by simp [listed, unlisted d mem]
  simp only [readInterfaceBytes, getlines_netDevFile,
    List.drop_left' (show netDevHeader.length = 2 from rfl), none, if_true]

/-- Where `anomaly_interfaces` names none of the devices of `/proc/net/dev` at any wake-up, every
pass of `Run` ends at the `continue` after `ReadInterfaceBytes`, before the latency probe is
read: over the whole run the callback is handed nothing, latency spikes included. -/
theorem run_silent_of_unlisted (cfg : AnomalyDetectorConfig) (listed : cfg.interfaces ≠ [])
    (readings : List Reading)
    (unlisted : ∀ r ∈ readings, ∃ devices : List NetDevice,
      (∀ d ∈ devices, String.mk d.name ∉ cfg.interfaces) ∧
        r.bytes = readInterfaceBytes cfg (some (netDevFile devices)))
    (s : Run) : (s.run cfg readings).2 = [] := by
  induction readings generalizing s with
  | nil => rfl
  | cons r rs ih =>
    obtain ⟨devices, absent, read⟩ := unlisted r (List.mem_cons_self r rs)
    have unread : r.bytes = none := read.trans (readInterfaceBytes_unlisted listed absent)
    simp only [Run.run, step_of_unread cfg s unread, List.nil_append]
    exact ih (fun r' mem => unlisted r' (List.mem_cons_of_mem r mem)) s

/-- A host with a loopback and an `eth0` device. -/
def hostDevices : List NetDevice :=
  [⟨"lo".toList, 1234567, " 1234 0 0 0 0 0 0 1234567 1234 0 0 0 0 0 0".toList, by decide,
      by decide⟩,
    ⟨"eth0".toList, 987654321, " 654321 0 0 0 0 0 0 123456789 54321 0 0 0 0 0 0".toList,
      by decide, by decide⟩]

theorem run_silent_latency_spikes :
    let cfg : AnomalyDetectorConfig := { interfaces := ["eth1"] }
    let readings : List Reading :=
      [⟨readInterfaceBytes cfg (some (netDevFile hostDevices)), 1, 1000000000, some 100⟩,
        ⟨readInterfaceBytes cfg (some (netDevFile hostDevices)), 2, 2000000000, some 100000⟩]
    cfg.interfaces ≠ [] ∧ (∀ r ∈ readings, ∃ devices : List NetDevice,
      (∀ d ∈ devices, String.mk d.name ∉ cfg.interfaces) ∧
        r.bytes = readInterfaceBytes cfg (some (netDevFile devices))) ∧
      (Run.run cfg { prevTime := 0 } readings).2 = [] := by
  intro cfg readings
  have unlisted : ∀ r ∈ readings, ∃ devices : List NetDevice,
      (∀ d ∈ devices, String.mk d.name ∉ cfg.interfaces) ∧
        r.bytes = readInterfaceBytes cfg (some (netDevFile devices)) := by
    intro r mem
    simp only [readings, List.mem_cons, List.mem_singleton, List.not_mem_nil, or_false] at mem
    rcases mem with rfl | rfl <;> exact ⟨hostDevices, by decide, rfl⟩
  exact ⟨by decide, unlisted, run_silent_of_unlisted cfg (by decide) readings unlisted _⟩

end AnomalyMonitor

open AnomalyMonitor

/-- A throughput stall never signals. Read a second apart, 0, 1000 and again 1000 bytes: the
first reading records, the second seeds the baseline at 1000 B/s, and the stall of the third
never reaches `MaybeEmitThroughput`, so no signal is handed on. Handed the stall's rate 0 as
the EWMA detector would be, the monitor signals a drop of ratio 0. -/
theorem stall_never_signals :
    (∀ (cfg : AnomalyDetectorConfig) (s : Run) (r : Reading) (cur : UInt64),
      r.bytes = some cur → cur ≤ s.prevBytes →
      ∀ signal ∈ (s.step cfg r).2, signal.type = .latencySpike) ∧
    (Run.run {} { prevTime := 0 } [⟨some 0, 0, 1000000000000, none⟩,
      ⟨some 1000, 1, 1001000000000, none⟩, ⟨some 1000, 2, 1002000000000, none⟩]).2.length = 0 ∧
    ((maybeEmitThroughput {} (Run.run {} { prevTime := 0 } [⟨some 0, 0, 1000000000000, none⟩,
      ⟨some 1000, 1, 1001000000000, none⟩]).1.monitor 0 1002000000000).2.map
        (·.ratio)) = some 0 := by
  refine ⟨fun cfg s r _ read flat => step_of_not_grown cfg s r read flat,
    by simp +decide [Run.run, Run.step, maybeEmitThroughput], ?_⟩
  have seeded : (Run.run {} { prevTime := 0 } [⟨some 0, 0, 1000000000000, none⟩,
      ⟨some 1000, 1, 1001000000000, none⟩]).1.monitor =
        ({ throughputReady := true, throughputBaseline := 1000 } : AnomalyMonitor) := by
    simp +decide [Run.run, Run.step, maybeEmitThroughput]
  have alpha : clamp ((({} : AnomalyDetectorConfig)).throughputEwmaAlpha) (1 / 100) (9 / 10) =
      1 / 10 := by
    norm_num [clamp]
  rw [seeded, maybeEmitThroughput]
  simp only [alpha]
  norm_num
  decide

end MicroSentinel
