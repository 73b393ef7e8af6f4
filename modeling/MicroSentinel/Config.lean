import MicroSentinel.Types
import Mathlib.Algebra.Order.Field.Rat
import Mathlib.Data.List.Sort
import Mathlib.Data.Nat.Digits

/-! The agent's configuration (`config.h`) and how `main` reads it
(`config_loader.cpp`, `perf_consumer.cpp`): `key=value` lines of a file, then
command-line flags. `double` settings are exact rationals and durations are their
`uint64_t` counts. `std::stod` is modelled on decimal literals. -/
namespace MicroSentinel

/-- `PERF_TYPE_*` and `PERF_COUNT_HW_*` ids the default groups use. -/
def perfTypeHardware : UInt32 := 0
def perfTypeRaw : UInt32 := 4
def perfCountHwCacheMisses : UInt64 := 3
def perfCountHwBranchMisses : UInt64 := 5

structure PmuEventDesc where
  name : String
  type : UInt32 := perfTypeHardware
  config : UInt64 := perfCountHwCacheMisses
  samplePeriod : UInt64 := 100000
  logical : UInt32 := msEvtL3Miss
  precise : Bool := true
  deriving DecidableEq, Repr

structure PmuGroupConfig where
  name : String
  events : List PmuEventDesc
  deriving DecidableEq, Repr

/-- `PerfConsumerConfig`; durations in milliseconds. -/
structure PerfConsumerConfig where
  mockMode : Bool := false
  bpfObjectPath : String := "bpf/micro_sentinel_kern.bpf.o"
  cpus : List Int := []
  xdpIfaces : List String := []
  numaWorkers : Bool := true
  mockPeriod : UInt64 := 10
  sentinelGroups : List PmuGroupConfig :=
    [⟨"sentinel-default", [{ name := "l3_miss", samplePeriod := 200000 }]⟩]
  diagnosticGroups : List PmuGroupConfig :=
    [⟨"diagnostic-default",
      [{ name := "l3_miss", samplePeriod := 150000 },
       { name := "branch_misp", config := perfCountHwBranchMisses, samplePeriod := 120000,
         logical := msEvtBranchMispred, precise := false },
       { name := "xsnp_hitm", type := perfTypeRaw, config := 0x1B7, samplePeriod := 80000,
         logical := msEvtXsnpHitm }]⟩]
  sentinelSampleBudget : UInt64 := 5000
  diagnosticSampleBudget : UInt64 := 20000
  hardDropNs : UInt64 := msFlowSkidNs * 4
  eventsMapFd : Int := -1
  ringPages : UInt64 := 8
  rotationWindow : UInt64 := 5000
  safetyHighWatermark : ℚ := 95 / 100
  safetyLowWatermark : ℚ := 75 / 100
  shedEventLimit : UInt64 := 1
  deriving DecidableEq

structure AggregatorConfig where
  timeWindowNs : UInt64 := 5000000
  maxEntries : Nat := 200000
  /-- `flush_interval`, in milliseconds. -/
  flushInterval : UInt64 := 200
  deriving DecidableEq

/-- `ModeThresholds`; `anomaly_quiet_period` in milliseconds. -/
structure ModeThresholds where
  sentinelToDiag : ℚ := 110 / 100
  diagToSentinel : ℚ := 102 / 100
  throughputRatioTrigger : ℚ := 85 / 100
  latencyRatioTrigger : ℚ := 125 / 100
  anomalyQuietPeriod : UInt64 := 5000
  deriving DecidableEq

structure MetricsConfig where
  listenAddress : String := "0.0.0.0"
  listenPort : UInt16 := 9105
  /-- In seconds. -/
  flushInterval : UInt64 := 5
  deriving DecidableEq

structure AnomalyDetectorConfig where
  enabled : Bool := true
  interfaces : List String := []
  sampleInterval : UInt64 := 500
  throughputEwmaAlpha : ℚ := 1 / 10
  latencyEwmaAlpha : ℚ := 2 / 10
  throughputRatioTrigger : ℚ := 85 / 100
  latencyRatioTrigger : ℚ := 13 / 10
  refractoryPeriod : UInt64 := 5000
  latencyProbePath : String := ""
  deriving DecidableEq

structure ClickHouseConfig where
  endpoint : String := "http://localhost:8123"
  table : String := "ms_flow_rollup"
  stackTable : String := "ms_stack_traces"
  rawTable : String := "ms_raw_samples"
  dataTable : String := "ms_data_objects"
  flushInterval : UInt64 := 500
  batchSize : UInt64 := 4096
  deriving DecidableEq

structure ControlPlaneConfig where
  listenAddress : String := "127.0.0.1"
  listenPort : UInt16 := 9200
  deriving DecidableEq

structure TscCalibrationConfig where
  enabled : Bool := true
  slopeAlpha : ℚ := 5 / 100
  offsetAlpha : ℚ := 5 / 100
  deriving DecidableEq

structure AgentConfig where
  perf : PerfConsumerConfig := {}
  aggregator : AggregatorConfig := {}
  thresholds : ModeThresholds := {}
  anomaly : AnomalyDetectorConfig := {}
  tscCalibration : TscCalibrationConfig := {}
  metrics : MetricsConfig := {}
  ch : ClickHouseConfig := {}
  control : ControlPlaneConfig := {}
  diagnosticMode : Bool := false
  deriving DecidableEq

/-- Why reading the configuration stops: an error text for the caller, or the
`std::bad_alloc` of a CPU range that never ends. -/
inductive ConfigError where
  | message (text : String)
  | outOfMemory
  deriving DecidableEq, Repr

/-! Text helpers and the literal parsers. -/

/-- `std::isspace` in the C locale. -/
def isSpace (c : Char) : Bool :=
  c = ' ' || c = '\t' || c = '\n' || c.toNat = 11 || c.toNat = 12 || c = '\r'

theorem toNat_le_of_isSpace {c : Char} (space : isSpace c = true) : c.toNat ≤ 32 := by
  simp only [isSpace, Bool.or_eq_true, decide_eq_true_eq] at space
  rcases space with ((((same | same) | same) | same) | same) | same <;>
    first | (subst same; decide) | omega

theorem isSpace_of_isDigit {c : Char} (digit : c.isDigit = true) : isSpace c = false := by
  have low : 48 ≤ c.toNat := by
    simp only [Char.isDigit, Bool.and_eq_true, decide_eq_true_eq] at digit
    exact digit.1
  exact Bool.eq_false_iff.2 fun space => absurd (toNat_le_of_isSpace space) (by omega)

def trim (s : String) : String :=
  String.mk ((s.toList.dropWhile isSpace).reverse.dropWhile isSpace).reverse

def toLower (s : String) : String := String.mk (s.toList.map Char.toLower)

/-- `s.rfind(prefix, 0) == 0`. -/
def hasPrefix (s pre : String) : Bool := pre.toList.isPrefixOf s.toList

/-- The pieces of a character list between the separators `sep`. -/
def splitAt (sep : Char) : List Char → List (List Char)
  | [] => [[]]
  | c :: rest =>
    if c = sep then [] :: splitAt sep rest
    else match splitAt sep rest with
      | piece :: pieces => (c :: piece) :: pieces
      | [] => [[c]]

/-- The items of a comma-separated list, as `std::getline(ss, token, ',')` reads them;
the callers skip empty items, so a trailing comma makes no difference. -/
def splitCommas (s : String) : List String := (splitAt ',' s.toList).map String.mk

def decimalValue (digits : List Char) : Nat :=
  digits.foldl (fun n d => 10 * n + (d.toNat - '0'.toNat)) 0

theorem toDigitsCore_value {base : Nat} (value : Char → Nat) (wide : 1 < base)
    (reads : ∀ k < base, value (Nat.digitChar k) = k) (fuel n : Nat) (ds : List Char)
    (enough : n < fuel) :
    ∃ d, Nat.toDigitsCore base fuel n ds = d ++ ds ∧ d ≠ [] ∧
      (∀ c ∈ d, ∃ k < base, c = Nat.digitChar k) ∧
      d.foldl (fun acc c => base * acc + value c) 0 = n := by
  induction fuel generalizing n ds with
  | zero => exact absurd enough (Nat.not_lt_zero n)
  | succ fuel ih =>
    have low : n % base < base := Nat.mod_lt n (by omega)
    have split := Nat.div_add_mod n base
    rw [Nat.toDigitsCore]
    by_cases last : n / base = 0
    · rw [if_pos last]
      refine ⟨[Nat.digitChar (n % base)], rfl, List.cons_ne_nil _ _, by simpa using ⟨_, low, rfl⟩, ?_⟩
      rw [last] at split
      simpa [reads _ low] using split
    · rw [if_neg last]
      have smaller : n / base < n :=
        Nat.div_lt_self (Nat.pos_of_ne_zero fun zero => last (zero ▸ Nat.zero_div base)) wide
      obtain ⟨d, eq, -, digits, high⟩ := ih (n / base) (Nat.digitChar (n % base) :: ds)
        (lt_of_lt_of_le smaller (Nat.lt_succ_iff.1 enough))
      refine ⟨d ++ [Nat.digitChar (n % base)], by simp [eq], by simp, ?_, ?_⟩
      · simp only [List.mem_append, List.mem_singleton]
        rintro c (mem | rfl)
        · exact digits c mem
        · exact ⟨_, low, rfl⟩
      · rw [List.foldl_append, high]
        simpa [reads _ low] using split

theorem decimalValue_toString (n : Nat) : (toString n).toList ≠ [] ∧
    (∀ c ∈ (toString n).toList, c.isDigit) ∧ decimalValue (toString n).toList = n := by
  have reads : ∀ k < 10, (Nat.digitChar k).toNat - '0'.toNat = k ∧ (Nat.digitChar k).isDigit := by
    decide
  obtain ⟨d, eq, named, digits, value⟩ := toDigitsCore_value (fun c => c.toNat - '0'.toNat)
    (by decide) (fun k lt => (reads k lt).1) (n + 1) n [] (Nat.lt_succ_self n)
  rw [List.append_nil] at eq
  have text : (toString n).toList = d := eq
  rw [text]
  refine ⟨named, fun c mem => ?_, value⟩
  obtain ⟨k, lt, rfl⟩ := digits c mem
  exact (reads k lt).2

/-- Length of an optional leading sign. -/
def signLength : List Char → Nat
  | '-' :: _ => 1
  | '+' :: _ => 1
  | _ => 0

theorem signLength_cons {c : Char} (cs : List Char) (minus : c ≠ '-') (plus : c ≠ '+') :
    signLength (c :: cs) = 0 := by
  unfold signLength
  split <;> simp_all

theorem drop_past {α : Type} (l : List α) (a : α) (rest : List α) :
    (l ++ a :: rest).drop (l.length + 1) = rest := by
  induction l <;> simp_all

/-- `std::stoull(value, &idx, 10)`: white space, a sign, decimal digits. The value
(negated modulo 2^64 after a minus) and the characters read, or `none` where it throws:
no digits, or a magnitude above 2^64 - 1. -/
def stoull (s : String) : Option (UInt64 × Nat) :=
  let blank := (s.toList.takeWhile isSpace).length
  let rest := s.toList.drop blank
  let digits := (rest.drop (signLength rest)).takeWhile Char.isDigit
  if digits = [] ∨ 2 ^ 64 ≤ decimalValue digits then none
  else
    let magnitude := UInt64.ofNat (decimalValue digits)
    some (if rest.head? = some '-' then 0 - magnitude else magnitude,
      blank + signLength rest + digits.length)

/-- `std::stoi(value)`: `strtol` in base 10, then the range of `int`. The value and the
characters read, or `none` where it throws: no digits, or a value outside `int`. -/
def stoi (s : String) : Option (Int × Nat) :=
  let blank := (s.toList.takeWhile isSpace).length
  let rest := s.toList.drop blank
  let digits := (rest.drop (signLength rest)).takeWhile Char.isDigit
  let value : Int := if rest.head? = some '-' then -(decimalValue digits : Int)
    else decimalValue digits
  if digits = [] ∨ value < -2147483648 ∨ 2147483647 < value then none
  else some (value, blank + signLength rest + digits.length)

/-- `std::getline`: the text before the first newline; it fails only on an empty text. -/
def getline (text : List Char) : Option (List Char) :=
  if text = [] then none else some (text.takeWhile (· ≠ '\n'))

/-- `>>` into a `std::string`: the white space skipped, then the text up to the next white
space, and what is left. -/
def extractWord (text : List Char) : List Char × List Char :=
  ((text.dropWhile isSpace).takeWhile (!isSpace ·), (text.dropWhile isSpace).dropWhile (!isSpace ·))

theorem extractWord_word {spaces word rest : List Char} (blank : ∀ c ∈ spaces, isSpace c)
    (named : word ≠ []) (plain : ∀ c ∈ word, isSpace c = false) :
    extractWord (spaces ++ word ++ ' ' :: rest) = (word, ' ' :: rest) := by
  obtain ⟨w, ws, rfl⟩ := List.exists_cons_of_ne_nil named
  have kept : ∀ c ∈ w :: ws, (!isSpace c) = true := fun c mem => by simp [plain c mem]
  rw [extractWord, List.append_assoc, List.dropWhile_append_of_pos blank, List.cons_append,
    List.dropWhile_cons_of_neg (by simp [plain w (List.mem_cons_self w ws)]), ← List.cons_append,
    List.takeWhile_append_of_pos kept, List.dropWhile_append_of_pos kept]
  simp [isSpace]

/-- The lines `while (std::getline(in, line))` reads from the rest of a file, `line` the
part of the current line read so far; a last line without its newline is read too. -/
def getlinesFrom (line : List Char) : List Char → List (List Char)
  | [] => if line = [] then [] else [line]
  | c :: rest => if c = '\n' then line :: getlinesFrom [] rest else getlinesFrom (line ++ [c]) rest

def getlines (text : List Char) : List (List Char) := getlinesFrom [] text

theorem getlinesFrom_line (acc line rest : List Char) (noNewline : '\n' ∉ line) :
    getlinesFrom acc (line ++ '\n' :: rest) = (acc ++ line) :: getlinesFrom [] rest := by
  induction line generalizing acc with
  | nil => simp [getlinesFrom]
  | cons c line ih =>
    rw [List.cons_append, getlinesFrom,
      if_neg (by rintro rfl; exact noNewline (List.mem_cons_self _ _)),
      ih _ fun mem => noNewline (List.mem_cons_of_mem _ mem)]
    simp

theorem getlines_flatMap (lines : List (List Char)) (noNewline : ∀ l ∈ lines, '\n' ∉ l) :
    getlines (lines.flatMap (· ++ ['\n'])) = lines := by
  induction lines with
  | nil => rfl
  | cons l lines ih =>
    rw [List.flatMap_cons, List.append_assoc, List.singleton_append, getlines,
      getlinesFrom_line _ _ _ (noNewline l (List.mem_cons_self _ _)), List.nil_append, ← getlines,
      ih fun l' mem => noNewline l' (List.mem_cons_of_mem _ mem)]

/-- The exponent part of a decimal literal: characters read and its value. -/
def exponentPart : List Char → Nat × Int
  | [] => (0, 0)
  | e :: rest =>
    let digits := (rest.drop (signLength rest)).takeWhile Char.isDigit
    if (e = 'e' ∨ e = 'E') ∧ digits ≠ [] then
      (1 + signLength rest + digits.length,
        if rest.head? = some '-' then -(decimalValue digits : Int) else decimalValue digits)
    else (0, 0)

/-- `std::stod` on a decimal literal: white space, a sign, digits with an optional point,
an optional exponent. Its exact value and the characters read. -/
def stod (s : String) : Option (ℚ × Nat) :=
  let blank := (s.toList.takeWhile isSpace).length
  let rest := s.toList.drop blank
  let body := rest.drop (signLength rest)
  let whole := body.takeWhile Char.isDigit
  let point := if (body.drop whole.length).head? = some '.' then 1 else 0
  let frac := (body.drop (whole.length + point)).takeWhile Char.isDigit
  let exponent := exponentPart (body.drop (whole.length + point + frac.length))
  if whole = [] ∧ frac = [] then none
  else
    let magnitude : ℚ := decimalValue (whole ++ frac) / 10 ^ frac.length * 10 ^ exponent.2
    some (if rest.head? = some '-' then -magnitude else magnitude,
      blank + signLength rest + whole.length + point + frac.length + exponent.1)

def parseBool (value : String) : Except ConfigError Bool :=
  if toLower value = "true" ∨ toLower value = "1" then .ok true
  else if toLower value = "false" ∨ toLower value = "0" then .ok false
  else .error (.message ("invalid boolean value: " ++ value))

def parseUint64 (value : String) : Except ConfigError UInt64 :=
  match stoull value with
  | some (n, read) =>
    if read = value.length then .ok n else .error (.message ("invalid integer literal: " ++ value))
  | none => .error (.message ("invalid integer literal: " ++ value))

def parseUint32 (value : String) : Except ConfigError UInt32 := do
  let n ← parseUint64 value
  if n.toNat > 4294967295 then .error (.message ("integer out of range: " ++ value))
  else pure n.toUInt32

def parseDouble (value : String) : Except ConfigError ℚ :=
  match stod value with
  | some (x, read) =>
    if read = value.length then .ok x
    else .error (.message ("invalid floating-point literal: " ++ value))
  | none => .error (.message ("invalid floating-point literal: " ++ value))

/-- `static_cast<int>` of a `uint32_t`. -/
def toInt32 (v : UInt32) : Int := if v.toNat < 2 ^ 31 then v.toNat else v.toNat - 2 ^ 32

/-- One item of a CPU list: a CPU, or an inclusive range `start-end`. A range ending at
`UINT32_MAX` never ends its `uint32_t` loop and exhausts memory. -/
def parseCpuItem (token : String) : Except ConfigError (List Int) :=
  match token.toList.findIdx? (· = '-') with
  | none => do
    let cpu ← parseUint32 token
    pure [toInt32 cpu]
  | some dash => do
    let start ← parseUint32 (trim (String.mk (token.toList.take dash)))
    let stop ← parseUint32 (trim (String.mk (token.toList.drop (dash + 1))))
    if stop < start then .error (.message ("cpu range end < start: " ++ token))
    else if stop = 4294967295 then .error .outOfMemory
    else pure ((List.range' start.toNat (stop.toNat + 1 - start.toNat)).map
      fun v => toInt32 (UInt32.ofNat v))

def parseCpuItems : List String → Except ConfigError (List Int)
  | [] => pure []
  | token :: rest => do
    let here ← if trim token = "" then pure [] else parseCpuItem (trim token)
    let later ← parseCpuItems rest
    pure (here ++ later)

/-- `ParseCpuList`: sorted, without duplicates, never empty. -/
def parseCpuList (value : String) : Except ConfigError (List Int) := do
  let cpus ← parseCpuItems (splitCommas value)
  if cpus = [] then .error (.message "cpu list cannot be empty")
  else pure ((cpus.insertionSort (· ≤ ·)).dedup)

/-- The settings `ApplyConfigKey` knows, in the order it tests them, each with what it does
to the configuration given the trimmed value. -/
def configKeys : List (String × (String → AgentConfig → Except ConfigError AgentConfig)) :=
  [("diagnostic_mode", fun value cfg =>
      (parseBool value).map fun diag => { cfg with diagnosticMode := diag }),
   ("mode", fun value cfg => (parseBool value).map fun diag => { cfg with diagnosticMode := diag }),
   ("sentinel_budget", fun value cfg =>
      (parseUint64 value).map fun budget => { cfg with perf.sentinelSampleBudget := budget }),
   ("diagnostic_budget", fun value cfg =>
      (parseUint64 value).map fun budget => { cfg with perf.diagnosticSampleBudget := budget }),
   ("clickhouse_endpoint", fun value cfg => pure { cfg with ch.endpoint := value }),
   ("clickhouse_table", fun value cfg => pure { cfg with ch.table := value }),
   ("clickhouse_stack_table", fun value cfg => pure { cfg with ch.stackTable := value }),
   ("clickhouse_raw_table", fun value cfg => pure { cfg with ch.rawTable := value }),
   ("clickhouse_flush_ms", fun value cfg =>
      (parseUint64 value).map fun flush => { cfg with ch.flushInterval := flush }),
   ("clickhouse_batch_size", fun value cfg =>
      (parseUint64 value).map fun batch => { cfg with ch.batchSize := batch }),
   ("metrics_port", fun value cfg =>
      (parseUint32 value).map fun port => { cfg with metrics.listenPort := port.toUInt16 }),
   ("metrics_address", fun value cfg => pure { cfg with metrics.listenAddress := value }),
   ("control_address", fun value cfg => pure { cfg with control.listenAddress := value }),
   ("agg_window_ns", fun value cfg =>
      (parseUint64 value).map fun window => { cfg with aggregator.timeWindowNs := window }),
   ("agg_flush_ms", fun value cfg =>
      (parseUint64 value).map fun flush => { cfg with aggregator.flushInterval := flush }),
   ("anomaly_enabled", fun value cfg =>
      (parseBool value).map fun enabled => { cfg with anomaly.enabled := enabled }),
   ("anomaly_interfaces", fun value cfg =>
      pure { cfg with anomaly.interfaces := ((splitCommas value).map trim).filter (· ≠ "") }),
   ("anomaly_interval_ms", fun value cfg =>
      (parseUint64 value).map fun ms => { cfg with anomaly.sampleInterval := ms }),
   ("anomaly_throughput_ratio", fun value cfg =>
      (parseDouble value).map fun ratio =>
        { cfg with anomaly.throughputRatioTrigger := ratio,
                   thresholds.throughputRatioTrigger := ratio }),
   ("anomaly_latency_ratio", fun value cfg =>
      (parseDouble value).map fun ratio =>
        { cfg with anomaly.latencyRatioTrigger := ratio, thresholds.latencyRatioTrigger := ratio }),
   ("anomaly_latency_path", fun value cfg => pure { cfg with anomaly.latencyProbePath := value }),
   ("anomaly_throughput_alpha", fun value cfg =>
      (parseDouble value).map fun alpha => { cfg with anomaly.throughputEwmaAlpha := alpha }),
   ("anomaly_latency_alpha", fun value cfg =>
      (parseDouble value).map fun alpha => { cfg with anomaly.latencyEwmaAlpha := alpha }),
   ("anomaly_refractory_ms", fun value cfg =>
      (parseUint64 value).map fun ms =>
        { cfg with anomaly.refractoryPeriod := ms, thresholds.anomalyQuietPeriod := ms }),
   ("control_port", fun value cfg =>
      (parseUint32 value).map fun port => { cfg with control.listenPort := port.toUInt16 }),
   ("tsc_calibration_enabled", fun value cfg =>
      (parseBool value).map fun enabled => { cfg with tscCalibration.enabled := enabled }),
   ("tsc_slope_alpha", fun value cfg =>
      (parseDouble value).map fun alpha => { cfg with tscCalibration.slopeAlpha := alpha }),
   ("tsc_offset_alpha", fun value cfg =>
      (parseDouble value).map fun alpha => { cfg with tscCalibration.offsetAlpha := alpha }),
   ("mock_period_ms", fun value cfg =>
      (parseUint64 value).map fun period => { cfg with perf.mockPeriod := period }),
   ("perf_mock_mode", fun value cfg =>
      (parseBool value).map fun enabled => { cfg with perf.mockMode := enabled }),
   ("cpus", fun value cfg => (parseCpuList value).map fun cpus => { cfg with perf.cpus := cpus })]

/-- `ApplyConfigKey`: one setting, by its trimmed lower-case key and trimmed value. -/
def applyConfigKey (keyRaw valueRaw : String) (cfg : AgentConfig) :
    Except ConfigError AgentConfig :=
  match configKeys.lookup (toLower (trim keyRaw)) with
  | some apply => apply (trim valueRaw) cfg
  | none => .error (.message ("unknown config key: " ++ toLower (trim keyRaw)))

/-- The lines of a configuration file, numbered from 1. -/
def loadLines (cfg : AgentConfig) : Nat → List String → Except ConfigError AgentConfig
  | _, [] => pure cfg
  | lineNo, line :: rest =>
    let trimmed := trim line
    if trimmed = "" ∨ trimmed.toList.head? = some '#' then loadLines cfg (lineNo + 1) rest
    else match trimmed.toList.findIdx? (· = '=') with
      | none => .error (.message ("invalid config line " ++ toString lineNo))
      | some pos =>
        match applyConfigKey (String.mk (trimmed.toList.take pos))
            (String.mk (trimmed.toList.drop (pos + 1))) cfg with
        | .ok cfg => loadLines cfg (lineNo + 1) rest
        | .error (.message text) =>
          .error (.message (text ++ " (line " ++ toString lineNo ++ ")"))
        | .error .outOfMemory => .error .outOfMemory

/-- `LoadAgentConfigFile`, given the file's text, or `none` where it cannot be opened. -/
def loadAgentConfigFile (contents : Option String) (path : String) (cfg : AgentConfig) :
    Except ConfigError AgentConfig :=
  match contents with
  | none => .error (.message ("failed to open config file: " ++ path))
  | some text => loadLines cfg 1 ((splitAt '\n' text.toList).map String.mk)

/-- The long flags `ApplyCliFlag` forwards to a config key. -/
def aliasMap : List (String × String) :=
  [("mock-period-ms", "mock_period_ms"), ("sentinel-budget", "sentinel_budget"),
   ("diagnostic-budget", "diagnostic_budget"), ("clickhouse-endpoint", "clickhouse_endpoint"),
   ("clickhouse-table", "clickhouse_table"), ("clickhouse-stack-table", "clickhouse_stack_table"),
   ("clickhouse-raw-table", "clickhouse_raw_table"), ("clickhouse-flush-ms", "clickhouse_flush_ms"),
   ("clickhouse-batch-size", "clickhouse_batch_size"), ("metrics-port", "metrics_port"),
   ("metrics-address", "metrics_address"), ("control-port", "control_port"),
   ("control-address", "control_address"), ("agg-window-ns", "agg_window_ns"),
   ("agg-flush-ms", "agg_flush_ms"), ("cpus", "cpus"), ("perf-mock-mode", "perf_mock_mode"),
   ("tsc-calibration-enabled", "tsc_calibration_enabled"),
   ("tsc-slope-alpha", "tsc_slope_alpha"), ("tsc-offset-alpha", "tsc_offset_alpha"),
   ("anomaly-enabled", "anomaly_enabled"), ("anomaly-interfaces", "anomaly_interfaces"),
   ("anomaly-interval-ms", "anomaly_interval_ms"),
   ("anomaly-throughput-ratio", "anomaly_throughput_ratio"),
   ("anomaly-latency-ratio", "anomaly_latency_ratio"),
   ("anomaly-latency-path", "anomaly_latency_path"),
   ("anomaly-throughput-alpha", "anomaly_throughput_alpha"),
   ("anomaly-latency-alpha", "anomaly_latency_alpha"),
   ("anomaly-refractory-ms", "anomaly_refractory_ms")]

def applyCliFlag (flag : String) (cfg : AgentConfig) : Except ConfigError AgentConfig :=
  if flag = "--diagnostic" then pure { cfg with diagnosticMode := true }
  else if flag = "--sentinel" then pure { cfg with diagnosticMode := false }
  else if flag = "--perf-mock" then pure { cfg with perf.mockMode := true }
  else if flag = "--no-perf-mock" then pure { cfg with perf.mockMode := false }
  else match flag.toList.findIdx? (· = '=') with
    | none => .error (.message ("unknown flag: " ++ flag))
    | some eq =>
      if ¬ hasPrefix flag "--" then .error (.message ("unknown flag: " ++ flag))
      else
        let key := String.mk ((flag.toList.drop 2).take (eq - 2))
        let value := String.mk (flag.toList.drop (eq + 1))
        if key = "mode" then
          if toLower (trim value) = "diagnostic" ∨ toLower (trim value) = "diag" then
            pure { cfg with diagnosticMode := true }
          else if toLower (trim value) = "sentinel" then pure { cfg with diagnosticMode := false }
          else .error (.message ("unknown mode: " ++ value))
        else match aliasMap.lookup key with
          | some configKey => applyConfigKey configKey value cfg
          | none => .error (.message ("unknown flag: " ++ flag))

def applyCliFlags (cfg : AgentConfig) : List String → Except ConfigError AgentConfig
  | [] => pure cfg
  | flag :: rest => do applyCliFlags (← applyCliFlag flag cfg) rest

/-- How `main` ends its argument handling. -/
inductive Launch where
  | usage
  | failed (error : String)
  | aborted
  | start (cfg : AgentConfig)

/-- `main` up to `AgentRuntime runtime(cfg)`: `--help` wins; the last `--config=` names
the file; every other argument is a flag, applied after the file in order; diagnostic
mode then sets `sentinel_to_diag` to 0. `readFile` gives a file's text. -/
def mainConfig (args : List String) (readFile : String → Option String) : Launch :=
  if args.any (fun arg => arg = "--help" ∨ arg = "-h") then .usage
  else
    let configPath :=
      ((args.filter (hasPrefix · "--config=")).getLast?.map
        fun arg => String.mk (arg.toList.drop 9)).getD ""
    let flags := args.filter fun arg => ¬ hasPrefix arg "--config="
    let loaded := if configPath = "" then pure {}
      else loadAgentConfigFile (readFile configPath) configPath {}
    match loaded >>= fun cfg => applyCliFlags cfg flags with
    | .ok cfg =>
      .start (if cfg.diagnosticMode then { cfg with thresholds.sentinelToDiag := 0 } else cfg)
    | .error (.message text) => .failed text
    | .error .outOfMemory => .aborted


/-! No setting reaches the two hysteresis thresholds or the PMU groups; only `main`'s
diagnostic rewrite touches a threshold. -/

section Untouched

/-- The thresholds `ModeController::Update` compares against and the PMU groups are those
of `cfg`. -/
def Untouched (cfg cfg' : AgentConfig) : Prop :=
  cfg'.thresholds.sentinelToDiag = cfg.thresholds.sentinelToDiag ∧
    cfg'.thresholds.diagToSentinel = cfg.thresholds.diagToSentinel ∧
    cfg'.perf.sentinelGroups = cfg.perf.sentinelGroups ∧
    cfg'.perf.diagnosticGroups = cfg.perf.diagnosticGroups

theorem Untouched.trans {a b c : AgentConfig} (first : Untouched a b)
    (second : Untouched b c) : Untouched a c :=
  ⟨second.1.trans first.1, second.2.1.trans first.2.1, second.2.2.1.trans first.2.2.1,
    second.2.2.2.trans first.2.2.2⟩

theorem map_eq_ok {ε α β : Type} {x : Except ε α} {f : α → β} {b : β}
    (h : x.map f = .ok b) : ∃ a, f a = b := by
  cases x with
  | error e => cases h
  | ok a => exact ⟨a, Except.ok.inj h⟩

theorem bind_eq_ok {ε α β : Type} {x : Except ε α} {f : α → Except ε β} {b : β}
    (h : x >>= f = .ok b) : ∃ a, x = .ok a ∧ f a = .ok b := by
  cases x with
  | error e => cases h
  | ok a => exact ⟨a, rfl, h⟩

theorem bind_eq_error {ε α β : Type} {x : Except ε α} {f : α → Except ε β} {e : ε}
    (h : x >>= f = .error e) : x = .error e ∨ ∃ a, x = .ok a ∧ f a = .error e := by
  cases x with
  | error e' => exact .inl (congrArg _ (Except.error.inj h))
  | ok a => exact .inr ⟨a, rfl, h⟩

theorem configKeys_untouched :
    ∀ p ∈ configKeys, ∀ value cfg cfg', p.2 value cfg = .ok cfg' → Untouched cfg cfg' := by
  unfold configKeys
  repeat' refine List.forall_mem_cons.2 ⟨?_, ?_⟩
  all_goals first
    | (intro value cfg cfg' h; obtain ⟨_, rfl⟩ := map_eq_ok h; exact ⟨rfl, rfl, rfl, rfl⟩)
    | (intro value cfg cfg' h; obtain rfl := Except.ok.inj h; exact ⟨rfl, rfl, rfl, rfl⟩)
    | exact List.forall_mem_nil _

theorem applyConfigKey_untouched {key value : String} {cfg cfg' : AgentConfig}
    (h : applyConfigKey key value cfg = .ok cfg') : Untouched cfg cfg' := by
  unfold applyConfigKey at h
  split at h
  · rename_i apply found
    obtain ⟨l₁, l₂, split, -⟩ := List.lookup_eq_some_iff.mp found
    exact configKeys_untouched (toLower (trim key), apply) (by rw [split]; simp) _ _ _ h
  · cases h

theorem applyCliFlag_untouched {flag : String} {cfg cfg' : AgentConfig}
    (h : applyCliFlag flag cfg = .ok cfg') : Untouched cfg cfg' := by
  have set : ∀ {x}, (pure x : Except ConfigError AgentConfig) = .ok cfg' →
      Untouched cfg x → Untouched cfg cfg' := fun same kept => by
    obtain rfl := Except.ok.inj same; exact kept
  -- the four literal flags first: splitting on them with `split` would substitute the flag
  unfold applyCliFlag at h
  by_cases d₁ : flag = "--diagnostic"
  · rw [if_pos d₁] at h; exact set h ⟨rfl, rfl, rfl, rfl⟩
  by_cases d₂ : flag = "--sentinel"
  · rw [if_neg d₁, if_pos d₂] at h; exact set h ⟨rfl, rfl, rfl, rfl⟩
  by_cases d₃ : flag = "--perf-mock"
  · rw [if_neg d₁, if_neg d₂, if_pos d₃] at h; exact set h ⟨rfl, rfl, rfl, rfl⟩
  by_cases d₄ : flag = "--no-perf-mock"
  · rw [if_neg d₁, if_neg d₂, if_neg d₃, if_pos d₄] at h; exact set h ⟨rfl, rfl, rfl, rfl⟩
  rw [if_neg d₁, if_neg d₂, if_neg d₃, if_neg d₄] at h
  dsimp only at h
  repeat' split at h
  all_goals first
    | exact applyConfigKey_untouched h
    | exact set h ⟨rfl, rfl, rfl, rfl⟩
    | cases h

theorem applyCliFlags_untouched {flags : List String} {cfg cfg' : AgentConfig}
    (h : applyCliFlags cfg flags = .ok cfg') : Untouched cfg cfg' := by
  induction flags generalizing cfg with
  | nil => cases h; exact ⟨rfl, rfl, rfl, rfl⟩
  | cons flag rest ih =>
    simp only [applyCliFlags, bind, Except.bind] at h
    split at h
    · cases h
    · exact (applyCliFlag_untouched ‹_›).trans (ih h)

theorem loadLines_untouched {lineNo : Nat} {lines : List String} {cfg cfg' : AgentConfig}
    (h : loadLines cfg lineNo lines = .ok cfg') : Untouched cfg cfg' := by
  induction lines generalizing cfg lineNo with
  | nil => cases h; exact ⟨rfl, rfl, rfl, rfl⟩
  | cons line rest ih =>
    unfold loadLines at h
    dsimp only at h
    split_ifs at h
    · exact ih h
    · split at h
      · cases h
      · split at h
        · exact (applyConfigKey_untouched ‹_›).trans (ih h)
        · cases h
        · cases h

theorem loadAgentConfigFile_untouched {contents : Option String} {path : String}
    {cfg cfg' : AgentConfig} (h : loadAgentConfigFile contents path cfg = .ok cfg') :
    Untouched cfg cfg' := by
  unfold loadAgentConfigFile at h
  split at h
  · cases h
  · exact loadLines_untouched h

theorem mainConfig_loaded {args : List String} {readFile : String → Option String}
    {cfg : AgentConfig} (h : mainConfig args readFile = .start cfg) :
    ∃ loaded, Untouched {} loaded ∧
      cfg = if loaded.diagnosticMode then { loaded with thresholds.sentinelToDiag := 0 }
        else loaded := by
  unfold mainConfig at h
  dsimp only at h
  split at h
  · cases h
  · split at h
    · rename_i loaded read
      obtain ⟨start, file, flags⟩ := bind_eq_ok read
      refine ⟨loaded, Untouched.trans ?_ (applyCliFlags_untouched flags), (Launch.start.inj h).symm⟩
      split at file
      · obtain rfl := Except.ok.inj file; exact ⟨rfl, rfl, rfl, rfl⟩
      · exact loadAgentConfigFile_untouched file
    · cases h
    · cases h

theorem mainConfig_hysteresis {args : List String} {readFile : String → Option String}
    {cfg : AgentConfig} (h : mainConfig args readFile = .start cfg) :
    cfg.thresholds.sentinelToDiag = (if cfg.diagnosticMode then 0 else 110 / 100) ∧
      cfg.thresholds.diagToSentinel = 102 / 100 := by
  obtain ⟨loaded, keep, rfl⟩ := mainConfig_loaded h
  split_ifs with diag <;> simp [diag, keep.1, keep.2.1]

theorem mainConfig_groups {args : List String} {readFile : String → Option String}
    {cfg : AgentConfig} (h : mainConfig args readFile = .start cfg) :
    cfg.perf.sentinelGroups = ({} : PerfConsumerConfig).sentinelGroups ∧
      cfg.perf.diagnosticGroups = ({} : PerfConsumerConfig).diagnosticGroups := by
  obtain ⟨loaded, keep, rfl⟩ := mainConfig_loaded h
  split_ifs <;> exact keep.2.2

end Untouched

/-! ### `ParseCpuList` against the numbers its items denote -/
section CpuList

/-- The numbers an item of a CPU list denotes, read as its text says: one number, or every
number from `start` to `end` of a range `start-end`, each number read as `ParseUint32`
reads it. -/
def itemValues (token : String) : Option (List Nat) :=
  match token.toList.findIdx? (· = '-') with
  | none => (parseUint32 token).toOption.map fun cpu => [cpu.toNat]
  | some dash =>
    match parseUint32 (trim (String.mk (token.toList.take dash))),
      parseUint32 (trim (String.mk (token.toList.drop (dash + 1)))) with
    | .ok start, .ok stop => some (List.range' start.toNat (stop.toNat + 1 - start.toNat))
    | _, _ => none

theorem toInt32_ofNat_of_lt {v : Nat} (small : v < 2 ^ 31) :
    toInt32 (UInt32.ofNat v) = v := by
  have exact : (UInt32.ofNat v).toNat = v :=
    UInt32.toNat_ofNat_of_lt (by simp only [UInt32.size]; omega)
  simp only [toInt32, exact, if_pos small]

theorem parseUint32_ne_outOfMemory (value : String) :
    parseUint32 value ≠ .error .outOfMemory := by
  intro h
  rcases bind_eq_error h with parsed | ⟨n, -, h⟩
  · unfold parseUint64 at parsed
    split at parsed <;> (try split_ifs at parsed) <;> cases parsed
  · split_ifs at h <;> cases h

theorem parseCpuItem_ok {token : String} {cpus : List Int} (h : parseCpuItem token = .ok cpus) :
    ∃ vs, itemValues token = some vs ∧ cpus = vs.map fun v => toInt32 (UInt32.ofNat v) := by
  unfold parseCpuItem at h
  unfold itemValues
  split at h
  case h_1 found =>
    obtain ⟨cpu, parsed, h⟩ := bind_eq_ok h
    cases h
    refine ⟨[cpu.toNat], by simp [found, parsed, Except.toOption], ?_⟩
    simp [UInt32.toNat.inj (UInt32.toNat_ofNat_of_lt cpu.toNat_lt_size)]
  case h_2 dash found =>
    obtain ⟨start, first, h⟩ := bind_eq_ok h
    obtain ⟨stop, last, h⟩ := bind_eq_ok h
    split_ifs at h
    cases h
    simp only [found, first, last]
    exact ⟨_, rfl, rfl⟩

theorem parseCpuItem_outOfMemory {token : String}
    (h : parseCpuItem token = .error .outOfMemory) :
    ∃ vs, itemValues token = some vs ∧ 4294967295 ∈ vs := by
  unfold parseCpuItem at h
  unfold itemValues
  split at h
  case h_1 =>
    rcases bind_eq_error h with parsed | ⟨cpu, -, h⟩
    · exact absurd parsed (parseUint32_ne_outOfMemory _)
    · cases h
  case h_2 dash found =>
    rcases bind_eq_error h with parsed | ⟨start, first, h⟩
    · exact absurd parsed (parseUint32_ne_outOfMemory _)
    rcases bind_eq_error h with parsed | ⟨stop, last, h⟩
    · exact absurd parsed (parseUint32_ne_outOfMemory _)
    split_ifs at h with before atMax
    · cases h
    · subst atMax
      simp only [found, first, last, Option.some.injEq, exists_eq_left', List.mem_range'_1]
      have small : start.toNat < 4294967296 := start.toNat_lt_size
      have last : (4294967295 : UInt32).toNat = 4294967295 := rfl
      omega
    · cases h

theorem itemValues_empty : itemValues "" = none := rfl

theorem parseCpuItems_cons (token : String) (rest : List String) :
    parseCpuItems (token :: rest) =
      (if trim token = "" then pure [] else parseCpuItem (trim token)) >>= fun here =>
        parseCpuItems rest >>= fun later => pure (here ++ later) := by
  rw [parseCpuItems]
  split <;> rfl

theorem parseCpuItems_ok {tokens : List String} {cpus : List Int}
    (h : parseCpuItems tokens = .ok cpus) (c : Int) :
    c ∈ cpus ↔ ∃ token ∈ tokens, ∃ vs, itemValues (trim token) = some vs ∧
      ∃ v ∈ vs, c = toInt32 (UInt32.ofNat v) := by
  induction tokens generalizing cpus with
  | nil => cases h; simp
  | cons token rest ih =>
    rw [parseCpuItems_cons] at h
    obtain ⟨here, item, h⟩ := bind_eq_ok h
    obtain ⟨later, parsed, h⟩ := bind_eq_ok h
    cases h
    have fromHere : c ∈ here ↔ ∃ vs, itemValues (trim token) = some vs ∧
        ∃ v ∈ vs, c = toInt32 (UInt32.ofNat v) := by
      split_ifs at item with blank
      · cases item
        simp [blank, itemValues_empty]
      · obtain ⟨vs, values, rfl⟩ := parseCpuItem_ok item
        simp [values, eq_comm]
    simp only [List.mem_append, fromHere, ih parsed, List.mem_cons, or_and_right, exists_or,
      exists_eq_left]

theorem parseCpuItems_outOfMemory {tokens : List String}
    (h : parseCpuItems tokens = .error .outOfMemory) :
    ∃ token ∈ tokens, ∃ vs, itemValues (trim token) = some vs ∧ 4294967295 ∈ vs := by
  induction tokens with
  | nil => cases h
  | cons token rest ih =>
    rw [parseCpuItems_cons] at h
    rcases bind_eq_error h with item | ⟨here, -, h⟩
    · split_ifs at item
      · cases item
      · exact ⟨token, List.mem_cons_self _ _, parseCpuItem_outOfMemory item⟩
    rcases bind_eq_error h with parsed | ⟨later, -, h⟩
    · obtain ⟨other, mem, values⟩ := ih parsed
      exact ⟨other, List.mem_cons_of_mem _ mem, values⟩
    · cases h

theorem parseCpuList_ok {value : String} {cpus : List Int} (h : parseCpuList value = .ok cpus) :
    cpus.Sorted (· < ·) ∧ ∀ c, c ∈ cpus ↔ ∃ token ∈ splitCommas value, ∃ vs,
      itemValues (trim token) = some vs ∧ ∃ v ∈ vs, c = toInt32 (UInt32.ofNat v) := by
  obtain ⟨items, parsed, h⟩ := bind_eq_ok h
  split_ifs at h
  cases h
  refine ⟨List.Sorted.lt_of_le ((List.sorted_insertionSort _ _).sublist
    (List.dedup_sublist _)) (List.nodup_dedup _), fun c => ?_⟩
  rw [List.mem_dedup, (List.perm_insertionSort _ _).mem_iff, parseCpuItems_ok parsed]

example : parseCpuList "0,2-3" = .ok [0, 2, 3] := rfl

theorem parseCpuList_outOfMemory {value : String}
    (h : parseCpuList value = .error .outOfMemory) :
    ∃ token ∈ splitCommas value, ∃ vs, itemValues (trim token) = some vs ∧
      4294967295 ∈ vs := by
  rcases bind_eq_error h with parsed | ⟨items, -, h⟩
  · exact parseCpuItems_outOfMemory parsed
  · split_ifs at h <;> cases h

/-- `ParseCpuList` returns every item's numbers, ascending and each once, but through
`static_cast<int>`, exact only below `2 ^ 31`: `2147483648` comes back as `-2147483648`. A range
ending at `4294967295` never ends its `uint32_t` loop and runs out of memory, and only an item
that denotes `4294967295` can. -/
theorem parse_cpu_list_wraps_and_exhausts :
    (∀ value cpus, parseCpuList value = .ok cpus →
      cpus.Sorted (· < ·) ∧ ∀ c, c ∈ cpus ↔ ∃ token ∈ splitCommas value, ∃ vs,
        itemValues (trim token) = some vs ∧ ∃ v ∈ vs, c = toInt32 (UInt32.ofNat v)) ∧
    (∀ v : Nat, v < 2 ^ 31 → toInt32 (UInt32.ofNat v) = v) ∧
    (∀ value, parseCpuList value = .error .outOfMemory →
      ∃ token ∈ splitCommas value, ∃ vs, itemValues (trim token) = some vs ∧
        4294967295 ∈ vs) ∧
    itemValues "2147483648" = some [2147483648] ∧
    parseCpuList "2147483648" = .ok [-2147483648] ∧
    parseCpuList "0-4294967295" = .error .outOfMemory :=
  ⟨fun _ _ => parseCpuList_ok, fun _ => toInt32_ofNat_of_lt, fun _ => parseCpuList_outOfMemory,
    rfl, rfl, rfl⟩

end CpuList

end MicroSentinel
