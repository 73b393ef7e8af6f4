import MicroSentinel.Json
import MicroSentinel.Runtime

/-! The request handlers of `ControlPlane` (`control_plane.cpp`) that parse the body with
`ParseJson`: `HandleJitRequest`, `HandleDataObjectRequest`, `HandlePmuConfigRequest` through
`ParsePmuConfig`, and `HandleTargetRequest` through `ParseTargets`. A number is the value
`ParseNumber` stored, exact over the rationals, and an integer field takes it by
`static_cast`. An object's `find` is the lookup of the parsed members; the pointers
`ParseJson` stores are never null. The callbacks are taken to be set. -/
namespace MicroSentinel

namespace ControlPlane

/-- How a handler ends without running its callback: it returns false, or it reaches a
`static_cast` whose truncated value its target type cannot represent, which is undefined
behaviour. -/
inductive Halt where
  | refused
  | undefined
  deriving DecidableEq, Repr

/-- The conversion of a floating value to an integer: the fractional part is discarded. -/
def truncate (d : ℚ) : Int := if 0 ≤ d then ⌊d⌋ else ⌈d⌉

/-- `static_cast` from `double` to an integer type whose values are `lo ≤ v < hi`. -/
def staticCast (lo hi : Int) (d : ℚ) : Except Halt Int :=
  if lo ≤ truncate d ∧ truncate d < hi then .ok (truncate d) else .error .undefined

def castU8 (d : ℚ) : Except Halt UInt8 := (UInt8.ofNat ·.toNat) <$> staticCast 0 (2 ^ 8) d
def castU16 (d : ℚ) : Except Halt UInt16 := (UInt16.ofNat ·.toNat) <$> staticCast 0 (2 ^ 16) d
def castU32 (d : ℚ) : Except Halt UInt32 := (UInt32.ofNat ·.toNat) <$> staticCast 0 (2 ^ 32) d
def castU64 (d : ℚ) : Except Halt UInt64 := (UInt64.ofNat ·.toNat) <$> staticCast 0 (2 ^ 64) d

/-- The values of `ms_pmu_event_type`: its enumerators run from 1 to 7, so it holds those of
the smallest bit-field that holds them, 0 to 7. -/
def msPmuEventValues : Int := 8

/-- `static_cast<ms_pmu_event_type>(static_cast<int>(d))`. -/
def castEvent (d : ℚ) : Except Halt UInt32 := do
  let v ← staticCast (-2 ^ 31) (2 ^ 31) d
  if 0 ≤ v ∧ v < msPmuEventValues then pure (UInt32.ofNat v.toNat) else .error .undefined

/-- A member that is kept only when it is a string. -/
def optionalString (obj : List (String × JsonValue)) (key : String) : Option String :=
  match obj.lookup key with
  | some (.string s) => some s
  | _ => none

/-- A member that is converted only when it is a number. -/
def optionalNumber {α : Type} (obj : List (String × JsonValue)) (key : String)
    (cast : ℚ → Except Halt α) : Except Halt (Option α) :=
  match obj.lookup key with
  | some (.number d) => some <$> cast d
  | _ => pure none

/-- The parsed body, when `ParseJson` accepts it and it is an object. -/
def bodyObject (body : String) : Option (List (String × JsonValue)) :=
  match (Json.parseJson body "").1 with
  | some (.object obj) => some obj
  | _ => none

/-- `JitRegionRequest`; the C field `end` is `stop`. -/
structure JitRegionRequest where
  pid : UInt32 := 0
  start : UInt64 := 0
  stop : UInt64 := 0
  path : String := ""
  buildId : String := ""
  deriving DecidableEq, Repr

/-- `HandleJitRequest`: the request its callback receives. -/
def handleJitRequest (body : String) : Except Halt JitRegionRequest := do
  let some obj := bodyObject body | .error .refused
  let (some (.number pid), some (.number start), some (.number stop), some (.string path)) :=
    (obj.lookup "pid", obj.lookup "start", obj.lookup "end", obj.lookup "path")
    | .error .refused
  let pid ← castU32 pid
  let start ← castU64 start
  let stop ← castU64 stop
  let buildId := (optionalString obj "build_id").getD ""
  if pid = 0 ∨ start = 0 ∨ stop ≤ start ∨ path = "" then .error .refused
  else pure { pid, start, stop, path, buildId }

structure DataObjectRequest where
  pid : UInt32 := 0
  address : UInt64 := 0
  name : String := ""
  type : String := ""
  size : UInt64 := 0
  deriving DecidableEq, Repr

/-- `HandleDataObjectRequest`: the request its callback receives. -/
def handleDataObjectRequest (body : String) : Except Halt DataObjectRequest := do
  let some obj := bodyObject body | .error .refused
  let (some (.number pid), some (.number address), some (.string name)) :=
    (obj.lookup "pid", obj.lookup "address", obj.lookup "name") | .error .refused
  let pid ← castU32 pid
  let address ← castU64 address
  let type := (optionalString obj "type").getD ""
  let size ← optionalNumber obj "size" castU64
  if pid = 0 ∨ address = 0 ∨ name = "" then .error .refused
  else pure { pid, address, name, type, size := size.getD 0 }

/-- The names `ParseLogicalEvent` knows, lower-cased. -/
def logicalEventName (lower : String) : Option UInt32 :=
  if lower = "l3_miss" then some msEvtL3Miss
  else if lower = "branch_mispred" ∨ lower = "branch" then some msEvtBranchMispred
  else if lower = "icache" ∨ lower = "icache_stall" then some msEvtIcacheStall
  else if lower = "avx" ∨ lower = "avx_downclock" then some msEvtAvxDownclock
  else if lower = "stall_backend" ∨ lower = "backend" then some msEvtStallBackend
  else if lower = "xsnp_hitm" ∨ lower = "hitm" then some msEvtXsnpHitm
  else if lower = "remote_dram" ∨ lower = "remote" then some msEvtRemoteDram
  else none

/-- `ParseLogicalEvent(value, ok)`: the event, `none` where `ok` stays false. -/
def parseLogicalEvent : JsonValue → Except Halt (Option UInt32)
  | .number d => some <$> castEvent d
  | .string s => pure (logicalEventName (toLower s))
  | _ => pure none

/-- The `logical` member through `ParseLogicalEvent`, where it is present. -/
def optionalLogical (obj : List (String × JsonValue)) : Except Halt (Option UInt32) :=
  match obj.lookup "logical" with
  | some v => parseLogicalEvent v
  | none => pure none

/-- `ParseEventDesc`: each member of the right kind overrides the default descriptor. -/
def parseEventDesc (node : JsonValue) : Except Halt PmuEventDesc := do
  let .object obj := node | .error .refused
  let type ← optionalNumber obj "type" castU32
  let config ← optionalNumber obj "config" castU64
  let period ← optionalNumber obj "sample_period" castU64
  let logical ← optionalLogical obj
  let desc : PmuEventDesc := { name := "" }
  pure { desc with
    name := (optionalString obj "name").getD desc.name
    type := type.getD desc.type
    config := config.getD desc.config
    samplePeriod := period.getD desc.samplePeriod
    logical := logical.getD desc.logical
    precise := match obj.lookup "precise" with
      | some (.bool b) => b
      | _ => desc.precise }

/-- One entry of the loop of `ParsePmuGroups`. -/
def parsePmuGroup (entry : JsonValue) : Except Halt PmuGroupConfig := do
  let .object obj := entry | .error .refused
  let some (.array nodes) := obj.lookup "events" | .error .refused
  let events ← nodes.mapM parseEventDesc
  if events = [] then .error .refused
  else pure { name := (optionalString obj "name").getD "", events }

/-- `ParsePmuGroups`. -/
def parsePmuGroups (node : JsonValue) : Except Halt (List PmuGroupConfig) := do
  let .array entries := node | .error .refused
  entries.mapM parsePmuGroup

/-- `ParsePmuConfig`: each of `sentinel` and `diagnostic` present is parsed; one of them has
to be. -/
def parsePmuConfig (body : String) : Except Halt PmuConfigUpdate := do
  let some obj := bodyObject body | .error .refused
  let update : PmuConfigUpdate := {}
  let update ← match obj.lookup "sentinel" with
    | some node => do
      let groups ← parsePmuGroups node
      pure { update with hasSentinel := true, sentinelGroups := groups }
    | none => pure update
  let update ← match obj.lookup "diagnostic" with
    | some node => do
      let groups ← parsePmuGroups node
      pure { update with hasDiagnostic := true, diagnosticGroups := groups }
    | none => pure update
  if update.hasSentinel ∨ update.hasDiagnostic then pure update else .error .refused

/-- `HandlePmuConfigRequest`. -/
def handlePmuConfigRequest (body : String) : Except Halt PmuConfigUpdate := do
  let update ← parsePmuConfig body
  if !update.hasSentinel && !update.hasDiagnostic then .error .refused else pure update

/-- `ParseSingleTarget`: the type is compared lower-cased. -/
def parseSingleTarget (node : JsonValue) : Except Halt TargetSpec := do
  let .object obj := node | .error .refused
  let some (.string type) := obj.lookup "type" | .error .refused
  let type := toLower type
  if type = "all" then pure { type := .all }
  else if type = "cgroup" then
    let some path := optionalString obj "path" | .error .refused
    pure { type := .cgroup, path }
  else if type = "process" ∨ type = "pid" then
    let some (.number pid) := obj.lookup "pid" | .error .refused
    let pid ← castU32 pid
    pure { type := .process, pid }
  else if type = "flow" then
    let ingressIfindex ← optionalNumber obj "ingress_ifindex" castU16
    let l4Proto ← optionalNumber obj "l4_proto" castU8
    pure { type := .flow, flow := { ingressIfindex := ingressIfindex.getD 0,
                                    l4Proto := l4Proto.getD 0 } }
  else .error .refused

/-- `ParseTargets`, and so `HandleTargetRequest`: the targets of the request its callback
receives. -/
def parseTargets (body : String) : Except Halt (List TargetSpec) := do
  let some obj := bodyObject body | .error .refused
  let some (.array items) := obj.lookup "targets" | .error .refused
  items.mapM parseSingleTarget

def handleTargetRequest (body : String) : Except Halt (List TargetSpec) := parseTargets body

/-! ### What the handlers take from the body -/

/-- A member a handler converts: where `key` holds a number, `n` is that number truncated
toward zero. -/
def TakenFrom (obj : List (String × JsonValue)) (key : String) (n : Nat) : Prop :=
  ∀ d, obj.lookup key = some (.number d) → (n : Int) = truncate d

theorem ok_of_map {ε α β : Type} {f : α → β} {x : Except ε α} {b : β}
    (h : f <$> x = .ok b) :
    ∃ a, x = .ok a ∧ f a = b := by
  cases x with
  | error e => cases h
  | ok a => exact ⟨a, rfl, Except.ok.inj h⟩

theorem staticCast_ok {lo hi v : Int} {d : ℚ} (h : staticCast lo hi d = .ok v) :
    v = truncate d ∧ lo ≤ v ∧ v < hi := by
  unfold staticCast at h
  split_ifs at h with range
  cases h
  exact ⟨rfl, range⟩

theorem toNat_of_cast {α : Type} {w : Nat} {ofNat : Nat → α} {toNat : α → Nat}
    (roundTrip : ∀ n < 2 ^ w, toNat (ofNat n) = n) {d : ℚ} {x : α}
    (h : (ofNat ·.toNat) <$> staticCast 0 (2 ^ w) d = .ok x) : (toNat x : Int) = truncate d := by
  obtain ⟨v, cast, rfl⟩ := ok_of_map h
  obtain ⟨rfl, lo, hi⟩ := staticCast_ok cast
  have fits : (truncate d).toNat < 2 ^ w := by zify; rw [Int.toNat_of_nonneg lo]; exact hi
  rw [roundTrip _ fits, Int.toNat_of_nonneg lo]

theorem castU8_ok {d : ℚ} {x : UInt8} (h : castU8 d = .ok x) : (x.toNat : Int) = truncate d :=
  toNat_of_cast (fun _ fits => UInt8.toNat_ofNat_of_lt fits) h
theorem castU16_ok {d : ℚ} {x : UInt16} (h : castU16 d = .ok x) : (x.toNat : Int) = truncate d :=
  toNat_of_cast (fun _ fits => UInt16.toNat_ofNat_of_lt fits) h
theorem castU32_ok {d : ℚ} {x : UInt32} (h : castU32 d = .ok x) : (x.toNat : Int) = truncate d :=
  toNat_of_cast (fun _ fits => UInt32.toNat_ofNat_of_lt fits) h
theorem castU64_ok {d : ℚ} {x : UInt64} (h : castU64 d = .ok x) : (x.toNat : Int) = truncate d :=
  toNat_of_cast (fun _ fits => UInt64.toNat_ofNat_of_lt fits) h

theorem castEvent_ok {d : ℚ} {e : UInt32} (h : castEvent d = .ok e) :
    (e.toNat : Int) = truncate d := by
  obtain ⟨v, cast, h⟩ := bind_eq_ok h
  obtain ⟨rfl, -, -⟩ := staticCast_ok cast
  unfold msPmuEventValues at h
  split_ifs at h with range
  cases h
  rw [UInt32.toNat_ofNat_of_lt (by show _ < 4294967296; omega), Int.toNat_of_nonneg range.1]

theorem optionalNumber_ok {α : Type} {obj : List (String × JsonValue)} {key : String}
    {cast : ℚ → Except Halt α} {r : Option α} (h : optionalNumber obj key cast = .ok r)
    {d : ℚ} (found : obj.lookup key = some (.number d)) :
    ∃ x, r = some x ∧ cast d = .ok x := by
  rw [optionalNumber, found] at h
  obtain ⟨x, cast, rfl⟩ := ok_of_map h
  exact ⟨x, rfl, cast⟩

theorem takenFrom_optional {α : Type} {obj : List (String × JsonValue)} {key : String}
    {cast : ℚ → Except Halt α} {toNat : α → Nat}
    (sound : ∀ {d x}, cast d = .ok x → (toNat x : Int) = truncate d) {r : Option α}
    (h : optionalNumber obj key cast = .ok r) (default : α) :
    TakenFrom obj key (toNat (r.getD default)) := fun d found => by
  obtain ⟨x, rfl, cast⟩ := optionalNumber_ok h found
  exact sound cast

theorem takenFrom_of_lookup {obj : List (String × JsonValue)} {key : String} {p : ℚ} {n : Nat}
    (found : obj.lookup key = some (.number p)) (sound : (n : Int) = truncate p) :
    TakenFrom obj key n := fun d other => by
  rw [found] at other
  cases other
  exact sound

theorem handleJitRequest_ok {body : String} {req : JitRegionRequest}
    (h : handleJitRequest body = .ok req) : ∃ obj, bodyObject body = some obj ∧
      TakenFrom obj "pid" req.pid.toNat ∧ TakenFrom obj "start" req.start.toNat ∧
      TakenFrom obj "end" req.stop.toNat := by
  unfold handleJitRequest at h
  split at h
  case h_2 => cases h
  rename_i obj parsed
  split at h
  case h_2 => cases h
  rename_i members
  simp only [Prod.mk.injEq] at members
  obtain ⟨pid, cp, h⟩ := bind_eq_ok h
  obtain ⟨start, cs, h⟩ := bind_eq_ok h
  obtain ⟨stop, ce, h⟩ := bind_eq_ok h
  split_ifs at h
  cases h
  exact ⟨obj, parsed, takenFrom_of_lookup members.1 (castU32_ok cp),
    takenFrom_of_lookup members.2.1 (castU64_ok cs),
    takenFrom_of_lookup members.2.2.1 (castU64_ok ce)⟩

theorem handleDataObjectRequest_ok {body : String} {req : DataObjectRequest}
    (h : handleDataObjectRequest body = .ok req) : ∃ obj, bodyObject body = some obj ∧
      TakenFrom obj "pid" req.pid.toNat ∧ TakenFrom obj "address" req.address.toNat ∧
      TakenFrom obj "size" req.size.toNat := by
  unfold handleDataObjectRequest at h
  split at h
  case h_2 => cases h
  rename_i obj parsed
  split at h
  case h_2 => cases h
  rename_i members
  simp only [Prod.mk.injEq] at members
  obtain ⟨pid, cp, h⟩ := bind_eq_ok h
  obtain ⟨address, ca, h⟩ := bind_eq_ok h
  obtain ⟨size, cs, h⟩ := bind_eq_ok h
  split_ifs at h
  cases h
  exact ⟨obj, parsed, takenFrom_of_lookup members.1 (castU32_ok cp),
    takenFrom_of_lookup members.2.1 (castU64_ok ca), takenFrom_optional castU64_ok cs 0⟩

theorem parseEventDesc_ok {obj : List (String × JsonValue)} {desc : PmuEventDesc}
    (h : parseEventDesc (.object obj) = .ok desc) :
    TakenFrom obj "type" desc.type.toNat ∧ TakenFrom obj "config" desc.config.toNat ∧
      TakenFrom obj "sample_period" desc.samplePeriod.toNat ∧
      TakenFrom obj "logical" desc.logical.toNat := by
  obtain ⟨type, ct, h⟩ := bind_eq_ok h
  obtain ⟨config, cc, h⟩ := bind_eq_ok h
  obtain ⟨period, cp, h⟩ := bind_eq_ok h
  obtain ⟨logical, cl, h⟩ := bind_eq_ok h
  cases h
  refine ⟨takenFrom_optional castU32_ok ct _, takenFrom_optional castU64_ok cc _,
    takenFrom_optional castU64_ok cp _, fun d found => ?_⟩
  rw [optionalLogical, found] at cl
  obtain ⟨e, ce, rfl⟩ := ok_of_map cl
  exact castEvent_ok ce

theorem parseSingleTarget_ok {obj : List (String × JsonValue)} {spec : TargetSpec}
    (h : parseSingleTarget (.object obj) = .ok spec) :
    (spec.type = .process → TakenFrom obj "pid" spec.pid.toNat) ∧
    (spec.type = .flow → TakenFrom obj "ingress_ifindex" spec.flow.ingressIfindex.toNat ∧
      TakenFrom obj "l4_proto" spec.flow.l4Proto.toNat) := by
  unfold parseSingleTarget at h
  dsimp only at h
  split at h
  case h_2 => cases h
  split_ifs at h
  · cases h
    exact ⟨nofun, nofun⟩
  · split at h
    · cases h
      exact ⟨nofun, nofun⟩
    · cases h
  · split at h
    · rename_i found
      obtain ⟨pid, cp, h⟩ := bind_eq_ok h
      cases h
      exact ⟨fun _ => takenFrom_of_lookup found (castU32_ok cp), nofun⟩
    · cases h
  · obtain ⟨ingress, ci, h⟩ := bind_eq_ok h
    obtain ⟨proto, cl, h⟩ := bind_eq_ok h
    cases h
    exact ⟨nofun, fun _ =>
      ⟨takenFrom_optional castU16_ok ci 0, takenFrom_optional castU8_ok cl 0⟩⟩

/-- The handlers test neither that a number is an integer nor that it fits its field, nor that
a `logical` member names an event. Every integer field a callback receives is the member
truncated toward zero, in each handler: a pid of 1.5 reaches the JIT callback as 1 and a
target's pid of 41.9 as 41. An unknown event name leaves the default `MS_EVT_L3_MISS`, and the
number 0, which no event has, is taken as it is. A pid of -1 is not refused: its conversion is
undefined. -/
theorem handlers_truncate_numbers :
    (∀ body req, handleJitRequest body = .ok req → ∃ obj, bodyObject body = some obj ∧
      TakenFrom obj "pid" req.pid.toNat ∧ TakenFrom obj "start" req.start.toNat ∧
      TakenFrom obj "end" req.stop.toNat) ∧
    (∀ body req, handleDataObjectRequest body = .ok req →
      ∃ obj, bodyObject body = some obj ∧
        TakenFrom obj "pid" req.pid.toNat ∧ TakenFrom obj "address" req.address.toNat ∧
        TakenFrom obj "size" req.size.toNat) ∧
    (∀ obj desc, parseEventDesc (.object obj) = .ok desc →
      TakenFrom obj "type" desc.type.toNat ∧ TakenFrom obj "config" desc.config.toNat ∧
      TakenFrom obj "sample_period" desc.samplePeriod.toNat ∧
      TakenFrom obj "logical" desc.logical.toNat) ∧
    (∀ obj spec, parseSingleTarget (.object obj) = .ok spec →
      (spec.type = .process → TakenFrom obj "pid" spec.pid.toNat) ∧
      (spec.type = .flow → TakenFrom obj "ingress_ifindex" spec.flow.ingressIfindex.toNat ∧
        TakenFrom obj "l4_proto" spec.flow.l4Proto.toNat)) ∧
    handleJitRequest
        "\x7b\"pid\": 1.5, \"start\": 4096, \"end\": 8192, \"path\": \"/tmp/jit.map\"\x7d" =
      .ok { pid := 1, start := 4096, stop := 8192, path := "/tmp/jit.map" } ∧
    handleTargetRequest "\x7b\"targets\": [\x7b\"type\": \"pid\", \"pid\": 41.9\x7d]\x7d" =
      .ok [{ type := .process, pid := 41 }] ∧
    handlePmuConfigRequest
        "\x7b\"sentinel\": [\x7b\"events\": [\x7b\"logical\": \"foo\"\x7d]\x7d]\x7d" =
      .ok { hasSentinel := true, sentinelGroups := [⟨"", [{ name := "" }]⟩] } ∧
    handlePmuConfigRequest "\x7b\"sentinel\": [\x7b\"events\": [\x7b\"logical\": 0\x7d]\x7d]\x7d" =
      .ok { hasSentinel := true, sentinelGroups := [⟨"", [{ name := "", logical := 0 }]⟩] } ∧
    handleJitRequest
        "\x7b\"pid\": -1, \"start\": 4096, \"end\": 8192, \"path\": \"/tmp/jit.map\"\x7d" =
      .error .undefined :=
  ⟨fun _ _ => handleJitRequest_ok, fun _ _ => handleDataObjectRequest_ok,
    fun _ _ => parseEventDesc_ok, fun _ _ => parseSingleTarget_ok,
    by with_unfolding_all rfl, by with_unfolding_all rfl, by with_unfolding_all rfl,
    by with_unfolding_all rfl, by with_unfolding_all rfl⟩

end ControlPlane

end MicroSentinel
