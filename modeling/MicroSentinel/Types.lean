import Mathlib.Data.Vector.Basic
import Mathlib.Data.Rat.Defs

/-! Records shared by the kernel sampler and the agent (`ms_common.h`, `sample.h`,
`config.h`). Fixed-width fields keep their C widths; `lbr` is the sixteen-slot
inline branch array, of which the first `lbrNr` entries are meaningful. -/
namespace MicroSentinel

/-- `MS_LBR_MAX`. -/
def msLbrMax : Nat := 16

/-- `MS_FLOW_SKID_NS`, the default skew tolerance. -/
def msFlowSkidNs : UInt64 := 2000

/-- `ms_pmu_event_type`. -/
def msEvtL3Miss : UInt32 := 1
def msEvtBranchMispred : UInt32 := 2
def msEvtIcacheStall : UInt32 := 3
def msEvtAvxDownclock : UInt32 := 4
def msEvtStallBackend : UInt32 := 5
def msEvtXsnpHitm : UInt32 := 6
def msEvtRemoteDram : UInt32 := 7

/-- `ms_lbr_entry`; the C fields are `from` and `to`. -/
structure LbrEntry where
  fromAddr : UInt64
  toAddr : UInt64
  deriving DecidableEq, Repr

/-- `ms_sample`, field for field. -/
structure Sample where
  tsc : UInt64
  cpu : UInt32
  pid : UInt32
  tid : UInt32
  pmuEvent : UInt32
  ip : UInt64
  dataAddr : UInt64
  flowId : UInt64
  gsoSegs : UInt32
  ingressIfindex : UInt16
  numaNode : UInt16
  l4Proto : UInt8
  direction : UInt8
  lbrNr : UInt8
  pad0 : UInt8
  lbr : Mathlib.Vector LbrEntry msLbrMax
  deriving DecidableEq

/-- `LbrStack = std::vector<LbrEntry>`. -/
abbrev LbrStack := List LbrEntry

def zeroEntry : LbrEntry := ⟨0, 0⟩

/-- `Sample sample{}`: every field zero. -/
def Sample.zero : Sample :=
  ⟨0, 0, 0, 0, 0, 0, 0, 0, 0, 0, 0, 0, 0, 0, 0, Mathlib.Vector.replicate msLbrMax zeroEntry⟩

inductive AgentMode where
  | sentinel
  | diagnostic
  deriving DecidableEq, Repr

theorem u64_lt {a b : UInt64} : a < b ↔ a.toNat < b.toNat := Iff.rfl
theorem u64_le {a b : UInt64} : a ≤ b ↔ a.toNat ≤ b.toNat := Iff.rfl
theorem u64_eq {a b : UInt64} : a = b ↔ a.toNat = b.toNat := ⟨congrArg _, UInt64.toNat.inj⟩

theorem toNat_ofNat_u64 {n : Nat} (h : n < 2 ^ 64) : (UInt64.ofNat n).toNat = n :=
  UInt64.toNat_ofNat_of_lt h

theorem ofNat_add_one (n : Nat) : UInt64.ofNat (n + 1) = UInt64.ofNat n + 1 := by
  rw [u64_eq]
  show (n + 1) % 2 ^ 64 = (n % 2 ^ 64 + 1) % 2 ^ 64
  omega

theorem toNat_add_one {a : UInt64} (room : a.toNat + 1 < 2 ^ 64) : (a + 1).toNat = a.toNat + 1 :=
  Nat.mod_eq_of_lt room

end MicroSentinel
