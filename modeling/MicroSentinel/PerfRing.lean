import MicroSentinel.Types

/-! The per-CPU perf ring between `ms_pmu_handler` (`micro_sentinel_kern.bpf.c`) and
`PerfConsumer` (`perf_consumer.cpp`): the bytes of `struct ms_sample`, the
`PERF_RECORD_SAMPLE` record `bpf_perf_event_output` makes of them for the
`PERF_SAMPLE_RAW` event `SetupCpuContext` opens, the kernel copying each record at
`data_head` modulo `data_size`, and `DrainCpu` and `DispatchSample` reading them at
`data_tail`. The data area ends the mapping `SetupCpuContext` makes, so a read past its end
faults. -/
namespace MicroSentinel

/-! ### Little-endian bytes -/

/-- Bytes read least significant first. -/
def decodeLE : List UInt8 → Nat
  | [] => 0
  | byte :: rest => byte.toNat + 256 * decodeLE rest

/-- The low `count` bytes of `n`, least significant first. -/
def encodeLE : Nat → Nat → List UInt8
  | 0, _ => []
  | count + 1, n => UInt8.ofNat n :: encodeLE count (n / 256)

@[simp] theorem length_encodeLE (count n : Nat) : (encodeLE count n).length = count := by
  induction count generalizing n with
  | zero => rfl
  | succ count ih => simp [encodeLE, ih]

theorem decodeLE_encodeLE (count n : Nat) : decodeLE (encodeLE count n) = n % 256 ^ count := by
  induction count generalizing n with
  | zero => simp [encodeLE, decodeLE, Nat.mod_one]
  | succ count ih =>
    show n % 256 + 256 * decodeLE (encodeLE count (n / 256)) = _
    rw [ih, Nat.pow_succ, Nat.mul_comm _ 256, Nat.mod_mul]

/-- `count` bytes off the front, read little-endian, and the bytes after them. -/
def takeLE (count : Nat) (bytes : List UInt8) : Nat × List UInt8 :=
  (decodeLE (bytes.take count), bytes.drop count)

@[simp] theorem takeLE_encodeLE (count n : Nat) (rest : List UInt8) :
    takeLE count (encodeLE count n ++ rest) = (n % 256 ^ count, rest) := by
  simp [takeLE, decodeLE_encodeLE]

@[simp] theorem UInt64.ofNat_toNat_mod (x : UInt64) : UInt64.ofNat (x.toNat % 256 ^ 8) = x := by
  have small : x.toNat % 256 ^ 8 = x.toNat := Nat.mod_eq_of_lt x.toNat_lt_size
  rw [small]; exact UInt64.toNat.inj (Nat.mod_eq_of_lt x.toNat_lt_size)

@[simp] theorem UInt32.ofNat_toNat_mod (x : UInt32) : UInt32.ofNat (x.toNat % 256 ^ 4) = x := by
  have small : x.toNat % 256 ^ 4 = x.toNat := Nat.mod_eq_of_lt x.toNat_lt_size
  rw [small]; exact UInt32.toNat.inj (Nat.mod_eq_of_lt x.toNat_lt_size)

@[simp] theorem UInt16.ofNat_toNat_mod (x : UInt16) : UInt16.ofNat (x.toNat % 256 ^ 2) = x := by
  have small : x.toNat % 256 ^ 2 = x.toNat := Nat.mod_eq_of_lt x.toNat_lt_size
  rw [small]; exact UInt16.toNat.inj (Nat.mod_eq_of_lt x.toNat_lt_size)

@[simp] theorem UInt8.ofNat_toNat_mod (x : UInt8) : UInt8.ofNat (x.toNat % 256 ^ 1) = x := by
  have small : x.toNat % 256 ^ 1 = x.toNat := Nat.mod_eq_of_lt x.toNat_lt_size
  rw [small]; exact UInt8.toNat.inj (Nat.mod_eq_of_lt x.toNat_lt_size)

/-! ### `struct ms_sample` in memory -/

/-- `struct ms_lbr_entry`: `from`, then `to`. -/
def LbrEntry.bytes (entry : LbrEntry) : List UInt8 :=
  encodeLE 8 entry.fromAddr.toNat ++ encodeLE 8 entry.toAddr.toNat

def LbrEntry.read (bytes : List UInt8) : LbrEntry × List UInt8 :=
  let fromAddr := takeLE 8 bytes
  let toAddr := takeLE 8 fromAddr.2
  (⟨UInt64.ofNat fromAddr.1, UInt64.ofNat toAddr.1⟩, toAddr.2)

/-- The first `count` entries of an `lbr` array, and the bytes after them. -/
def readLbr : Nat → List UInt8 → List LbrEntry × List UInt8
  | 0, bytes => ([], bytes)
  | count + 1, bytes =>
    let entry := LbrEntry.read bytes
    let rest := readLbr count entry.2
    (entry.1 :: rest.1, rest.2)

theorem length_readLbr (count : Nat) (bytes : List UInt8) :
    (readLbr count bytes).1.length = count := by
  induction count generalizing bytes with
  | zero => rfl
  | succ count ih => simp [readLbr, ih]

theorem readLbr_bytes (entries : List LbrEntry) (rest : List UInt8) :
    readLbr entries.length (entries.flatMap LbrEntry.bytes ++ rest) = (entries, rest) := by
  induction entries with
  | nil => rfl
  | cons entry entries ih =>
    simp only [List.length_cons, List.flatMap_cons, readLbr, LbrEntry.read, LbrEntry.bytes,
      List.append_assoc, takeLE_encodeLE, UInt64.ofNat_toNat_mod, ih]

/-- The `sizeof(struct ms_sample)` bytes `ms_pmu_handler` passes `bpf_perf_event_output`:
each field little-endian at its offset, and before `lbr` the four bytes that align it to
eight, zero as `struct ms_sample sample = {}` leaves them. -/
def Sample.bytes (s : Sample) : List UInt8 :=
  encodeLE 8 s.tsc.toNat ++ encodeLE 4 s.cpu.toNat ++ encodeLE 4 s.pid.toNat ++
    encodeLE 4 s.tid.toNat ++ encodeLE 4 s.pmuEvent.toNat ++ encodeLE 8 s.ip.toNat ++
    encodeLE 8 s.dataAddr.toNat ++ encodeLE 8 s.flowId.toNat ++ encodeLE 4 s.gsoSegs.toNat ++
    encodeLE 2 s.ingressIfindex.toNat ++ encodeLE 2 s.numaNode.toNat ++
    encodeLE 1 s.l4Proto.toNat ++ encodeLE 1 s.direction.toNat ++ encodeLE 1 s.lbrNr.toNat ++
    encodeLE 1 s.pad0.toNat ++ encodeLE 4 0 ++ s.lbr.toList.flatMap LbrEntry.bytes

/-- `std::memcpy(&sample, data, sizeof(Sample))`: every field read from its offset. -/
def Sample.ofBytes (bytes : List UInt8) : Sample :=
  let tsc := takeLE 8 bytes
  let cpu := takeLE 4 tsc.2
  let pid := takeLE 4 cpu.2
  let tid := takeLE 4 pid.2
  let pmuEvent := takeLE 4 tid.2
  let ip := takeLE 8 pmuEvent.2
  let dataAddr := takeLE 8 ip.2
  let flowId := takeLE 8 dataAddr.2
  let gsoSegs := takeLE 4 flowId.2
  let ingressIfindex := takeLE 2 gsoSegs.2
  let numaNode := takeLE 2 ingressIfindex.2
  let l4Proto := takeLE 1 numaNode.2
  let direction := takeLE 1 l4Proto.2
  let lbrNr := takeLE 1 direction.2
  let pad0 := takeLE 1 lbrNr.2
  let lbr := readLbr msLbrMax (pad0.2.drop 4)
  ⟨UInt64.ofNat tsc.1, UInt32.ofNat cpu.1, UInt32.ofNat pid.1, UInt32.ofNat tid.1,
    UInt32.ofNat pmuEvent.1, UInt64.ofNat ip.1, UInt64.ofNat dataAddr.1, UInt64.ofNat flowId.1,
    UInt32.ofNat gsoSegs.1, UInt16.ofNat ingressIfindex.1, UInt16.ofNat numaNode.1,
    UInt8.ofNat l4Proto.1, UInt8.ofNat direction.1, UInt8.ofNat lbrNr.1, UInt8.ofNat pad0.1,
    ⟨lbr.1, length_readLbr _ _⟩⟩

theorem Sample.ofBytes_bytes (s : Sample) (rest : List UInt8) :
    Sample.ofBytes (s.bytes ++ rest) = s := by
  have lbr : readLbr msLbrMax (s.lbr.toList.flatMap LbrEntry.bytes ++ rest) =
      (s.lbr.toList, rest) := by
    have := readLbr_bytes s.lbr.toList rest
    rwa [s.lbr.toList_length] at this
  simp only [Sample.ofBytes, Sample.bytes, List.append_assoc, takeLE_encodeLE,
    UInt64.ofNat_toNat_mod, UInt32.ofNat_toNat_mod, UInt16.ofNat_toNat_mod,
    UInt8.ofNat_toNat_mod]
  simp only [List.drop_left' (length_encodeLE 4 0), lbr]
  rfl

theorem length_flatMap_lbrEntry (entries : List LbrEntry) :
    (entries.flatMap LbrEntry.bytes).length = 16 * entries.length := by
  induction entries with
  | nil => rfl
  | cons entry entries ih => simp [LbrEntry.bytes, ih]; omega

/-- `sizeof(Sample)`. -/
def sampleSize : Nat := 320

@[simp] theorem length_bytes (s : Sample) : s.bytes.length = sampleSize := by
  simp only [Sample.bytes, List.length_append, length_encodeLE, length_flatMap_lbrEntry,
    Mathlib.Vector.toList_length]
  rfl

/-! ### Records in the ring -/

/-- `PERF_RECORD_LOST`. -/
def perfRecordLost : Nat := 2

/-- `PERF_RECORD_SAMPLE`. -/
def perfRecordSample : Nat := 9

/-- The `u32` size the kernel gives raw data: the sample and the padding that ends the size
and the data on eight bytes. -/
def rawSize : Nat := (4 + sampleSize + 7) / 8 * 8 - 4

/-- `header.size` of a sample record: the `perf_event_header`, the raw size, the raw data. -/
def recordSize : Nat := 8 + 4 + rawSize

/-- The record `bpf_perf_event_output(ctx, &ms_events, BPF_F_CURRENT_CPU, &sample,
sizeof(sample))` leaves for a `PERF_SAMPLE_RAW` event: the `perf_event_header` (`type`,
`misc`, `size`), the raw size, the sample and zero padding. `misc` is the kernel's. -/
def sampleRecord (misc : UInt16) (s : Sample) : List UInt8 :=
  encodeLE 4 perfRecordSample ++ encodeLE 2 misc.toNat ++ encodeLE 2 recordSize ++
    encodeLE 4 rawSize ++ s.bytes ++ List.replicate (rawSize - sampleSize) 0

@[simp] theorem length_sampleRecord (misc : UInt16) (s : Sample) :
    (sampleRecord misc s).length = recordSize := by
  simp only [sampleRecord, List.length_append, length_encodeLE, length_bytes,
    List.length_replicate]
  rfl

theorem sampleRecord_raw (misc : UInt16) (s : Sample) :
    Sample.ofBytes ((sampleRecord misc s).drop (8 + 4)) = s := by
  rw [sampleRecord, List.append_assoc _ s.bytes, List.drop_left' (by simp)]
  exact Sample.ofBytes_bytes s _

/-- One CPU's ring as `SetupCpuContext` maps it: `data_size = 2 ^ sizeLog` bytes (a power of
two number of pages) after the `perf_event_mmap_page`, whose `data_head` the kernel
advances and whose `data_tail` the consumer does. -/
structure PerfRing where
  sizeLog : Nat
  data : Nat → UInt8
  head : UInt64
  tail : UInt64

namespace PerfRing

def dataSize (ring : PerfRing) : Nat := 2 ^ ring.sizeLog

/-- `data_mask = data_size - 1`. -/
def dataMask (ring : PerfRing) : UInt64 := UInt64.ofNat (ring.dataSize - 1)

/-- How far offset `i` of the data area lies past absolute position `p`, modulo
`data_size`. -/
def since (ring : PerfRing) (p i : Nat) : Nat :=
  (i + ring.dataSize - p % ring.dataSize) % ring.dataSize

/-- The kernel copying `bytes` to the data area at `data_head`, wrapping at its end, then
moving `data_head` past them. -/
def output (ring : PerfRing) (bytes : List UInt8) : PerfRing :=
  { ring with
    data := fun i => (bytes[ring.since ring.head.toNat i]?).getD (ring.data i)
    head := ring.head + UInt64.ofNat bytes.length }

/-- `ms_pmu_handler` emitting samples in turn, each record with the `misc` the kernel gives
it. -/
def emitSamples (ring : PerfRing) (records : List (UInt16 × Sample)) : PerfRing :=
  records.foldl (fun ring r => ring.output (sampleRecord r.1 r.2)) ring

/-- `len` bytes of the data area from offset `off`, or `none` where they run past its end. -/
def read (ring : PerfRing) (off len : Nat) : Option (List UInt8) :=
  if off + len ≤ ring.dataSize then some ((List.range len).map fun i => ring.data (off + i))
  else none

/-- The LBR stack of `DispatchSample`: the first `lbr_nr` entries when
`0 < lbr_nr <= MS_LBR_MAX`, else none. -/
def lbrStack (sample : Sample) : LbrStack :=
  if 0 < sample.lbrNr.toNat ∧ sample.lbrNr.toNat ≤ msLbrMax then
    sample.lbr.toList.take sample.lbrNr.toNat
  else []

/-- `DispatchSample(data, size)` for `data` at offset `off` of the data area: nothing for
fewer than `sizeof(Sample)` bytes, else the sample `memcpy` copies from there and its LBR
stack; `none` is a read past the data area. -/
def dispatchSample (ring : PerfRing) (off size : Nat) : Option (Option (Sample × LbrStack)) :=
  if size < sampleSize then some none
  else (ring.read off sampleSize).map fun bytes =>
    let sample := Sample.ofBytes bytes
    some (sample, lbrStack sample)

/-- How one pass of the loop of `DrainCpu` ends: at `tail == head` or a zero-size record, at a
read past the data area, or with what it handed the callback and the new `data_tail`. -/
inductive DrainStep where
  | stop
  | fault
  | next (delivered : Option (Sample × LbrStack)) (tail : UInt64)

/-- One pass of the loop of `DrainCpu` with `data_tail = tail`. The record at
`tail & data_mask` is read in place; `payload = record + 1` and the `size_t`
`payload_size = record->size - sizeof(*record)`. -/
def drainStep (ring : PerfRing) (tail : UInt64) : DrainStep :=
  if tail = ring.head then .stop
  else
    let off := (tail &&& ring.dataMask).toNat
    match ring.read off 8 with
    | none => .fault
    | some header =>
      let size := decodeLE (header.drop 6)
      if size = 0 then .stop
      else
        let tail' := tail + UInt64.ofNat size
        if decodeLE (header.take 4) = perfRecordSample then
          match ring.dispatchSample (off + 8) ((size + 2 ^ 64 - 8) % 2 ^ 64) with
          | none => .fault
          | some delivered => .next delivered tail'
        else if decodeLE (header.take 4) = perfRecordLost then
          match ring.read (off + 16) 8 with
          | none => .fault
          | some _ => .next none tail'
        else .next none tail'

/-- How `DrainCpu` ends: stopped, with the samples handed to the callback in order and the
`data_tail` it stored; faulted, after the samples handed before the fault; or still running
when the passes allowed are spent. -/
inductive Drained where
  | stopped (delivered : List (Sample × LbrStack)) (tail : UInt64)
  | faulted (delivered : List (Sample × LbrStack))
  | running
  deriving DecidableEq

/-- The samples of earlier passes in front of those of later ones. -/
def Drained.after (first : List (Sample × LbrStack)) : Drained → Drained
  | .stopped delivered tail => .stopped (first ++ delivered) tail
  | .faulted delivered => .faulted (first ++ delivered)
  | .running => .running

/-- The loop of `DrainCpu` from `data_tail = tail`, for at most `fuel` passes. -/
def drainFrom (ring : PerfRing) : Nat → UInt64 → Drained
  | 0, _ => .running
  | fuel + 1, tail =>
    match ring.drainStep tail with
    | .stop => .stopped [] tail
    | .fault => .faulted []
    | .next delivered tail' => (ring.drainFrom fuel tail').after delivered.toList

/-- `DrainCpu`, for at most `fuel` passes. -/
def drainCpu (ring : PerfRing) (fuel : Nat) : Drained := ring.drainFrom fuel ring.tail

/-! ### What the kernel leaves in the ring -/

@[simp] theorem dataSize_output (ring : PerfRing) (bytes : List UInt8) :
    (ring.output bytes).dataSize = ring.dataSize := rfl

@[simp] theorem sizeLog_output (ring : PerfRing) (bytes : List UInt8) :
    (ring.output bytes).sizeLog = ring.sizeLog := rfl

@[simp] theorem head_output (ring : PerfRing) (bytes : List UInt8) :
    (ring.output bytes).head = ring.head + UInt64.ofNat bytes.length := rfl

@[simp] theorem tail_output (ring : PerfRing) (bytes : List UInt8) :
    (ring.output bytes).tail = ring.tail := rfl

theorem emitSamples_cons (ring : PerfRing) (r : UInt16 × Sample)
    (records : List (UInt16 × Sample)) :
    ring.emitSamples (r :: records) = (ring.output (sampleRecord r.1 r.2)).emitSamples records :=
  rfl

@[simp] theorem sizeLog_emitSamples (ring : PerfRing) (records : List (UInt16 × Sample)) :
    (ring.emitSamples records).sizeLog = ring.sizeLog := by
  induction records generalizing ring with
  | nil => rfl
  | cons r records ih => rw [emitSamples_cons, ih, sizeLog_output]

@[simp] theorem dataSize_emitSamples (ring : PerfRing) (records : List (UInt16 × Sample)) :
    (ring.emitSamples records).dataSize = ring.dataSize := by
  simp only [dataSize, sizeLog_emitSamples]

@[simp] theorem dataMask_emitSamples (ring : PerfRing) (records : List (UInt16 × Sample)) :
    (ring.emitSamples records).dataMask = ring.dataMask := by
  simp only [dataMask, dataSize_emitSamples]

@[simp] theorem tail_emitSamples (ring : PerfRing) (records : List (UInt16 × Sample)) :
    (ring.emitSamples records).tail = ring.tail := by
  induction records generalizing ring with
  | nil => rfl
  | cons r records ih => rw [emitSamples_cons, ih, tail_output]

theorem toNat_add_ofNat (a : UInt64) (x : Nat) :
    (a + UInt64.ofNat x).toNat = (a.toNat + x) % 2 ^ 64 :=
  Nat.add_mod_mod _ _ _

theorem add_ofNat_add (a : UInt64) (x y : Nat) :
    a + UInt64.ofNat x + UInt64.ofNat y = a + UInt64.ofNat (x + y) :=
  UInt64.toNat.inj (by rw [toNat_add_ofNat, toNat_add_ofNat, toNat_add_ofNat, Nat.mod_add_mod,
    Nat.add_assoc])

/-- `data_tail` at the `r`-th record emitted from `ring`. -/
def recordTail (ring : PerfRing) (r : Nat) : UInt64 := ring.head + UInt64.ofNat (r * recordSize)

/-- Where the `r`-th record emitted from `ring` starts in the data area. -/
def recordOffset (ring : PerfRing) (r : Nat) : Nat :=
  (ring.head.toNat + r * recordSize) % ring.dataSize

theorem recordTail_zero (ring : PerfRing) : ring.recordTail 0 = ring.head :=
  UInt64.toNat.inj (by
    rw [recordTail, toNat_add_ofNat]; exact Nat.mod_eq_of_lt ring.head.toNat_lt_size)

theorem recordTail_succ (ring : PerfRing) (r : Nat) :
    ring.recordTail (r + 1) = ring.recordTail r + UInt64.ofNat recordSize := by
  rw [recordTail, recordTail, add_ofNat_add, Nat.succ_mul]

theorem head_emitSamples (ring : PerfRing) (records : List (UInt16 × Sample)) :
    (ring.emitSamples records).head = ring.recordTail records.length := by
  induction records generalizing ring with
  | nil => exact (recordTail_zero ring).symm
  | cons r records ih =>
    rw [emitSamples_cons, ih, recordTail, recordTail, head_output, length_sampleRecord,
      add_ofNat_add, List.length_cons, Nat.succ_mul, Nat.add_comm recordSize]

/-- The bytes of records emitted in turn. -/
def recordBytes (records : List (UInt16 × Sample)) : List UInt8 :=
  records.flatMap fun r => sampleRecord r.1 r.2

theorem recordBytes_cons (r : UInt16 × Sample) (records : List (UInt16 × Sample)) :
    recordBytes (r :: records) = sampleRecord r.1 r.2 ++ recordBytes records :=
  List.flatMap_cons _ _ _

@[simp] theorem length_recordBytes (records : List (UInt16 × Sample)) :
    (recordBytes records).length = records.length * recordSize := by
  induction records with
  | nil => rfl
  | cons r records ih =>
    rw [recordBytes_cons, List.length_append, ih, length_sampleRecord, List.length_cons,
      Nat.succ_mul, Nat.add_comm]

section Positions

variable (ring : PerfRing)

theorem dataSize_pos : 0 < ring.dataSize := Nat.two_pow_pos _

theorem dataSize_dvd (small : ring.sizeLog < 64) : ring.dataSize ∣ 2 ^ 64 :=
  Nat.pow_dvd_pow 2 small.le

theorem dataSize_lt (small : ring.sizeLog < 64) : ring.dataSize < 2 ^ 64 :=
  Nat.pow_lt_pow_right (by decide) small

theorem since_add (p : Nat) {j : Nat} (hj : j < ring.dataSize) :
    ring.since p ((p + j) % ring.dataSize) = j := by
  have hr := Nat.mod_lt p ring.dataSize_pos
  unfold since
  rw [Nat.add_mod, Nat.mod_eq_of_lt hj]
  by_cases wrap : p % ring.dataSize + j < ring.dataSize
  · rw [Nat.mod_eq_of_lt wrap, show p % ring.dataSize + j + ring.dataSize - p % ring.dataSize =
      j + ring.dataSize by omega, Nat.add_mod_right, Nat.mod_eq_of_lt hj]
  · have wrapped :
        (p % ring.dataSize + j) % ring.dataSize = p % ring.dataSize + j - ring.dataSize := by
      rw [Nat.mod_eq_sub_mod (by omega), Nat.mod_eq_of_lt (by omega)]
    rw [wrapped, show p % ring.dataSize + j - ring.dataSize + ring.dataSize - p % ring.dataSize = j
      by omega, Nat.mod_eq_of_lt hj]

theorem data_output (bytes : List UInt8) {j : Nat} (hj : j < ring.dataSize) :
    (ring.output bytes).data ((ring.head.toNat + j) % ring.dataSize) =
      (bytes[j]?).getD (ring.data ((ring.head.toNat + j) % ring.dataSize)) := by
  simp only [output, since_add ring _ hj]

theorem mod_dataSize_mod (small : ring.sizeLog < 64) (q x : Nat) :
    (q % 2 ^ 64 + x) % ring.dataSize = (q + x) % ring.dataSize := by
  rw [← Nat.mod_add_mod, Nat.mod_mod_of_dvd _ (ring.dataSize_dvd small), Nat.mod_add_mod]

theorem toNat_and_dataMask (small : ring.sizeLog < 64) (t : UInt64) :
    (t &&& ring.dataMask).toNat = t.toNat % ring.dataSize := by
  have mask : ring.dataMask.toNat = 2 ^ ring.sizeLog - 1 := by
    show (ring.dataSize - 1) % 2 ^ 64 = _
    exact Nat.mod_eq_of_lt (by have := ring.dataSize_lt small; unfold dataSize at this ⊢; omega)
  rw [UInt64.and_toNat, mask, Nat.and_pow_two_sub_one_eq_mod]
  rfl

theorem offset_recordTail (small : ring.sizeLog < 64) (r : Nat) :
    (ring.recordTail r &&& ring.dataMask).toNat = ring.recordOffset r := by
  rw [toNat_and_dataMask ring small, recordTail, toNat_add_ofNat,
    Nat.mod_mod_of_dvd _ (ring.dataSize_dvd small)]
  rfl

theorem mod_add_of_lt {q k : Nat} (inside : q % ring.dataSize + k < ring.dataSize) :
    q % ring.dataSize + k = (q + k) % ring.dataSize := by
  rw [← Nat.mod_add_mod q, Nat.mod_eq_of_lt inside]

theorem add_mod_ne {h i n c : Nat} (hi : i < n) (hn : n < c) : (h + i) % c ≠ (h + n) % c := by
  intro same
  have hd : c ∣ (h + n) - (h + i) :=
    Nat.dvd_of_mod_eq_zero (Nat.sub_mod_eq_zero_of_mod_eq same.symm)
  have : (h + n) - (h + i) = 0 := Nat.eq_zero_of_dvd_of_lt hd (by omega)
  omega

end Positions

section Emitted

variable (ring : PerfRing) (records : List (UInt16 × Sample))

theorem data_emitSamples (small : ring.sizeLog < 64)
    (fits : records.length * recordSize ≤ ring.dataSize) {j : Nat} (hj : j < ring.dataSize) :
    (ring.emitSamples records).data ((ring.head.toNat + j) % ring.dataSize) =
      ((recordBytes records)[j]?).getD (ring.data ((ring.head.toNat + j) % ring.dataSize)) := by
  induction records generalizing ring j with
  | nil => rfl
  | cons r records ih =>
    have fits' : records.length * recordSize ≤ ring.dataSize :=
      Nat.le_trans (Nat.mul_le_mul_right _ (Nat.le_succ _)) fits
    have total : (r :: records).length * recordSize = records.length * recordSize + recordSize :=
      Nat.succ_mul _ _
    have later : ∀ {j}, j < ring.dataSize →
        ((ring.output (sampleRecord r.1 r.2)).emitSamples records).data
          (((ring.output (sampleRecord r.1 r.2)).head.toNat + j) % ring.dataSize) =
        ((recordBytes records)[j]?).getD ((ring.output (sampleRecord r.1 r.2)).data
          (((ring.output (sampleRecord r.1 r.2)).head.toNat + j) % ring.dataSize)) :=
      ih (ring.output (sampleRecord r.1 r.2)) small fits'
    have shift : ∀ x, ((ring.output (sampleRecord r.1 r.2)).head.toNat + x) % ring.dataSize =
        (ring.head.toNat + recordSize + x) % ring.dataSize := by
      intro x
      rw [head_output, toNat_add_ofNat, length_sampleRecord, mod_dataSize_mod ring small]
    have first : (sampleRecord r.1 r.2).length = recordSize := length_sampleRecord _ _
    rw [emitSamples_cons, recordBytes_cons]
    by_cases inFirst : j < recordSize
    · -- the later records were written elsewhere
      have pos : (ring.head.toNat + j) % ring.dataSize =
          ((ring.output (sampleRecord r.1 r.2)).head.toNat + (j + ring.dataSize - recordSize)) %
            ring.dataSize := by
        rw [shift, show ring.head.toNat + recordSize + (j + ring.dataSize - recordSize) =
          ring.head.toNat + j + ring.dataSize by omega, Nat.add_mod_right]
      rw [pos, later (by omega), ← pos,
        List.getElem?_eq_none (by simp only [length_recordBytes]; omega), Option.getD_none,
        data_output _ _ hj, List.getElem?_append_left (by omega)]
    · have pos : (ring.head.toNat + j) % ring.dataSize =
          ((ring.output (sampleRecord r.1 r.2)).head.toNat + (j - recordSize)) %
            ring.dataSize := by
        rw [shift, show ring.head.toNat + recordSize + (j - recordSize) = ring.head.toNat + j by
          omega]
      rw [pos, later (by omega), ← pos, data_output _ _ hj,
        List.getElem?_eq_none (show (sampleRecord r.1 r.2).length ≤ j by omega), Option.getD_none,
        List.getElem?_append_right (by omega), first]

theorem read_emitSamples (small : ring.sizeLog < 64)
    (fits : records.length * recordSize ≤ ring.dataSize) {a len : Nat}
    (inside : (ring.head.toNat + a) % ring.dataSize + len ≤ ring.dataSize)
    (within : a + len ≤ records.length * recordSize) :
    (ring.emitSamples records).read ((ring.head.toNat + a) % ring.dataSize) len =
      some (((recordBytes records).drop a).take len) := by
  rw [read, dataSize_emitSamples, if_pos inside]
  congr 1
  apply List.ext_getElem (by simp only [List.length_map, List.length_range, List.length_take,
    List.length_drop, length_recordBytes]; omega)
  intro t h₁ _
  simp only [List.length_map, List.length_range] at h₁
  rw [List.getElem_map, List.getElem_range, ring.mod_add_of_lt (by omega), Nat.add_assoc,
    data_emitSamples ring records small fits (by omega), List.getElem_take, List.getElem_drop,
    List.getElem?_eq_getElem (by simp only [length_recordBytes]; omega), Option.getD_some]

end Emitted

/-! ### `DrainCpu` over what the kernel wrote -/

theorem sampleRecord_eq (misc : UInt16) (s : Sample) :
    sampleRecord misc s =
      (encodeLE 4 perfRecordSample ++ encodeLE 2 misc.toNat ++ encodeLE 2 recordSize) ++
        (encodeLE 4 rawSize ++ s.bytes ++ List.replicate (rawSize - sampleSize) 0) := by
  simp only [sampleRecord, List.append_assoc]

theorem header_sampleRecord (misc : UInt16) (s : Sample) :
    decodeLE (((sampleRecord misc s).take 8).take 4) = perfRecordSample ∧
      decodeLE (((sampleRecord misc s).take 8).drop 6) = recordSize := by
  have header : (sampleRecord misc s).take 8 =
      encodeLE 4 perfRecordSample ++ encodeLE 2 misc.toNat ++ encodeLE 2 recordSize := by
    rw [sampleRecord_eq]; exact List.take_left' (by simp)
  have type : (encodeLE 4 perfRecordSample ++ encodeLE 2 misc.toNat ++
      encodeLE 2 recordSize).take 4 = encodeLE 4 perfRecordSample := by
    rw [List.append_assoc]; exact List.take_left' (length_encodeLE 4 _)
  have size : (encodeLE 4 perfRecordSample ++ encodeLE 2 misc.toNat ++
      encodeLE 2 recordSize).drop 6 = encodeLE 2 recordSize := List.drop_left' (by simp)
  rw [header, type, size, decodeLE_encodeLE, decodeLE_encodeLE]
  exact ⟨rfl, rfl⟩

theorem payload_sampleRecord (misc : UInt16) (s : Sample) :
    ((sampleRecord misc s).drop 8).take sampleSize =
      (encodeLE 4 rawSize ++ s.bytes).take sampleSize := by
  have long : sampleSize ≤ (encodeLE 4 rawSize ++ s.bytes).length := by
    rw [List.length_append, length_encodeLE, length_bytes]; exact Nat.le_add_left _ _
  rw [sampleRecord_eq, List.drop_left' (by simp), List.take_append_of_le_length long]

theorem drop_recordBytes (records : List (UInt16 × Sample)) (r : Nat) :
    (recordBytes records).drop (r * recordSize) = recordBytes (records.drop r) := by
  induction records generalizing r with
  | nil => simp [recordBytes]
  | cons x records ih =>
    cases r with
    | zero => rfl
    | succ r =>
      rw [recordBytes_cons, Nat.succ_mul, Nat.add_comm, ← List.drop_drop,
        List.drop_left' (length_sampleRecord _ _), ih]
      rfl

theorem slice_recordBytes (records : List (UInt16 × Sample)) {r : Nat} (hr : r < records.length)
    {k len : Nat} (inside : k + len ≤ recordSize) :
    ((recordBytes records).drop (r * recordSize + k)).take len =
      ((sampleRecord records[r].1 records[r].2).drop k).take len := by
  rw [← List.drop_drop, drop_recordBytes, List.drop_eq_getElem_cons hr, recordBytes_cons,
    List.drop_append_of_le_length (by simp only [length_sampleRecord]; omega),
    List.take_append_of_le_length (by simp only [List.length_drop, length_sampleRecord]; omega)]

/-- What `DispatchSample` hands the callback for the record of `s`: `record + 1` is the raw
size, not the sample, so the copy starts four bytes early. -/
def dispatched (s : Sample) : Sample × LbrStack :=
  let sample := Sample.ofBytes ((encodeLE 4 rawSize ++ s.bytes).take sampleSize)
  (sample, lbrStack sample)

section Drain

variable (ring : PerfRing) (records : List (UInt16 × Sample))

theorem recordTail_ne (small : ring.sizeLog < 64)
    (fits : records.length * recordSize ≤ ring.dataSize) {r : Nat} (hr : r < records.length) :
    ring.recordTail r ≠ ring.recordTail records.length := by
  intro same
  have := congrArg UInt64.toNat same
  rw [recordTail, recordTail, toNat_add_ofNat, toNat_add_ofNat] at this
  exact add_mod_ne (Nat.mul_lt_mul_of_pos_right hr (by decide))
    (Nat.lt_of_le_of_lt fits (ring.dataSize_lt small)) this

theorem drainStep_emitSamples (small : ring.sizeLog < 64)
    (fits : records.length * recordSize ≤ ring.dataSize) {r : Nat} (hr : r < records.length) :
    (ring.emitSamples records).drainStep (ring.recordTail r) =
      if ring.recordOffset r + 8 + sampleSize ≤ ring.dataSize then
        .next (some (dispatched records[r].2)) (ring.recordTail (r + 1))
      else .fault := by
  have within : r * recordSize + recordSize ≤ records.length * recordSize := by
    rw [← Nat.succ_mul]; exact Nat.mul_le_mul_right _ hr
  have sizes : sampleSize = 320 ∧ recordSize = 336 := ⟨rfl, rfl⟩
  have fields := header_sampleRecord records[r].1 records[r].2
  rw [drainStep, head_emitSamples, if_neg (recordTail_ne ring records small fits hr),
    dataMask_emitSamples, offset_recordTail ring small]
  dsimp only
  by_cases header : ring.recordOffset r + 8 ≤ ring.dataSize
  · have headerRead : (ring.emitSamples records).read (ring.recordOffset r) 8 =
        some ((sampleRecord records[r].1 records[r].2).take 8) := by
      rw [recordOffset, read_emitSamples ring records small fits header (by omega),
        ← Nat.add_zero (r * recordSize),
        slice_recordBytes records hr (by omega)]
      rfl
    have payloadSize : (recordSize + 2 ^ 64 - 8) % 2 ^ 64 = recordSize - 8 := by decide
    rw [headerRead]
    dsimp only
    rw [fields.2, if_neg (by decide), fields.1, if_pos rfl, payloadSize, dispatchSample,
      if_neg (by decide)]
    by_cases payload : ring.recordOffset r + 8 + sampleSize ≤ ring.dataSize
    · have payloadRead : (ring.emitSamples records).read (ring.recordOffset r + 8) sampleSize =
          some ((encodeLE 4 rawSize ++ records[r].2.bytes).take sampleSize) := by
        have pos : ring.recordOffset r + 8 =
            (ring.head.toNat + (r * recordSize + 8)) % ring.dataSize := by
          rw [recordOffset, ring.mod_add_of_lt (by unfold recordOffset at payload; omega),
            Nat.add_assoc]
        rw [pos, read_emitSamples ring records small fits (pos ▸ payload) (by omega),
          slice_recordBytes records hr (by omega), payload_sampleRecord]
      rw [payloadRead, if_pos payload, recordTail_succ]
      rfl
    · rw [read, dataSize_emitSamples, if_neg payload, if_neg payload]
      rfl
  · rw [read, dataSize_emitSamples, if_neg header, if_neg (by omega)]

theorem drainStep_head : ring.drainStep ring.head = .stop := by
  rw [drainStep, if_pos rfl]

theorem drainStep_caughtUp :
    (ring.emitSamples records).drainStep (ring.recordTail records.length) = .stop := by
  rw [← head_emitSamples]
  exact drainStep_head _

theorem drainFrom_emitSamples (small : ring.sizeLog < 64)
    (fits : records.length * recordSize ≤ ring.dataSize)
    (inBounds : ∀ r < records.length, ring.recordOffset r + 8 + sampleSize ≤ ring.dataSize)
    (fuel : Nat) {r : Nat} (hr : r ≤ records.length) (enough : records.length - r < fuel) :
    (ring.emitSamples records).drainFrom fuel (ring.recordTail r) =
      .stopped ((records.drop r).map fun x => dispatched x.2) (ring.recordTail records.length) := by
  induction fuel generalizing r with
  | zero => omega
  | succ fuel ih =>
    rw [drainFrom]
    rcases Nat.lt_or_eq_of_le hr with hr | rfl
    · rw [drainStep_emitSamples ring records small fits hr, if_pos (inBounds r hr)]
      dsimp only
      rw [ih hr (by omega), List.drop_eq_getElem_cons hr]
      rfl
    · rw [drainStep_caughtUp, List.drop_length]
      rfl

theorem drainFrom_emitSamples_straddle (small : ring.sizeLog < 64)
    (fits : records.length * recordSize ≤ ring.dataSize) {r₀ : Nat}
    (hr₀ : r₀ < records.length)
    (before : ∀ r < r₀, ring.recordOffset r + 8 + sampleSize ≤ ring.dataSize)
    (straddles : ring.dataSize < ring.recordOffset r₀ + 8 + sampleSize)
    (fuel : Nat) {r : Nat} (hr : r ≤ r₀) (enough : r₀ - r < fuel) :
    (ring.emitSamples records).drainFrom fuel (ring.recordTail r) =
      .faulted (((records.drop r).take (r₀ - r)).map fun x => dispatched x.2) := by
  induction fuel generalizing r with
  | zero => omega
  | succ fuel ih =>
    rw [drainFrom]
    rcases Nat.lt_or_eq_of_le hr with hr | rfl
    · rw [drainStep_emitSamples ring records small fits (by omega), if_pos (before r hr)]
      dsimp only
      rw [ih hr (by omega), List.drop_eq_getElem_cons (show r < records.length by omega),
        show r₀ - r = r₀ - (r + 1) + 1 by omega, List.take_succ_cons]
      rfl
    · rw [drainStep_emitSamples ring records small fits hr₀, if_neg (by omega), Nat.sub_self,
        List.take_zero]
      rfl

theorem drainCpu_emitSamples (small : ring.sizeLog < 64) (caughtUp : ring.tail = ring.head)
    (fits : records.length * recordSize ≤ ring.dataSize)
    (inBounds : ∀ r < records.length, ring.recordOffset r + 8 + sampleSize ≤ ring.dataSize)
    {fuel : Nat} (enough : records.length < fuel) :
    (ring.emitSamples records).drainCpu fuel =
      .stopped (records.map fun x => dispatched x.2) (ring.emitSamples records).head := by
  rw [drainCpu, tail_emitSamples, caughtUp, ← recordTail_zero, head_emitSamples,
    drainFrom_emitSamples ring records small fits inBounds fuel (Nat.zero_le _) (by omega),
    List.drop_zero]

theorem drainCpu_emitSamples_straddle (small : ring.sizeLog < 64)
    (caughtUp : ring.tail = ring.head) (fits : records.length * recordSize ≤ ring.dataSize)
    {r₀ : Nat} (hr₀ : r₀ < records.length)
    (before : ∀ r < r₀, ring.recordOffset r + 8 + sampleSize ≤ ring.dataSize)
    (straddles : ring.dataSize < ring.recordOffset r₀ + 8 + sampleSize)
    {fuel : Nat} (enough : r₀ < fuel) :
    (ring.emitSamples records).drainCpu fuel =
      .faulted ((records.take r₀).map fun x => dispatched x.2) := by
  rw [drainCpu, tail_emitSamples, caughtUp, ← recordTail_zero,
    drainFrom_emitSamples_straddle ring records small fits hr₀ before straddles fuel
      (Nat.zero_le _) enough, List.drop_zero, Nat.sub_zero]

end Drain

/-! ### `DrainCpu` over any bytes -/

section Any

variable (ring : PerfRing)

/-- One record consumed: `data_tail` moves from `t` by the non-zero size in the header it
reads at `t & data_mask`. -/
def Advances (t t' : UInt64) : Prop :=
  ∃ header, ring.read (t &&& ring.dataMask).toNat 8 = some header ∧
    decodeLE (header.drop 6) ≠ 0 ∧ t' = t + UInt64.ofNat (decodeLE (header.drop 6))

theorem drainStep_next {tail tail' : UInt64} {delivered : Option (Sample × LbrStack)}
    (h : ring.drainStep tail = .next delivered tail') : ring.Advances tail tail' := by
  unfold drainStep at h
  split_ifs at h
  simp only at h
  split at h
  · cases h
  rename_i header read
  split_ifs at h with zero
  all_goals (try split at h) <;> cases h
  all_goals exact ⟨header, read, zero, rfl⟩

theorem drainStep_stop {tail : UInt64} (h : ring.drainStep tail = .stop) :
    tail = ring.head ∨ ∃ header, ring.read (tail &&& ring.dataMask).toNat 8 = some header ∧
      decodeLE (header.drop 6) = 0 := by
  unfold drainStep at h
  split_ifs at h with caughtUp
  · exact .inl caughtUp
  simp only at h
  split at h
  · cases h
  rename_i header read
  split_ifs at h with zero
  · exact .inr ⟨header, read, zero⟩
  all_goals (try split at h) <;> cases h

section Header

variable {tail : UInt64} (ne : tail ≠ ring.head) {header : List UInt8}
  (read : ring.read (tail &&& ring.dataMask).toNat 8 = some header)
include ne read

theorem drainStep_zero (zero : decodeLE (header.drop 6) = 0) : ring.drainStep tail = .stop := by
  rw [drainStep, if_neg ne]
  simp only [read, zero, if_true]

theorem drainStep_sample (nonzero : decodeLE (header.drop 6) ≠ 0)
    (sample : decodeLE (header.take 4) = perfRecordSample) {delivered : Option (Sample × LbrStack)}
    (dispatch : ring.dispatchSample ((tail &&& ring.dataMask).toNat + 8)
      ((decodeLE (header.drop 6) + 2 ^ 64 - 8) % 2 ^ 64) = some delivered) :
    ring.drainStep tail = .next delivered (tail + UInt64.ofNat (decodeLE (header.drop 6))) := by
  rw [drainStep, if_neg ne]
  simp only [read, nonzero, sample, dispatch, if_false, if_true]

theorem drainStep_skip (nonzero : decodeLE (header.drop 6) ≠ 0)
    (notSample : decodeLE (header.take 4) ≠ perfRecordSample)
    (notLost : decodeLE (header.take 4) ≠ perfRecordLost) :
    ring.drainStep tail = .next none (tail + UInt64.ofNat (decodeLE (header.drop 6))) := by
  rw [drainStep, if_neg ne]
  simp only [read, nonzero, notSample, notLost, if_false]

end Header

theorem Drained.stopped_of_after {first : List (Sample × LbrStack)} {r : Drained}
    {delivered : List (Sample × LbrStack)} {t : UInt64}
    (h : r.after first = .stopped delivered t) :
    ∃ rest, r = .stopped rest t := by
  cases r with
  | stopped rest t' => cases h; exact ⟨rest, rfl⟩
  | faulted => cases h
  | running => cases h

theorem drainFrom_stopped {fuel : Nat} {tail t : UInt64} {delivered : List (Sample × LbrStack)}
    (h : ring.drainFrom fuel tail = .stopped delivered t) :
    Relation.ReflTransGen ring.Advances tail t ∧ ring.drainStep t = .stop := by
  induction fuel generalizing tail delivered with
  | zero => cases h
  | succ fuel ih =>
    rw [drainFrom] at h
    split at h
    · rename_i stop
      cases h
      exact ⟨.refl, stop⟩
    · cases h
    · rename_i step
      obtain ⟨rest, h⟩ := Drained.stopped_of_after h
      obtain ⟨chain, stop⟩ := ih h
      exact ⟨.head (ring.drainStep_next step) chain, stop⟩

theorem read_of_bytes {ring : PerfRing} {bytes : List UInt8}
    (data : ∀ i, ring.data i = (bytes[i]?).getD 0) {off len : Nat}
    (inside : off + len ≤ ring.dataSize) (within : off + len ≤ bytes.length) :
    ring.read off len = some ((bytes.drop off).take len) := by
  rw [read, if_pos inside]
  congr 1
  have length : ((List.range len).map fun i => ring.data (off + i)).length =
      ((bytes.drop off).take len).length := by simp; omega
  refine List.ext_getElem length fun i h _ => ?_
  simp only [List.length_map, List.length_range] at h
  rw [List.getElem_map, List.getElem_range, data, List.getElem_take, List.getElem_drop,
    List.getElem?_eq_getElem (by omega), Option.getD_some]

end Any

/-- The ring `SetupCpuContext` maps by default: 8 pages of 4096 bytes, nothing written. -/
def defaultRing : PerfRing := ⟨15, fun _ => 0, 0, 0⟩

/-- A sample with `tsc = 1` and every other field 0. -/
def tscOne : Sample := { Sample.zero with tsc := 1 }

/-- The default ring once `DrainCpu` has consumed 97 sample records: `data_tail` and
`data_head` at `97 * 336`, 176 bytes before the end of the data area. -/
def nearEndRing : PerfRing := { defaultRing with head := 32592, tail := 32592 }

theorem drain_cpu_misreads_samples :
    (defaultRing.emitSamples [(0, tscOne)]).drainCpu 2 =
        .stopped [dispatched tscOne] (UInt64.ofNat recordSize) ∧
      (dispatched tscOne).1.tsc.toNat = 324 + 2 ^ 32 ∧
    (nearEndRing.emitSamples [(0, Sample.zero)]).drainCpu 2 = .faulted [] := by
  refine ⟨?_, by decide, ?_⟩
  · rw [drainCpu_emitSamples defaultRing _ (by decide) rfl (by decide) ?_ (by decide),
      head_emitSamples]
    · rfl
    · intro r hr
      simp only [List.length_singleton, Nat.lt_one_iff] at hr
      subst hr
      decide
  · exact @drainCpu_emitSamples_straddle nearEndRing _ (by decide) rfl (by decide) 0 (by decide)
      (fun _ h => absurd h (Nat.not_lt_zero _)) (by decide) 2 (by decide)

/-- A header at offset 0 that claims a record as long as the data area, and `data_head` 8
bytes on. -/
def spinRing : PerfRing :=
  { defaultRing with data := (fun i => if i = 7 then 0x80 else 0), head := 8 }

theorem spinRing_drainFrom (fuel k : Nat) :
    spinRing.drainFrom fuel (UInt64.ofNat (32768 * k)) = .running := by
  induction fuel generalizing k with
  | zero => rfl
  | succ fuel ih =>
    have ne : UInt64.ofNat (32768 * k) ≠ spinRing.head := fun same => by
      have := congrArg UInt64.toNat same
      change 32768 * k % 2 ^ 64 = 8 at this
      omega
    have off : (UInt64.ofNat (32768 * k) &&& spinRing.dataMask).toNat = 0 := by
      rw [toNat_and_dataMask spinRing (by decide)]
      change 32768 * k % 2 ^ 64 % 32768 = 0
      omega
    have header : spinRing.read 0 8 = some [0, 0, 0, 0, 0, 0, 0, 0x80] := by decide
    have next : UInt64.ofNat (32768 * k) + UInt64.ofNat 32768 =
        UInt64.ofNat (32768 * (k + 1)) := by
      rw [u64_eq, toNat_add_ofNat]
      change (32768 * k % 2 ^ 64 + 32768) % 2 ^ 64 = 32768 * (k + 1) % 2 ^ 64
      omega
    rw [drainFrom, drainStep_skip spinRing ne (off ▸ header) (by decide) (by decide) (by decide)]
    exact congrArg (Drained.after []) ((congrArg _ next).trans (ih (k + 1)))

/-- A `PERF_RECORD_SAMPLE` header whose size, 4, is less than the header's own 8 bytes. -/
def shortHeader : List UInt8 := encodeLE 4 perfRecordSample ++ encodeLE 2 0 ++ encodeLE 2 4

/-- The short header at offset 0 with the bytes of `s` behind it, and `data_head` 4 bytes
on. -/
def peekRing (s : Sample) : PerfRing :=
  { defaultRing with data := (fun i => ((shortHeader ++ s.bytes)[i]?).getD 0), head := 4 }

theorem peekRing_drainCpu (s : Sample) :
    (peekRing s).drainCpu 2 = .stopped [(s, lbrStack s)] 4 := by
  have data : ∀ i, (peekRing s).data i = ((shortHeader ++ s.bytes)[i]?).getD 0 := fun _ => rfl
  have length : (shortHeader ++ s.bytes).length = 8 + sampleSize := by
    rw [List.length_append, length_bytes]; rfl
  have eight : shortHeader.length = 8 := rfl
  have header : (peekRing s).read 0 8 = some shortHeader := by
    rw [read_of_bytes data (by exact (by decide : 0 + 8 ≤ 32768)) (by omega), List.drop_zero,
      List.take_left' eight]
  have payload : (peekRing s).read 8 sampleSize = some s.bytes := by
    rw [read_of_bytes data (by exact (by decide : 8 + 320 ≤ 32768)) (by omega),
      List.drop_left' eight, List.take_of_length_le (by rw [length_bytes])]
  have sample : Sample.ofBytes s.bytes = s := by
    simpa using Sample.ofBytes_bytes s []
  have off : ((0 : UInt64) &&& (peekRing s).dataMask).toNat = 0 := by
    rw [toNat_and_dataMask _ (by exact (by decide : 15 < 64))]; rfl
  have dispatch : (peekRing s).dispatchSample (0 + 8) ((4 + 2 ^ 64 - 8) % 2 ^ 64) =
      some (some (s, lbrStack s)) := by
    rw [dispatchSample, if_neg (by decide), payload, Option.map_some', sample]
  have four : (0 : UInt64) + UInt64.ofNat 4 = 4 := by decide
  have first : (peekRing s).read ((0 : UInt64) &&& (peekRing s).dataMask).toNat 8 =
      some shortHeader := by rw [off]; exact header
  have last : (peekRing s).drainFrom 1 (0 + UInt64.ofNat 4) = .stopped [] 4 := by
    rw [four]
    show (peekRing s).drainFrom 1 (peekRing s).head = .stopped [] (peekRing s).head
    rw [drainFrom, drainStep_head]
  rw [drainCpu, show (peekRing s).tail = 0 from rfl, drainFrom,
    drainStep_sample (peekRing s) (by exact (by decide : (0 : UInt64) ≠ 4)) first (by decide) rfl
      (off ▸ dispatch)]
  exact congrArg (Drained.after [(s, lbrStack s)]) last

/-- The default ring with `data_head` 8 bytes on: the header at `data_tail` has size 0. -/
def stuckRing : PerfRing := { defaultRing with head := 8 }

theorem stuckRing_drainCpu (records : List (UInt16 × Sample))
    (fits : records.length * recordSize ≤ stuckRing.dataSize - 8) (fuel : Nat) :
    (stuckRing.emitSamples records).drainCpu (fuel + 1) = .stopped [] 0 := by
  have size : stuckRing.dataSize = 32768 := rfl
  have zeros : (stuckRing.emitSamples records).read 0 8 = some (List.replicate 8 0) := by
    rw [read, dataSize_emitSamples, if_pos (by omega)]
    congr 1
    refine List.ext_getElem (by simp) fun i h _ => ?_
    simp only [List.length_map, List.length_range] at h
    have pos : 0 + i = (stuckRing.head.toNat + (stuckRing.dataSize - 8 + i)) % stuckRing.dataSize :=
      by rw [size]; change 0 + i = (8 + (32768 - 8 + i)) % 32768; omega
    rw [List.getElem_map, List.getElem_range, pos,
      data_emitSamples stuckRing records (by decide) (by omega) (by omega),
      List.getElem?_eq_none (by rw [length_recordBytes]; omega), List.getElem_replicate]
    rfl
  have first : (stuckRing.emitSamples records).read
      ((0 : UInt64) &&& (stuckRing.emitSamples records).dataMask).toNat 8 =
        some (List.replicate 8 0) := by
    rw [toNat_and_dataMask _ (by rw [sizeLog_emitSamples]; decide)]
    exact zeros
  have ne : (0 : UInt64) ≠ (stuckRing.emitSamples records).head := fun same => by
    have := congrArg UInt64.toNat same
    rw [head_emitSamples, recordTail, toNat_add_ofNat] at this
    change 0 = (8 + records.length * recordSize) % 2 ^ 64 at this
    omega
  rw [drainCpu, tail_emitSamples, show stuckRing.tail = 0 from rfl, drainFrom,
    drainStep_zero _ ne first rfl]

/-- On any bytes, `DrainCpu` moves `data_tail` only by consuming records, each by the size its
header gives, and stops only at `data_head` or at a header of size 0. Nothing more holds for
malformed records. A header as long as the data area keeps `data_tail` on multiples of
32768 that never meet `data_head`, so the loop never ends. A sample header of size 4 makes
`payload_size` wrap, and the callback gets a sample read wholly past `data_head`. A header
of size 0 stops every later call at the same place, whatever the kernel writes behind it. -/
theorem drain_cpu_malformed_records :
    (∀ (ring : PerfRing) (fuel : Nat) (delivered : List (Sample × LbrStack)) (t : UInt64),
      ring.drainCpu fuel = .stopped delivered t →
        Relation.ReflTransGen ring.Advances ring.tail t ∧
        (t = ring.head ∨ ∃ header, ring.read (t &&& ring.dataMask).toNat 8 = some header ∧
          decodeLE (header.drop 6) = 0)) ∧
    (∀ fuel, spinRing.drainCpu fuel = .running) ∧
    (∀ s, (peekRing s).drainCpu 2 = .stopped [(s, lbrStack s)] 4) ∧
    (∀ records fuel, records.length * recordSize ≤ stuckRing.dataSize - 8 →
      (stuckRing.emitSamples records).drainCpu (fuel + 1) = .stopped [] 0) := by
  refine ⟨fun ring fuel delivered t stopped => ?_, fun fuel => spinRing_drainFrom fuel 0,
    peekRing_drainCpu, fun records fuel fits => stuckRing_drainCpu records fits fuel⟩
  obtain ⟨chain, stop⟩ := ring.drainFrom_stopped stopped
  exact ⟨chain, ring.drainStep_stop stop⟩

end PerfRing

end MicroSentinel
