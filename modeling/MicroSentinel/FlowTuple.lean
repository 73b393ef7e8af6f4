import Mathlib.Data.List.GetD
import MicroSentinel.FlowContext

/-! The flow tuple behind a flow id, as the kernel sampler reads it at XDP
(`parse_xdp_tuple`, `parse_l4_ports`, `calc_flow_hash_xdp`) and hashes it (`hash_flow_tuple`).

At XDP the packet is the bytes `[data, data_end)`; the model reads them through a function
`mem` from offsets past `data` (so `data` is never NULL) and keeps `data_end` as an offset.
A 16-bit network-order field is read as `bpf_ntohs` returns it (a raw load compared with
`bpf_htons(c)` is the same test), and a `__be32` as the little-endian host loads it.
`fallback_flow_id()` is the reading of its two `bpf_get_prandom_u32` calls.

The parser is proved to read nothing at or past `data_end`, and to return the tuple of every
frame with at most two VLAN tags that carries IPv4 or IPv6, its headers laid out as the
RFCs lay them out. -/
namespace MicroSentinel

def ethPIp : UInt16 := 0x0800
def ethPIpv6 : UInt16 := 0x86DD
def ethP8021q : UInt16 := 0x8100
def ethP8021ad : UInt16 := 0x88A8
def ipprotoTcp : UInt8 := 6
def ipprotoUdp : UInt8 := 17

/-- `struct ms_flow_tuple`, without its `reserved` byte, which nothing writes or reads. -/
structure FlowTuple where
  sport : UInt16
  dport : UInt16
  proto : UInt8
  dir : UInt8
  isIpv6 : UInt8
  saddrV4 : UInt32
  daddrV4 : UInt32
  v6Src : Mathlib.Vector UInt32 4
  v6Dst : Mathlib.Vector UInt32 4
  deriving DecidableEq

/-- `struct ms_flow_tuple tuple = {}; tuple.dir = dir;` -/
def FlowTuple.init (dir : UInt8) : FlowTuple :=
  ⟨0, 0, 0, dir, 0, 0, 0, .replicate 4 0, .replicate 4 0⟩

/-! ### Hashing -/

def msFnv64Offset : UInt64 := 1469598103934665603
def msFnv64Prime : UInt64 := 1099511628211

def fnv64Mix (hash data : UInt64) : UInt64 := (hash ^^^ data) * msFnv64Prime

/-- `((__u64)hi << 32) | lo`. -/
def pack (hi lo : UInt64) : UInt64 := hi <<< 32 ||| lo

/-- `fallback_flow_id()` on the two values `bpf_get_prandom_u32` returns. -/
def fallbackFlowId (hi lo : UInt32) : UInt64 := pack hi.toUInt64 lo.toUInt64

/-- `hash_flow_tuple`: FNV-1a over the direction, the protocol, the ports and the addresses of
the tuple's family; a hash of 0 is replaced by `fallback`. -/
def hashFlowTuple (tuple : FlowTuple) (fallback : UInt64) : UInt64 :=
  let h := fnv64Mix msFnv64Offset tuple.dir.toUInt64
  let h := fnv64Mix h tuple.proto.toUInt64
  let h := fnv64Mix h (pack tuple.sport.toUInt64 tuple.dport.toUInt64)
  let h :=
    if tuple.isIpv6 ≠ 0 then
      let h := fnv64Mix h (pack (tuple.v6Src.get 0).toUInt64 (tuple.v6Src.get 1).toUInt64)
      let h := fnv64Mix h (pack (tuple.v6Src.get 2).toUInt64 (tuple.v6Src.get 3).toUInt64)
      let h := fnv64Mix h (pack (tuple.v6Dst.get 0).toUInt64 (tuple.v6Dst.get 1).toUInt64)
      fnv64Mix h (pack (tuple.v6Dst.get 2).toUInt64 (tuple.v6Dst.get 3).toUInt64)
    else fnv64Mix h (pack tuple.saddrV4.toUInt64 tuple.daddrV4.toUInt64)
  if h = 0 then fallback else h

/-! ### The XDP parser -/

/-- A 16-bit network-order field at `o`, in host order. -/
def be16 (mem : Nat → UInt8) (o : Nat) : UInt16 :=
  UInt16.ofNat ((mem o).toNat * 256 + (mem (o + 1)).toNat)

/-- A `__be32` at `o` as the little-endian host loads it. -/
def le32 (mem : Nat → UInt8) (o : Nat) : UInt32 :=
  UInt32.ofNat ((mem o).toNat + 256 * (mem (o + 1)).toNat + 65536 * (mem (o + 2)).toNat +
    16777216 * (mem (o + 3)).toNat)

/-- An 802.1Q or 802.1AD ethertype. -/
def IsVlan (hProto : UInt16) : Prop := hProto = ethP8021q ∨ hProto = ethP8021ad

instance (hProto : UInt16) : Decidable (IsVlan hProto) := inferInstanceAs (Decidable (_ ∨ _))

/-- The VLAN loop of `parse_xdp_tuple`, `n` passes: a VLAN ethertype steps over the
`vlan_hdr` at `cursor` when its four bytes end by `data_end`, and fails otherwise. -/
def skipVlans (mem : Nat → UInt8) (dataEnd : Nat) : Nat → UInt16 → Nat → Option (UInt16 × Nat)
  | 0, hProto, cursor => some (hProto, cursor)
  | n + 1, hProto, cursor =>
    if IsVlan hProto then
      if cursor + 4 > dataEnd then none
      else skipVlans mem dataEnd n (be16 mem (cursor + 2)) (cursor + 4)
    else skipVlans mem dataEnd n hProto cursor

/-- A TCP or UDP protocol number. -/
def HasPorts (proto : UInt8) : Prop := proto = ipprotoTcp ∨ proto = ipprotoUdp

instance (proto : UInt8) : Decidable (HasPorts proto) := inferInstanceAs (Decidable (_ ∨ _))

/-- `parse_l4_ports`: the two ports at `l4` of a TCP or UDP packet, when they end by
`data_end`. -/
def parseL4Ports (proto : UInt8) (mem : Nat → UInt8) (l4 dataEnd : Nat) (tuple : FlowTuple) :
    FlowTuple :=
  if ¬HasPorts proto then tuple
  else if dataEnd ≤ l4 then tuple
  else if l4 + 4 > dataEnd then tuple
  else { tuple with sport := be16 mem l4, dport := be16 mem (l4 + 2) }

/-- `parse_xdp_tuple`: the tuple it fills when it returns 0, `none` when it returns -1. -/
def parseXdpTuple (mem : Nat → UInt8) (dataEnd : Nat) (tuple : FlowTuple) : Option FlowTuple :=
  if 14 > dataEnd then none
  else match skipVlans mem dataEnd 2 (be16 mem 12) 14 with
  | none => none
  | some (hProto, cursor) =>
    if hProto = ethPIp then
      if cursor + 20 > dataEnd then none
      else
      let ihl := (mem cursor).toNat % 16
      if ihl < 5 then none
      else if cursor + ihl * 4 > dataEnd then none
      else
        let tuple := { tuple with
          proto := mem (cursor + 9), isIpv6 := 0, saddrV4 := le32 mem (cursor + 12),
          daddrV4 := le32 mem (cursor + 16) }
        some (parseL4Ports tuple.proto mem (cursor + ihl * 4) dataEnd tuple)
    else if hProto = ethPIpv6 then
      if cursor + 40 > dataEnd then none
      else
        let tuple := { tuple with
          proto := mem (cursor + 6), isIpv6 := 1,
          v6Src := .ofFn fun i => le32 mem (cursor + 8 + 4 * i.val),
          v6Dst := .ofFn fun i => le32 mem (cursor + 24 + 4 * i.val) }
        some (parseL4Ports tuple.proto mem (cursor + 40) dataEnd tuple)
    else none

/-- `calc_flow_hash_xdp`: the flow id, and the protocol it stores in the context when the
tuple parses. -/
def calcFlowHashXdp (mem : Nat → UInt8) (dataEnd : Nat) (fallback : UInt64) :
    UInt64 × Option UInt8 :=
  match parseXdpTuple mem dataEnd (FlowTuple.init 0) with
  | none => (fallback, none)
  | some tuple => (hashFlowTuple tuple fallback, some tuple.proto)

/-- What `capture_flow_ctx_xdp` reads of an `xdp_md` whose packet is `mem` up to `dataEnd`. -/
def xdpReading (mem : Nat → UInt8) (dataEnd : Nat) (ingressIfindex : UInt32)
    (fallback : UInt64) : XdpReading :=
  ⟨(calcFlowHashXdp mem dataEnd fallback).1, (calcFlowHashXdp mem dataEnd fallback).2,
    ingressIfindex⟩

/-! ### Nothing past `data_end` is read -/

section Bounds
variable {mem mem' : Nat → UInt8} {dataEnd : Nat}

theorem be16_congr {o : Nat} (agree : ∀ i < dataEnd, mem i = mem' i) (h : o + 2 ≤ dataEnd) :
    be16 mem o = be16 mem' o := by
  rw [be16, be16, agree o (by omega), agree (o + 1) (by omega)]

theorem le32_congr {o : Nat} (agree : ∀ i < dataEnd, mem i = mem' i) (h : o + 4 ≤ dataEnd) :
    le32 mem o = le32 mem' o := by
  rw [le32, le32, agree o (by omega), agree (o + 1) (by omega), agree (o + 2) (by omega),
    agree (o + 3) (by omega)]

theorem skipVlans_congr (agree : ∀ i < dataEnd, mem i = mem' i) :
    ∀ (n : Nat) (hProto : UInt16) (cursor : Nat),
      skipVlans mem dataEnd n hProto cursor = skipVlans mem' dataEnd n hProto cursor
  | 0, _, _ => rfl
  | n + 1, hProto, cursor => by
    simp only [skipVlans]
    split_ifs with vlan fits
    · rfl
    · rw [be16_congr agree (by omega), skipVlans_congr agree n]
    · exact skipVlans_congr agree n hProto cursor

theorem parseL4Ports_congr (agree : ∀ i < dataEnd, mem i = mem' i) (proto : UInt8) (l4 : Nat)
    (tuple : FlowTuple) :
    parseL4Ports proto mem l4 dataEnd tuple = parseL4Ports proto mem' l4 dataEnd tuple := by
  unfold parseL4Ports
  split_ifs
  all_goals first | rw [be16_congr agree (by omega), be16_congr agree (by omega)] | rfl

/-- The verifier's bounds: `parse_xdp_tuple` depends on no byte at or past `data_end`. -/
theorem parseXdpTuple_congr (agree : ∀ i < dataEnd, mem i = mem' i) (tuple : FlowTuple) :
    parseXdpTuple mem dataEnd tuple = parseXdpTuple mem' dataEnd tuple := by
  unfold parseXdpTuple
  split_ifs with short
  · rfl
  rw [be16_congr agree (by omega), skipVlans_congr agree]
  rcases skipVlans mem' dataEnd 2 (be16 mem' 12) 14 with _ | ⟨hProto, cursor⟩
  · rfl
  dsimp only
  by_cases ip : hProto = ethPIp
  · by_cases fits : cursor + 20 > dataEnd
    · simp only [ip, fits, if_true]
    · simp (disch := omega) only [ip, fits, if_true, if_false, agree, le32_congr agree,
        parseL4Ports_congr agree]
  · by_cases fits : cursor + 40 > dataEnd
    · simp only [ip, fits, if_true, if_false]
    · simp (disch := omega) only [ip, fits, if_false, agree, le32_congr agree,
        parseL4Ports_congr agree]

/-- Two packets that differ only past `data_end = 14`. -/
theorem parseXdpTuple_congr_past_end :
    (∀ i < 14, (fun _ => (0 : UInt8)) i = (fun i => if i < 14 then (0 : UInt8) else 255) i) ∧
      parseXdpTuple (fun _ => 0) 14 (FlowTuple.init 0) =
        parseXdpTuple (fun i => if i < 14 then 0 else 255) 14 (FlowTuple.init 0) :=
  ⟨by decide, parseXdpTuple_congr (by decide) _⟩

end Bounds

/-! ### Frames -/

/-- A 16-bit field in network order. -/
def be16Bytes (v : UInt16) : List UInt8 := [UInt8.ofNat (v.toNat / 256), UInt8.ofNat v.toNat]

/-- The bytes of a `__be32` the little-endian host loads as `v`. -/
def le32Bytes (v : UInt32) : List UInt8 :=
  [UInt8.ofNat v.toNat, UInt8.ofNat (v.toNat / 256), UInt8.ofNat (v.toNat / 65536),
    UInt8.ofNat (v.toNat / 16777216)]

/-- Four 32-bit words, each as the host loads it. -/
def wordBytes (v : Mathlib.Vector UInt32 4) : List UInt8 :=
  le32Bytes (v.get 0) ++ le32Bytes (v.get 1) ++ le32Bytes (v.get 2) ++ le32Bytes (v.get 3)

/-- An 802.1Q or 802.1AD tag: its TPID and its TCI. -/
structure VlanTag where
  tpid : UInt16
  tci : UInt16

/-- From the Ethernet type field on: each tag's TPID and TCI, then `etherType`. -/
def tagBytes : List VlanTag → UInt16 → List UInt8
  | [], etherType => be16Bytes etherType
  | tag :: tags, etherType => be16Bytes tag.tpid ++ be16Bytes tag.tci ++ tagBytes tags etherType

/-- An IPv4 header (RFC 791). Its options fill whole words, at most ten, so that
`ihl = 5 + options / 4` fits its four bits. -/
structure Ipv4Header where
  tos : UInt8
  totLen : UInt16
  id : UInt16
  fragOff : UInt16
  ttl : UInt8
  protocol : UInt8
  check : UInt16
  saddr : UInt32
  daddr : UInt32
  options : List UInt8
  words : options.length % 4 = 0
  le_ten : options.length ≤ 40

def Ipv4Header.ihl (h : Ipv4Header) : Nat := 5 + h.options.length / 4

/-- Version 4 and `ihl` in the first byte, then the fields in RFC 791 order. -/
def Ipv4Header.bytes (h : Ipv4Header) : List UInt8 :=
  [UInt8.ofNat (0x40 + h.ihl), h.tos] ++ be16Bytes h.totLen ++ be16Bytes h.id ++
    be16Bytes h.fragOff ++ [h.ttl, h.protocol] ++ be16Bytes h.check ++ le32Bytes h.saddr ++
    le32Bytes h.daddr ++ h.options

/-- An IPv6 fixed header (RFC 8200), its first word (version, traffic class and flow label)
and its addresses as the host loads them. -/
structure Ipv6Header where
  vtcFlow : UInt32
  payloadLen : UInt16
  nexthdr : UInt8
  hopLimit : UInt8
  saddr : Mathlib.Vector UInt32 4
  daddr : Mathlib.Vector UInt32 4

def Ipv6Header.bytes (h : Ipv6Header) : List UInt8 :=
  le32Bytes h.vtcFlow ++ be16Bytes h.payloadLen ++ [h.nexthdr, h.hopLimit] ++
    wordBytes h.saddr ++ wordBytes h.daddr

inductive Network where
  | ipv4 (header : Ipv4Header)
  | ipv6 (header : Ipv6Header)

def Network.etherType : Network → UInt16
  | .ipv4 _ => ethPIp
  | .ipv6 _ => ethPIpv6

def Network.bytes : Network → List UInt8
  | .ipv4 header => header.bytes
  | .ipv6 header => header.bytes

/-- The protocol field: IPv4's, or IPv6's next header. -/
def Network.proto : Network → UInt8
  | .ipv4 header => header.protocol
  | .ipv6 header => header.nexthdr

/-- What follows the network header: a TCP or UDP header, from its ports on, or other bytes. -/
inductive Transport where
  | ports (sport dport : UInt16) (rest : List UInt8)
  | raw (bytes : List UInt8)

def Transport.bytes : Transport → List UInt8
  | .ports sport dport rest => be16Bytes sport ++ be16Bytes dport ++ rest
  | .raw bytes => bytes

/-- An Ethernet frame at XDP. -/
structure Frame where
  dst : Mathlib.Vector UInt8 6
  src : Mathlib.Vector UInt8 6
  tags : List VlanTag
  network : Network
  transport : Transport

def Frame.bytes (f : Frame) : List UInt8 :=
  f.dst.toList ++ f.src.toList ++ tagBytes f.tags f.network.etherType ++ f.network.bytes ++
    f.transport.bytes

/-- The ports of a TCP or UDP header under protocol `proto`. -/
def Transport.portPair (proto : UInt8) : Transport → Option (UInt16 × UInt16)
  | .ports sport dport _ => if HasPorts proto then some (sport, dport) else none
  | .raw _ => none

/-- The tuple with the ports of a transport header, where it has them. -/
def FlowTuple.withPorts (tuple : FlowTuple) : Option (UInt16 × UInt16) → FlowTuple
  | some (sport, dport) => { tuple with sport := sport, dport := dport }
  | none => tuple

/-- The flow a frame belongs to, at direction 0; ports 0 where it carries none. -/
def Frame.tuple (f : Frame) : FlowTuple :=
  let ports := (f.transport.portPair f.network.proto).getD (0, 0)
  match f.network with
  | .ipv4 h => { FlowTuple.init 0 with
      sport := ports.1, dport := ports.2, proto := h.protocol, saddrV4 := h.saddr,
      daddrV4 := h.daddr }
  | .ipv6 h => { FlowTuple.init 0 with
      sport := ports.1, dport := ports.2, proto := h.nexthdr, isIpv6 := 1, v6Src := h.saddr,
      v6Dst := h.daddr }

/-- A frame `parse_xdp_tuple` reads in full: at most two VLAN tags, and a TCP or UDP packet
whose transport bytes are not its ports is cut short of them. -/
structure Frame.Parsable (f : Frame) : Prop where
  tags_le : f.tags.length ≤ 2
  vlan : ∀ t ∈ f.tags, IsVlan t.tpid
  short : ∀ bytes, f.transport = .raw bytes → HasPorts f.network.proto → bytes.length < 4

/-! ### Reading a frame back -/

/-- `mem` holds `bytes` from `o` on. -/
def At (mem : Nat → UInt8) (o : Nat) (bytes : List UInt8) : Prop :=
  ∀ i < bytes.length, mem (o + i) = bytes.getD i 0

section Reading
variable {mem : Nat → UInt8} {o : Nat}

theorem at_getD (bytes : List UInt8) : At (fun i => bytes.getD i 0) 0 bytes := by
  intro i _
  rw [Nat.zero_add]

theorem At.left {a b : List UInt8} (h : At mem o (a ++ b)) : At mem o a := fun i lt => by
  rw [h i (by simp; omega), List.getD_append _ _ _ _ lt]

theorem At.right {a b : List UInt8} (h : At mem o (a ++ b)) : At mem (o + a.length) b :=
  fun i lt => by
    rw [Nat.add_assoc, h _ (by simp; omega), List.getD_append_right _ _ _ _ (by omega),
      Nat.add_sub_cancel_left]

theorem At.slice {bytes seg : List UInt8} (h : At mem o bytes) (k : Nat)
    (e : (bytes.drop k).take seg.length = seg) : At mem (o + k) seg := fun i lt => by
  have len : k + seg.length ≤ bytes.length := by
    have := congrArg List.length e
    simp only [List.length_take, List.length_drop] at this
    omega
  rw [Nat.add_assoc, h _ (by omega), ← e]
  simp [List.getD_eq_getElem?_getD, lt, List.getElem?_drop]

theorem At.right_at {a b : List UInt8} {o' : Nat} (h : At mem o (a ++ b))
    (e : o + a.length = o') : At mem o' b := e ▸ h.right

theorem toNat_ofNat_u8 (n : Nat) : (UInt8.ofNat n).toNat = n % 256 := rfl

theorem At.read16 {v : UInt16} (h : At mem o (be16Bytes v)) : be16 mem o = v := by
  rw [MicroSentinel.be16, h 1 (by simp [be16Bytes]), ← Nat.add_zero o, h 0 (by simp [be16Bytes])]
  apply UInt16.toNat.inj
  have : v.toNat < 65536 := v.toNat_lt_size
  simp only [be16Bytes, List.getD_cons_zero, List.getD_cons_succ, toNat_ofNat_u8]
  show (_ * 256 + _) % 65536 = _
  omega

theorem At.read32 {v : UInt32} (h : At mem o (le32Bytes v)) : le32 mem o = v := by
  rw [MicroSentinel.le32, h 1 (by simp [le32Bytes]), h 2 (by simp [le32Bytes]),
    h 3 (by simp [le32Bytes]), ← Nat.add_zero o, h 0 (by simp [le32Bytes])]
  apply UInt32.toNat.inj
  have : v.toNat < 4294967296 := v.toNat_lt_size
  simp only [le32Bytes, List.getD_cons_zero, List.getD_cons_succ, toNat_ofNat_u8]
  show (_ + 256 * _ + 65536 * _ + 16777216 * _) % 4294967296 = _
  omega

theorem At.readWords {v : Mathlib.Vector UInt32 4} (h : At mem o (wordBytes v)) :
    Mathlib.Vector.ofFn (fun i : Fin 4 => le32 mem (o + 4 * i.val)) = v := by
  refine Mathlib.Vector.ext fun ⟨i, lt⟩ => ?_
  rw [Mathlib.Vector.get_ofFn]
  match i, lt with
  | 0, _ => exact (h.slice 0 rfl).read32
  | 1, _ => exact (h.slice 4 rfl).read32
  | 2, _ => exact (h.slice 8 rfl).read32
  | 3, _ => exact (h.slice 12 rfl).read32

@[simp] theorem be16Bytes_length (v : UInt16) : (be16Bytes v).length = 2 := rfl
@[simp] theorem le32Bytes_length (v : UInt32) : (le32Bytes v).length = 4 := rfl

@[simp] theorem tagBytes_length (tags : List VlanTag) (etherType : UInt16) :
    (tagBytes tags etherType).length = 4 * tags.length + 2 := by
  induction tags with
  | nil => rfl
  | cons tag tags ih => simp only [tagBytes, List.length_append, ih, be16Bytes_length,
      List.length_cons]; omega

theorem Ipv4Header.bytes_length (hd : Ipv4Header) : hd.bytes.length = 4 * hd.ihl := by
  have := hd.words
  simp only [Ipv4Header.bytes, Ipv4Header.ihl, List.length_append, be16Bytes_length,
    le32Bytes_length, List.length_cons, List.length_nil]
  omega

theorem Ipv6Header.bytes_length (hd : Ipv6Header) : hd.bytes.length = 40 := rfl

theorem Ipv4Header.read (hd : Ipv4Header) (h : At mem o hd.bytes) :
    (mem o).toNat % 16 = hd.ihl ∧ mem (o + 9) = hd.protocol ∧ le32 mem (o + 12) = hd.saddr ∧
      le32 mem (o + 16) = hd.daddr := by
  have len := hd.bytes_length
  have small : hd.ihl < 16 := by have := hd.le_ten; unfold Ipv4Header.ihl; omega
  refine ⟨?_, h 9 (by unfold Ipv4Header.ihl at len; omega), (h.slice 12 rfl).read32,
    (h.slice 16 rfl).read32⟩
  rw [← Nat.add_zero o, h 0 (by unfold Ipv4Header.ihl at len; omega)]
  show (UInt8.ofNat (64 + hd.ihl)).toNat % 16 = hd.ihl
  rw [toNat_ofNat_u8]
  omega

theorem Ipv6Header.read (hd : Ipv6Header) (h : At mem o hd.bytes) :
    mem (o + 6) = hd.nexthdr ∧
      Mathlib.Vector.ofFn (fun i : Fin 4 => le32 mem (o + 8 + 4 * i.val)) = hd.saddr ∧
      Mathlib.Vector.ofFn (fun i : Fin 4 => le32 mem (o + 24 + 4 * i.val)) = hd.daddr :=
  ⟨h 6 (show 6 < 40 by decide), (h.slice 8 rfl).readWords, (h.slice 24 rfl).readWords⟩

end Reading

section Frames
variable {mem : Nat → UInt8} {dataEnd : Nat}

theorem skipVlans_of_not_vlan {hProto : UInt16} (h : ¬IsVlan hProto) :
    ∀ (n cursor : Nat), skipVlans mem dataEnd n hProto cursor = some (hProto, cursor)
  | 0, _ => rfl
  | n + 1, cursor => by rw [skipVlans, if_neg h, skipVlans_of_not_vlan h n cursor]

theorem skipVlans_tags {etherType : UInt16} (last : ¬IsVlan etherType) :
    ∀ (tags : List VlanTag) (n c : Nat), (∀ t ∈ tags, IsVlan t.tpid) → tags.length ≤ n →
      At mem c (tagBytes tags etherType) → c + 4 * tags.length + 2 ≤ dataEnd →
      skipVlans mem dataEnd n (be16 mem c) (c + 2) = some (etherType, c + 2 + 4 * tags.length)
  | [], n, c, _, _, h, _ => by rw [h.read16]; exact skipVlans_of_not_vlan last n (c + 2)
  | _ :: _, 0, _, _, le, _, _ => absurd le (by simp)
  | tag :: tags, n + 1, c, vlan, le, h, fits => by
    have rest : At mem (c + 4) (tagBytes tags etherType) := h.right
    simp only [List.length_cons] at le fits
    rw [h.left.left.read16, skipVlans, if_pos (vlan tag (List.mem_cons_self _ _)), if_neg (by omega),
      show c + 2 + 2 = c + 4 from rfl, show c + 2 + 4 = c + 4 + 2 from rfl,
      skipVlans_tags last tags n (c + 4) (fun t m => vlan t (List.mem_cons_of_mem _ m)) (by omega)
        rest (by omega), List.length_cons]
    congr 2
    omega

theorem parseL4Ports_transport {tr : Transport} {proto : UInt8} {l4 : Nat} (tuple : FlowTuple)
    (h : At mem l4 tr.bytes) (short : ∀ bytes, tr = .raw bytes → HasPorts proto → bytes.length < 4) :
    parseL4Ports proto mem l4 (l4 + tr.bytes.length) tuple =
      tuple.withPorts (tr.portPair proto) := by
  unfold parseL4Ports
  by_cases ports : HasPorts proto
  · cases tr with
    | ports sport dport rest =>
      have len : (Transport.ports sport dport rest).bytes.length = 4 + rest.length := by
        simp only [Transport.bytes, List.length_append, be16Bytes_length]
      have second : be16 mem (l4 + 2) = dport := h.left.right.read16
      simp only [not_not.2 ports, if_false, len, show ¬l4 + (4 + rest.length) ≤ l4 by omega,
        show ¬l4 + 4 > l4 + (4 + rest.length) by omega, h.left.left.read16, second,
        Transport.portPair, if_pos ports, FlowTuple.withPorts]
    | raw bytes =>
      have := short bytes rfl ports
      simp only [Transport.bytes] at this ⊢
      split_ifs <;> first | rfl | omega
  · rw [if_pos ports]
    cases tr <;> simp only [Transport.portPair, if_neg ports, FlowTuple.withPorts]

theorem Frame.layout (f : Frame) :
    At (fun i => f.bytes.getD i 0) 12 (tagBytes f.tags f.network.etherType) ∧
      At (fun i => f.bytes.getD i 0) (12 + 2 + 4 * f.tags.length) f.network.bytes ∧
      At (fun i => f.bytes.getD i 0) (12 + 2 + 4 * f.tags.length + f.network.bytes.length)
        f.transport.bytes ∧
      f.bytes.length = 12 + 2 + 4 * f.tags.length + f.network.bytes.length +
        f.transport.bytes.length := by
  have h := at_getD f.bytes
  have macs : (f.dst.toList ++ f.src.toList).length = 12 := by simp
  refine ⟨h.left.left.right_at (by rw [macs]), h.left.right_at ?_, h.right_at ?_, ?_⟩ <;>
    simp only [Frame.bytes, List.length_append, macs, tagBytes_length] <;> omega

/-- `parse_xdp_tuple` reads back the flow of every frame it reads in full: the ports of its
TCP or UDP header, its protocol, and its addresses. -/
theorem parseXdpTuple_frame (f : Frame) (hf : f.Parsable) :
    parseXdpTuple (fun i => f.bytes.getD i 0) f.bytes.length (FlowTuple.init 0) =
      some f.tuple := by
  obtain ⟨tags, net, tr, len⟩ := f.layout
  have notVlan : ¬IsVlan f.network.etherType := by
    cases f.network
    exacts [(by decide : ¬IsVlan ethPIp), (by decide : ¬IsVlan ethPIpv6)]
  unfold parseXdpTuple
  rw [if_neg (by omega), skipVlans_tags notVlan f.tags 2 12 hf.vlan hf.tags_le tags (by omega)]
  dsimp only
  have short := hf.short
  cases hn : f.network with
  | ipv4 hd =>
    rw [hn] at net tr len short
    obtain ⟨ihl, proto, saddr, daddr⟩ := hd.read net
    have five : 5 ≤ hd.ihl := Nat.le_add_right 5 _
    simp only [Network.bytes, hd.bytes_length, Network.proto] at tr len short
    have l4 : At (fun i => f.bytes.getD i 0) (12 + 2 + 4 * f.tags.length + hd.ihl * 4)
        f.transport.bytes := by rwa [Nat.mul_comm hd.ihl]
    rw [show f.bytes.length = 12 + 2 + 4 * f.tags.length + hd.ihl * 4 + f.transport.bytes.length
      by omega]
    simp (disch := omega) only [Network.etherType, if_true, if_neg, ihl, proto, saddr, daddr,
      parseL4Ports_transport _ l4 short]
    unfold Frame.tuple
    simp only [hn, Network.proto]
    cases f.transport.portPair hd.protocol <;> rfl
  | ipv6 hd =>
    rw [hn] at net tr len short
    obtain ⟨next, src, dst⟩ := hd.read net
    simp only [Network.bytes, hd.bytes_length, Network.proto] at tr len short
    rw [len]
    simp (disch := omega) only [Network.etherType, show ¬ethPIpv6 = ethPIp by decide, if_false,
      if_true, if_neg, next, src, dst, parseL4Ports_transport _ tr short]
    unfold Frame.tuple
    simp only [hn, Network.proto]
    cases f.transport.portPair hd.nexthdr <;> rfl

/-- An IPv4 TCP frame behind one 802.1Q tag, from port 443 to port 51000. -/
def tcpFrame : Frame :=
  ⟨.replicate 6 0xff, .replicate 6 1, [⟨ethP8021q, 5⟩],
    .ipv4 ⟨0, 40, 1, 0, 64, ipprotoTcp, 0, 0x0100000a, 0x0200000a, [], rfl, by decide⟩,
    .ports 443 51000 [0, 0, 0, 1]⟩

theorem parseXdpTuple_tcpFrame :
    tcpFrame.Parsable ∧
      parseXdpTuple (fun i => tcpFrame.bytes.getD i 0) tcpFrame.bytes.length (FlowTuple.init 0) =
        some tcpFrame.tuple :=
  have parsable : tcpFrame.Parsable := ⟨by decide, by decide, fun _ h => nomatch h⟩
  ⟨parsable, parseXdpTuple_frame tcpFrame parsable⟩

theorem skipVlans_vlan_left {etherType : UInt16} :
    ∀ (tags : List VlanTag) (n c : Nat), (∀ t ∈ tags, IsVlan t.tpid) → n < tags.length →
      At mem c (tagBytes tags etherType) →
      ∀ p, skipVlans mem dataEnd n (be16 mem c) (c + 2) = some p → IsVlan p.1
  | tag :: _, 0, _, vlan, _, h, _, stop => by
    rw [skipVlans, h.left.left.read16, Option.some.injEq] at stop
    exact stop ▸ vlan tag (List.mem_cons_self _ _)
  | tag :: tags, n + 1, c, vlan, lt, h, p, stop => by
    rw [h.left.left.read16, skipVlans, if_pos (vlan tag (List.mem_cons_self _ _))] at stop
    split_ifs at stop
    exact skipVlans_vlan_left tags n (c + 4) (fun t m => vlan t (List.mem_cons_of_mem _ m))
      (by simpa using lt) h.right p stop

/-- A frame with more than two VLAN tags is not parsed: after the loop's two passes the
ethertype is still a VLAN one, and `calc_flow_hash_xdp` falls back to a random flow. -/
theorem parseXdpTuple_deep_tags (f : Frame) (vlan : ∀ t ∈ f.tags, IsVlan t.tpid)
    (deep : 2 < f.tags.length) :
    parseXdpTuple (fun i => f.bytes.getD i 0) f.bytes.length (FlowTuple.init 0) = none ∧
      ∀ fallback, calcFlowHashXdp (fun i => f.bytes.getD i 0) f.bytes.length fallback =
        (fallback, none) := by
  have unparsed : parseXdpTuple (fun i => f.bytes.getD i 0) f.bytes.length
      (FlowTuple.init 0) = none := by
    obtain ⟨tags, -, -, -⟩ := f.layout
    unfold parseXdpTuple
    split_ifs
    · rfl
    split
    · rfl
    next hProto cursor stop =>
      have left : IsVlan hProto := skipVlans_vlan_left f.tags 2 12 vlan deep tags _ stop
      have notIp : hProto ≠ ethPIp ∧ hProto ≠ ethPIpv6 := by
        rcases left with rfl | rfl <;> decide
      simp only [notIp.1, notIp.2, if_false]
  exact ⟨unparsed, fun fallback => by rw [calcFlowHashXdp, unparsed]⟩

theorem parseXdpTuple_triple_tagged :
    let f : Frame := { tcpFrame with tags := [⟨ethP8021ad, 1⟩, ⟨ethP8021q, 2⟩, ⟨ethP8021q, 3⟩] }
    (∀ t ∈ f.tags, IsVlan t.tpid) ∧ 2 < f.tags.length ∧
      parseXdpTuple (fun i => f.bytes.getD i 0) f.bytes.length (FlowTuple.init 0) = none ∧
      ∀ fallback, calcFlowHashXdp (fun i => f.bytes.getD i 0) f.bytes.length fallback =
        (fallback, none) :=
  ⟨by decide, by decide, parseXdpTuple_deep_tags _ (by decide) (by decide)⟩

end Frames


end MicroSentinel
