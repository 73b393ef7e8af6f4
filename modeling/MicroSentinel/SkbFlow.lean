import MicroSentinel.FlowTuple

/-! How `capture_flow_ctx` names a packet's flow at `netif_receive_skb`: `calc_flow_hash` with
`parse_ipv4_tuple`, `parse_ipv6_tuple`, `compute_ipv6_l4_off` and `load_header`.

Headers are read from kernel memory with `bpf_probe_read_kernel`, which fails where a byte
cannot be read; `mem` gives each byte that can. The `sk_buff` fields are read with
`bpf_core_read`, taken to succeed; `skb->protocol` is kept in host order, so that its
comparison with `__bpf_constant_htons(ETH_P_IP)` is one with `ETH_P_IP`. The second read of
`inner_network_header` in `calc_flow_hash` reads the field the first one read.

The extension-header walk is proved to step over exactly the first four headers of any chain,
and a failed parse of the inner headers of an encapsulated packet to leave no trace in the flow
of its outer ones. -/
namespace MicroSentinel

def ipprotoHopopts : UInt8 := 0
def ipprotoRouting : UInt8 := 43
def ipprotoFragment : UInt8 := 44
def ipprotoDstopts : UInt8 := 60

/-- `load_header(base, offset, dst, len)`: the `len` bytes at `base + offset`, or `none` for a
NULL `base`, a zero `offset`, or a byte `bpf_probe_read_kernel` cannot read. -/
def loadHeader (mem : Nat → Option UInt8) (base offset len : Nat) : Option (Nat → UInt8) :=
  if base = 0 ∨ offset = 0 then none
  else if ∀ i < len, (mem (base + offset + i)).isSome then
    some fun i => (mem (base + offset + i)).getD 0
  else none

/-- The fields of a `sk_buff` the parsers read; `head` is 0 for NULL. -/
structure Skb where
  head : Nat
  protocol : UInt16
  networkHeader : UInt16
  transportHeader : UInt16
  innerNetworkHeader : UInt16
  innerTransportHeader : UInt16
  hash : UInt32

/-- `l3_off`: the inner or the outer network header. -/
def Skb.l3Off (skb : Skb) (inner : Bool) : UInt16 :=
  if inner then skb.innerNetworkHeader else skb.networkHeader

/-- `l4_off`: the inner or the outer transport header. -/
def Skb.l4Off (skb : Skb) (inner : Bool) : UInt16 :=
  if inner then skb.innerTransportHeader else skb.transportHeader

/-- The end of `parse_ipv4_tuple` and `parse_ipv6_tuple`: the ports at `l4_off` of a TCP or
UDP packet when `l4_off` is set; whether the function returns 0, and the tuple it leaves. -/
def readPorts (mem : Nat → Option UInt8) (head : Nat) (l4Off : UInt16) (tuple : FlowTuple) :
    Bool × FlowTuple :=
  if l4Off ≠ 0 ∧ HasPorts tuple.proto then
    match loadHeader mem head l4Off.toNat 4 with
    | none => (false, tuple)
    | some ports => (true, { tuple with sport := be16 ports 0, dport := be16 ports 2 })
  else (true, tuple)

/-- `parse_ipv4_tuple(skb, inner, tuple)`: whether it returns 0, and the tuple it leaves. Where
`transport_header` is unset, the ports of a TCP or UDP packet are looked for `ihl` words past
the network header. -/
def parseIpv4Tuple (mem : Nat → Option UInt8) (skb : Skb) (inner : Bool) (tuple : FlowTuple) :
    Bool × FlowTuple :=
  if skb.head = 0 ∨ skb.l3Off inner = 0 then (false, tuple)
  else match loadHeader mem skb.head (skb.l3Off inner).toNat 20 with
  | none => (false, tuple)
  | some iph =>
    let tuple := { tuple with
      proto := iph 9, isIpv6 := 0, saddrV4 := le32 iph 12, daddrV4 := le32 iph 16 }
    if skb.l4Off inner = 0 ∧ HasPorts tuple.proto then
      if (iph 0).toNat % 16 < 5 then (false, tuple)
      else readPorts mem skb.head (skb.l3Off inner + UInt16.ofNat ((iph 0).toNat % 16 * 4)) tuple
    else readPorts mem skb.head (skb.l4Off inner) tuple

/-- Hop-by-hop, routing and destination options: the extension headers whose length is
`hdrlen + 1` eight-octet units. -/
def IsOptHeader (nexthdr : UInt8) : Prop :=
  nexthdr = ipprotoHopopts ∨ nexthdr = ipprotoRouting ∨ nexthdr = ipprotoDstopts

instance (nexthdr : UInt8) : Decidable (IsOptHeader nexthdr) :=
  inferInstanceAs (Decidable (_ ∨ _ ∨ _))

/-- The loop of `compute_ipv6_l4_off`, `n` passes: an options or fragment header at `off` is
stepped over (its length added in 16 bits), anything else ends the loop. -/
def ipv6ExtWalk (mem : Nat → Option UInt8) (head : Nat) :
    Nat → UInt8 → UInt16 → Option (UInt16 × UInt8)
  | 0, nexthdr, off => some (off, nexthdr)
  | n + 1, nexthdr, off =>
    if IsOptHeader nexthdr then
      match loadHeader mem head off.toNat 2 with
      | none => none
      | some oh => ipv6ExtWalk mem head n (oh 0) (off + UInt16.ofNat (((oh 1).toNat + 1) * 8))
    else if nexthdr = ipprotoFragment then
      match loadHeader mem head off.toNat 8 with
      | none => none
      | some fh => ipv6ExtWalk mem head n (fh 0) (off + 8)
    else some (off, nexthdr)

/-- `compute_ipv6_l4_off`: the transport offset and protocol after at most four extension
headers. -/
def computeIpv6L4Off (mem : Nat → Option UInt8) (head : Nat) (l3Off : UInt16) (nexthdr : UInt8) :
    Option (UInt16 × UInt8) :=
  if head = 0 ∨ l3Off = 0 then none else ipv6ExtWalk mem head 4 nexthdr (l3Off + 40)

/-- `parse_ipv6_tuple(skb, inner, tuple)`: whether it returns 0, and the tuple it leaves. Where
`transport_header` is unset, the transport header is looked for past the extension headers. -/
def parseIpv6Tuple (mem : Nat → Option UInt8) (skb : Skb) (inner : Bool) (tuple : FlowTuple) :
    Bool × FlowTuple :=
  if skb.head = 0 ∨ skb.l3Off inner = 0 then (false, tuple)
  else match loadHeader mem skb.head (skb.l3Off inner).toNat 40 with
  | none => (false, tuple)
  | some ip6h =>
    let tuple := { tuple with
      proto := ip6h 6, isIpv6 := 1,
      v6Src := .ofFn fun i => le32 ip6h (8 + 4 * i.val),
      v6Dst := .ofFn fun i => le32 ip6h (24 + 4 * i.val) }
    if skb.l4Off inner = 0 then
      match computeIpv6L4Off mem skb.head (skb.l3Off inner) (ip6h 6) with
      | some (computed, proto) => readPorts mem skb.head computed { tuple with proto := proto }
      | none => readPorts mem skb.head 0 tuple
    else readPorts mem skb.head (skb.l4Off inner) tuple

/-- The `encap` block of `calc_flow_hash`: the inner headers' parse, for the family
`skb->protocol` names. -/
def parseInner (mem : Nat → Option UInt8) (skb : Skb) (tuple : FlowTuple) : Bool × FlowTuple :=
  if skb.innerNetworkHeader ≠ 0 then
    if skb.protocol = ethPIp then parseIpv4Tuple mem skb true tuple
    else if skb.protocol = ethPIpv6 then parseIpv6Tuple mem skb true tuple
    else (false, tuple)
  else (false, tuple)

/-- `calc_flow_hash(skb, direction)`: the inner tuple's hash when the inner headers parse;
otherwise the outer one's, from the tuple the inner parse left, or `fallback` where that
fails; `skb->hash` (or `fallback` where it is 0) for other protocols. -/
def calcFlowHash (mem : Nat → Option UInt8) (skb : Skb) (direction : UInt8) (fallback : UInt64) :
    UInt64 :=
  let inner := parseInner mem skb (FlowTuple.init direction)
  if inner.1 then hashFlowTuple inner.2 fallback
  else if skb.protocol = ethPIp then
    let outer := parseIpv4Tuple mem skb false inner.2
    if outer.1 then hashFlowTuple outer.2 fallback else fallback
  else if skb.protocol = ethPIpv6 then
    let outer := parseIpv6Tuple mem skb false inner.2
    if outer.1 then hashFlowTuple outer.2 fallback else fallback
  else if skb.hash ≠ 0 then skb.hash.toUInt64 else fallback

/-- `extract_l4_proto`: the protocol field of the IPv4 header, or the next-header field of the
IPv6 header, at the network header; 0 where it cannot be read. -/
def extractL4Proto (mem : Nat → Option UInt8) (skb : Skb) : UInt8 :=
  if skb.protocol = ethPIp then
    if skb.networkHeader = 0 ∨ skb.head = 0 then 0
    else match loadHeader mem skb.head skb.networkHeader.toNat 20 with
      | none => 0
      | some iph => iph 9
  else if skb.protocol = ethPIpv6 then
    if skb.networkHeader = 0 ∨ skb.head = 0 then 0
    else match loadHeader mem skb.head skb.networkHeader.toNat 40 with
      | none => 0
      | some ip6h => ip6h 6
  else 0

/-- What `capture_flow_ctx(skb, direction)` reads of a packet: its flow and protocol, with the
device's ifindex and the GSO segment count as `calc_ifindex` and `calc_gso_segs` read them. -/
def skbReading (mem : Nat → Option UInt8) (skb : Skb) (direction : UInt8)
    (devIfindex : Option UInt32) (gsoSegs : Option UInt16) (fallback : UInt64) : SkbReading :=
  ⟨calcFlowHash mem skb direction fallback, devIfindex, gsoSegs, extractL4Proto mem skb⟩

/-- Kernel memory that holds `bytes` from address `base` on, and nothing readable elsewhere. -/
def bufferMem (base : Nat) (bytes : List UInt8) (a : Nat) : Option UInt8 :=
  if base ≤ a ∧ a < base + bytes.length then some (bytes.getD (a - base) 0) else none

/-! ### Extension-header chains -/

/-- `mem` holds `bytes`, every one readable, from address `a` on. -/
def Readable (mem : Nat → Option UInt8) (a : Nat) (bytes : List UInt8) : Prop :=
  ∀ i < bytes.length, mem (a + i) = some (bytes.getD i 0)

instance (mem : Nat → Option UInt8) (a : Nat) (bytes : List UInt8) :
    Decidable (Readable mem a bytes) :=
  inferInstanceAs (Decidable (∀ i < bytes.length, _))

/-- An extension header `compute_ipv6_l4_off` steps over. -/
inductive ExtHeader where
  /-- Hop-by-hop, routing or destination options, `8 * (hdrlen + 1)` bytes long. -/
  | options (kind hdrlen : UInt8) (body : List UInt8) (opt : IsOptHeader kind)
      (body_len : body.length = 8 * hdrlen.toNat + 6)
  /-- A fragment header. -/
  | fragment (reserved : UInt8) (fragOff : UInt16) (ident : UInt32)

def ExtHeader.kind : ExtHeader → UInt8
  | .options kind .. => kind
  | .fragment .. => ipprotoFragment

def ExtHeader.size : ExtHeader → Nat
  | .options _ hdrlen .. => 8 * (hdrlen.toNat + 1)
  | .fragment .. => 8

/-- The header, its first byte naming the header after it. -/
def ExtHeader.bytes (next : UInt8) : ExtHeader → List UInt8
  | .options _ hdrlen body .. => [next, hdrlen] ++ body
  | .fragment reserved fragOff ident => [next, reserved] ++ be16Bytes fragOff ++ le32Bytes ident

/-- The type of a chain's first header; `upper` for the empty chain. -/
def chainKind (exts : List ExtHeader) (upper : UInt8) : UInt8 :=
  (exts.head?.map ExtHeader.kind).getD upper

/-- A chain of extension headers before an `upper` header. -/
def chainBytes : List ExtHeader → UInt8 → List UInt8
  | [], _ => []
  | ext :: exts, upper => ext.bytes (chainKind exts upper) ++ chainBytes exts upper

def chainSize (exts : List ExtHeader) : Nat := (exts.map ExtHeader.size).sum

section Chains
variable {mem : Nat → Option UInt8} {head : Nat}

theorem ExtHeader.bytes_length (next : UInt8) (ext : ExtHeader) :
    (ext.bytes next).length = ext.size := by
  cases ext with
  | options _ _ _ _ body_len =>
    simp only [ExtHeader.bytes, ExtHeader.size, List.length_append, body_len, List.length_cons,
      List.length_nil]
    omega
  | fragment => rfl

theorem Readable.right {a : Nat} {xs ys : List UInt8} (h : Readable mem a (xs ++ ys)) :
    Readable mem (a + xs.length) ys := fun i lt => by
  rw [Nat.add_assoc, h _ (by simp; omega), List.getD_append_right _ _ _ _ (by omega),
    Nat.add_sub_cancel_left]

theorem Readable.left {a : Nat} {xs ys : List UInt8} (h : Readable mem a (xs ++ ys)) :
    Readable mem a xs := fun i lt => by
  rw [h i (by simp; omega), List.getD_append _ _ _ _ lt]

theorem chainBytes_length (exts : List ExtHeader) (upper : UInt8) :
    (chainBytes exts upper).length = chainSize exts := by
  induction exts with
  | nil => rfl
  | cons ext exts ih =>
    rw [chainBytes, List.length_append, ExtHeader.bytes_length, ih]
    exact List.sum_cons.symm

theorem loadHeader_readable {base offset len : Nat} {bytes : List UInt8}
    (h : Readable mem (base + offset) bytes) (nz : base ≠ 0) (pos : offset ≠ 0)
    (le : len ≤ bytes.length) :
    ∃ hdr, loadHeader mem base offset len = some hdr ∧ At hdr 0 bytes := by
  have all : ∀ i < len, (mem (base + offset + i)).isSome := fun i lt => by
    rw [h i (by omega)]; rfl
  refine ⟨_, by rw [loadHeader, if_neg (by omega), if_pos all], fun i lt => ?_⟩
  rw [Nat.zero_add, h i lt]
  rfl

theorem toNat_add_u16 (a b : UInt16) : (a + b).toNat = (a.toNat + b.toNat) % 65536 := rfl
theorem toNat_ofNat_u16 (n : Nat) : (UInt16.ofNat n).toNat = n % 65536 := rfl

theorem add_ofNat_toNat {off : UInt16} {a : Nat} (fits : off.toNat + a < 65536) :
    (off + UInt16.ofNat a).toNat = off.toNat + a := by
  rw [toNat_add_u16, toNat_ofNat_u16]
  omega

theorem not_opt_fragment : ¬IsOptHeader ipprotoFragment := by decide

theorem ipv6ExtWalk_chain {upper : UInt8} (last : ¬IsOptHeader upper ∧ upper ≠ ipprotoFragment)
    (nz : head ≠ 0) :
    ∀ (n : Nat) (exts : List ExtHeader) (off : UInt16), 0 < off.toNat →
      off.toNat + chainSize exts < 65536 → Readable mem (head + off.toNat) (chainBytes exts upper) →
      ipv6ExtWalk mem head n (chainKind exts upper) off =
        some (off + UInt16.ofNat (chainSize (exts.take n)), chainKind (exts.drop n) upper)
  | 0, exts, off, _, _, _ => by
    rw [ipv6ExtWalk, List.take_zero, List.drop_zero,
      UInt16.toNat.inj (add_ofNat_toNat (by simp [chainSize]; omega))]
  | n + 1, [], off, _, _, _ => by
    rw [List.take_nil, List.drop_nil, UInt16.toNat.inj (add_ofNat_toNat (by simp [chainSize]; omega)),
      ipv6ExtWalk, chainKind, List.head?_nil, Option.map_none', Option.getD_none, if_neg last.1,
      if_neg last.2]
  | n + 1, ext :: exts, off, pos, fits, h => by
    have size : chainSize (ext :: exts) = ext.size + chainSize exts := List.sum_cons
    have next := @add_ofNat_toNat off ext.size (by omega)
    have rest : Readable mem (head + (off + UInt16.ofNat ext.size).toNat) (chainBytes exts upper) := by
      rw [next, ← Nat.add_assoc, ← ext.bytes_length (chainKind exts upper)]
      exact h.right
    have sum : off + UInt16.ofNat ext.size + UInt16.ofNat (chainSize (exts.take n)) =
        off + UInt16.ofNat (chainSize ((ext :: exts).take (n + 1))) := by
      apply UInt16.toNat.inj
      simp only [toNat_add_u16, toNat_ofNat_u16, List.take_succ_cons, chainSize, List.map_cons,
        List.sum_cons]
      omega
    rw [List.drop_succ_cons, ← sum, ← ipv6ExtWalk_chain last nz n exts _ (by omega) (by omega) rest]
    have long : ext.size ≤ (chainBytes (ext :: exts) upper).length := by
      rw [chainBytes, List.length_append, ExtHeader.bytes_length]
      omega
    cases ext with
    | options kind hdrlen body opt =>
      simp only [ExtHeader.size] at long
      obtain ⟨oh, load, read⟩ := loadHeader_readable h nz (by omega) (show 2 ≤ _ by omega)
      have kind : oh 0 = chainKind exts upper := read 0 (by omega)
      have len : oh 1 = hdrlen := read 1 (by omega)
      rw [ipv6ExtWalk, chainKind, List.head?_cons, Option.map_some', Option.getD_some,
        ExtHeader.kind, if_pos opt, load]
      simp only [kind, len, ExtHeader.size, Nat.mul_comm 8]
    | fragment reserved fragOff ident =>
      simp only [ExtHeader.size] at long
      obtain ⟨fh, load, read⟩ := loadHeader_readable h nz (by omega) (show 8 ≤ _ by omega)
      have kind : fh 0 = chainKind exts upper := read 0 (by omega)
      rw [ipv6ExtWalk, chainKind, List.head?_cons, Option.map_some', Option.getD_some,
        ExtHeader.kind, if_neg not_opt_fragment, if_pos rfl, load]
      simp only [kind, ExtHeader.size]
      rfl

/-- `compute_ipv6_l4_off` steps over the first four extension headers of any chain and no
more: it returns the offset and the type of the header after them, which past a chain of more
than four is itself an extension header. -/
theorem computeIpv6L4Off_chain (exts : List ExtHeader) {upper : UInt8}
    (last : ¬IsOptHeader upper ∧ upper ≠ ipprotoFragment) (l3Off : UInt16)
    (nz : head ≠ 0 ∧ l3Off ≠ 0) (fits : l3Off.toNat + 40 + chainSize exts < 65536)
    (readable : Readable mem (head + l3Off.toNat + 40) (chainBytes exts upper)) :
    computeIpv6L4Off mem head l3Off (chainKind exts upper) =
      some (l3Off + 40 + UInt16.ofNat (chainSize (exts.take 4)), chainKind (exts.drop 4) upper) := by
  have start : (l3Off + 40).toNat = l3Off.toNat + 40 := @add_ofNat_toNat l3Off 40 (by omega)
  rw [computeIpv6L4Off, if_neg fun h => h.elim nz.1 nz.2]
  exact ipv6ExtWalk_chain last nz.1 4 exts _ (by omega) (by omega)
    (by rwa [start, ← Nat.add_assoc])

/-- Five destination-options headers of eight bytes before TCP, at offset 54 of a buffer at
address 1000. -/
def fiveDstopts : List ExtHeader :=
  List.replicate 5 (.options ipprotoDstopts 0 [0, 0, 0, 0, 0, 0] (by decide) rfl)

/-- The kernel memory that holds `fiveDstopts` from address 1054 on. -/
def fiveDstoptsMem : Nat → Option UInt8 := bufferMem 1054 (chainBytes fiveDstopts ipprotoTcp)

theorem computeIpv6L4Off_fiveDstopts :
    (¬IsOptHeader ipprotoTcp ∧ ipprotoTcp ≠ ipprotoFragment) ∧ (1000 ≠ 0 ∧ (14 : UInt16) ≠ 0) ∧
      (14 : UInt16).toNat + 40 + chainSize fiveDstopts < 65536 ∧
      Readable fiveDstoptsMem (1000 + (14 : UInt16).toNat + 40) (chainBytes fiveDstopts ipprotoTcp) ∧
      computeIpv6L4Off fiveDstoptsMem 1000 14 (chainKind fiveDstopts ipprotoTcp) =
        some (14 + 40 + UInt16.ofNat (chainSize (fiveDstopts.take 4)),
          chainKind (fiveDstopts.drop 4) ipprotoTcp) :=
  ⟨by decide, by decide, by decide, by decide,
    computeIpv6L4Off_chain fiveDstopts (by decide) 14 (by decide) (by decide) (by decide)⟩

end Chains

/-! ### Packets in kernel memory -/

section Packets
variable {mem : Nat → Option UInt8}

theorem toNat_ne_zero_u16 {x : UInt16} (h : x ≠ 0) : x.toNat ≠ 0 :=
  fun zero => h (UInt16.toNat.inj zero)

theorem readPorts_zero (head : Nat) (t : FlowTuple) : readPorts mem head 0 t = (true, t) := by
  simp [readPorts]

theorem readPorts_transport {tr : Transport} {head : Nat} {l4Off : UInt16} (t : FlowTuple)
    (nz : head ≠ 0) (pos : l4Off ≠ 0) (h : Readable mem (head + l4Off.toNat) tr.bytes)
    (carries : ∀ bytes, tr = .raw bytes → ¬HasPorts t.proto) :
    readPorts mem head l4Off t = (true, t.withPorts (tr.portPair t.proto)) := by
  unfold readPorts
  by_cases ports : HasPorts t.proto
  · cases tr with
    | ports sport dport rest =>
      obtain ⟨hdr, load, read⟩ := loadHeader_readable h nz (toNat_ne_zero_u16 pos)
        (show 4 ≤ _ by simp only [Transport.bytes, List.length_append, be16Bytes_length]; omega)
      have second : be16 hdr 2 = dport := read.left.right.read16
      rw [if_pos ⟨pos, ports⟩, load]
      simp only [read.left.left.read16, second, Transport.portPair, if_pos ports,
        FlowTuple.withPorts]
    | raw bytes => exact absurd ports (carries bytes rfl)
  · rw [if_neg fun h => ports h.2]
    cases tr <;> simp only [Transport.portPair, if_neg ports, FlowTuple.withPorts]

theorem parseIpv4Tuple_packet (hd : Ipv4Header) (tr : Transport) (skb : Skb) (t : FlowTuple)
    (nz : skb.head ≠ 0 ∧ skb.networkHeader ≠ 0)
    (readable : Readable mem (skb.head + skb.networkHeader.toNat) (hd.bytes ++ tr.bytes))
    (l4 : skb.transportHeader = 0 ∨
      skb.transportHeader = skb.networkHeader + UInt16.ofNat (4 * hd.ihl))
    (fits : skb.networkHeader.toNat + 4 * hd.ihl < 65536)
    (carries : ∀ bytes, tr = .raw bytes → ¬HasPorts hd.protocol) :
    parseIpv4Tuple mem skb false t =
      (true, FlowTuple.withPorts
        { t with proto := hd.protocol, isIpv6 := 0, saddrV4 := hd.saddr, daddrV4 := hd.daddr }
        (tr.portPair hd.protocol)) := by
  have len := hd.bytes_length
  have five : 5 ≤ hd.ihl := Nat.le_add_right 5 _
  obtain ⟨iph, load, read⟩ := loadHeader_readable readable nz.1 (toNat_ne_zero_u16 nz.2)
    (show 20 ≤ _ by simp only [List.length_append]; omega)
  obtain ⟨ihl, proto, saddr, daddr⟩ := hd.read read.left
  simp only [Nat.zero_add] at proto saddr daddr
  have after : (skb.networkHeader + UInt16.ofNat (4 * hd.ihl)).toNat =
      skb.networkHeader.toNat + hd.bytes.length := by
    rw [add_ofNat_toNat fits, len]
  have transport := readable.right
  rw [Nat.add_assoc, ← after] at transport
  have pos : skb.networkHeader + UInt16.ofNat (4 * hd.ihl) ≠ 0 := fun zero => by
    rw [zero] at after
    simp only [UInt16.toNat_zero] at after
    omega
  have early : ¬(skb.head = 0 ∨ skb.networkHeader = 0) := fun h => h.elim nz.1 nz.2
  unfold parseIpv4Tuple
  simp only [Skb.l3Off, Skb.l4Off, Bool.false_eq_true, if_false, early, load, ihl, proto, saddr,
    daddr]
  rw [Nat.mul_comm hd.ihl 4]
  rcases l4 with unset | set
  · by_cases ports : HasPorts hd.protocol
    · rw [if_pos ⟨unset, ports⟩, if_neg (by omega)]
      exact readPorts_transport _ nz.1 pos transport carries
    · rw [if_neg fun h => ports h.2, unset, readPorts_zero]
      cases tr <;> simp only [Transport.portPair, if_neg ports, FlowTuple.withPorts]
  · rw [if_neg fun h => pos (set ▸ h.1), set]
    exact readPorts_transport _ nz.1 pos transport carries

theorem ExtHeader.kind_no_ports (ext : ExtHeader) : ¬HasPorts ext.kind := by
  cases ext with
  | options kind _ _ opt =>
    show ¬HasPorts kind
    rcases opt with rfl | rfl | rfl <;> decide
  | fragment => show ¬HasPorts ipprotoFragment; decide

theorem parseIpv6Tuple_packet (hd : Ipv6Header) (exts : List ExtHeader) {upper : UInt8}
    (tr : Transport) (skb : Skb) (t : FlowTuple)
    (last : ¬IsOptHeader upper ∧ upper ≠ ipprotoFragment) (first : hd.nexthdr = chainKind exts upper)
    (nz : skb.head ≠ 0 ∧ skb.networkHeader ≠ 0) (unset : skb.transportHeader = 0)
    (readable : Readable mem (skb.head + skb.networkHeader.toNat)
      (hd.bytes ++ chainBytes exts upper ++ tr.bytes))
    (fits : skb.networkHeader.toNat + 40 + chainSize exts < 65536)
    (carries : ∀ bytes, tr = .raw bytes → ¬HasPorts upper) :
    parseIpv6Tuple mem skb false t =
      (true, FlowTuple.withPorts { t with
          proto := chainKind (exts.drop 4) upper, isIpv6 := 1, v6Src := hd.saddr,
          v6Dst := hd.daddr }
        (if exts.length ≤ 4 then tr.portPair upper else none)) := by
  obtain ⟨ip6h, load, read⟩ := loadHeader_readable readable nz.1 (toNat_ne_zero_u16 nz.2)
    (show 40 ≤ _ by simp only [List.length_append, hd.bytes_length]; omega)
  obtain ⟨next, src, dst⟩ := hd.read read.left.left
  simp only [Nat.zero_add] at next src dst
  have start : (skb.networkHeader + 40).toNat = skb.networkHeader.toNat + 40 :=
    @add_ofNat_toNat skb.networkHeader 40 (by omega)
  have chain := readable.left.right
  rw [hd.bytes_length, Nat.add_assoc, ← start] at chain
  have walk := ipv6ExtWalk_chain last nz.1 4 exts (skb.networkHeader + 40) (by omega) (by omega) chain
  have early : ¬(skb.head = 0 ∨ skb.networkHeader = 0) := fun h => h.elim nz.1 nz.2
  unfold parseIpv6Tuple
  simp only [Skb.l3Off, Skb.l4Off, Bool.false_eq_true, if_false, early, load, next, src, dst,
    unset, if_true, computeIpv6L4Off, first, walk]
  by_cases few : exts.length ≤ 4
  · have after : (skb.networkHeader + 40 + UInt16.ofNat (chainSize (exts.take 4))).toNat =
        skb.networkHeader.toNat + (hd.bytes ++ chainBytes exts upper).length := by
      rw [List.take_of_length_le few, add_ofNat_toNat (by omega), start, List.length_append,
        hd.bytes_length, chainBytes_length]
      omega
    have transport := readable.right
    rw [Nat.add_assoc, ← after] at transport
    rw [if_pos few, List.drop_of_length_le few]
    have l3 := toNat_ne_zero_u16 nz.2
    exact readPorts_transport _ nz.1
      (fun zero => by rw [zero, UInt16.toNat_zero] at after; omega) transport carries
  · obtain ⟨ext, rest, drop⟩ := List.exists_cons_of_ne_nil (α := ExtHeader) (l := exts.drop 4)
      (by simp; omega)
    rw [if_neg few, drop, readPorts, if_neg fun h => ext.kind_no_ports h.2]
    rfl

/-- What `capture_flow_ctx` reads of every IPv4 packet that is not encapsulated, whose
`transport_header` is unset or right past its header: the hash of its protocol, addresses and
ports as the flow, and its protocol. -/
theorem skbReading_ipv4 (hd : Ipv4Header) (tr : Transport) (skb : Skb) (direction : UInt8)
    (devIfindex : Option UInt32) (gsoSegs : Option UInt16) (fallback : UInt64)
    (ip : skb.protocol = ethPIp) (plain : skb.innerNetworkHeader = 0)
    (nz : skb.head ≠ 0 ∧ skb.networkHeader ≠ 0)
    (readable : Readable mem (skb.head + skb.networkHeader.toNat) (hd.bytes ++ tr.bytes))
    (l4 : skb.transportHeader = 0 ∨
      skb.transportHeader = skb.networkHeader + UInt16.ofNat (4 * hd.ihl))
    (fits : skb.networkHeader.toNat + 4 * hd.ihl < 65536)
    (carries : ∀ bytes, tr = .raw bytes → ¬HasPorts hd.protocol) :
    skbReading mem skb direction devIfindex gsoSegs fallback =
      ⟨hashFlowTuple (FlowTuple.withPorts { FlowTuple.init direction with
          proto := hd.protocol, saddrV4 := hd.saddr, daddrV4 := hd.daddr }
        (tr.portPair hd.protocol)) fallback, devIfindex, gsoSegs, hd.protocol⟩ := by
  have five : 5 ≤ hd.ihl := Nat.le_add_right 5 _
  obtain ⟨iph, load, read⟩ := loadHeader_readable readable nz.1 (toNat_ne_zero_u16 nz.2)
    (show 20 ≤ _ by simp only [List.length_append, hd.bytes_length]; omega)
  have proto : iph 9 = hd.protocol := (hd.read read.left).2.1
  have parsed := parseIpv4Tuple_packet hd tr skb (FlowTuple.init direction) nz readable l4 fits
    carries
  simp only [skbReading, calcFlowHash, extractL4Proto, parseInner, plain, ip, ne_eq,
    not_true_eq_false, if_false, if_true, Bool.false_eq_true, parsed, load, proto,
    show ¬(skb.networkHeader = 0 ∨ skb.head = 0) from fun h => h.elim nz.2 nz.1]
  rfl

/-- A TCP/IPv4 packet with one option word, from port 443 to port 51000, its network header at
offset 14 of a buffer at address 1000. -/
def tcp4Header : Ipv4Header :=
  ⟨0, 44, 1, 0, 64, ipprotoTcp, 0, 0x0100000a, 0x0200000a, [1, 1, 1, 1], rfl, by decide⟩

def tcp4Skb : Skb := ⟨1000, ethPIp, 14, 0, 0, 0, 0⟩

def tcp4Mem : Nat → Option UInt8 :=
  bufferMem 1000 (List.replicate 14 0 ++ tcp4Header.bytes ++ (Transport.ports 443 51000 []).bytes)

theorem skbReading_tcp4 :
    tcp4Skb.protocol = ethPIp ∧ tcp4Skb.innerNetworkHeader = 0 ∧
      (tcp4Skb.head ≠ 0 ∧ tcp4Skb.networkHeader ≠ 0) ∧
      Readable tcp4Mem (tcp4Skb.head + tcp4Skb.networkHeader.toNat)
        (tcp4Header.bytes ++ (Transport.ports 443 51000 []).bytes) ∧
      tcp4Skb.transportHeader = 0 ∧ tcp4Skb.networkHeader.toNat + 4 * tcp4Header.ihl < 65536 ∧
      skbReading tcp4Mem tcp4Skb 0 (some 2) (some 1) 7 =
        ⟨hashFlowTuple (FlowTuple.withPorts { FlowTuple.init 0 with
            proto := tcp4Header.protocol, saddrV4 := tcp4Header.saddr,
            daddrV4 := tcp4Header.daddr }
          ((Transport.ports 443 51000 []).portPair tcp4Header.protocol)) 7, some 2, some 1,
          tcp4Header.protocol⟩ :=
  ⟨rfl, rfl, by decide, by decide, rfl, by decide,
    skbReading_ipv4 tcp4Header (.ports 443 51000 []) tcp4Skb 0 (some 2) (some 1) 7 rfl rfl
      (by decide) (by decide) (.inl rfl) (by decide) fun _ h => nomatch h⟩

/-- What `capture_flow_ctx` reads of every IPv6 packet that is not encapsulated, with
`transport_header` unset, behind a chain of extension headers: the flow is the hash of the
tuple whose protocol is the type of the header after the first four extension headers, with
the ports of a TCP or UDP header there; the protocol it records is the IPv6 header's next
header, the first extension header's type wherever there is one. -/
theorem skbReading_ipv6 (hd : Ipv6Header) (exts : List ExtHeader) {upper : UInt8}
    (tr : Transport) (skb : Skb) (direction : UInt8) (devIfindex : Option UInt32)
    (gsoSegs : Option UInt16) (fallback : UInt64)
    (v6 : skb.protocol = ethPIpv6) (plain : skb.innerNetworkHeader = 0)
    (last : ¬IsOptHeader upper ∧ upper ≠ ipprotoFragment) (first : hd.nexthdr = chainKind exts upper)
    (nz : skb.head ≠ 0 ∧ skb.networkHeader ≠ 0) (unset : skb.transportHeader = 0)
    (readable : Readable mem (skb.head + skb.networkHeader.toNat)
      (hd.bytes ++ chainBytes exts upper ++ tr.bytes))
    (fits : skb.networkHeader.toNat + 40 + chainSize exts < 65536)
    (carries : ∀ bytes, tr = .raw bytes → ¬HasPorts upper) :
    skbReading mem skb direction devIfindex gsoSegs fallback =
      ⟨hashFlowTuple (FlowTuple.withPorts { FlowTuple.init direction with
          proto := chainKind (exts.drop 4) upper, isIpv6 := 1, v6Src := hd.saddr,
          v6Dst := hd.daddr }
        (if exts.length ≤ 4 then tr.portPair upper else none)) fallback, devIfindex, gsoSegs,
        chainKind exts upper⟩ := by
  obtain ⟨ip6h, load, read⟩ := loadHeader_readable readable nz.1 (toNat_ne_zero_u16 nz.2)
    (show 40 ≤ _ by simp only [List.length_append, hd.bytes_length]; omega)
  have next : ip6h 6 = chainKind exts upper := (hd.read read.left.left).1.trans first
  have parsed := parseIpv6Tuple_packet hd exts tr skb (FlowTuple.init direction) last first nz
    unset readable fits carries
  have ne : ¬ethPIpv6 = ethPIp := by decide
  simp only [skbReading, calcFlowHash, extractL4Proto, parseInner, plain, v6, ne, ne_eq,
    not_true_eq_false, if_false, if_true, Bool.false_eq_true, parsed, load, next,
    show ¬(skb.networkHeader = 0 ∨ skb.head = 0) from fun h => h.elim nz.2 nz.1]

/-- An IPv6 TCP packet behind `fiveDstopts`, its network header at offset 14 of a buffer at
address 1000. -/
def dstopts6Header : Ipv6Header :=
  ⟨0x60, 48, ipprotoDstopts, 64, .replicate 4 1, .replicate 4 2⟩

def dstopts6Skb : Skb := ⟨1000, ethPIpv6, 14, 0, 0, 0, 0⟩

def dstopts6Mem : Nat → Option UInt8 :=
  bufferMem 1000 (List.replicate 14 0 ++ dstopts6Header.bytes ++
    chainBytes fiveDstopts ipprotoTcp ++ (Transport.ports 443 51000 []).bytes)

theorem skbReading_dstopts6 :
    dstopts6Skb.protocol = ethPIpv6 ∧ dstopts6Skb.innerNetworkHeader = 0 ∧
      (¬IsOptHeader ipprotoTcp ∧ ipprotoTcp ≠ ipprotoFragment) ∧
      dstopts6Header.nexthdr = chainKind fiveDstopts ipprotoTcp ∧
      (dstopts6Skb.head ≠ 0 ∧ dstopts6Skb.networkHeader ≠ 0) ∧ dstopts6Skb.transportHeader = 0 ∧
      Readable dstopts6Mem (dstopts6Skb.head + dstopts6Skb.networkHeader.toNat)
        (dstopts6Header.bytes ++ chainBytes fiveDstopts ipprotoTcp ++
          (Transport.ports 443 51000 []).bytes) ∧
      dstopts6Skb.networkHeader.toNat + 40 + chainSize fiveDstopts < 65536 ∧
      skbReading dstopts6Mem dstopts6Skb 0 none none 7 =
        ⟨hashFlowTuple (FlowTuple.withPorts { FlowTuple.init 0 with
            proto := chainKind (fiveDstopts.drop 4) ipprotoTcp, isIpv6 := 1,
            v6Src := dstopts6Header.saddr, v6Dst := dstopts6Header.daddr }
          (if fiveDstopts.length ≤ 4 then (Transport.ports 443 51000 []).portPair ipprotoTcp
            else none)) 7, none, none, chainKind fiveDstopts ipprotoTcp⟩ :=
  ⟨rfl, rfl, by decide, rfl, by decide, rfl, by decide, by decide,
    skbReading_ipv6 dstopts6Header fiveDstopts (.ports 443 51000 []) dstopts6Skb 0 none none 7 rfl
      rfl (by decide) rfl (by decide) rfl (by decide) (by decide) fun _ h => nomatch h⟩

end Packets

/-! ### The encapsulated path -/

/-- Tuples that differ at most in what `parse_ipv4_tuple` writes once it has read a header:
the protocol, the family and the IPv4 addresses. -/
structure SameBesideV4 (t t' : FlowTuple) : Prop where
  sport : t.sport = t'.sport
  dport : t.dport = t'.dport
  dir : t.dir = t'.dir
  v6Src : t.v6Src = t'.v6Src
  v6Dst : t.v6Dst = t'.v6Dst

/-- Tuples that differ at most in what `parse_ipv6_tuple` writes once it has read a header:
the protocol, the family and the IPv6 addresses. -/
structure SameBesideV6 (t t' : FlowTuple) : Prop where
  sport : t.sport = t'.sport
  dport : t.dport = t'.dport
  dir : t.dir = t'.dir
  saddrV4 : t.saddrV4 = t'.saddrV4
  daddrV4 : t.daddrV4 = t'.daddrV4

section Encap
variable {mem : Nat → Option UInt8} {skb : Skb} {inner : Bool}

theorem readPorts_cases (head : Nat) (l4Off : UInt16) (t : FlowTuple) :
    readPorts mem head l4Off t = (false, t) ∨
      ∃ sport dport, readPorts mem head l4Off t = (true, { t with sport := sport, dport := dport }) := by
  unfold readPorts
  split_ifs
  · split
    · exact .inl rfl
    · exact .inr ⟨_, _, rfl⟩
  · exact .inr ⟨t.sport, t.dport, rfl⟩

theorem readPorts_fails {head : Nat} {l4Off : UInt16} {t : FlowTuple}
    (h : (readPorts mem head l4Off t).1 = false) : (readPorts mem head l4Off t).2 = t := by
  rcases readPorts_cases head l4Off t with e | ⟨_, _, e⟩
  · rw [e]
  · rw [e] at h
    cases h

theorem parseIpv4Tuple_fails {t : FlowTuple} (h : (parseIpv4Tuple mem skb inner t).1 = false) :
    SameBesideV4 (parseIpv4Tuple mem skb inner t).2 t := by
  revert h
  unfold parseIpv4Tuple
  split_ifs
  · exact fun _ => ⟨rfl, rfl, rfl, rfl, rfl⟩
  cases loadHeader mem skb.head (skb.l3Off inner).toNat 20 with
  | none => exact fun _ => ⟨rfl, rfl, rfl, rfl, rfl⟩
  | some iph =>
    dsimp only
    split_ifs
    · exact fun _ => ⟨rfl, rfl, rfl, rfl, rfl⟩
    all_goals exact fun h => by rw [readPorts_fails h]; exact ⟨rfl, rfl, rfl, rfl, rfl⟩

theorem parseIpv4Tuple_same {t t' : FlowTuple} (h : SameBesideV4 t t') :
    (parseIpv4Tuple mem skb inner t).1 = (parseIpv4Tuple mem skb inner t').1 ∧
      ((parseIpv4Tuple mem skb inner t).1 = true →
        (parseIpv4Tuple mem skb inner t).2 = (parseIpv4Tuple mem skb inner t').2) := by
  unfold parseIpv4Tuple
  split_ifs
  · exact ⟨rfl, nofun⟩
  split
  · exact ⟨rfl, nofun⟩
  next iph _ =>
    obtain ⟨sport, dport, dir, v6Src, v6Dst⟩ := h
    cases t
    cases t'
    subst sport dport dir v6Src v6Dst
    exact ⟨rfl, fun _ => rfl⟩

theorem parseIpv6Tuple_fails {t : FlowTuple} (h : (parseIpv6Tuple mem skb inner t).1 = false) :
    SameBesideV6 (parseIpv6Tuple mem skb inner t).2 t := by
  revert h
  unfold parseIpv6Tuple
  by_cases early : skb.head = 0 ∨ skb.l3Off inner = 0
  · rw [if_pos early]
    exact fun _ => ⟨rfl, rfl, rfl, rfl, rfl⟩
  rw [if_neg early]
  cases loadHeader mem skb.head (skb.l3Off inner).toNat 40 with
  | none => exact fun _ => ⟨rfl, rfl, rfl, rfl, rfl⟩
  | some ip6h =>
    dsimp only
    split_ifs
    · split <;> exact fun h => by rw [readPorts_fails h]; exact ⟨rfl, rfl, rfl, rfl, rfl⟩
    · exact fun h => by rw [readPorts_fails h]; exact ⟨rfl, rfl, rfl, rfl, rfl⟩

theorem parseIpv6Tuple_same {t t' : FlowTuple} (h : SameBesideV6 t t') :
    (parseIpv6Tuple mem skb inner t).1 = (parseIpv6Tuple mem skb inner t').1 ∧
      ((parseIpv6Tuple mem skb inner t).1 = true →
        (parseIpv6Tuple mem skb inner t).2 = (parseIpv6Tuple mem skb inner t').2) := by
  unfold parseIpv6Tuple
  by_cases early : skb.head = 0 ∨ skb.l3Off inner = 0
  · rw [if_pos early, if_pos early]
    exact ⟨rfl, nofun⟩
  rw [if_neg early, if_neg early]
  cases loadHeader mem skb.head (skb.l3Off inner).toNat 40 with
  | none => exact ⟨rfl, nofun⟩
  | some ip6h =>
    obtain ⟨sport, dport, dir, saddrV4, daddrV4⟩ := h
    cases t
    cases t'
    subst sport dport dir saddrV4 daddrV4
    exact ⟨rfl, fun _ => rfl⟩

/-- The `goto hash_tuple` path leaves nothing behind: when the inner headers of an
encapsulated packet do not parse, its flow is the flow of its outer headers, as if it carried
no inner ones. -/
theorem calcFlowHash_inner_fails (mem : Nat → Option UInt8) (skb : Skb) (direction : UInt8)
    (fallback : UInt64) (fails : (parseInner mem skb (FlowTuple.init direction)).1 = false) :
    calcFlowHash mem skb direction fallback =
      calcFlowHash mem { skb with innerNetworkHeader := 0 } direction fallback := by
  have plain : parseInner mem { skb with innerNetworkHeader := 0 } (FlowTuple.init direction) =
      (false, FlowTuple.init direction) := rfl
  unfold calcFlowHash
  rw [plain]
  simp only [fails, Bool.false_eq_true, if_false]
  by_cases ip : skb.protocol = ethPIp
  · have same : SameBesideV4 (parseInner mem skb (FlowTuple.init direction)).2
        (FlowTuple.init direction) := by
      unfold parseInner at fails ⊢
      simp only [ip, if_true] at fails ⊢
      split_ifs at fails ⊢
      exacts [parseIpv4Tuple_fails fails, ⟨rfl, rfl, rfl, rfl, rfl⟩]
    have outer := @parseIpv4Tuple_same mem skb false _ _ same
    simp only [ip, if_true]
    by_cases ok : (parseIpv4Tuple mem skb false (FlowTuple.init direction)).1 = true
    · rw [if_pos (outer.1.trans ok), outer.2 (outer.1.trans ok)]
      exact (if_pos ok).symm
    · rw [if_neg (by rw [outer.1]; exact ok)]
      exact (if_neg ok).symm
  by_cases ip6 : skb.protocol = ethPIpv6
  · have ne : ¬ethPIpv6 = ethPIp := by decide
    have same : SameBesideV6 (parseInner mem skb (FlowTuple.init direction)).2
        (FlowTuple.init direction) := by
      unfold parseInner at fails ⊢
      simp only [ip6, ne, if_true, if_false] at fails ⊢
      split_ifs at fails ⊢
      exacts [parseIpv6Tuple_fails fails, ⟨rfl, rfl, rfl, rfl, rfl⟩]
    have outer := @parseIpv6Tuple_same mem skb false _ _ same
    simp only [ip, if_false]
    rw [if_pos ip6, if_pos ip6]
    by_cases ok : (parseIpv6Tuple mem skb false (FlowTuple.init direction)).1 = true
    · rw [if_pos (outer.1.trans ok), outer.2 (outer.1.trans ok)]
      exact (if_pos ok).symm
    · rw [if_neg (by rw [outer.1]; exact ok)]
      exact (if_neg ok).symm
  · simp only [ip, ip6, if_false]

/-- A GRE-style packet at `head = 1000`: a TCP/IPv4 outer header at offset 14 with its ports
after it, and at offset 50 an inner IPv4 header whose `ihl` of 4 is rejected. -/
def encapBytes : List UInt8 :=
  List.replicate 14 0 ++
    (⟨0, 40, 1, 0, 64, ipprotoTcp, 0, 0x0100000a, 0x0200000a, [], rfl, by decide⟩ : Ipv4Header).bytes ++
    be16Bytes 443 ++ be16Bytes 51000 ++ List.replicate 12 0 ++
    ([0x44] ++ List.replicate 8 0 ++ [ipprotoTcp] ++ List.replicate 10 0)

def encapMem : Nat → Option UInt8 := bufferMem 1000 encapBytes

def encapSkb : Skb := ⟨1000, ethPIp, 14, 0, 50, 0, 0⟩

theorem calcFlowHash_encapSkb :
    (parseInner encapMem encapSkb (FlowTuple.init 0)).1 = false ∧
      calcFlowHash encapMem encapSkb 0 7 =
        calcFlowHash encapMem { encapSkb with innerNetworkHeader := 0 } 0 7 :=
  ⟨by decide, calcFlowHash_inner_fails encapMem encapSkb 0 7 (by decide)⟩

end Encap


end MicroSentinel
