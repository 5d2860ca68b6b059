/-
# Frames, header fields and addresses

A packet buffer is the list of its bytes, and its length is the `len` that every
function of the router receives with it. The packed header structures of
`sr_protocol.h` become spans of the frame, at the offsets the casts of the C code
place them.

Addresses are kept as they lie in memory, in network byte order: the code only
copies and compares them. Sixteen-bit fields are loaded and stored by a
little-endian host, so that a comparison which forgets `ntohs` is visible as one.

A span that leaves the buffer faults. The C code makes no such check; a fault
marks the executions about which the code says nothing.
-/

import SimpleRouter.Library.ByteSpan
import SimpleRouter.Library.Outcome

namespace SimpleRouter

open Buffers Effects

/-- A raw Ethernet frame, or any other byte buffer. -/
abbrev Bytes := List UInt8

/-- A hardware address, `ETHER_ADDR_LEN` bytes. -/
abbrev Mac := Vector UInt8 6

/-- An IP address in network byte order. -/
abbrev Ip := Vector UInt8 4

/-- `sr_IFACE_NAMELEN`. -/
def srIfaceNamelen : ℕ := 32

/-- An interface name: what `strncmp` with bound `sr_IFACE_NAMELEN` sees of a
character buffer, namely its bytes before the first NUL and at most 32 of them. -/
structure IfName where
  chars : List UInt8
  short : chars.length ≤ srIfaceNamelen
  nonNul : 0 ∉ chars
  deriving DecidableEq

/-! ## Header sizes and field offsets -/

/-- `sizeof(struct sr_ethernet_hdr)`. -/
def ethHdrSize : ℕ := 14

/-- `sizeof(struct sr_ip_hdr)`. -/
def ipHdrSize : ℕ := 20

/-- `sizeof(struct sr_arp_hdr)`. -/
def arpHdrSize : ℕ := 28

/-- `sizeof(struct sr_icmp_t11_hdr)`. -/
def icmpErrorHdrSize : ℕ := 36

section EthernetHeader

def etherDhost : Span 6 := ⟨0⟩
def etherShost : Span 6 := ⟨6⟩
def etherType : Span 2 := ⟨12⟩

end EthernetHeader

section IpHeader

/-- The whole IP header, `IP_HDR_SIZE` bytes after the Ethernet header. -/
def ipHdr : Span 20 := ⟨ethHdrSize⟩

def ipLen : Span 2 := ⟨ethHdrSize + 2⟩
def ipTtl : Span 1 := ⟨ethHdrSize + 8⟩
def ipP : Span 1 := ⟨ethHdrSize + 9⟩
def ipSum : Span 2 := ⟨ethHdrSize + 10⟩
def ipSrc : Span 4 := ⟨ethHdrSize + 12⟩
def ipDst : Span 4 := ⟨ethHdrSize + 16⟩

/-- The first 28 bytes of the IP packet, which an ICMP error quotes. -/
def ipQuoted : Span 28 := ⟨ethHdrSize⟩

end IpHeader

section IcmpHeader

def icmpType : Span 1 := ⟨ethHdrSize + ipHdrSize⟩
def icmpCode : Span 1 := ⟨ethHdrSize + ipHdrSize + 1⟩
def icmpSum : Span 2 := ⟨ethHdrSize + ipHdrSize + 2⟩
def icmpUnused : Span 2 := ⟨ethHdrSize + ipHdrSize + 4⟩
def icmpNextMtu : Span 2 := ⟨ethHdrSize + ipHdrSize + 6⟩
def icmpData : Span 28 := ⟨ethHdrSize + ipHdrSize + 8⟩

/-- A whole ICMP error message, `ICMP_ERROR_HDR_SIZE` bytes. -/
def icmpErrorHdr : Span 36 := ⟨ethHdrSize + ipHdrSize⟩

end IcmpHeader

section ArpHeader

def arHrd : Span 2 := ⟨ethHdrSize⟩
def arPro : Span 2 := ⟨ethHdrSize + 2⟩
def arHln : Span 1 := ⟨ethHdrSize + 4⟩
def arPln : Span 1 := ⟨ethHdrSize + 5⟩
def arOp : Span 2 := ⟨ethHdrSize + 6⟩
def arSha : Span 6 := ⟨ethHdrSize + 8⟩
def arSip : Span 4 := ⟨ethHdrSize + 14⟩
def arTha : Span 6 := ⟨ethHdrSize + 18⟩
def arTip : Span 4 := ⟨ethHdrSize + 24⟩

end ArpHeader

/-! ## Protocol numbers -/

def ipProtocolIcmp : UInt8 := 0x01
def ipProtocolTcp : UInt8 := 0x06
def ipProtocolUdp : UInt8 := 0x11

def ethertypeArp : UInt16 := 0x0806
def ethertypeIp : UInt16 := 0x0800

def arpOpRequest : UInt16 := 0x0001
def arpOpReply : UInt16 := 0x0002

def arpHrdEthernet : UInt16 := 0x0001

/-- The hardware broadcast address. -/
def breadcast : Mac := #v[0xFF, 0xFF, 0xFF, 0xFF, 0xFF, 0xFF]

/-! ## Fields on a little-endian host -/

/-- The `uint16_t` the host loads from two bytes, low byte first. -/
def hostU16 (v : Vector UInt8 2) : UInt16 := .ofNat (v[0].toNat + 256 * v[1].toNat)

/-- The `uint8_t` in a field of one byte. -/
def hostU8 (v : Vector UInt8 1) : UInt8 := v[0]

/-- The two bytes the host stores for a `uint16_t`. -/
def hostBytes (x : UInt16) : Vector UInt8 2 :=
  #v[.ofNat (x.toNat % 256), .ofNat (x.toNat / 256)]

/-- Swap the bytes of a `uint16_t`: host order to network order. -/
def htons (x : UInt16) : UInt16 := .ofNat (x.toNat % 256 * 256 + x.toNat / 256)

/-- Network order to host order. -/
def ntohs (x : UInt16) : UInt16 := htons x

/-- The number two bytes write in network byte order. -/
def be16 (v : Vector UInt8 2) : ℕ := v[0].toNat * 256 + v[1].toNat

theorem be16_le (v : Vector UInt8 2) : be16 v ≤ 0xFFFF := by
  have := v[0].toNat_lt
  have := v[1].toNat_lt
  rw [be16]
  omega

/-- Two bytes are known from the number that they write. -/
theorem be16_inj {v w : Vector UInt8 2} : be16 v = be16 w ↔ v = w := by
  refine ⟨fun same => ?_, congrArg be16⟩
  have := v[1].toNat_lt
  have := w[1].toNat_lt
  rw [be16, be16] at same
  ext i hi
  obtain rfl | rfl : i = 0 ∨ i = 1 := by omega
  · omega
  · omega

@[simp] theorem hostU8_mk (x : UInt8) : hostU8 #v[x] = x := rfl

/-- A field of one byte is that byte. -/
theorem eq_hostU8 (v : Vector UInt8 1) : v = #v[hostU8 v] := by
  ext i hi
  obtain rfl : i = 0 := by omega
  rfl

theorem toNat_hostU16 (v : Vector UInt8 2) :
    (hostU16 v).toNat = v[0].toNat + 256 * v[1].toNat := by
  have := v[0].toNat_lt
  have := v[1].toNat_lt
  rw [hostU16, UInt16.toNat_ofNat']
  omega

theorem toNat_htons (x : UInt16) : (htons x).toNat = x.toNat % 256 * 256 + x.toNat / 256 := by
  have := x.toNat_lt
  rw [htons, UInt16.toNat_ofNat']
  omega

@[simp] theorem hostU16_hostBytes (x : UInt16) : hostU16 (hostBytes x) = x := by
  have := x.toNat_lt
  apply UInt16.toNat_inj.mp
  rw [toNat_hostU16]
  simp only [hostBytes, Vector.getElem_mk, List.getElem_toArray, List.getElem_cons_zero,
    List.getElem_cons_succ, UInt8.toNat_ofNat']
  omega

@[simp] theorem hostBytes_hostU16 (v : Vector UInt8 2) : hostBytes (hostU16 v) = v := by
  have := v[0].toNat_lt
  have := v[1].toNat_lt
  ext i hi : 1
  apply UInt8.toNat_inj.mp
  simp only [hostBytes, toNat_hostU16]
  -- The low byte is stored first.
  match i with
  | 0 =>
    simp only [Vector.getElem_mk, List.getElem_toArray, List.getElem_cons_zero,
      UInt8.toNat_ofNat']
    omega
  | 1 =>
    simp only [Vector.getElem_mk, List.getElem_toArray, List.getElem_cons_zero,
      List.getElem_cons_succ, UInt8.toNat_ofNat']
    omega

theorem toNat_ntohs_hostU16 (v : Vector UInt8 2) : (ntohs (hostU16 v)).toNat = be16 v := by
  have := v[0].toNat_lt
  have := v[1].toNat_lt
  rw [ntohs, toNat_htons, toNat_hostU16, be16]
  omega

/-- Storing a value swapped by `htons` writes it in network byte order. -/
theorem be16_hostBytes_htons (x : UInt16) : be16 (hostBytes (htons x)) = x.toNat := by
  have := x.toNat_lt
  rw [← toNat_ntohs_hostU16, hostU16_hostBytes, ntohs, toNat_htons, toNat_htons]
  omega

/-! ## Faults and checked access -/

/-- Why an execution of the C code is undefined or aborts. -/
inductive Fault
  /-- A byte outside a packet buffer was read or written. -/
  | outOfBounds
  /-- The null result of `sr_get_interface` was dereferenced. -/
  | nullInterface
  /-- The null packet list of a request was dereferenced. -/
  | nullPacket
  /-- A request that is no longer on the queue was dereferenced. -/
  | danglingRequest
  /-- An `assert` failed. -/
  | assertFailed
  deriving DecidableEq, Repr

/-- Why a function did not return. -/
inductive Stop
  | fault (why : Fault)
  /-- The rounds granted to a loop are used up and it is still running. -/
  | running
  deriving DecidableEq, Repr

/-- The functions that call `sr_send_packet`. -/
inductive Sender
  | forwardIpPacket
  | sendArpRequest
  | dealArp
  | replyToIcmpRequest
  | replyToArpRequest
  | sendIcmpError
  deriving DecidableEq, Repr

/-- A call of `sr_send_packet`: the function that makes it, the frame, and the
name of the interface it is to leave by. -/
structure SentFrame where
  sender : Sender
  buf : Bytes
  iface : IfName
  deriving DecidableEq

/-- Code that sends frames and touches neither the ARP cache nor the queue. -/
abbrev Action := Outcome SentFrame Stop

/-- `sr_send_packet`, seen from its callers, which all ignore its result. -/
def srSendPacket (sender : Sender) (buf : Bytes) (iface : IfName) : Action Unit :=
  Outcome.emit ⟨sender, buf, iface⟩

/-- The program reached undefined behaviour. -/
def fail {α : Type} (why : Fault) : Action α := Outcome.stop (.fault why)

section Access

variable {n : ℕ}

/-- Read a field of the packet. -/
def load (f : Span n) (packet : Bytes) : Action (Vector UInt8 n) :=
  if f.Fits packet then pure (f.get packet) else fail .outOfBounds

/-- Write a field of the packet in place. -/
def store (f : Span n) (v : Vector UInt8 n) (packet : Bytes) : Action Bytes :=
  if f.Fits packet then pure (f.set v packet) else fail .outOfBounds

/-- Read one byte of the packet. -/
def loadByte (packet : Bytes) (i : ℕ) : Action UInt8 :=
  match packet[i]? with
  | some b => pure b
  | none => fail .outOfBounds

variable {f : Span n} {packet : Bytes}

theorem load_of_fits (h : f.Fits packet) : load f packet = pure (f.get packet) := if_pos h

theorem store_of_fits (h : f.Fits packet) (v : Vector UInt8 n) :
    store f v packet = pure (f.set v packet) := if_pos h

theorem load_of_not_fits (h : ¬ f.Fits packet) : load f packet = fail .outOfBounds := if_neg h

theorem store_of_not_fits (h : ¬ f.Fits packet) (v : Vector UInt8 n) :
    store f v packet = fail .outOfBounds := if_neg h

/-- The computation sends nothing and reaches undefined behaviour. -/
def Faults {α : Type} (x : Action α) : Prop := ∃ why, x = fail why

theorem faults_fail {α : Type} (why : Fault) : Faults (fail why : Action α) := ⟨why, rfl⟩

theorem Faults.sent_eq_nil {α : Type} {x : Action α} (faults : Faults x) : x.sent = [] := by
  obtain ⟨why, rfl⟩ := faults
  rfl

theorem Faults.not_returns {α : Type} {x : Action α} (faults : Faults x) (a : α) :
    ¬ x.Returns a := by
  obtain ⟨why, rfl⟩ := faults
  exact fun returns => nomatch returns

theorem Faults.bind {α β : Type} {x : Action α} (faults : Faults x) (next : α → Action β) :
    Faults (x >>= next) := by
  obtain ⟨why, rfl⟩ := faults
  exact ⟨why, rfl⟩

/-- After a read only the case that the field fits is left to look at. -/
theorem faults_load_bind {α : Type} {next : Vector UInt8 n → Action α}
    (later : f.Fits packet → Faults (next (f.get packet))) : Faults (load f packet >>= next) := by
  by_cases fits : f.Fits packet
  · rw [load_of_fits fits, pure_bind]
    exact later fits
  · rw [load_of_not_fits fits]
    exact (faults_fail _).bind _

/-- So it is after a write. -/
theorem faults_store_bind {α : Type} {v : Vector UInt8 n} {next : Bytes → Action α}
    (later : f.Fits packet → Faults (next (f.set v packet))) :
    Faults (store f v packet >>= next) := by
  by_cases fits : f.Fits packet
  · rw [store_of_fits fits, pure_bind]
    exact later fits
  · rw [store_of_not_fits fits]
    exact (faults_fail _).bind _

/-- If a read fits, it may be what follows that leaves a buffer. -/
theorem load_bind_eq_fail {α : Type} {next : Vector UInt8 n → Action α}
    (later : f.Fits packet → next (f.get packet) = fail .outOfBounds) :
    load f packet >>= next = fail .outOfBounds := by
  by_cases fits : f.Fits packet
  · rw [load_of_fits fits, pure_bind]
    exact later fits
  · rw [load_of_not_fits fits]
    rfl

/-- So it is with a write. -/
theorem store_bind_eq_fail {α : Type} {v : Vector UInt8 n} {next : Bytes → Action α}
    (later : f.Fits packet → next (f.set v packet) = fail .outOfBounds) :
    store f v packet >>= next = fail .outOfBounds := by
  by_cases fits : f.Fits packet
  · rw [store_of_fits fits, pure_bind]
    exact later fits
  · rw [store_of_not_fits fits]
    rfl

/-- Fields that end within the first `k` bytes fit a packet of that length. -/
theorem fits_of_le {k : ℕ} (long : k ≤ packet.length) (within : f.off + n ≤ k) : f.Fits packet :=
  Nat.le_trans within long

/-- A packet with an IP header is not empty. -/
theorem ne_nil_of_long (long : 34 ≤ packet.length) : packet ≠ [] :=
  List.ne_nil_of_length_pos (Nat.lt_of_lt_of_le (by decide) long)

end Access

end SimpleRouter
