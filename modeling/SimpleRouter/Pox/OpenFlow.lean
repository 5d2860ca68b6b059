/-
# The messages of a switch

The classes of `libopenflow_01.py` for the messages that the controller handles: how each is packed,
and what `unpack` reads of a text that may hold more than the message. Where the source packs or
skips bytes of padding there is a field of them. What was packed is unpacked again, but for what a
message does not carry over.
-/

import Mathlib.Control.Lawful
import SimpleRouter.Library.FixedFields
import SimpleRouter.Library.Struct
import SimpleRouter.Pox.Match

namespace SimpleRouter.Pox

/-! ## The header -/

/-- `binaryString[i:j]` -/
def part (s : List UInt8) (i j : ℕ) : List UInt8 := (s.take j).drop i

/-- `ofp_header`, with its `xid` set. -/
structure OfpHeader where
  version : ℕ
  headerType : ℕ
  length : ℕ
  xid : ℕ

/-- `ofp_header.pack`. The keys of `ofp_type_map` are the numbers up to 21. -/
def OfpHeader.pack (header : OfpHeader) : Option (List UInt8) :=
  if header.headerType ≤ 21 then
    Struct.pack [1, 1, 2, 4] [header.version, header.headerType, header.length, header.xid]
  else none

def OfpHeader.unpack (s : List UInt8) : OfpHeader :=
  match Struct.unpackFrom [1, 1, 2, 4] s 0 with
  | [version, headerType, length, xid] => ⟨version, headerType, length, xid⟩
  | _ => ⟨0, 0, 0, 0⟩

/-! ## Ports and matches -/

/-- `ofp_phy_port` -/
structure PhyPort where
  portNo : ℕ
  hwAddr : List UInt8
  name : List UInt8
  config : ℕ
  state : ℕ
  curr : ℕ
  advertised : ℕ
  supported : ℕ
  peer : ℕ

/-- `EMPTY_ETH` -/
def emptyEth : List UInt8 := List.replicate 6 0

def PhyPort.blank : PhyPort := ⟨0, emptyEth, [], 0, 0, 0, 0, 0, 0⟩

def PhyPort.pack (port : PhyPort) : Option (List UInt8) :=
  if port.hwAddr.length ≠ 6 ∨ 16 < port.name.length then none
  else do
    let portNo ← Struct.pack [2] [port.portNo]
    let features ← Struct.pack [4, 4, 4, 4, 4, 4]
      [port.config, port.state, port.curr, port.advertised, port.supported, port.peer]
    some (portNo ++ port.hwAddr ++ port.name.rightpad 16 0 ++ features)

def PhyPort.unpack (s : List UInt8) : PhyPort :=
  if s.length < 48 then blank
  else match Struct.unpackFrom [2] s 0, Struct.unpackFrom [4, 4, 4, 4, 4, 4] s 24 with
    | [portNo], [config, state, curr, advertised, supported, peer] =>
      { portNo, config, state, curr, advertised, supported, peer
        hwAddr := part s 2 8
        name := FixedFields.strip 0 (part s 8 24) }
    | _, _ => blank

/-- `check_ip`, `check_ip_or_arp` and `check_tp` of `ofp_match.pack`: the fields that go with the
type of the packet. -/
def Match.carries (m : Match) : MatchField → Bool
  | .nwTos => m.get .dlType == some 0x0800
  | .nwProto => m.get .dlType == some 0x0800 || m.get .dlType == some 0x0806
  | .tpSrc | .tpDst => m.get .dlType == some 0x0800 &&
      (m.get .nwProto == some 1 || m.get .nwProto == some 6 || m.get .nwProto == some 17)
  | _ => true

/-- What `ofp_match.pack` packs for a field. -/
def Match.wire (m : Match) (f : MatchField) : ℕ := if m.carries f then (m.get f).getD 0 else 0

/-- What `ofp_match.pack` packs for a network address. -/
def Match.wireNw (m : Match) (s : NwField) : BitVec 32 :=
  if m.carries .nwProto then (m.getNw s).1.getD 0 else 0

/-- `ofp_match.pack`, without `flow_mod`. -/
def Match.pack (m : Match) : Option (List UInt8) :=
  Struct.pack [4, 2, 6, 6, 2, 1, 1, 2, 1, 1, 2, 4, 4, 2, 2]
    [m.wildcards.toNat, m.wire .inPort, m.wire .dlSrc, m.wire .dlDst, m.wire .dlVlan,
      m.wire .dlVlanPcp, 0, m.wire .dlType, m.wire .nwTos, m.wire .nwProto, 0,
      (m.wireNw .src).toNat, (m.wireNw .dst).toNat, m.wire .tpSrc, m.wire .tpDst]

/-- `ofp_match.unpack`, without `flow_mod`. -/
def Match.unpack (s : List UInt8) : Match :=
  if s.length < 40 then blank
  else match Struct.unpackFrom [4, 2, 6, 6, 2, 1, 1, 2, 1, 1, 2, 4, 4, 2, 2] s 0 with
    | [wildcards, inPort, dlSrc, dlDst, dlVlan, dlVlanPcp, _, dlType, nwTos, nwProto, _, nwSrc, nwDst,
        tpSrc, tpDst] =>
      { wildcards := normalizeWildcards (BitVec.ofNat 32 wildcards)
        value
          | .inPort => inPort
          | .dlSrc => dlSrc
          | .dlDst => dlDst
          | .dlVlan => dlVlan
          | .dlVlanPcp => dlVlanPcp
          | .dlType => dlType
          | .nwTos => nwTos
          | .nwProto => nwProto
          | .tpSrc => tpSrc
          | .tpDst => tpDst
        nw
          | .src => BitVec.ofNat 32 nwSrc
          | .dst => BitVec.ofNat 32 nwDst }
    | _ => blank

/-! ## The messages -/

structure OfpError where
  header : OfpHeader
  type : ℕ
  code : ℕ
  data : List UInt8

structure EchoRequest where
  header : OfpHeader
  body : List UInt8

structure FeaturesReply where
  header : OfpHeader
  datapathId : ℕ
  nBuffers : ℕ
  nTables : ℕ
  capabilities : ℕ
  actions : ℕ
  ports : List PhyPort

structure PacketIn where
  header : OfpHeader
  /-- None for `-1`. -/
  bufferId : Option ℕ
  totalLen : ℕ
  inPort : ℕ
  reason : ℕ
  /-- None where `unpack` did not set it. -/
  data : Option (List UInt8)

structure FlowRemoved where
  header : OfpHeader
  flowMatch : Match
  cookie : ℕ
  priority : ℕ
  reason : ℕ
  durationSec : ℕ
  durationNsec : ℕ
  idleTimeout : ℕ
  packetCount : ℕ
  byteCount : ℕ

structure PortStatus where
  header : OfpHeader
  reason : ℕ
  desc : PhyPort

structure StatsReply where
  header : OfpHeader
  type : ℕ
  flags : ℕ
  body : List UInt8

/-- The messages with a handler. -/
inductive Message where
  | hello (header : OfpHeader)
  | error (ofp : OfpError)
  | echoRequest (ofp : EchoRequest)
  | featuresReply (ofp : FeaturesReply)
  | packetIn (ofp : PacketIn)
  | flowRemoved (ofp : FlowRemoved)
  | portStatus (ofp : PortStatus)
  | statsReply (ofp : StatsReply)
  | barrierReply (header : OfpHeader)

/-- `OFPT_HELLO` and the others. -/
def Message.ofpt : Message → ℕ
  | .hello _ => 0
  | .error _ => 1
  | .echoRequest _ => 2
  | .featuresReply _ => 6
  | .packetIn _ => 10
  | .flowRemoved _ => 11
  | .portStatus _ => 12
  | .statsReply _ => 17
  | .barrierReply _ => 19

def Message.header : Message → OfpHeader
  | .hello header => header
  | .error ofp => ofp.header
  | .echoRequest ofp => ofp.header
  | .featuresReply ofp => ofp.header
  | .packetIn ofp => ofp.header
  | .flowRemoved ofp => ofp.header
  | .portStatus ofp => ofp.header
  | .statsReply ofp => ofp.header
  | .barrierReply header => header

/-- `self.length = len(self)` -/
def OfpHeader.sized (header : OfpHeader) (length : ℕ) : OfpHeader := { header with length }

@[simp] theorem OfpHeader.length_sized (header : OfpHeader) (length : ℕ) :
    (header.sized length).length = length := rfl

/-! ## Packing -/

def OfpError.pack (ofp : OfpError) : Option (List UInt8) := do
  let header ← (ofp.header.sized (12 + ofp.data.length)).pack
  let fields ← Struct.pack [2, 2] [ofp.type, ofp.code]
  some (header ++ fields ++ ofp.data)

def EchoRequest.pack (ofp : EchoRequest) : Option (List UInt8) := do
  let header ← ofp.header.pack
  some (header ++ ofp.body)

def FeaturesReply.pack (ofp : FeaturesReply) : Option (List UInt8) := do
  let header ← ofp.header.pack
  let fields ← Struct.pack [8, 4, 1, 3, 4, 4]
    [ofp.datapathId, ofp.nBuffers, ofp.nTables, 0, ofp.capabilities, ofp.actions]
  let ports ← ofp.ports.mapM PhyPort.pack
  some (header ++ fields ++ ports.flatten)

/-- The buffer in the message, where `-1` is the greatest number. -/
def wireBuffer (bufferId : Option ℕ) : ℕ := (bufferId.getD 0xffffffff) % 2 ^ 32

/-- Without data the assertion fails. -/
def PacketIn.pack (ofp : PacketIn) : Option (List UInt8) := do
  let data ← ofp.data
  let header ← (ofp.header.sized (18 + data.length)).pack
  let fields ← Struct.pack [4, 2, 2, 1, 1]
    [wireBuffer ofp.bufferId, 18 + data.length, ofp.inPort, ofp.reason, 0]
  some (header ++ fields ++ data)

def FlowRemoved.pack (ofp : FlowRemoved) : Option (List UInt8) := do
  let header ← ofp.header.pack
  let flowMatch ← ofp.flowMatch.pack
  let fields ← Struct.pack [8, 2, 1, 1, 4, 4, 2, 2, 8, 8]
    [ofp.cookie, ofp.priority, ofp.reason, 0, ofp.durationSec, ofp.durationNsec, ofp.idleTimeout, 0,
      ofp.packetCount, ofp.byteCount]
  some (header ++ flowMatch ++ fields)

def PortStatus.pack (ofp : PortStatus) : Option (List UInt8) := do
  let header ← ofp.header.pack
  let reason ← Struct.pack [1, 7] [ofp.reason, 0]
  let desc ← ofp.desc.pack
  some (header ++ reason ++ desc)

def StatsReply.pack (ofp : StatsReply) : Option (List UInt8) := do
  let header ← (ofp.header.sized (12 + ofp.body.length)).pack
  let fields ← Struct.pack [2, 2] [ofp.type, ofp.flags]
  some (header ++ fields ++ ofp.body)

def Message.pack : Message → Option (List UInt8)
  | .hello header => header.pack
  | .error ofp => ofp.pack
  | .echoRequest ofp => ofp.pack
  | .featuresReply ofp => ofp.pack
  | .packetIn ofp => ofp.pack
  | .flowRemoved ofp => ofp.pack
  | .portStatus ofp => ofp.pack
  | .statsReply ofp => ofp.pack
  | .barrierReply header => header.pack

/-! ## Unpacking -/

/-- A text that is too short leaves the message as it was made. -/
def OfpError.unpack (s : List UInt8) : Option OfpError :=
  if s.length < 12 then none
  else match Struct.unpackFrom [2, 2] s 8 with
    | [type, code] => some ⟨.unpack s, type, code, []⟩
    | _ => none

def EchoRequest.unpack (s : List UInt8) : Option EchoRequest :=
  if s.length < 8 then none
  else
    let header := OfpHeader.unpack s
    if s.length < header.length then some ⟨header, []⟩
    else some ⟨header, part s 8 header.length⟩

def FeaturesReply.unpack (s : List UInt8) : Option FeaturesReply :=
  if s.length < 32 then none
  else
    let header := OfpHeader.unpack s
    match Struct.unpackFrom [8, 4, 1, 3, 4, 4] s 8 with
    | [datapathId, nBuffers, nTables, _, capabilities, actions] =>
      let portCount := (header.length - 32) / 48
      some
        { header, datapathId, nBuffers, nTables, capabilities, actions
          ports := (List.range portCount).map fun i => PhyPort.unpack (s.drop (32 + i * 48)) }
    | _ => none

/-- The buffer of a message. -/
def readBuffer (bufferId : ℕ) : Option ℕ := if bufferId = 0xffffffff then none else some bufferId

def PacketIn.unpack (s : List UInt8) : Option PacketIn :=
  if s.length < 18 then none
  else
    let header := OfpHeader.unpack s
    match Struct.unpackFrom [4, 2, 2, 1, 1] s 8 with
    | [bufferId, totalLen, inPort, reason, _] =>
      some
        { header, totalLen, inPort, reason
          bufferId := readBuffer bufferId
          data := if s.length < header.length then none else some (part s 18 header.length) }
    | _ => none

def FlowRemoved.unpack (s : List UInt8) : Option FlowRemoved :=
  if s.length < 88 then none
  else match Struct.unpackFrom [8, 2, 1, 1, 4, 4, 2, 2, 8, 8] s 48 with
    | [cookie, priority, reason, _, durationSec, durationNsec, idleTimeout, _, packetCount,
        byteCount] =>
      some
        { cookie, priority, reason, durationSec, durationNsec, idleTimeout, packetCount, byteCount
          header := .unpack s
          flowMatch := .unpack (s.drop 8) }
    | _ => none

def PortStatus.unpack (s : List UInt8) : Option PortStatus :=
  if s.length < 64 then none
  else match Struct.unpackFrom [1, 7] s 8 with
    | [reason, _] => some ⟨.unpack s, reason, .unpack (s.drop 16)⟩
    | _ => none

def StatsReply.unpack (s : List UInt8) : Option StatsReply :=
  if s.length < 12 then none
  else
    let header := OfpHeader.unpack s
    match Struct.unpackFrom [2, 2] s 8 with
    | [type, flags] => some ⟨header, type, flags, part s 12 header.length⟩
    | _ => none

/-- `ofp_hello.unpack`, `ofp_barrier_reply.unpack` -/
def unpackHeader (s : List UInt8) : Option OfpHeader :=
  if s.length < 8 then none else some (.unpack s)

/-- `classes[ofp_type]().unpack`, for the types with a handler. -/
def unpackMessage (ofpType : ℕ) (s : List UInt8) : Option Message :=
  match ofpType with
  | 0 => (unpackHeader s).map .hello
  | 1 => (OfpError.unpack s).map .error
  | 2 => (EchoRequest.unpack s).map .echoRequest
  | 6 => (FeaturesReply.unpack s).map .featuresReply
  | 10 => (PacketIn.unpack s).map .packetIn
  | 11 => (FlowRemoved.unpack s).map .flowRemoved
  | 12 => (PortStatus.unpack s).map .portStatus
  | 17 => (StatsReply.unpack s).map .statsReply
  | 19 => (unpackHeader s).map .barrierReply
  | _ => none

/-! ## What is received of a message -/

def PhyPort.received (port : PhyPort) : PhyPort := { port with name := FixedFields.strip 0 port.name }

def Match.received (m : Match) : Match where
  wildcards := normalizeWildcards m.wildcards
  value := m.wire
  nw := m.wireNw

/-- `len(ofp)` -/
def Message.size : Message → ℕ
  | .hello _ => 8
  | .error ofp => 12 + ofp.data.length
  | .echoRequest ofp => 8 + ofp.body.length
  | .featuresReply ofp => 32 + 48 * ofp.ports.length
  | .packetIn ofp => 18 + (ofp.data.getD []).length
  | .flowRemoved _ => 88
  | .portStatus _ => 64
  | .statsReply ofp => 12 + ofp.body.length
  | .barrierReply _ => 8

/-- The message as the controller gets it: without the data of an error and the padding of a name, and
with the length of the message for that of the packet. -/
def Message.received : Message → Message
  | .hello header => .hello header
  | .error ofp => .error { ofp with header := ofp.header.sized (12 + ofp.data.length), data := [] }
  | .echoRequest ofp => .echoRequest ofp
  | .featuresReply ofp => .featuresReply { ofp with ports := ofp.ports.map PhyPort.received }
  | .packetIn ofp => .packetIn
      { ofp with
        header := ofp.header.sized (18 + (ofp.data.getD []).length)
        bufferId := readBuffer (wireBuffer ofp.bufferId)
        totalLen := 18 + (ofp.data.getD []).length }
  | .flowRemoved ofp => .flowRemoved { ofp with flowMatch := ofp.flowMatch.received }
  | .portStatus ofp => .portStatus { ofp with desc := ofp.desc.received }
  | .statsReply ofp => .statsReply { ofp with header := ofp.header.sized (12 + ofp.body.length) }
  | .barrierReply header => .barrierReply header

/-- The header has the version and the type of the message, and the length where `pack` does not set
it. -/
structure Message.Ready (m : Message) : Prop where
  version : m.header.version = 1
  headerType : m.header.headerType = m.ofpt
  length : m.received.header.length = m.size

section RoundTrip

variable {packed rest : List UInt8}

theorem part_between {before s : List UInt8} {i j : ℕ} (starts : before.length = i)
    (ends : i + s.length = j) (rest : List UInt8) : part (before ++ (s ++ rest)) i j = s := by
  have front : (before ++ s).length = j := by
    rw [List.length_append, starts, ends]
  rw [part, ← List.append_assoc, List.take_left' front, ← starts, List.drop_left]

theorem unpackFrom_after {widths values : List ℕ} {before fields : List UInt8} {offset : ℕ}
    (ok : Struct.pack widths values = some fields) (starts : before.length = offset)
    (rest : List UInt8) : Struct.unpackFrom widths (before ++ (fields ++ rest)) offset = values := by
  subst starts
  exact Struct.unpackFrom_pack ok before rest

theorem unpackFrom_front {widths values : List ℕ} {fields : List UInt8}
    (ok : Struct.pack widths values = some fields) (rest : List UInt8) :
    Struct.unpackFrom widths (fields ++ rest) 0 = values :=
  Struct.unpackFrom_pack ok [] rest

theorem OfpHeader.pack_spec {header : OfpHeader} (ok : header.pack = some packed) :
    packed.length = 8 ∧ ∀ rest, OfpHeader.unpack (packed ++ rest) = header := by
  rw [pack] at ok
  split_ifs at ok
  refine ⟨Struct.length_pack ok, fun rest => ?_⟩
  rw [unpack, unpackFrom_front ok]

theorem PhyPort.pack_spec {port : PhyPort} (ok : port.pack = some packed) :
    packed.length = 48 ∧ ∀ rest, PhyPort.unpack (packed ++ rest) = port.received := by
  rw [pack] at ok
  split_ifs at ok with bad
  obtain ⟨hw, short⟩ := not_or.mp bad
  obtain ⟨portNo, no, features, some_, rfl⟩ := by
    simpa only [Option.bind_eq_bind, Option.bind_eq_some_iff, Option.some.injEq] using ok
  have two : portNo.length = 2 := Struct.length_pack no
  have many : features.length = 24 := Struct.length_pack some_
  have six : port.hwAddr.length = 6 := not_not.mp hw
  have sixteen : (port.name.rightpad 16 0).length = 16 := by
    rw [List.length_rightpad]
    omega
  have front : (portNo ++ port.hwAddr).length = 8 := by
    rw [List.length_append, two, six]
  have named : (portNo ++ port.hwAddr ++ port.name.rightpad 16 0).length = 24 := by
    rw [List.length_append, front, sixteen]
  refine ⟨by rw [List.length_append, named, many], fun rest => ?_⟩
  rw [unpack, if_neg (by simp only [List.length_append] at named ⊢; omega)]
  simp only [List.append_assoc]
  rw [unpackFrom_front no, part_between two (by rw [six]), ← List.append_assoc,
    part_between front (by rw [sixteen]), ← List.append_assoc, unpackFrom_after some_ named]
  simp [received, List.rightpad, FixedFields.strip_append, FixedFields.strip_replicate]

theorem Match.pack_spec {m : Match} (ok : m.pack = some packed) :
    packed.length = 40 ∧ ∀ rest, Match.unpack (packed ++ rest) = m.received := by
  have length : packed.length = 40 := Struct.length_pack ok
  refine ⟨length, fun rest => ?_⟩
  rw [unpack, if_neg (by rw [List.length_append]; omega), unpackFrom_front ok]
  ext1
  · exact congrArg normalizeWildcards (BitVec.ofNat_toNat 32 m.wildcards)
  · funext f
    cases f <;> rfl
  · funext s
    cases s
    · exact BitVec.ofNat_toNat 32 _
    · exact BitVec.ofNat_toNat 32 _

variable {header fields : List UInt8}

theorem OfpError.pack_spec {ofp : OfpError} (ok : ofp.pack = some packed) :
    packed.length = 12 + ofp.data.length ∧ ∀ rest, OfpError.unpack (packed ++ rest) =
      some { ofp with header := ofp.header.sized (12 + ofp.data.length), data := [] } := by
  obtain ⟨header, first, fields, second, rfl⟩ := by
    simpa only [pack, Option.bind_eq_bind, Option.bind_eq_some_iff, Option.some.injEq] using ok
  obtain ⟨eight, read⟩ := OfpHeader.pack_spec first
  have four : fields.length = 4 := Struct.length_pack second
  refine ⟨by rw [List.length_append, List.length_append, eight, four], fun rest => ?_⟩
  rw [unpack, if_neg (by simp only [List.length_append]; omega)]
  simp only [List.append_assoc]
  rw [unpackFrom_after second eight, read]

theorem EchoRequest.pack_spec {ofp : EchoRequest} (ok : ofp.pack = some packed)
    (sized : ofp.header.length = 8 + ofp.body.length) :
    packed.length = 8 + ofp.body.length ∧ ∀ rest, EchoRequest.unpack (packed ++ rest) = some ofp := by
  obtain ⟨header, first, rfl⟩ := by
    simpa only [pack, Option.bind_eq_bind, Option.bind_eq_some_iff, Option.some.injEq] using ok
  obtain ⟨eight, read⟩ := OfpHeader.pack_spec first
  refine ⟨by rw [List.length_append, eight], fun rest => ?_⟩
  rw [unpack, if_neg (by simp only [List.length_append]; omega)]
  simp only [List.append_assoc]
  rw [read, sized, if_neg (by simp only [List.length_append]; omega), part_between eight rfl]

theorem PacketIn.pack_spec {ofp : PacketIn} (ok : ofp.pack = some packed) :
    ∃ data, ofp.data = some data ∧ packed.length = 18 + data.length ∧
      ∀ rest, PacketIn.unpack (packed ++ rest) = some
        { ofp with
          header := ofp.header.sized (18 + data.length)
          bufferId := readBuffer (wireBuffer ofp.bufferId)
          totalLen := 18 + data.length } := by
  obtain ⟨data, given, header, first, fields, second, rfl⟩ := by
    simpa only [pack, Option.bind_eq_bind, Option.bind_eq_some_iff, Option.some.injEq] using ok
  obtain ⟨eight, read⟩ := OfpHeader.pack_spec first
  have ten : fields.length = 10 := Struct.length_pack second
  have front : (header ++ fields).length = 18 := by
    rw [List.length_append, eight, ten]
  refine ⟨data, given, by rw [List.length_append, front], fun rest => ?_⟩
  rw [unpack, if_neg (by simp only [List.length_append]; omega)]
  simp only [List.append_assoc]
  have behind : part (header ++ (fields ++ (data ++ rest))) 18
      (ofp.header.sized (18 + data.length)).length = data := by
    rw [← List.append_assoc]
    exact part_between front rfl rest
  have enough : ¬ (header ++ (fields ++ (data ++ rest))).length <
      (ofp.header.sized (18 + data.length)).length := by
    rw [OfpHeader.length_sized, ← List.append_assoc, List.length_append, front, List.length_append]
    omega
  rw [unpackFrom_after second eight, read, if_neg enough, behind, given]

theorem StatsReply.pack_spec {ofp : StatsReply} (ok : ofp.pack = some packed) :
    packed.length = 12 + ofp.body.length ∧ ∀ rest, StatsReply.unpack (packed ++ rest) =
      some { ofp with header := ofp.header.sized (12 + ofp.body.length) } := by
  obtain ⟨header, first, fields, second, rfl⟩ := by
    simpa only [pack, Option.bind_eq_bind, Option.bind_eq_some_iff, Option.some.injEq] using ok
  obtain ⟨eight, read⟩ := OfpHeader.pack_spec first
  have four : fields.length = 4 := Struct.length_pack second
  have front : (header ++ fields).length = 12 := by
    rw [List.length_append, eight, four]
  refine ⟨by rw [List.length_append, front], fun rest => ?_⟩
  rw [unpack, if_neg (by simp only [List.length_append]; omega)]
  simp only [List.append_assoc]
  have behind : part (header ++ (fields ++ (ofp.body ++ rest))) 12
      (ofp.header.sized (12 + ofp.body.length)).length = ofp.body := by
    rw [← List.append_assoc]
    exact part_between front rfl rest
  rw [unpackFrom_after second eight, read, behind]

theorem PortStatus.pack_spec {ofp : PortStatus} (ok : ofp.pack = some packed) :
    packed.length = 64 ∧ ∀ rest, PortStatus.unpack (packed ++ rest) =
      some { ofp with desc := ofp.desc.received } := by
  obtain ⟨header, first, fields, second, desc, third, rfl⟩ := by
    simpa only [pack, Option.bind_eq_bind, Option.bind_eq_some_iff, Option.some.injEq] using ok
  obtain ⟨eight, read⟩ := OfpHeader.pack_spec first
  have pads : fields.length = 8 := Struct.length_pack second
  obtain ⟨port, readPort⟩ := PhyPort.pack_spec third
  have front : (header ++ fields).length = 16 := by
    rw [List.length_append, eight, pads]
  refine ⟨by rw [List.length_append, front, port], fun rest => ?_⟩
  rw [unpack, if_neg (by simp only [List.length_append] at front ⊢; omega)]
  simp only [List.append_assoc]
  rw [unpackFrom_after second eight, read, ← List.append_assoc header, List.drop_left' front,
    readPort]

theorem FlowRemoved.pack_spec {ofp : FlowRemoved} (ok : ofp.pack = some packed) :
    packed.length = 88 ∧ ∀ rest, FlowRemoved.unpack (packed ++ rest) =
      some { ofp with flowMatch := ofp.flowMatch.received } := by
  obtain ⟨header, first, flowMatch, second, fields, third, rfl⟩ := by
    simpa only [pack, Option.bind_eq_bind, Option.bind_eq_some_iff, Option.some.injEq] using ok
  obtain ⟨eight, read⟩ := OfpHeader.pack_spec first
  obtain ⟨forty, readMatch⟩ := Match.pack_spec second
  have fields_length : fields.length = 40 := Struct.length_pack third
  have front : (header ++ flowMatch).length = 48 := by
    rw [List.length_append, eight, forty]
  refine ⟨by rw [List.length_append, front, fields_length], fun rest => ?_⟩
  rw [unpack, if_neg (by simp only [List.length_append] at front ⊢; omega)]
  simp only [List.append_assoc]
  rw [List.drop_left' eight, readMatch, read, ← List.append_assoc header,
    unpackFrom_after third front]

theorem PhyPort.mapM_pack_spec {ports : List PhyPort} {packs : List (List UInt8)}
    (ok : ports.mapM PhyPort.pack = some packs) :
    packs.flatten.length = 48 * ports.length ∧ ∀ rest, (List.range ports.length).map (fun i =>
      PhyPort.unpack ((packs.flatten ++ rest).drop (i * 48))) = ports.map PhyPort.received := by
  induction ports generalizing packs with
  | nil =>
    obtain rfl : [] = packs := Option.some.inj ok
    exact ⟨rfl, fun _ => rfl⟩
  | cons port ports ih =>
    rw [List.mapM_cons] at ok
    obtain ⟨pack, first, packs, others, rfl⟩ := by
      simpa only [Option.bind_eq_bind, Option.bind_eq_some_iff, Option.pure_def,
        Option.some.injEq] using ok
    obtain ⟨width, read⟩ := PhyPort.pack_spec first
    obtain ⟨length, readAll⟩ := ih others
    refine ⟨by rw [List.flatten_cons, List.length_append, List.length_cons, width, length]; omega,
      fun rest => ?_⟩
    rw [List.length_cons, List.range_succ_eq_map, List.map_cons, List.map_map, List.map_cons,
      List.flatten_cons, List.append_assoc, Nat.zero_mul, List.drop_zero, read, ← readAll rest]
    refine congrArg _ (List.map_congr_left fun i _ => congrArg PhyPort.unpack ?_)
    rw [Nat.succ_mul, Nat.add_comm, ← width, List.drop_length_add_append]

theorem FeaturesReply.pack_spec {ofp : FeaturesReply} (ok : ofp.pack = some packed)
    (sized : ofp.header.length = 32 + 48 * ofp.ports.length) :
    packed.length = 32 + 48 * ofp.ports.length ∧ ∀ rest, FeaturesReply.unpack (packed ++ rest) =
      some { ofp with ports := ofp.ports.map PhyPort.received } := by
  obtain ⟨header, first, fields, second, packs, third, rfl⟩ := by
    simpa only [pack, Option.bind_eq_bind, Option.bind_eq_some_iff, Option.some.injEq] using ok
  obtain ⟨eight, read⟩ := OfpHeader.pack_spec first
  obtain ⟨length, readPorts⟩ := PhyPort.mapM_pack_spec third
  have fields_length : fields.length = 24 := Struct.length_pack second
  have front : (header ++ fields).length = 32 := by
    rw [List.length_append, eight, fields_length]
  refine ⟨by rw [List.length_append, front, length], fun rest => ?_⟩
  have count : (ofp.header.length - 32) / 48 = ofp.ports.length := by
    omega
  rw [unpack, if_neg (by simp only [List.length_append] at front ⊢; omega)]
  simp only [List.append_assoc]
  have ports : (fun i => PhyPort.unpack
      ((header ++ (fields ++ (packs.flatten ++ rest))).drop (32 + i * 48))) =
        fun i => PhyPort.unpack ((packs.flatten ++ rest).drop (i * 48)) := by
    funext i
    rw [← List.append_assoc header, ← front, List.drop_length_add_append]
  rw [unpackFrom_after second eight, read, count, ports, readPorts]

theorem unpackHeader_pack {header : OfpHeader} (ok : header.pack = some packed) :
    packed.length = 8 ∧ ∀ rest, unpackHeader (packed ++ rest) = some header := by
  obtain ⟨eight, read⟩ := OfpHeader.pack_spec ok
  refine ⟨eight, fun rest => ?_⟩
  rw [unpackHeader, if_neg (by rw [List.length_append]; omega), read]

/-- What was packed is unpacked, whatever follows it. -/
theorem Message.unpack_pack {m : Message} (ok : m.pack = some packed) (ready : m.Ready) :
    packed.length = m.size ∧ ∀ rest, unpackMessage m.ofpt (packed ++ rest) = some m.received := by
  cases m with
  | hello header =>
    obtain ⟨length, read⟩ := unpackHeader_pack ok
    exact ⟨length, fun rest => congrArg (Option.map Message.hello) (read rest)⟩
  | error ofp =>
    obtain ⟨length, read⟩ := OfpError.pack_spec ok
    exact ⟨length, fun rest => congrArg (Option.map Message.error) (read rest)⟩
  | echoRequest ofp =>
    obtain ⟨length, read⟩ := EchoRequest.pack_spec ok ready.length
    exact ⟨length, fun rest => congrArg (Option.map Message.echoRequest) (read rest)⟩
  | featuresReply ofp =>
    obtain ⟨length, read⟩ := FeaturesReply.pack_spec ok ready.length
    exact ⟨length, fun rest => congrArg (Option.map Message.featuresReply) (read rest)⟩
  | packetIn ofp =>
    obtain ⟨data, given, length, read⟩ := PacketIn.pack_spec ok
    have whole : (ofp.data.getD []).length = data.length := by
      rw [given, Option.getD_some]
    rw [size, received, whole]
    exact ⟨length, fun rest => congrArg (Option.map Message.packetIn) (read rest)⟩
  | flowRemoved ofp =>
    obtain ⟨length, read⟩ := FlowRemoved.pack_spec ok
    exact ⟨length, fun rest => congrArg (Option.map Message.flowRemoved) (read rest)⟩
  | portStatus ofp =>
    obtain ⟨length, read⟩ := PortStatus.pack_spec ok
    exact ⟨length, fun rest => congrArg (Option.map Message.portStatus) (read rest)⟩
  | statsReply ofp =>
    obtain ⟨length, read⟩ := StatsReply.pack_spec ok
    exact ⟨length, fun rest => congrArg (Option.map Message.statsReply) (read rest)⟩
  | barrierReply header =>
    obtain ⟨length, read⟩ := unpackHeader_pack ok
    exact ⟨length, fun rest => congrArg (Option.map Message.barrierReply) (read rest)⟩

/-- Every message gets the header of the text. -/
theorem header_of_unpackMessage {ofpType : ℕ} {s : List UInt8} {m : Message}
    (some_ : unpackMessage ofpType s = some m) : m.header = OfpHeader.unpack s := by
  simp only [unpackMessage, unpackHeader, OfpError.unpack, EchoRequest.unpack, FeaturesReply.unpack,
    PacketIn.unpack, FlowRemoved.unpack, PortStatus.unpack, StatsReply.unpack] at some_
  split at some_
  all_goals
    simp only [Option.map_eq_some_iff, reduceCtorEq] at some_
  all_goals
    obtain ⟨ofp, ok, rfl⟩ := some_
    split at ok
    · cases ok
    · first
      | (cases ok; rfl)
      | (split at ok <;> cases ok <;> rfl)

end RoundTrip

end SimpleRouter.Pox
