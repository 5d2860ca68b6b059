/-
# Messages of the server

The message layouts of `vnscommand.h`, and what `sr_read_from_server_expect` does with a
message once its bytes are in the receive buffer: it reads the command and hands the
buffer to the handler for it.

No handler looks at the length before it reads. An access behind the last byte of the
message stops the model here, and so does a length that comes out of a subtraction
below zero; what the code does from there on depends on what lies behind the buffer.
-/

import Mathlib.Data.Int.Notation
import Mathlib.Data.List.TakeWhile
import SimpleRouter.Topology

namespace SimpleRouter

open Buffers Effects

/-! ## Layout -/

section Commands

def vnsClose : ℕ := 2
def vnsPacket : ℕ := 4
def vnsBanner : ℕ := 8
def vnsHwinfo : ℕ := 16
def vnsRtable : ℕ := 32
def vnsAuthRequest : ℕ := 128
def vnsAuthStatus : ℕ := 512

end Commands

section HardwareKeys

def hwInterface : ℕ := 1
def hwEther : ℕ := 32
def hwEthip : ℕ := 64

end HardwareKeys

/-- `IDSIZE`. -/
def idsize : ℕ := 32

/-- `sizeof(c_base)`. -/
def baseSize : ℕ := 8

/-- `sizeof(c_packet_header)`. -/
def packetHeaderSize : ℕ := 24

/-- `sizeof(c_packet_ethernet_header)`. -/
def packetEthernetHeaderSize : ℕ := 38

/-- `sizeof(c_hw_entry)`. -/
def hwEntrySize : ℕ := 36

/-- `PACKET_DUMP_SIZE`. -/
def packetDumpSize : ℕ := 1024

def mLen : Span 4 := ⟨0⟩
def mType : Span 4 := ⟨4⟩

/-- A field of the Ethernet frame in a packet message. -/
def inPacket {n : ℕ} (f : Span n) : Span n := ⟨packetHeaderSize + f.off⟩

/-- The key of the `i`-th hardware entry. -/
def hwKey (i : ℕ) : Span 4 := ⟨baseSize + hwEntrySize * i⟩

/-- The offset of the value of the `i`-th hardware entry. -/
def hwValueOff (i : ℕ) : ℕ := baseSize + hwEntrySize * i + 4

/-- The first bytes of that value. -/
def hwValue {n : ℕ} (i : ℕ) : Span n := ⟨hwValueOff i⟩

/-- The `uint32_t` in four bytes of network order. -/
def be32 (v : Vector UInt8 4) : ℕ :=
  ((v[0].toNat * 256 + v[1].toNat) * 256 + v[2].toNat) * 256 + v[3].toNat

/-- The four bytes of a `uint32_t` in network order. -/
def be32Bytes (n : ℕ) : Vector UInt8 4 :=
  #v[.ofNat (n / 0x1000000), .ofNat (n / 0x10000), .ofNat (n / 0x100), .ofNat n]

/-! ## The receive buffer -/

/-- A message whose length passed the guard, with the bytes behind its length field. -/
structure Received where
  len : ℕ
  body : Bytes
  small : len ≤ 10000
  complete : body.length = len - 4

/-- The receive buffer. The code stores the length again in front of the rest. -/
def Received.buf (received : Received) : Bytes :=
  (be32Bytes received.len).toList ++ received.body

/-- The command of a message. -/
def Received.command (received : Received) : ℕ := be32 (mType.get received.buf)

/-- Why acting on a message ended early. -/
inductive MessageStop
  /-- A byte outside the receive buffer was accessed. -/
  | overread
  /-- One was read to print the text of a close or a banner. -/
  | textOverread
  /-- A length below zero became a large unsigned one. -/
  | wrapped
  /-- An `assert` failed. -/
  | assertFailed
  deriving DecidableEq

/-- What the client does outside the instance, acting on messages or between them. -/
inductive MessageEvent
  | handlePacket (packet : Bytes) (interface : IfName)
  | logPacket (captured : Bytes)
  | writeRtable (hostId text : Bytes)
  | hashSalt (salt : Bytes)
  /-- The reply with this digest is handed to `send`. -/
  | sendReply (digest : Vector UInt8 20)
  /-- The message that opens a topology is handed to `send`. -/
  | sendOpen (message : Bytes)
  | print (text : Bytes)
  deriving DecidableEq

/-- Code that acts on a message. -/
abbrev Acting := Outcome MessageEvent MessageStop

/-- What the calls of the C library and of the system answer. -/
structure Host where
  /-- `malloc` returned a receive buffer. -/
  allocates : Bool
  /-- There is a log file. -/
  logs : Bool
  /-- The new routing table file could be opened. -/
  rtableOpens : Bool
  /-- The authentication key could be read. -/
  keyRead : Bool
  /-- The digest, if it was computed and there was memory for the reply. -/
  digest : Option (Vector UInt8 20)
  /-- The reply was sent in full. -/
  replySent : Bool
  /-- What is in an interface record fresh from `malloc`. -/
  fresh : SrIf
  deriving DecidableEq

/-- What the system answers when everything it is asked for is there. -/
def willingHost : Host := ⟨true, true, true, true, some (.replicate 20 0), true, SrIf.zero⟩

section Reading

/-- Read a field. -/
def readField {n : ℕ} (f : Span n) (buf : Bytes) : Acting (Vector UInt8 n) :=
  if f.Fits buf then pure (f.get buf) else .stop .overread

/-- Read `n` bytes from an offset on. -/
def readBytes (buf : Bytes) (off n : ℕ) : Acting Bytes :=
  if off + n ≤ buf.length then pure ((buf.drop off).take n) else .stop .overread

/-- Read a string up to its NUL. Behind the last byte of the buffer there is none. -/
def readString (why : MessageStop) (s : Bytes) : Acting Bytes :=
  if 0 ∈ s then pure (s.takeWhile (· ≠ 0)) else .stop why

/-- The length an unsigned subtraction gives, where a difference is meant. -/
def deriveLength (actual : ℕ) (meant : ℤ) : Acting ℕ :=
  if (actual : ℤ) = meant then pure actual else .stop .wrapped

/-- What `strncmp` with bound `sr_IFACE_NAMELEN` sees of a string. -/
def cName (s : Bytes) : IfName where
  chars := (s.take srIfaceNamelen).takeWhile (· ≠ 0)
  short := (List.takeWhile_prefix _).length_le.trans (List.length_take_le _ _)
  nonNul := fun listed => by simpa using List.mem_takeWhile_imp listed

/-- Copy a name with `strncpy` and bound `sr_IFACE_NAMELEN`. -/
def readName (s : Bytes) : Acting IfName :=
  if 0 ∈ s ∨ srIfaceNamelen ≤ s.length then pure (cName s) else .stop .overread

/-- `strncmp` with bound `n` of a string that starts in the buffer and the name of an
interface: whether they are equal. It ends at the first difference or the first NUL. -/
def strncmpEq : ℕ → Bytes → List UInt8 → Acting Bool
  | 0, _, _ => pure true
  | _ + 1, [], _ => .stop .overread
  | _ + 1, c :: _, [] => pure (c = 0)
  | n + 1, c :: s, a :: name => if c = a then strncmpEq n s name else pure false

end Reading

/-! ## The handlers -/

/-- `sr_get_interface` of a name that starts in the buffer. -/
def srGetInterfaceAt (name : Bytes) : List SrIf → Acting (Option SrIf)
  | [] => pure none
  | walker :: rest => do
    if ← strncmpEq srIfaceNamelen name walker.name.chars then pure (some walker)
    else srGetInterfaceAt name rest

/-- `sr_arp_req_not_for_us`: the packet is an ARP request for another router. -/
def srArpReqNotForUs (sr : SrInstance) (buf : Bytes) (len : ℕ) : Acting Bool := do
  let iface ← srGetInterfaceAt (buf.drop baseSize) sr.ifList
  if len < ethHdrSize + arpHdrSize then pure false
  else match iface with
    | none => .stop .assertFailed
    | some iface => do
      if hostU16 (← readField (inPacket etherType) buf) ≠ htons ethertypeArp then pure false
      else if hostU16 (← readField (inPacket arOp) buf) ≠ htons arpOpRequest then pure false
      else do
        let tip ← readField (inPacket arTip) buf
        pure (tip ≠ iface.ip)

/-- `sr_log_packet` of the packet in the buffer. -/
def srLogPacket (host : Host) (buf : Bytes) (len : ℕ) : Acting Unit := do
  if host.logs then
    let captured ← readBytes buf packetHeaderSize (min packetDumpSize len)
    .emit (.logPacket captured)

/-- The case `VNSPACKET`. -/
def actOnPacket (sr : SrInstance) (host : Host) (buf : Bytes) (len : ℕ) : Acting ℤ := do
  -- The sum is one of `size_t` and is passed as an `unsigned int`.
  let packetLen ← deriveLength
    ((len + UInt64.size - packetEthernetHeaderSize + ethHdrSize) % UInt64.size % UInt32.size)
    ((len : ℤ) - packetHeaderSize)
  if ← srArpReqNotForUs sr buf packetLen then pure 1
  else do
    srLogPacket host buf packetLen
    .emit (.handlePacket ((buf.drop packetHeaderSize).take packetLen) (cName (buf.drop baseSize)))
    pure 1

/-- `sr_add_interface`. -/
def srAddInterface (host : Host) (sr : SrInstance) (name : IfName) : SrInstance :=
  { sr with ifList := sr.ifList ++ [{ host.fresh with name := name }] }

/-- `sr_set_ether_ip`, for the last interface of the list. -/
def srSetEtherIp (sr : SrInstance) (ip : Ip) : Acting SrInstance :=
  if sr.ifList = [] then .stop .assertFailed
  else pure { sr with ifList := sr.ifList.modifyLast fun iface => { iface with ip := ip } }

/-- `sr_set_ether_addr`, for the last interface of the list. -/
def srSetEtherAddr (sr : SrInstance) (addr : Mac) : Acting SrInstance :=
  if sr.ifList = [] then .stop .assertFailed
  else pure { sr with ifList := sr.ifList.modifyLast fun iface => { iface with addr := addr } }

/-- One round of the loop of `sr_handle_hwinfo`. -/
def hwEntry (host : Host) (buf : Bytes) (i : ℕ) (sr : SrInstance) : Acting SrInstance := do
  let key := be32 (← readField (hwKey i) buf)
  if key = hwInterface then do
    let name ← readName (buf.drop (hwValueOff i))
    pure (srAddInterface host sr name)
  else if key = hwEthip then do
    let ip ← readField (hwValue i) buf
    srSetEtherIp sr ip
  else if key = hwEther then do
    let addr ← readField (hwValue i) buf
    srSetEtherAddr sr addr
  else pure sr

/-- The loop of `sr_handle_hwinfo`, from the `i`-th entry on. -/
def hwEntriesFrom (host : Host) (buf : Bytes) : ℕ → ℕ → SrInstance → Acting SrInstance
  | 0, _, sr => pure sr
  | entries + 1, i, sr => do
    let sr ← hwEntry host buf i sr
    hwEntriesFrom host buf entries (i + 1) sr

/-- `sr_handle_hwinfo`. The number of entries is one of `size_t`. -/
def srHandleHwinfo (sr : SrInstance) (host : Host) (buf : Bytes) (mLen : ℕ) :
    Acting SrInstance := do
  let size ← deriveLength ((mLen + UInt64.size - baseSize) % UInt64.size) ((mLen : ℤ) - baseSize)
  hwEntriesFrom host buf (size / hwEntrySize) 0 sr

/-- `sr_handle_rtable`. The size of the text is a `uint32_t`. -/
def srHandleRtable (host : Host) (buf : Bytes) (mLen : ℕ) : Acting Bool := do
  let hostId ← readString .overread (buf.drop baseSize)
  if host.rtableOpens then do
    let size ← deriveLength ((mLen + UInt32.size - 8 - idsize) % UInt32.size)
      ((mLen : ℤ) - 8 - idsize)
    let text ← readBytes buf (baseSize + idsize) size
    .emit (.writeRtable hostId text)
    pure true
  else pure false

/-- `sr_handle_auth_request`. -/
def srHandleAuthRequest (host : Host) (buf : Bytes) (mLen : ℕ) : Acting Bool := do
  if host.keyRead then do
    let size ← deriveLength ((mLen + UInt64.size - baseSize) % UInt64.size % UInt32.size)
      ((mLen : ℤ) - baseSize)
    let salt ← readBytes buf baseSize size
    .emit (.hashSalt salt)
    match host.digest with
    | none => pure false
    | some digest => do
      .emit (.sendReply digest)
      pure host.replySent
  else pure false

/-- `sr_handle_auth_status`. The text is printed if the router was rejected. -/
def srHandleAuthStatus (buf : Bytes) : Acting Bool := do
  let authOk ← readField (⟨baseSize⟩ : Span 1) buf
  if hostU8 authOk ≠ 0 then pure true
  else do
    let msg ← readString .overread (buf.drop (baseSize + 1))
    .emit (.print msg)
    pure false

/-- The command is not the expected one, nor a close. -/
def Unexpected (expected command : ℕ) : Prop :=
  expected ≠ 0 ∧ command ≠ expected ∧ command ≠ vnsClose

instance (expected command : ℕ) : Decidable (Unexpected expected command) :=
  inferInstanceAs (Decidable (_ ∧ _))

/-- The `switch` over the command: the instance that is left and the return value. -/
def switchCommand (sr : SrInstance) (host : Host) (buf : Bytes) (len command : ℕ) :
    Acting (SrInstance × ℤ) := do
  if command = vnsPacket then do
    let ret ← actOnPacket sr host buf len
    pure (sr, ret)
  else if command = vnsClose then do
    let reason ← readString .textOverread (buf.drop baseSize)
    .emit (.print reason)
    pure (sr, 0)
  else if command = vnsBanner then do
    let banner ← readString .textOverread (buf.drop baseSize)
    .emit (.print banner)
    pure (sr, 1)
  else if command = vnsHwinfo then do
    let sr ← srHandleHwinfo sr host buf len
    pure (sr, if srVerifyRoutingTable sr ≠ 0 then -1 else 1)
  else if command = vnsRtable then do
    let stored ← srHandleRtable host buf len
    pure (sr, if stored then 1 else -1)
  else if command = vnsAuthRequest then do
    let replied ← srHandleAuthRequest host buf len
    pure (sr, if replied then 1 else -1)
  else if command = vnsAuthStatus then do
    let accepted ← srHandleAuthStatus buf
    pure (sr, if accepted then 1 else -1)
  else pure (sr, 1)

/-- What is dispatched to the handlers, if the message is not unexpected: its command and
its bytes. -/
def Received.dispatch (expected : ℕ) (received : Received) : Option (ℕ × Bytes) :=
  if Unexpected expected received.command then none else some (received.command, received.buf)

/-- The end of `sr_read_from_server_expect`, once the message is in the receive buffer. -/
def actOnMessage (sr : SrInstance) (host : Host) (expected : ℕ) (received : Received) :
    Acting (SrInstance × ℤ) := do
  -- `*((int *)buf) = htonl(len)`.
  if received.len < 4 then .stop .overread
  else do
    let word ← readField mType received.buf
    let command := be32 word
    if Unexpected expected command then pure (sr, -1)
    -- The command is left in the buffer in host order.
    else switchCommand sr host (mType.set word.reverse received.buf) received.len command

theorem length_buf {received : Received} (long : 4 ≤ received.len) :
    received.buf.length = received.len := by
  have := received.complete
  rw [Received.buf, List.length_append, Vector.length_toList]
  omega

/-- Acting on a message that has a command is acting on what is dispatched. -/
theorem actOnMessage_eq {sr : SrInstance} {host : Host} {expected : ℕ} {received : Received}
    (long : baseSize ≤ received.len) :
    actOnMessage sr host expected received =
      match received.dispatch expected with
      | none => pure (sr, -1)
      | some (command, message) =>
        switchCommand sr host (mType.set (mType.get message).reverse message) message.length
          command := by
  have whole : received.buf.length = received.len := length_buf (Nat.le_trans (by decide) long)
  have fits : mType.Fits received.buf := by
    rw [Span.Fits, whole]
    exact long
  have notTiny : ¬ received.len < 4 := Nat.not_lt_of_le (Nat.le_trans (by decide) long)
  rw [actOnMessage, if_neg notTiny, readField, if_pos fits, pure_bind, Received.dispatch]
  change (if Unexpected expected received.command then _ else _) = _
  by_cases unexpected : Unexpected expected received.command
  · rw [if_pos unexpected, if_pos unexpected]
  · rw [if_neg unexpected, if_neg unexpected]
    exact congrArg (switchCommand sr host _ · _) whole.symm

end SimpleRouter
