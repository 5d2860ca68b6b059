/-
# Packet messages in both directions

`sr_send_packet` writes a packet message that the controller unpacks with `VNSPacket`, and
`sr_read_from_server_expect` acts on one that the controller packed. Between them lies a
name field of 16 bytes: `strncpy` and `struct` cut a longer name, and the router reads the
field as a C string, with the frame behind it.

The two sides agree on the name and the frame if and only if the name is shorter than the
field, or fills it and the frame begins with a NUL, and the message passes the guard.
-/

import SimpleRouter.ClosedConnection
import SimpleRouter.MessageBounds
import SimpleRouter.SourceAddresses
import SimpleRouter.VnsRoundTrip

namespace SimpleRouter

open Buffers Effects FixedFields Rounds

/-! ## Messages of the protocol library -/

/-- What the protocol library is assumed to send: the length with its own header, the type
and the body. -/
def ltFrame (type : ℕ) (body : Bytes) : Except VnsError Bytes := do
  let length ← packI (baseSize + body.length : ℕ)
  let type ← packI type
  .ok (length ++ type ++ body)

section Frames

variable {type : ℕ} {body : Bytes}

theorem be32_be32Bytes {n : ℕ} (small : n < 0x100000000) : be32 (be32Bytes n) = n := by
  simp [be32, be32Bytes]
  omega

/-- A message with a header. -/
def framed (type : ℕ) (body : Bytes) : Bytes :=
  (be32Bytes (baseSize + body.length)).toList ++ (be32Bytes type).toList ++ body

theorem ltFrame_eq_ok (typed : type < 0x100000000) {message : Bytes} :
    ltFrame type body = .ok message ↔
      baseSize + body.length < 0x100000000 ∧ message = framed type body := by
  constructor
  · intro frames
    obtain ⟨length, packsLength, frames⟩ := Fallible.bind_eq_ok.mp frames
    obtain ⟨type', packsType, frames⟩ := Fallible.bind_eq_ok.mp frames
    cases frames
    rw [packI_eq_ok] at packsLength packsType
    refine ⟨by omega, ?_⟩
    rw [packsLength.2, packsType.2]
    rfl
  · rintro ⟨small, rfl⟩
    have packsLength : packI (baseSize + body.length : ℕ) =
        .ok (be32Bytes (baseSize + body.length)).toList := packI_eq_ok.mpr ⟨by omega, rfl⟩
    have packsType : packI type = .ok (be32Bytes type).toList :=
      packI_eq_ok.mpr ⟨by omega, rfl⟩
    rw [ltFrame, packsLength, packsType]
    rfl

@[simp] theorem length_framed : (framed type body).length = baseSize + body.length := by
  simp only [framed, List.length_append, Vector.length_toList, baseSize]

@[simp] theorem drop_framed : (framed type body).drop baseSize = body :=
  List.drop_left' (by rw [List.length_append, Vector.length_toList, Vector.length_toList, baseSize])

theorem mLen_framed : mLen.get (framed type body) = be32Bytes (baseSize + body.length) := by
  rw [framed, List.append_assoc]
  exact Span.get_toList_append _ _

theorem mType_framed : mType.get (framed type body) = be32Bytes type :=
  Span.get_append_toList Vector.length_toList _ _

theorem isMessage_framed (small : baseSize + body.length ≤ 10000) :
    IsMessage (framed type body) where
  atLeast := by rw [length_framed]; exact Nat.le_add_right _ _
  atMost := by rwa [length_framed]
  declared := by rw [mLen_framed, be32_be32Bytes (by omega), length_framed]

end Frames

/-! ## The packet message of the router -/

/-- `sr_send_packet`, seen from the connection: the bytes that it writes and its result.
`written` is what `write` returns. The packet log is left out. -/
def VnsComm.srSendPacket (sr : SrInstance) (host : Host) (written : ℤ) (buf : Bytes)
    (iface : IfName) :
    Outcome Bytes MessageStop ℤ := do
  -- The sum is an `unsigned int`.
  let totalLen := (buf.length + packetHeaderSize) % UInt32.size
  if buf.length < ethHdrSize then pure (-1)
  else if host.allocates = false then .stop .assertFailed
  else
    let srPkt := (be32Bytes totalLen).toList ++ (be32Bytes vnsPacket).toList ++
      field 0 16 iface.chars ++ buf
    if srEtherAddrsMatchInterface sr buf iface = 0 then pure (-1)
    else do
      .emit (srPkt.take totalLen)
      if written < totalLen then pure (-1) else pure 0

/-! ## What is asked of the two sides -/

/-- The packet is an ARP request for another address than that of the interface. -/
def ArpForAnother (iface : SrIf) (packet : Bytes) : Prop :=
  ethHdrSize + arpHdrSize ≤ packet.length ∧ IsArp packet ∧ ArpRequest packet ∧
    arTip.get packet ≠ iface.ip

instance (iface : SrIf) (packet : Bytes) : Decidable (ArpForAnother iface packet) :=
  inferInstanceAs (Decidable (_ ∧ (_ = _) ∧ (_ = _) ∧ _))

/-- What is handed to the router is the frame, under that name, unless it is an ARP request
for another router. -/
def HandsOn (sr : SrInstance) (name : IfName) (frame : Bytes) (acting : Acting (SrInstance × ℤ)) :
    Prop :=
  ∀ {iface}, srGetInterface sr name = some iface → ∀ packet interface,
    .handlePacket packet interface ∈ acting.sent ↔
      packet = frame ∧ interface = name ∧ ¬ ArpForAnother iface frame

/-- The name and the frame of a packet are the same on both sides. -/
structure SameMeaning (name : IfName) (frame : Bytes) : Prop where
  /-- The controller unpacks what the router writes. -/
  toServer : ∀ sr host written, host.allocates → srEtherAddrsMatchInterface sr frame name = 1 →
    ∃ message, (VnsComm.srSendPacket sr host written frame name).sent = [message] ∧
      VnsPacket.unpack (message.drop baseSize) = .ok ⟨name.chars, frame⟩
  /-- The router acts on what the controller packs. -/
  toClient : ∃ message, ltFrame 4 (VnsPacket.pack ⟨name.chars, frame⟩) = .ok message ∧
    ∀ sr host socket rest, host.allocates → socket.Unbroken → socket.stream = message ++ rest →
      ∃ acting socket', Finishes (srReadFromServerExpect sr host 0 socket) (acting, socket') ∧
        HandsOn sr name frame acting

/-- The message passes the guard of the router, and the name is shorter than its field or a
NUL stands behind it. -/
def NameEnds (name : IfName) (frame : Bytes) : Prop :=
  packetHeaderSize + frame.length ≤ 10000 ∧
    (name.chars.length < 16 ∨ name.chars.length = 16 ∧ frame.head? = some 0)

/-! ## From the router to the controller -/

section ToServer

variable {sr : SrInstance} {host : Host} {written : ℤ} {frame : Bytes} {name : IfName}

/-- A frame that `sr_send_packet` accepts is written behind a header. -/
theorem sent_srSendPacket (long : ethHdrSize ≤ frame.length) (memory : host.allocates)
    (matching : srEtherAddrsMatchInterface sr frame name = 1)
    (small : packetHeaderSize + frame.length < UInt32.size) :
    (VnsComm.srSendPacket sr host written frame name).sent =
      [framed 4 (field 0 16 name.chars ++ frame)] := by
  have total : (frame.length + packetHeaderSize) % UInt32.size =
      packetHeaderSize + frame.length := by
    rw [Nat.add_comm, Nat.mod_eq_of_lt small]
  have allocated : ¬ host.allocates = false := by simp [memory]
  have matches' : ¬ srEtherAddrsMatchInterface sr frame name = 0 := by simp [matching]
  have whole : ((be32Bytes (packetHeaderSize + frame.length)).toList ++
      (be32Bytes vnsPacket).toList ++ field 0 16 name.chars ++ frame).take
        (packetHeaderSize + frame.length) = framed 4 (field 0 16 name.chars ++ frame) := by
    rw [List.take_of_length_le (by
      simp only [List.length_append, Vector.length_toList, length_field, packetHeaderSize]
      omega), framed, List.length_append, length_field, ← Nat.add_assoc,
        List.append_assoc _ _ frame]
    rfl
  have emits : (if written < (packetHeaderSize + frame.length : ℕ) then pure (-1) else pure 0 :
      Outcome Bytes MessageStop ℤ).sent = [] := by
    split_ifs <;> rfl
  rw [VnsComm.srSendPacket, total, if_neg (Nat.not_lt_of_le long), if_neg allocated,
    if_neg matches', whole, Outcome.emit, Outcome.returned_bind, emits]
  rfl

theorem unpack_written :
    VnsPacket.unpack ((framed 4 (field 0 16 name.chars ++ frame)).drop baseSize) =
      .ok ⟨name.chars.take 16, frame⟩ := by
  rw [drop_framed, VnsPacket.unpack_header (length_field 0 16 _), stripNullChars,
    strip_field name.nonNul]

end ToServer

/-! ## From the controller to the router -/

section ToClient

variable {sr : SrInstance} {host : Host} {buf packet : Bytes} {len : ℕ} {iface : SrIf}

theorem sent_strncmpEq (n : ℕ) (s name : Bytes) : (strncmpEq n s name).sent = [] := by
  fun_induction strncmpEq n s name with
  | case1 => rfl
  | case2 => rfl
  | case3 => rfl
  | case4 n s a name ih => exact ih
  | case5 => rfl

theorem sent_srGetInterfaceAt (name : Bytes) (ifs : List SrIf) :
    (srGetInterfaceAt name ifs).sent = [] := by
  induction ifs with
  | nil => rfl
  | cons walker rest ih =>
    rw [srGetInterfaceAt, Outcome.sent_bind_of_silent, sent_strncmpEq]
    intro same
    split_ifs
    · rfl
    · exact ih

/-- The ARP filter emits nothing. -/
theorem sent_srArpReqNotForUs : (srArpReqNotForUs sr buf len).sent = [] := by
  have silent {n : ℕ} (f : Span n) : (readField f buf).sent = [] := by
    rw [readField]
    split_ifs <;> rfl
  rw [srArpReqNotForUs, Outcome.sent_bind_of_silent, sent_srGetInterfaceAt]
  intro found
  split_ifs
  · rfl
  · cases found with
    | none => rfl
    | some iface =>
      dsimp only
      rw [Outcome.sent_bind_of_silent, silent]
      intro type
      split_ifs
      · rfl
      · rw [Outcome.sent_bind_of_silent, silent]
        intro op
        split_ifs
        · rfl
        · rw [Outcome.sent_bind_of_silent, silent]
          exact fun tip => rfl

/-- A packet is handed on under the name that its message has. -/
theorem name_of_handlePacket {interface : IfName}
    (hands : .handlePacket packet interface ∈ (actOnPacket sr host buf len).sent) :
    interface = cName (buf.drop baseSize) := by
  rw [actOnPacket] at hands
  rcases Outcome.mem_sent_bind.mp hands with early | ⟨packetLen, -, hands⟩
  · rw [deriveLength] at early
    split_ifs at early <;> exact absurd early List.not_mem_nil
  rcases Outcome.mem_sent_bind.mp hands with early | ⟨drops, -, hands⟩
  · rw [sent_srArpReqNotForUs] at early
    exact absurd early List.not_mem_nil
  split_ifs at hands
  · exact absurd hands List.not_mem_nil
  rcases Outcome.mem_sent_bind.mp hands with logs | ⟨-, -, hands⟩
  · rw [srLogPacket] at logs
    split_ifs at logs
    · rcases Outcome.mem_sent_bind.mp logs with early | ⟨captured, -, logs⟩
      · rw [readBytes] at early
        split_ifs at early <;> exact absurd early List.not_mem_nil
      · cases List.mem_singleton.mp logs
    · exact absurd logs List.not_mem_nil
  rcases Outcome.mem_sent_bind.mp hands with emits | ⟨-, -, last⟩
  · cases List.mem_singleton.mp emits
    rfl
  · exact absurd last List.not_mem_nil

theorem hostU16_eq_htons {v : Vector UInt8 2} {x : UInt16} :
    hostU16 v = htons x ↔ ntohs (hostU16 v) = x := by
  have swapped (y : UInt16) : htons (htons y) = y := by
    apply UInt16.toNat_inj.mp
    have := y.toNat_lt
    rw [toNat_htons, toNat_htons]
    omega
  constructor
  · intro same
    rw [same, ntohs, swapped]
  · intro same
    rw [← same, ntohs, swapped]

/-- A field of the packet is read behind the header. -/
theorem readField_inPacket (header : packetHeaderSize ≤ buf.length) {n : ℕ} {f : Span n}
    (fits : f.Fits (buf.drop packetHeaderSize)) :
    readField (inPacket f) buf = pure (f.get (buf.drop packetHeaderSize)) := by
  have inside : f.off + n ≤ (buf.drop packetHeaderSize).length := fits
  rw [List.length_drop] at inside
  rw [Span.get_drop]
  refine readField_of_fits (f := inPacket f) ?_
  change packetHeaderSize + f.off + n ≤ buf.length
  omega

/-- A router that knows the interface filters the packet behind the header. -/
theorem srArpReqNotForUs_eq (header : packetHeaderSize ≤ buf.length)
    (size : (buf.drop packetHeaderSize).length = len)
    (inside : ∀ walker ∈ sr.ifList, ¬ buf.drop baseSize <+: walker.name.chars)
    (found : srGetInterface sr (cName (buf.drop baseSize)) = some iface) :
    srArpReqNotForUs sr buf len =
      pure (decide (ArpForAnother iface (buf.drop packetHeaderSize))) := by
  have found' : sr.ifList.find? (fun walker => walker.name = cName (buf.drop baseSize)) =
      some iface := found
  rw [srArpReqNotForUs, srGetInterfaceAt_eq (.inr inside), pure_bind, found']
  by_cases short : len < ethHdrSize + arpHdrSize
  · rw [if_pos short, decide_eq_false]
    exact fun another => absurd another.1 (by omega)
  have long : ethHdrSize + arpHdrSize ≤ (buf.drop packetHeaderSize).length := by omega
  have type : etherType.Fits (buf.drop packetHeaderSize) := Nat.le_trans (by decide) long
  have op : arOp.Fits (buf.drop packetHeaderSize) := Nat.le_trans (by decide) long
  have tip : arTip.Fits (buf.drop packetHeaderSize) := long
  rw [if_neg short]
  dsimp only
  rw [readField_inPacket header type, pure_bind, readField_inPacket header op,
    readField_inPacket header tip, pure_bind, pure_bind]
  by_cases arp : IsArp (buf.drop packetHeaderSize)
  · by_cases request : ArpRequest (buf.drop packetHeaderSize)
    · rw [if_neg (not_not.mpr (hostU16_eq_htons.mpr arp)),
        if_neg (not_not.mpr (hostU16_eq_htons.mpr request))]
      have differs : ArpForAnother iface (buf.drop packetHeaderSize) ↔
          arTip.get (buf.drop packetHeaderSize) ≠ iface.ip :=
        ⟨fun another => another.2.2.2, fun other => ⟨long, arp, request, other⟩⟩
      exact congrArg pure (decide_eq_decide.mpr differs.symm)
    · rw [if_neg (not_not.mpr (hostU16_eq_htons.mpr arp)),
        if_pos (mt hostU16_eq_htons.mp request), decide_eq_false]
      exact fun another => request another.2.2.1
  · rw [if_pos (mt hostU16_eq_htons.mp arp), decide_eq_false]
    exact fun another => arp another.2.1

/-- Acting on a packet message, when the name in it ends before the message does and is that of
an interface. -/
theorem actOnPacket_eq (host : Host) (whole : buf.length = len) (header : packetHeaderSize ≤ len)
    (small : len ≤ 10000)
    (inside : ∀ walker ∈ sr.ifList, ¬ buf.drop baseSize <+: walker.name.chars)
    (found : srGetInterface sr (cName (buf.drop baseSize)) = some iface) :
    ∃ logged : List MessageEvent, (∀ event ∈ logged, ∃ captured, event = .logPacket captured) ∧
      actOnPacket sr host buf len =
        if ArpForAnother iface (buf.drop packetHeaderSize) then pure 1
        else .returned (logged ++
          [.handlePacket (buf.drop packetHeaderSize) (cName (buf.drop baseSize))]) 1 := by
  have size : (buf.drop packetHeaderSize).length = len - packetHeaderSize := by
    rw [List.length_drop, whole]
  have logs : ∃ logged : List MessageEvent,
      srLogPacket host buf (len - packetHeaderSize) = .returned logged () ∧
        ∀ event ∈ logged, ∃ captured, event = .logPacket captured := by
    rw [srLogPacket]
    split_ifs
    · rw [readBytes_of_le (by omega), pure_bind]
      exact ⟨_, rfl, by simp⟩
    · exact ⟨[], rfl, by simp⟩
  obtain ⟨logged, logs, captures⟩ := logs
  refine ⟨logged, captures, ?_⟩
  rw [actOnPacket, packetLength_eq header small, deriveLength_of_eq (by omega), pure_bind,
    srArpReqNotForUs_eq (whole ▸ header) size inside found, pure_bind]
  by_cases another : ArpForAnother iface (buf.drop packetHeaderSize)
  · rw [if_pos (decide_eq_true another), if_pos another]
  · rw [if_neg (by simpa using another), if_neg another, logs, Outcome.returned_bind, Outcome.emit,
      Outcome.returned_bind, List.take_of_length_le size.le]
    rfl

/-- What such a message hands on. -/
theorem handlePacket_mem_iff (whole : buf.length = len) (header : packetHeaderSize ≤ len)
    (small : len ≤ 10000)
    (inside : ∀ walker ∈ sr.ifList, ¬ buf.drop baseSize <+: walker.name.chars)
    (found : srGetInterface sr (cName (buf.drop baseSize)) = some iface) {interface : IfName} :
    .handlePacket packet interface ∈ (actOnPacket sr host buf len).sent ↔
      packet = buf.drop packetHeaderSize ∧ interface = cName (buf.drop baseSize) ∧
        ¬ ArpForAnother iface (buf.drop packetHeaderSize) := by
  obtain ⟨logged, captures, acts⟩ := actOnPacket_eq host whole header small inside found
  have others : .handlePacket packet interface ∉ logged := by
    intro listed
    obtain ⟨captured, same⟩ := captures _ listed
    cases same
  rw [acts]
  by_cases another : ArpForAnother iface (buf.drop packetHeaderSize)
  · rw [if_pos another]
    exact iff_of_false List.not_mem_nil fun handed => handed.2.2 another
  · rw [if_neg another]
    simp [others, another]

end ToClient

/-! ## Both directions -/

section SameMeaning

variable {name : IfName} {frame : Bytes}

/-- What the router sees of a name in its field and the frame behind it. -/
theorem chars_cName_field (name : IfName) (frame : Bytes) :
    (cName (field 0 16 name.chars ++ frame)).chars =
    if name.chars.length < 16 then name.chars
    else name.chars.take 16 ++ text 0 (frame.take 16) := by
  have cut : (field 0 16 name.chars ++ frame).take srIfaceNamelen =
      field 0 16 name.chars ++ frame.take 16 := by
    rw [List.take_append, length_field, List.take_of_length_le (by rw [length_field]; decide)]
    rfl
  change text 0 ((field 0 16 name.chars ++ frame).take srIfaceNamelen) = _
  rw [cut]
  split_ifs with short
  · exact text_field_of_lt name.nonNul short
  · exact text_field_of_ge name.nonNul (Nat.le_of_not_lt short)

/-- A name that its field can hold is read if the field or the frame ends it. -/
theorem cName_field_iff (short : name.chars.length ≤ 16) (nonempty : frame ≠ []) :
    cName (field 0 16 name.chars ++ frame) = name ↔
      name.chars.length < 16 ∨ name.chars.length = 16 ∧ frame.head? = some 0 := by
  have chars := chars_cName_field name frame
  have same : cName (field 0 16 name.chars ++ frame) = name ↔
      (cName (field 0 16 name.chars ++ frame)).chars = name.chars :=
    ⟨congrArg IfName.chars, IfName.ext_chars⟩
  rw [same, chars]
  by_cases shorter : name.chars.length < 16
  · rw [if_pos shorter]
    exact iff_of_true rfl (.inl shorter)
  · obtain ⟨first, rest, rfl⟩ := List.exists_cons_of_ne_nil nonempty
    have full : name.chars.length = 16 := by omega
    rw [if_neg shorter, List.take_of_length_le short, List.append_right_eq_self]
    by_cases zero : first = 0
    · simp [zero, full]
    · simp [zero, full, text]

/-- A name that ends has a NUL behind it, and no interface name goes on there. -/
theorem not_prefix_of_nameEnds (ends : name.chars.length < 16 ∨
      name.chars.length = 16 ∧ frame.head? = some 0) (other : IfName) :
    ¬ field 0 16 name.chars ++ frame <+: other.chars := by
  intro pre
  refine other.nonNul (pre.subset (List.mem_append.mpr ?_))
  rcases ends with shorter | ⟨-, zero⟩
  · refine .inl ?_
    rw [field_of_le shorter.le]
    exact List.mem_append_right _ (List.mem_replicate.mpr ⟨by omega, rfl⟩)
  · exact .inr (List.mem_of_mem_head? zero)

/-- The packet message of a name and a frame, as it is when the command has been read. -/
def receivedPacket (name : IfName) (frame : Bytes) : Bytes :=
  mType.set (be32Bytes vnsPacket).reverse (framed 4 (field 0 16 name.chars ++ frame))

theorem length_receivedPacket (name : IfName) (frame : Bytes) :
    (receivedPacket name frame).length = packetHeaderSize + frame.length := by
  rw [receivedPacket, Span.length_set, length_framed, List.length_append, length_field,
    ← Nat.add_assoc]
  rfl

theorem drop_receivedPacket :
    (receivedPacket name frame).drop baseSize = field 0 16 name.chars ++ frame := by
  rw [receivedPacket, Span.drop_set (f := mType) (by decide), drop_framed]

theorem drop_header_receivedPacket : (receivedPacket name frame).drop packetHeaderSize = frame := by
  change (receivedPacket name frame).drop (baseSize + 16) = frame
  rw [← List.drop_drop, drop_receivedPacket, List.drop_left' (length_field _ _ _)]

variable (sr : SrInstance) {host : Host} {socket : Socket} {rest : Bytes}

/-- The router acts on a packet message that passes the guard. -/
theorem srReadFromServerExpect_packet (memory : host.allocates) (unbroken : socket.Unbroken)
    (small : packetHeaderSize + frame.length ≤ 10000)
    (carries : socket.stream = framed 4 (field 0 16 name.chars ++ frame) ++ rest) :
    ∃ socket' : Socket, Finishes (srReadFromServerExpect sr host 0 socket)
      (do
        let ret ← actOnPacket sr host (receivedPacket name frame)
          (packetHeaderSize + frame.length)
        pure (sr, ret), socket') := by
  have message : IsMessage (framed 4 (field 0 16 name.chars ++ frame)) := by
    refine isMessage_framed ?_
    simp only [packetHeaderSize] at small
    simp only [List.length_append, length_field, baseSize]
    omega
  obtain ⟨socket', finishes, -, -⟩ :=
    srReadFromServerExpect_finishes memory unbroken message carries sr 0
  have expected : ¬ Unexpected 0 (be32 (be32Bytes 4)) := fun unexpected => unexpected.1 rfl
  have size : (framed 4 (field 0 16 name.chars ++ frame)).length =
      packetHeaderSize + frame.length := by
    rw [← length_receivedPacket name frame, receivedPacket, Span.length_set]
  rw [mType_framed, if_neg expected, size] at finishes
  have command : be32 (be32Bytes 4) = vnsPacket := by decide
  rw [switchCommand, if_pos command] at finishes
  exact ⟨socket', finishes⟩

/-- One that does not is refused. -/
theorem srReadFromServerExpect_refused (host : Host) (unbroken : socket.Unbroken)
    (long : 4 ≤ socket.stream.length) (large : 10000 < be32 (mLen.get socket.stream)) :
    ∃ socket' : Socket, Finishes (srReadFromServerExpect sr host 0 socket)
      (pure (sr, -1), socket') := by
  obtain ⟨socket', reads, -⟩ := receiveLength_finishes unbroken long
  exact ⟨socket', (reads.bind (receiveBody_refused (.inl large))).bind (finishes_of_eq rfl)⟩

theorem handsOn_receivedPacket (ends : NameEnds name frame) (nonempty : frame ≠ []) :
    HandsOn sr name frame (do
      let ret ← actOnPacket sr host (receivedPacket name frame) (packetHeaderSize + frame.length)
      pure (sr, ret)) := by
  intro iface found packet interface
  have short : name.chars.length ≤ 16 := by
    have := ends.2
    omega
  have named : cName ((receivedPacket name frame).drop baseSize) = name := by
    rw [drop_receivedPacket]
    exact (cName_field_iff short nonempty).mpr ends.2
  have inside : ∀ walker ∈ sr.ifList,
      ¬ (receivedPacket name frame).drop baseSize <+: walker.name.chars := by
    rw [drop_receivedPacket]
    exact fun walker _ => not_prefix_of_nameEnds ends.2 walker.name
  rw [Outcome.sent_bind_pure, handlePacket_mem_iff (length_receivedPacket _ _)
    (Nat.le_add_right _ _)
    ends.1 inside (named.symm ▸ found), named, drop_header_receivedPacket]

/-- A router with an interface of that name, which takes the frame and may send it. -/
def openRouter (name : IfName) (frame : Bytes) : SrInstance :=
  ⟨[⟨name, etherShost.get frame, arTip.get frame⟩], []⟩

theorem srGetInterface_openRouter (name : IfName) (frame : Bytes) :
    srGetInterface (openRouter name frame) name =
      some ⟨name, etherShost.get frame, arTip.get frame⟩ := by
  simp [srGetInterface, openRouter]

/-- If the two sides agree, the name ends with its field. -/
theorem SameMeaning.nameEnds (same : SameMeaning name frame) (long : ethHdrSize ≤ frame.length) :
    NameEnds name frame := by
  have nonempty : frame ≠ [] := by
    rintro rfl
    exact absurd long (by decide)
  have found := srGetInterface_openRouter name frame
  obtain ⟨message, frames, acts⟩ := same.toClient
  obtain ⟨tiny, rfl⟩ := (ltFrame_eq_ok (by decide)).mp frames
  have pack : VnsPacket.pack ⟨name.chars, frame⟩ = field 0 16 name.chars ++ frame := rfl
  rw [pack] at tiny acts
  have unbroken : (⟨framed 4 (field 0 16 name.chars ++ frame), [], false⟩ : Socket).Unbroken :=
    List.not_mem_nil
  obtain ⟨acting, socket', finishes, hands⟩ := acts (openRouter name frame) willingHost
    ⟨framed 4 (field 0 16 name.chars ++ frame), [], false⟩ [] rfl unbroken
    (List.append_nil _).symm
  have handed : .handlePacket frame name ∈ acting.sent :=
    (hands found frame name).mpr ⟨rfl, rfl, fun another => another.2.2.2 rfl⟩
  have memory : willingHost.allocates := rfl
  have small : packetHeaderSize + frame.length ≤ 10000 := by
    by_contra large
    simp only [packetHeaderSize] at large
    obtain ⟨socket'', refuses⟩ := srReadFromServerExpect_refused (openRouter name frame)
      willingHost unbroken (by simp only [length_framed, baseSize]; omega) (by
        simp only [mLen_framed, be32_be32Bytes tiny]
        simp only [List.length_append, length_field, baseSize]
        omega)
    cases finishes.unique refuses
    exact absurd handed List.not_mem_nil
  obtain ⟨socket'', finishes'⟩ :=
    srReadFromServerExpect_packet (openRouter name frame) memory unbroken small
      (List.append_nil _).symm
  cases finishes.unique finishes'
  rw [Outcome.sent_bind_pure] at handed
  have named := name_of_handlePacket handed
  rw [drop_receivedPacket] at named
  -- The controller has the name that was written.
  have matching : srEtherAddrsMatchInterface (openRouter name frame) frame name = 1 :=
    srEtherAddrsMatchInterface_eq_one_iff.mpr ⟨_, found, rfl⟩
  obtain ⟨message, writes, unpacks⟩ :=
    same.toServer (openRouter name frame) willingHost 0 rfl matching
  rw [sent_srSendPacket long rfl matching (Nat.lt_of_le_of_lt small (by decide))] at writes
  obtain rfl := List.singleton_injective writes
  rw [unpack_written] at unpacks
  have whole : name.chars.take 16 = name.chars :=
    congrArg VnsPacket.intfName (Except.ok.inj unpacks)
  have short : name.chars.length ≤ 16 := by
    rw [← whole, List.length_take]
    exact Nat.min_le_left _ _
  exact ⟨small, (cName_field_iff short nonempty).mp named.symm⟩

/-- If it does, they agree. -/
theorem NameEnds.sameMeaning (ends : NameEnds name frame) (long : ethHdrSize ≤ frame.length) :
    SameMeaning name frame := by
  have nonempty : frame ≠ [] := by
    rintro rfl
    exact absurd long (by decide)
  have small : packetHeaderSize + frame.length < UInt32.size :=
    Nat.lt_of_le_of_lt ends.1 (by decide)
  constructor
  · intro sr host written memory matching
    refine ⟨_, sent_srSendPacket long memory matching small, ?_⟩
    have short : name.chars.length ≤ 16 := by
      have := ends.2
      omega
    rw [unpack_written, List.take_of_length_le short]
  · refine ⟨framed 4 (field 0 16 name.chars ++ frame),
      (ltFrame_eq_ok (by decide)).mpr ⟨?_, rfl⟩, ?_⟩
    · have passes := ends.1
      simp only [packetHeaderSize] at passes
      simp only [VnsPacket.pack, packS, VnsPacket.headerSize, List.length_append, length_field,
        baseSize]
      omega
    · intro sr host socket rest memory unbroken carries
      obtain ⟨socket', finishes⟩ := srReadFromServerExpect_packet sr memory unbroken ends.1 carries
      exact ⟨_, socket', finishes, handsOn_receivedPacket sr ends nonempty⟩

/-- The two sides agree if and only if the name ends with its field and the message passes
the guard. -/
theorem sameMeaning_iff (long : ethHdrSize ≤ frame.length) :
    SameMeaning name frame ↔ NameEnds name frame :=
  ⟨fun same => same.nameEnds long, fun ends => ends.sameMeaning long⟩

end SameMeaning

/-- A frame that is only a header, for the sample server. -/
def headerFrame : Bytes := server1Mac.toList ++ sampleEth1.addr.toList ++ [8, 0]

theorem sameMeaning_iff_eth1 : SameMeaning eth1 headerFrame :=
  (sameMeaning_iff (by decide)).mpr ⟨by decide, .inl (by decide)⟩

/-- The name `"GigabitEthernet0"`, which fills its field. -/
def gigabitEthernet0 : IfName :=
  ⟨[71, 105, 103, 97, 98, 105, 116, 69, 116, 104, 101, 114, 110, 101, 116, 48],
   by decide, by decide⟩

/-- The router takes the address behind it for a part of the name. -/
theorem not_sameMeaning_gigabitEthernet0 : ¬ SameMeaning gigabitEthernet0 headerFrame := by
  intro same
  rcases (same.nameEnds (by decide)).2 with shorter | ⟨-, zero⟩
  · exact absurd shorter (by decide)
  · exact absurd zero (by decide)

end SimpleRouter
