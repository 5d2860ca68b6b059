/-
# Staying inside a message

The guard of `sr_read_from_server_expect` bounds the length of a message from above only.
A message that is shorter than what its handler reads is read past its end, and one that
is shorter than a fixed header gives a length below zero.

Acting on a message accesses no byte outside it and derives no such length if and only if
the message is as long as its command needs, with a NUL where a string is read.
-/

import SimpleRouter.ServerMessages

namespace SimpleRouter

open Buffers Effects

/-! ## What is asked of the code -/

/-- Every access is inside the message, and no length is below zero. -/
def StaysInMessage {α : Type} (x : Acting α) : Prop :=
  x.StopsOnly fun why => why ≠ .overread ∧ why ≠ .wrapped

/-! ## When the code does it -/

/-- A packet message holds its header. If it is so short that a name can run past its end,
the rest of it does not begin the name of any interface. -/
structure PacketFits (sr : SrInstance) (received : Received) : Prop where
  header : packetHeaderSize ≤ received.len
  name : received.len < baseSize + srIfaceNamelen → ∀ iface ∈ sr.ifList,
    ¬ received.buf.drop baseSize <+: iface.name.chars

/-- The host identifier of a routing table message ends in a NUL, and if the file can be
opened the message holds the whole field. -/
structure RtableFits (host : Host) (received : Received) : Prop where
  hostId : 0 ∈ received.buf.drop baseSize
  text : host.rtableOpens → baseSize + idsize ≤ received.len

/-- A status message holds the status, and the text of a rejection ends in a NUL. -/
structure StatusFits (received : Received) : Prop where
  status : baseSize < received.len
  text : received.buf[baseSize]? = some 0 → 0 ∈ received.buf.drop (baseSize + 1)

/-- The message has a command, and what comes behind it is enough for the handler of the
command. -/
def MessageFits (sr : SrInstance) (host : Host) (expected : ℕ) (received : Received) : Prop :=
  baseSize ≤ received.len ∧ (¬ Unexpected expected received.command →
    (received.command = vnsPacket → PacketFits sr received) ∧
    (received.command = vnsRtable → RtableFits host received) ∧
    (received.command = vnsAuthStatus → StatusFits received))

/-! ## Strings in the buffer -/

section Strings

theorem IfName.ext_chars {a b : IfName} (same : a.chars = b.chars) : a = b := by
  cases a
  cases b
  cases same
  rfl

/-- While it stays inside the buffer, `strncmp` compares with the string that starts there. -/
theorem strncmpEq_eq {n : ℕ} {s name : Bytes} (clean : 0 ∉ name) (short : name.length ≤ n)
    (inside : n ≤ s.length ∨ ¬ s <+: name) :
    strncmpEq n s name = pure (decide ((s.take n).takeWhile (· ≠ 0) = name)) := by
  induction n generalizing s name with
  | zero =>
    have empty := List.eq_nil_of_length_eq_zero (Nat.le_zero.mp short)
    subst empty
    rfl
  | succ n ih =>
    cases s with
    | nil =>
      rcases inside with long | other
      · simp at long
      · exact absurd List.nil_prefix other
    | cons c s =>
      cases name with
      | nil => by_cases zero : c = 0 <;> simp [strncmpEq, zero]
      | cons a name =>
        rw [List.mem_cons, not_or] at clean
        by_cases same : c = a
        · subst same
          have nonzero : c ≠ 0 := fun zero => clean.1 zero.symm
          have rest := ih clean.2 (Nat.le_of_succ_le_succ short)
            (inside.imp Nat.le_of_succ_le_succ fun other pre => other (by simpa using pre))
          rw [strncmpEq, if_pos rfl, rest]
          simp [nonzero]
        · rw [strncmpEq, if_neg same]
          by_cases zero : c = 0 <;> simp [zero, same]

/-- A name that the rest of the buffer begins is compared past the end. -/
theorem strncmpEq_overread {n : ℕ} {s name : Bytes} (short : s.length < n) (pre : s <+: name) :
    strncmpEq n s name = .stop .overread := by
  induction n generalizing s name with
  | zero => exact absurd short (Nat.not_lt_zero _)
  | succ n ih =>
    cases s with
    | nil => cases name <;> rfl
    | cons c s =>
      obtain ⟨name, rfl, rest⟩ := List.cons_prefix_iff.mp pre
      rw [strncmpEq, if_pos rfl]
      exact ih (Nat.lt_of_succ_lt_succ short) rest

variable {name : Bytes} {ifs : List SrIf}

/-- While it stays inside the buffer, `sr_get_interface` looks for the name in it. -/
theorem srGetInterfaceAt_eq
    (inside : srIfaceNamelen ≤ name.length ∨ ∀ iface ∈ ifs, ¬ name <+: iface.name.chars) :
    srGetInterfaceAt name ifs = pure (ifs.find? fun walker => walker.name = cName name) := by
  induction ifs with
  | nil => rfl
  | cons walker rest ih =>
    have here := strncmpEq_eq walker.name.nonNul walker.name.short
      (inside.imp id fun others => others walker List.mem_cons_self)
    have later := ih (inside.imp id fun others iface listed =>
      others iface (List.mem_cons_of_mem _ listed))
    have sees : (name.take srIfaceNamelen).takeWhile (· ≠ 0) = walker.name.chars ↔
        walker.name = cName name := by
      constructor
      · intro equal
        exact IfName.ext_chars equal.symm
      · intro same
        rw [same]
        rfl
    rw [srGetInterfaceAt, here, pure_bind, List.find?_cons]
    by_cases same : walker.name = cName name
    · rw [if_pos (decide_eq_true (sees.mpr same)), decide_eq_true same]
    · rw [if_neg (by simpa using mt sees.mp same), decide_eq_false same]
      exact later

/-- If the rest of the buffer begins the name of an interface and is shorter than a name
may be, the search for it runs past the end. -/
theorem srGetInterfaceAt_overread (short : name.length < srIfaceNamelen) {iface : SrIf}
    (listed : iface ∈ ifs) (pre : name <+: iface.name.chars) :
    srGetInterfaceAt name ifs = .stop .overread := by
  induction ifs with
  | nil => simp at listed
  | cons walker rest ih =>
    by_cases here : name <+: walker.name.chars
    · rw [srGetInterfaceAt, strncmpEq_overread short here]
      rfl
    · -- The name has no NUL in the buffer, so it is not the one of this interface.
      have unequal : (name.take srIfaceNamelen).takeWhile (· ≠ 0) ≠ walker.name.chars := by
        have noNul : ∀ c ∈ name, decide (c ≠ 0) = true := by
          intro c inName
          refine decide_eq_true ?_
          rintro rfl
          exact iface.name.nonNul (pre.subset inName)
        rw [List.take_of_length_le short.le, List.takeWhile_eq_self_iff.mpr noNul]
        rintro rfl
        exact here List.prefix_rfl
      rw [srGetInterfaceAt, strncmpEq_eq walker.name.nonNul walker.name.short (.inr here),
        decide_eq_false unequal]
      refine ih ?_
      rcases List.mem_cons.mp listed with rfl | later
      · exact absurd pre here
      · exact later

end Strings

/-! ## The handlers -/

section Handlers

variable {sr : SrInstance} {host : Host} {buf : Bytes} {len : ℕ}

theorem staysInMessage_pure {α : Type} (a : α) : StaysInMessage (pure a : Acting α) :=
  Outcome.stopsOnly_pure a

theorem staysInMessage_assertFailed {α : Type} :
    StaysInMessage (.stop .assertFailed : Acting α) :=
  Outcome.stopsOnly_stop ⟨by decide, by decide⟩

theorem not_staysInMessage_overread {α : Type} : ¬ StaysInMessage (.stop .overread : Acting α) :=
  fun stays => (stays .overread rfl).1 rfl

theorem not_staysInMessage_wrapped {α : Type} : ¬ StaysInMessage (.stop .wrapped : Acting α) :=
  fun stays => (stays .wrapped rfl).2 rfl

/-- A last step that only computes reads nothing. -/
theorem staysInMessage_bind_pure {α β : Type} {x : Acting α} (f : α → β) :
    StaysInMessage (x >>= fun a => pure (f a)) ↔ StaysInMessage x := by
  constructor
  · intro stays why stops
    exact stays why (Outcome.reason_bind_eq_some.mpr (.inl stops))
  · intro stays
    exact stays.bind fun _ => staysInMessage_pure _

theorem readField_of_fits {n : ℕ} {f : Span n} (fits : f.off + n ≤ buf.length) :
    readField f buf = pure (f.get buf) := if_pos fits

theorem readField_of_short {n : ℕ} {f : Span n} (short : buf.length < f.off + n) :
    readField f buf = .stop .overread := if_neg (Nat.not_le_of_lt short)

theorem readBytes_of_le {off n : ℕ} (inside : off + n ≤ buf.length) :
    readBytes buf off n = pure ((buf.drop off).take n) := if_pos inside

theorem readString_of_mem {why : MessageStop} {s : Bytes} (ends : 0 ∈ s) :
    readString why s = pure (s.takeWhile (· ≠ 0)) := if_pos ends

theorem readString_of_not_mem {why : MessageStop} {s : Bytes} (open' : 0 ∉ s) :
    readString why s = .stop why := if_neg open'

theorem deriveLength_of_eq {actual : ℕ} {meant : ℤ} (same : (actual : ℤ) = meant) :
    deriveLength actual meant = pure actual := if_pos same

theorem deriveLength_of_neg {actual : ℕ} {meant : ℤ} (below : meant < 0) :
    deriveLength actual meant = .stop .wrapped := by
  refine if_neg fun same => ?_
  omega

/-- A message with a whole number of hardware entries is read within them. -/
theorem staysInMessage_hwEntry {i : ℕ} (long : baseSize + hwEntrySize * (i + 1) ≤ buf.length) :
    StaysInMessage (hwEntry host buf i sr) := by
  have value : hwValueOff i + srIfaceNamelen ≤ buf.length := by
    simp only [hwValueOff, baseSize, hwEntrySize, srIfaceNamelen] at *
    omega
  have ip : hwValueOff i + 4 ≤ buf.length := Nat.le_trans (by simp [srIfaceNamelen]) value
  have addr : hwValueOff i + 6 ≤ buf.length := Nat.le_trans (by simp [srIfaceNamelen]) value
  have key : (hwKey i).off + 4 ≤ buf.length := by
    simp only [hwKey, baseSize, hwEntrySize] at *
    omega
  have name : srIfaceNamelen ≤ (buf.drop (hwValueOff i)).length := by
    rw [List.length_drop]
    omega
  rw [hwEntry, readField_of_fits key, pure_bind]
  dsimp only
  split_ifs
  · rw [readName, if_pos (.inr name), pure_bind]
    exact staysInMessage_pure _
  · rw [readField_of_fits (f := hwValue i) ip, pure_bind, srSetEtherIp]
    split_ifs
    · exact staysInMessage_assertFailed
    · exact staysInMessage_pure _
  · rw [readField_of_fits (f := hwValue i) addr, pure_bind, srSetEtherAddr]
    split_ifs
    · exact staysInMessage_assertFailed
    · exact staysInMessage_pure _
  · exact staysInMessage_pure _

theorem staysInMessage_hwEntriesFrom {entries i : ℕ}
    (long : baseSize + hwEntrySize * (i + entries) ≤ buf.length) :
    StaysInMessage (hwEntriesFrom host buf entries i sr) := by
  induction entries generalizing i sr with
  | zero => exact staysInMessage_pure _
  | succ entries ih =>
    refine (staysInMessage_hwEntry ?_).bind fun sr' => ih ?_
    · simp only [baseSize, hwEntrySize] at *
      omega
    · rw [Nat.add_right_comm, Nat.add_assoc]
      exact long

/-- An unsigned difference that is not below zero. -/
theorem unsigned_sub {k len modulus : ℕ} (long : k ≤ len) (small : len < modulus) :
    (len + modulus - k) % modulus = len - k := by
  have sum : len + modulus - k = len - k + modulus := by omega
  rw [sum, Nat.add_mod_right, Nat.mod_eq_of_lt (by omega)]

theorem staysInMessage_hwinfo (whole : buf.length = len) (long : baseSize ≤ len)
    (small : len ≤ 10000) : StaysInMessage (srHandleHwinfo sr host buf len) := by
  have size : (len + UInt64.size - baseSize) % UInt64.size = len - baseSize :=
    unsigned_sub long (by simp only [UInt64.size]; omega)
  rw [srHandleHwinfo, size, deriveLength_of_eq (by omega), pure_bind]
  refine staysInMessage_hwEntriesFrom ?_
  have entries := Nat.mul_div_le (len - baseSize) hwEntrySize
  rw [Nat.zero_add]
  omega

/-- The length of the salt of a request. -/
theorem saltLength_eq (long : baseSize ≤ len) (small : len ≤ 10000) :
    (len + UInt64.size - baseSize) % UInt64.size % UInt32.size = len - baseSize := by
  rw [unsigned_sub long (by simp only [UInt64.size]; omega),
    Nat.mod_eq_of_lt (by simp only [UInt32.size]; omega)]

theorem staysInMessage_authRequest (whole : buf.length = len) (long : baseSize ≤ len)
    (small : len ≤ 10000) : StaysInMessage (srHandleAuthRequest host buf len) := by
  rw [srHandleAuthRequest]
  split_ifs
  · rw [saltLength_eq long small, deriveLength_of_eq (by omega), pure_bind,
      readBytes_of_le (by omega), pure_bind]
    refine (Outcome.stopsOnly_returned _ _).bind fun _ => ?_
    cases host.digest with
    | none => exact staysInMessage_pure _
    | some digest => exact (Outcome.stopsOnly_returned _ _).bind fun _ => staysInMessage_pure _
  · exact staysInMessage_pure _

section Rtable

variable (ends : 0 ∈ buf.drop baseSize) (opens : host.rtableOpens = true)
include ends opens

/-- A table whose text begins in the message is written. -/
theorem srHandleRtable_of_long (whole : buf.length = len) (long : baseSize + idsize ≤ len)
    (small : len ≤ 10000) :
    srHandleRtable host buf len =
      .returned [.writeRtable ((buf.drop baseSize).takeWhile (· ≠ 0))
        ((buf.drop (baseSize + idsize)).take (len - (8 + idsize)))] true := by
  have size : (len + UInt32.size - 8 - idsize) % UInt32.size = len - (8 + idsize) := by
    rw [Nat.sub_sub]
    exact unsigned_sub long (by simp only [UInt32.size]; omega)
  simp only [baseSize, idsize] at long
  rw [srHandleRtable, readString_of_mem ends, pure_bind, if_pos opens, size,
    deriveLength_of_eq (by simp only [idsize]; omega), pure_bind,
    readBytes_of_le (by simp only [baseSize, idsize]; omega), pure_bind]
  rfl

/-- With a shorter message the length of the text wraps around. -/
theorem srHandleRtable_of_short (short : len < baseSize + idsize) :
    srHandleRtable host buf len = .stop .wrapped := by
  simp only [baseSize, idsize] at short
  rw [srHandleRtable, readString_of_mem ends, pure_bind, if_pos opens,
    deriveLength_of_neg (by simp only [idsize]; omega)]
  rfl

end Rtable

/-- The routing table is read within the message when its identifier ends and its text
begins there. -/
theorem staysInMessage_rtable_iff (whole : buf.length = len) (small : len ≤ 10000) :
    StaysInMessage (srHandleRtable host buf len) ↔
      0 ∈ buf.drop baseSize ∧ (host.rtableOpens → baseSize + idsize ≤ len) := by
  by_cases ends : 0 ∈ buf.drop baseSize
  · by_cases opens : host.rtableOpens
    · by_cases long : baseSize + idsize ≤ len
      · rw [srHandleRtable_of_long ends opens whole long small]
        exact iff_of_true (Outcome.stopsOnly_returned _ _) ⟨ends, fun _ => long⟩
      · rw [srHandleRtable_of_short ends opens (Nat.lt_of_not_le long)]
        exact iff_of_false not_staysInMessage_wrapped fun fits => long (fits.2 opens)
    · rw [srHandleRtable, readString_of_mem ends, pure_bind, if_neg opens]
      exact iff_of_true (staysInMessage_pure _) ⟨ends, fun opens' => absurd opens' opens⟩
  · rw [srHandleRtable, readString_of_not_mem ends]
    exact iff_of_false not_staysInMessage_overread fun fits => ends fits.1

/-- The status is read within the message when it is there and the text of a rejection ends. -/
theorem staysInMessage_authStatus_iff :
    StaysInMessage (srHandleAuthStatus buf) ↔ baseSize < buf.length ∧
      (buf[baseSize]? = some 0 → 0 ∈ buf.drop (baseSize + 1)) := by
  by_cases long : baseSize < buf.length
  · have status : buf[baseSize]? = some (hostU8 ((⟨baseSize⟩ : Span 1).get buf)) := by
      rw [List.getElem?_eq_getElem long]
      simp [hostU8, Span.get, List.getD_eq_getElem?_getD, List.getElem?_eq_getElem long]
    rw [srHandleAuthStatus, readField_of_fits (f := (⟨baseSize⟩ : Span 1)) long, pure_bind, status]
    by_cases accepted : hostU8 ((⟨baseSize⟩ : Span 1).get buf) = 0
    · rw [if_neg (not_not.mpr accepted), accepted]
      by_cases ends : 0 ∈ buf.drop (baseSize + 1)
      · rw [readString_of_mem ends, pure_bind]
        refine iff_of_true ?_ ⟨long, fun _ => ends⟩
        exact (Outcome.stopsOnly_returned _ _).bind fun _ => staysInMessage_pure _
      · rw [readString_of_not_mem ends]
        exact iff_of_false not_staysInMessage_overread fun fits => ends (fits.2 rfl)
    · rw [if_pos accepted]
      refine iff_of_true (staysInMessage_pure _) ⟨long, fun rejected => ?_⟩
      exact absurd (Option.some.inj rejected) accepted
  · rw [srHandleAuthStatus, readField_of_short (f := (⟨baseSize⟩ : Span 1)) (by simp only; omega)]
    exact iff_of_false not_staysInMessage_overread fun fits => long fits.1

/-- The ARP filter reads within a packet that is as long as it says, once the name does. -/
theorem staysInMessage_arpReqNotForUs (whole : buf.length = packetHeaderSize + len)
    (inside : srIfaceNamelen ≤ (buf.drop baseSize).length ∨
      ∀ iface ∈ sr.ifList, ¬ buf.drop baseSize <+: iface.name.chars) :
    StaysInMessage (srArpReqNotForUs sr buf len) := by
  rw [srArpReqNotForUs, srGetInterfaceAt_eq inside, pure_bind]
  by_cases short : len < ethHdrSize + arpHdrSize
  · rw [if_pos short]
    exact staysInMessage_pure _
  · rw [if_neg short]
    simp only [ethHdrSize, arpHdrSize, packetHeaderSize] at short whole
    cases sr.ifList.find? fun walker => walker.name = cName (buf.drop baseSize) with
    | none => exact staysInMessage_assertFailed
    | some iface =>
      have type : (inPacket etherType).off + 2 ≤ buf.length := by
        simp only [inPacket, etherType, packetHeaderSize]
        omega
      have op : (inPacket arOp).off + 2 ≤ buf.length := by
        simp only [inPacket, arOp, packetHeaderSize, ethHdrSize]
        omega
      have tip : (inPacket arTip).off + 4 ≤ buf.length := by
        simp only [inPacket, arTip, packetHeaderSize, ethHdrSize]
        omega
      dsimp only
      rw [readField_of_fits type, pure_bind]
      split_ifs
      · exact staysInMessage_pure _
      · rw [readField_of_fits op, pure_bind]
        split_ifs
        · exact staysInMessage_pure _
        · rw [readField_of_fits tip, pure_bind]
          exact staysInMessage_pure _

/-- The length of a packet is what its header leaves of the message. -/
theorem packetLength_eq (long : packetHeaderSize ≤ len) (small : len ≤ 10000) :
    (len + UInt64.size - packetEthernetHeaderSize + ethHdrSize) % UInt64.size % UInt32.size =
      len - packetHeaderSize := by
  have shifted : len + UInt64.size - packetEthernetHeaderSize + ethHdrSize =
      len + UInt64.size - packetHeaderSize := by
    simp only [packetEthernetHeaderSize, ethHdrSize, packetHeaderSize, UInt64.size]
    omega
  rw [shifted, unsigned_sub long (by simp only [UInt64.size]; omega),
    Nat.mod_eq_of_lt (by simp only [UInt32.size]; omega)]

theorem staysInMessage_logPacket (whole : buf.length = packetHeaderSize + len) :
    StaysInMessage (srLogPacket host buf len) := by
  rw [srLogPacket]
  split_ifs
  · rw [readBytes_of_le (by omega), pure_bind]
    exact Outcome.stopsOnly_returned _ _
  · exact staysInMessage_pure _

/-- A packet is read within the message when its header is there and the search for the
interface ends in it. -/
theorem staysInMessage_packet_iff (whole : buf.length = len) (small : len ≤ 10000) :
    StaysInMessage (actOnPacket sr host buf len) ↔ packetHeaderSize ≤ len ∧
      (len < baseSize + srIfaceNamelen → ∀ iface ∈ sr.ifList,
        ¬ buf.drop baseSize <+: iface.name.chars) := by
  by_cases long : packetHeaderSize ≤ len
  · have split : buf.length = packetHeaderSize + (len - packetHeaderSize) := by omega
    have dropped : (buf.drop baseSize).length = len - 8 := by rw [List.length_drop, whole, baseSize]
    have nameEnd : baseSize + srIfaceNamelen = 40 := rfl
    have nameLength : srIfaceNamelen = 32 := rfl
    rw [actOnPacket, packetLength_eq long small, deriveLength_of_eq (by omega), pure_bind]
    by_cases inside : srIfaceNamelen ≤ (buf.drop baseSize).length ∨
        ∀ iface ∈ sr.ifList, ¬ buf.drop baseSize <+: iface.name.chars
    · refine iff_of_true ((staysInMessage_arpReqNotForUs split inside).bind fun drops => ?_)
        ⟨long, fun short => inside.resolve_left (by omega)⟩
      split_ifs
      · exact staysInMessage_pure _
      · refine (staysInMessage_logPacket split).bind fun _ => ?_
        exact (Outcome.stopsOnly_returned _ _).bind fun _ => staysInMessage_pure _
    · -- The search for the interface runs past the end.
      rw [not_or] at inside
      obtain ⟨short, named⟩ := inside
      push Not at named
      obtain ⟨iface, listed, pre⟩ := named
      refine iff_of_false ?_ fun fits => fits.2 (by omega) iface listed pre
      rw [srArpReqNotForUs, srGetInterfaceAt_overread (Nat.lt_of_not_le short) listed pre]
      exact not_staysInMessage_overread
  · rw [actOnPacket, deriveLength_of_neg (by omega)]
    exact iff_of_false not_staysInMessage_wrapped fun fits => long fits.1

/-- The texts of a close and of a banner are read apart from everything else. -/
theorem staysInMessage_print (s : Bytes) (ret : ℤ) :
    StaysInMessage (do
      let text ← readString .textOverread s
      Outcome.emit (.print text)
      pure (sr, ret) : Acting (SrInstance × ℤ)) := by
  by_cases ends : 0 ∈ s
  · rw [readString_of_mem ends, pure_bind]
    exact (Outcome.stopsOnly_returned _ _).bind fun _ => staysInMessage_pure _
  · rw [readString_of_not_mem ends]
    exact Outcome.stopsOnly_stop ⟨by decide, by decide⟩

/-- Three commands need more than the eight bytes of every message. -/
theorem staysInMessage_switch_iff {command : ℕ} (whole : buf.length = len)
    (long : baseSize ≤ len) (small : len ≤ 10000) :
    StaysInMessage (switchCommand sr host buf len command) ↔
      (command = vnsPacket → packetHeaderSize ≤ len ∧
        (len < baseSize + srIfaceNamelen → ∀ iface ∈ sr.ifList,
          ¬ buf.drop baseSize <+: iface.name.chars)) ∧
      (command = vnsRtable → 0 ∈ buf.drop baseSize ∧
        (host.rtableOpens → baseSize + idsize ≤ len)) ∧
      (command = vnsAuthStatus → baseSize < buf.length ∧
        (buf[baseSize]? = some 0 → 0 ∈ buf.drop (baseSize + 1))) := by
  rw [switchCommand]
  split_ifs with packet close banner hwinfo rtable request status
  · rw [staysInMessage_bind_pure, staysInMessage_packet_iff whole small, packet]
    simp [vnsPacket, vnsRtable, vnsAuthStatus]
  · refine iff_of_true (staysInMessage_print _ _) ?_
    simp [close, vnsClose, vnsPacket, vnsRtable, vnsAuthStatus]
  · refine iff_of_true (staysInMessage_print _ _) ?_
    simp [banner, vnsBanner, vnsPacket, vnsRtable, vnsAuthStatus]
  · refine iff_of_true ((staysInMessage_bind_pure _).mpr
      (staysInMessage_hwinfo whole long small)) ?_
    simp [hwinfo, vnsHwinfo, vnsPacket, vnsRtable, vnsAuthStatus]
  · rw [staysInMessage_bind_pure, staysInMessage_rtable_iff whole small, rtable]
    simp [vnsPacket, vnsRtable, vnsAuthStatus]
  · refine iff_of_true ((staysInMessage_bind_pure _).mpr
      (staysInMessage_authRequest whole long small)) ?_
    simp [request, vnsAuthRequest, vnsPacket, vnsRtable, vnsAuthStatus]
  · rw [staysInMessage_bind_pure, staysInMessage_authStatus_iff, status]
    simp [vnsPacket, vnsRtable, vnsAuthStatus]
  · refine iff_of_true (staysInMessage_pure _) ?_
    simp [packet, rtable, status]

end Handlers

/-! ## Every message -/

section Messages

variable {sr : SrInstance} {host : Host} {expected : ℕ} {received : Received}

/-- Acting on a message stays in it if and only if the message is as long as its command
needs. -/
theorem staysInMessage_iff :
    StaysInMessage (actOnMessage sr host expected received) ↔
      MessageFits sr host expected received := by
  have small := received.small
  rw [actOnMessage]
  by_cases tiny : received.len < 4
  · rw [if_pos tiny]
    refine iff_of_false not_staysInMessage_overread fun fits => ?_
    exact absurd fits.1 (by simp only [baseSize]; omega)
  have whole := length_buf (Nat.le_of_not_lt tiny)
  rw [if_neg tiny]
  by_cases long : baseSize ≤ received.len
  swap
  · rw [readField_of_short (by simp only [mType]; simp only [baseSize] at long; omega)]
    exact iff_of_false not_staysInMessage_overread fun fits => long fits.1
  rw [readField_of_fits (f := mType) (by simp only [mType]; simp only [baseSize] at long; omega),
    pure_bind]
  change StaysInMessage (if Unexpected expected received.command then _ else
    switchCommand sr host _ received.len received.command) ↔ _
  rw [MessageFits]
  by_cases unexpected : Unexpected expected received.command
  · rw [if_pos unexpected]
    refine iff_of_true (staysInMessage_pure _) ⟨long, fun dispatched => ?_⟩
    exact absurd unexpected dispatched
  -- The handlers read behind the command, where the buffer is as it was received.
  have behind : ∀ k, baseSize ≤ k →
    (mType.set (mType.get received.buf).reverse received.buf).drop k =
      received.buf.drop k := fun k later => Span.drop_set later _ _
  have status : (mType.set (mType.get received.buf).reverse received.buf)[baseSize]? =
      received.buf[baseSize]? := Span.getElem?_set_of_not_covers _ _ (by decide)
  rw [if_neg unexpected, staysInMessage_switch_iff (by rw [Span.length_set, whole]) long small,
    behind _ (Nat.le_refl _), behind _ (Nat.le_succ _), status, Span.length_set, whole]
  constructor
  · rintro ⟨packet, rtable, status⟩
    exact ⟨long, fun _ => ⟨fun is => ⟨(packet is).1, (packet is).2⟩,
      fun is => ⟨(rtable is).1, (rtable is).2⟩, fun is => ⟨(status is).1, (status is).2⟩⟩⟩
  · intro fits
    obtain ⟨packet, rtable, status⟩ := fits.2 unexpected
    exact ⟨fun is => ⟨(packet is).header, (packet is).name⟩,
      fun is => ⟨(rtable is).hostId, (rtable is).text⟩,
      fun is => ⟨(status is).status, (status is).text⟩⟩

end Messages

/-- A packet message that ends behind its command. -/
def emptyPacketMessage : Received := ⟨8, [0, 0, 0, 4], by decide, by decide⟩

/-- The length of the packet in it is `8 - 24`, and the interface name is read past its end. -/
theorem not_staysInMessage_emptyPacketMessage :
    ¬ StaysInMessage (actOnMessage sampleInstance willingHost 0 emptyPacketMessage) := by
  intro stays
  exact (stays .wrapped (by decide)).2 rfl

end SimpleRouter
