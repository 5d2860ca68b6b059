/-
# Hardware information

The controller announces every interface with six entries of 36 bytes, and the router
replays the entries: one adds an interface to the end of its list, and the entries for the
addresses change the interface that is last.

Replaying what was announced gives the interfaces that were announced, in their order.
-/

import Mathlib.Data.List.ModifyLast
import SimpleRouter.PacketMessage

namespace SimpleRouter

open Buffers Effects FixedFields

/-! ## One entry -/

/-- What an entry does to the instance. -/
def replayEntry (host : Host) (sr : SrInstance) (entry : ℕ × Bytes) : Acting SrInstance :=
  if entry.1 = hwInterface then pure (srAddInterface host sr (cName entry.2))
  else if entry.1 = hwEthip then srSetEtherIp sr ((⟨0⟩ : Span 4).get entry.2)
  else if entry.1 = hwEther then srSetEtherAddr sr ((⟨0⟩ : Span 6).get entry.2)
  else pure sr

section Entries

variable {host : Host} {buf rest : Bytes} {key i : ℕ} {value : Bytes} {sr : SrInstance}

/-- A round of the loop replays the entry that begins there. -/
theorem hwEntry_of_drop (small : key < 0x100000000) (size : value.length = 32)
    (here : buf.drop (baseSize + hwEntrySize * i) = VnsInterface.packEntry key value ++ rest) :
    hwEntry host buf i sr = replayEntry host sr (key, value) := by
  have counted := congrArg List.length here
  simp only [List.length_drop, List.length_append, VnsInterface.length_packEntry, size] at counted
  have keyFits : (hwKey i).off + 4 ≤ buf.length := by
    simp only [hwKey]
    omega
  have keyIs : be32 ((hwKey i).get buf) = key := by
    have reads := Span.get_drop (⟨0⟩ : Span 4) (baseSize + hwEntrySize * i) buf
    rw [here, VnsInterface.packEntry, List.append_assoc, Span.get_toList_append] at reads
    change be32 ((⟨baseSize + hwEntrySize * i + 0⟩ : Span 4).get buf) = key
    rw [← reads, be32_be32Bytes small]
  have behind : buf.drop (hwValueOff i) = value ++ rest := by
    change buf.drop (baseSize + hwEntrySize * i + 4) = _
    rw [← List.drop_drop, here, VnsInterface.packEntry, List.append_assoc,
      List.drop_left' Vector.length_toList]
  have valueIs {n : ℕ} (within : n ≤ 32) :
      (hwValue i : Span n).off + n ≤ buf.length ∧
        (hwValue i : Span n).get buf = (⟨0⟩ : Span n).get value := by
    have inside : (⟨0⟩ : Span n).Fits value := by
      change 0 + n ≤ value.length
      omega
    have reads := Span.get_drop (⟨0⟩ : Span n) (hwValueOff i) buf
    rw [behind, Span.get_append_left inside] at reads
    refine ⟨?_, reads.symm⟩
    change baseSize + hwEntrySize * i + 4 + n ≤ buf.length
    omega
  have nameIs : readName (buf.drop (hwValueOff i)) = pure (cName value) := by
    have long : srIfaceNamelen ≤ (value ++ rest).length := by
      rw [List.length_append, size, srIfaceNamelen]
      exact Nat.le_add_right _ _
    have same : cName (value ++ rest) = cName value := by
      apply IfName.ext_chars
      change ((value ++ rest).take 32).takeWhile _ = (value.take 32).takeWhile _
      rw [List.take_left' size, List.take_of_length_le size.le]
    rw [behind, readName, if_pos (.inr long), same]
  obtain ⟨ipFits, ipIs⟩ := valueIs (n := 4) (by decide)
  obtain ⟨addrFits, addrIs⟩ := valueIs (n := 6) (by decide)
  rw [hwEntry, readField_of_fits keyFits, pure_bind, nameIs, readField_of_fits ipFits,
    readField_of_fits addrFits, pure_bind, pure_bind, pure_bind, ipIs, addrIs]
  simp only [keyIs, replayEntry]

/-- The loop replays as many entries as there are. -/
theorem hwEntriesFrom_eq {entries : List (ℕ × Bytes)}
    (small : ∀ entry ∈ entries, entry.1 < 0x100000000 ∧ entry.2.length = 32)
    (here : buf.drop (baseSize + hwEntrySize * i) =
      (entries.map fun entry => VnsInterface.packEntry entry.1 entry.2).flatten) :
    hwEntriesFrom host buf entries.length i sr = entries.foldlM (replayEntry host) sr := by
  induction entries generalizing i sr with
  | nil => rfl
  | cons entry later ih =>
    rw [List.forall_mem_cons] at small
    rw [List.map_cons, List.flatten_cons] at here
    have behind : buf.drop (baseSize + hwEntrySize * (i + 1)) =
        (later.map fun entry => VnsInterface.packEntry entry.1 entry.2).flatten := by
      rw [Nat.mul_succ, ← Nat.add_assoc, ← List.drop_drop, here, List.drop_left']
      rw [VnsInterface.length_packEntry, small.1.2]
      rfl
    rw [List.length_cons, hwEntriesFrom, hwEntry_of_drop small.1.1 small.1.2 here,
      List.foldlM_cons]
    exact bind_congr fun sr' => ih small.2 behind

end Entries

/-! ## The entries of an interface -/

/-- The keys and the values that an interface is announced with. -/
def VnsInterface.announced (m : VnsInterface) : List (ℕ × Bytes) :=
  [(hwInterface, packS 32 m.name), (hwSpeed, packNumber (be32Bytes 0)),
    (hwEther, packS 32 m.mac.toList), (hwEthip, packNumber m.ip),
    (hwSubnet, packNumber (be32Bytes 0)), (hwMask, packNumber m.mask)]

theorem VnsInterface.announced_small (m : VnsInterface) :
    ∀ entry ∈ m.announced, entry.1 < 0x100000000 ∧ entry.2.length = 32 := by
  intro entry listed
  simp only [announced, List.mem_cons, List.not_mem_nil, or_false] at listed
  rcases listed with rfl | rfl | rfl | rfl | rfl | rfl <;>
    simp [hwInterface, hwSpeed, hwEther, hwEthip, hwSubnet, hwMask, length_packNumber]

/-- The record of an interface that was announced. -/
def VnsInterface.record (m : VnsInterface) : SrIf := ⟨cName (packS 32 m.name), m.mac, m.ip⟩

section Interfaces

variable {host : Host} {interfaces : List VnsInterface}

/-- The Ethernet address is entered in the interface that was added last. -/
theorem srSetEtherAddr_append (sr : SrInstance) (iface : SrIf) (addr : Mac) :
    srSetEtherAddr { sr with ifList := sr.ifList ++ [iface] } addr =
      pure { sr with ifList := sr.ifList ++ [{ iface with addr := addr }] } := by
  rw [srSetEtherAddr, if_neg (by simp), List.modifyLast_concat]

/-- So is the IP address. -/
theorem srSetEtherIp_append (sr : SrInstance) (iface : SrIf) (ip : Ip) :
    srSetEtherIp { sr with ifList := sr.ifList ++ [iface] } ip =
      pure { sr with ifList := sr.ifList ++ [{ iface with ip := ip }] } := by
  rw [srSetEtherIp, if_neg (by simp), List.modifyLast_concat]

/-- The entries of an interface append its record to the list. -/
theorem foldlM_announced (m : VnsInterface) (sr : SrInstance) :
    m.announced.foldlM (replayEntry host) sr =
      pure { sr with ifList := sr.ifList ++ [m.record] } := by
  have mac : (⟨0⟩ : Span 6).get (packS 32 m.mac.toList) = m.mac := by
    rw [packS, field_of_le (by rw [Vector.length_toList]; decide)]
    exact Span.get_toList_append _ _
  have ip : (⟨0⟩ : Span 4).get (VnsInterface.packNumber m.ip) = m.ip :=
    Span.get_toList_append _ _
  have keys (sr' : SrInstance) (value : Bytes) :
      replayEntry host sr' (VnsInterface.hwInterface, value) =
        pure (srAddInterface host sr' (cName value)) ∧
      replayEntry host sr' (VnsInterface.hwEthip, value) =
        srSetEtherIp sr' ((⟨0⟩ : Span 4).get value) ∧
      replayEntry host sr' (VnsInterface.hwEther, value) =
        srSetEtherAddr sr' ((⟨0⟩ : Span 6).get value) ∧
      replayEntry host sr' (VnsInterface.hwSpeed, value) = pure sr' ∧
      replayEntry host sr' (VnsInterface.hwSubnet, value) = pure sr' ∧
      replayEntry host sr' (VnsInterface.hwMask, value) = pure sr' := by
    refine ⟨rfl, rfl, rfl, rfl, rfl, rfl⟩
  simp only [VnsInterface.announced, List.foldlM_cons, List.foldlM_nil, keys, pure_bind,
    srAddInterface, mac, ip, srSetEtherAddr_append, srSetEtherIp_append]
  rfl

theorem foldlM_interfaces (sr : SrInstance) :
    (interfaces.flatMap VnsInterface.announced).foldlM (replayEntry host) sr =
      pure { sr with ifList := sr.ifList ++ interfaces.map VnsInterface.record } := by
  induction interfaces generalizing sr with
  | nil => simp
  | cons m later ih =>
    rw [List.flatMap_cons, List.foldlM_append, foldlM_announced, pure_bind, ih, List.map_cons,
      List.append_assoc]
    rfl

theorem VnsHardwareInfo.pack_eq (interfaces : List VnsInterface) :
    pack ⟨interfaces⟩ = ((interfaces.flatMap VnsInterface.announced).map fun entry =>
      VnsInterface.packEntry entry.1 entry.2).flatten := by
  induction interfaces with
  | nil => rfl
  | cons m later ih =>
    rw [pack] at ih ⊢
    rw [List.map_cons, List.flatten_cons, ih, List.flatMap_cons, List.map_append,
      List.flatten_append]
    rfl

/-- The loop replays a message of the controller from its first entry to its last. -/
theorem srHandleHwinfo_eq (word : Vector UInt8 4)
    (fits : baseSize + (VnsHardwareInfo.pack ⟨interfaces⟩).length ≤ 10000) (sr : SrInstance) :
    srHandleHwinfo sr host (mType.set word (framed 16 (VnsHardwareInfo.pack ⟨interfaces⟩)))
        (baseSize + (VnsHardwareInfo.pack ⟨interfaces⟩).length) =
      pure { sr with ifList := sr.ifList ++ interfaces.map VnsInterface.record } := by
  have size : (baseSize + (VnsHardwareInfo.pack ⟨interfaces⟩).length + UInt64.size - baseSize) %
      UInt64.size = (VnsHardwareInfo.pack ⟨interfaces⟩).length := by
    rw [unsigned_sub (Nat.le_add_right _ _) (Nat.lt_of_le_of_lt fits (by decide)),
      Nat.add_sub_cancel_left]
  have small : ∀ entry ∈ interfaces.flatMap VnsInterface.announced,
      entry.1 < 0x100000000 ∧ entry.2.length = 32 := by
    intro entry listed
    obtain ⟨m, -, listed⟩ := List.mem_flatMap.mp listed
    exact m.announced_small entry listed
  have width : ∀ record ∈ (interfaces.flatMap VnsInterface.announced).map fun entry =>
      VnsInterface.packEntry entry.1 entry.2, record.length = hwEntrySize := by
    intro record listed
    obtain ⟨entry, member, rfl⟩ := List.mem_map.mp listed
    rw [VnsInterface.length_packEntry, (small entry member).2, hwEntrySize]
  have count : (VnsHardwareInfo.pack ⟨interfaces⟩).length / hwEntrySize =
      (interfaces.flatMap VnsInterface.announced).length := by
    rw [VnsHardwareInfo.pack_eq, length_flatten_of_width width, List.length_map,
      Nat.mul_div_cancel _ (by decide)]
  have here : (mType.set word (framed 16 (VnsHardwareInfo.pack ⟨interfaces⟩))).drop
      (baseSize + hwEntrySize * 0) = ((interfaces.flatMap VnsInterface.announced).map fun entry =>
        VnsInterface.packEntry entry.1 entry.2).flatten := by
    rw [Nat.mul_zero, Nat.add_zero, Span.drop_set (f := mType) (by decide), drop_framed,
      VnsHardwareInfo.pack_eq]
  rw [srHandleHwinfo, size, deriveLength_of_eq (by omega), pure_bind, count,
    hwEntriesFrom_eq small here, foldlM_interfaces]

/-- The interface list is what was announced: as long, in the same order, with the same
names and addresses. With distinct names each of them finds its own record. -/
theorem srHandleHwinfo_announced (host : Host) {sr : SrInstance} (empty : sr.ifList = [])
    (named : ∀ m ∈ interfaces, TextField 31 m.name)
    (fits : baseSize + (VnsHardwareInfo.mk interfaces).length ≤ 10000) :
    ∃ message, ltFrame 16 (VnsHardwareInfo.pack ⟨interfaces⟩) = .ok message ∧
      ∀ word, ∃ sr', srHandleHwinfo sr host (mType.set word message) message.length = pure sr' ∧
        sr'.routingTable = sr.routingTable ∧
        sr'.ifList.map (fun iface => (iface.name.chars, iface.addr, iface.ip)) =
          interfaces.map (fun m => (m.name, m.mac, m.ip)) ∧
        ((interfaces.map VnsInterface.name).Nodup → ∀ m ∈ interfaces, ∀ name : IfName,
          name.chars = m.name → ∃ iface, srGetInterface sr' name = some iface ∧
            iface.addr = m.mac ∧ iface.ip = m.ip) := by
  rw [← VnsHardwareInfo.length_pack] at fits
  have chars : ∀ m ∈ interfaces, m.record.name.chars = m.name := by
    intro m listed
    have read : text 0 (field 0 32 m.name ++ []) = m.name :=
      text_field_of_lt (named m listed).nonNul (Nat.lt_succ_of_le (named m listed).short)
    rw [List.append_nil] at read
    change text 0 ((packS 32 m.name).take 32) = m.name
    rw [List.take_of_length_le (length_packS _ _).le]
    exact read
  refine ⟨framed 16 (VnsHardwareInfo.pack ⟨interfaces⟩),
    (ltFrame_eq_ok (by decide)).mpr ⟨by omega, rfl⟩, fun word => ?_⟩
  rw [length_framed, srHandleHwinfo_eq word fits, empty, List.nil_append]
  refine ⟨_, rfl, rfl, ?_, ?_⟩
  · rw [List.map_map]
    exact List.map_congr_left fun m listed => congrArg (·, m.mac, m.ip) (chars m listed)
  · intro distinct m listed name same
    have names : ((interfaces.map VnsInterface.record).map SrIf.name).Nodup := by
      refine List.Nodup.of_map IfName.chars ?_
      rw [List.map_map, List.map_map]
      exact (List.map_congr_left chars).symm ▸ distinct
    have found := Keyed.find_of_mem names (List.mem_map_of_mem listed)
    have sought : m.record.name = name := IfName.ext_chars ((chars m listed).trans same.symm)
    rw [sought] at found
    exact ⟨m.record, found, rfl, rfl⟩

end Interfaces

/-- The interface `eth1` as the controller announces it, with a mask of 32 bits. -/
def announcedEth1 : VnsInterface :=
  ⟨eth1.chars, sampleEth1.addr, sampleEth1.ip, .replicate 4 255⟩

theorem srHandleHwinfo_announced_eth1 :
    ∃ message sr', ltFrame 16 (VnsHardwareInfo.pack ⟨[announcedEth1]⟩) = .ok message ∧
      srHandleHwinfo ⟨[], []⟩ willingHost message message.length = pure sr' ∧
      srGetInterface sr' eth1 = some sampleEth1 := by
  have named : ∀ m ∈ [announcedEth1], TextField 31 m.name := by
    intro m listed
    obtain rfl := List.mem_singleton.mp listed
    exact ⟨by decide, by decide⟩
  have fits : baseSize + (VnsHardwareInfo.mk [announcedEth1]).length ≤ 10000 := by decide
  obtain ⟨message, frames, replays⟩ := srHandleHwinfo_announced willingHost
    (show (⟨[], []⟩ : SrInstance).ifList = [] from rfl) named fits
  obtain ⟨sr', handles, -, -, finds⟩ := replays (mType.get message)
  rw [Span.set_get_self] at handles
  obtain ⟨iface, found, addr, ip⟩ := finds (List.nodup_singleton _) announcedEth1
    (List.mem_singleton_self _) eth1 rfl
  refine ⟨message, sr', frames, handles, found.trans (congrArg some ?_)⟩
  obtain ⟨name, addr', ip'⟩ := iface
  obtain rfl : name = eth1 := name_of_srGetInterface found
  cases addr
  cases ip
  rfl

end SimpleRouter
