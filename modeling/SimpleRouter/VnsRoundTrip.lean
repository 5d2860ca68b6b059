/-
# Packed messages

How long a packed message is, and what unpacking it gives.

The length that a class declares is the one of its packed messages except for two classes:
`VNSOpenTemplate` counts the template name a second time, and `VNSAuthReply` leaves its
length field out.

Unpacking undoes packing for every class that has an `unpack`.
-/

import SimpleRouter.Library.Fallible
import SimpleRouter.VnsProtocol

namespace SimpleRouter

open Buffers Fallible FixedFields

/-! ## Fields -/

section Fields

@[simp] theorem length_packS (n : ℕ) (s : Bytes) : (packS n s).length = n := length_field 0 n s

theorem packB_eq_ok {n : ℤ} {packed : Bytes} :
    packB n = .ok packed ↔ (0 ≤ n ∧ n < 0x100) ∧ packed = [.ofNat n.toNat] := by
  rw [packB]
  split_ifs with range
  · simp [range, eq_comm]
  · simp [range]

theorem packH_eq_ok {n : ℤ} {packed : Bytes} :
    packH n = .ok packed ↔
      (0 ≤ n ∧ n < 0x10000) ∧ packed = [.ofNat (n.toNat / 0x100), .ofNat n.toNat] := by
  rw [packH]
  split_ifs with range
  · simp [range, eq_comm]
  · simp [range]

theorem packI_eq_ok {n : ℤ} {packed : Bytes} :
    packI n = .ok packed ↔ (0 ≤ n ∧ n < 0x100000000) ∧ packed = (be32Bytes n.toNat).toList := by
  rw [packI]
  split_ifs with range
  · simp [range, eq_comm]
  · simp [range]

theorem beNat_packH {n : ℕ} (small : n < 0x10000) : beNat [.ofNat (n / 0x100), .ofNat n] = n := by
  simp [beNat]
  omega

theorem beNat_be32Bytes {n : ℕ} (small : n < 0x100000000) :
    beNat (be32Bytes n).toList = n := by
  simp [beNat, be32Bytes]
  omega

/-- The bytes between two others. -/
theorem slice_between {before s behind : Bytes} {i j : ℕ} (starts : before.length = i)
    (ends : before.length + s.length = j) : slice (before ++ s ++ behind) i j = s := by
  rw [slice, List.take_left' (by rw [List.length_append, ends]), ← starts, List.drop_left]

theorem slice_front {s behind : Bytes} {j : ℕ} (ends : s.length = j) :
    slice (s ++ behind) 0 j = s := by
  rw [slice, List.drop_zero, List.take_left' ends]

theorem slice_back {before s : Bytes} {i j : ℕ} (starts : before.length = i)
    (ends : before.length + s.length = j) : slice (before ++ s) i j = s := by
  rw [← List.append_nil (before ++ s), slice_between starts ends]

theorem unpackSized_eq_ok {n : ℕ} {s : Bytes} (size : s.length = n) : unpackSized n s = .ok s :=
  if_pos size

end Fields

/-! ## Lengths -/

section Lengths

variable {inetAton : Bytes → Option Ip} {body : Bytes}

theorem VnsOpen.length_pack {m : VnsOpen} (packs : m.pack = .ok body) :
    body.length = m.length := by
  obtain ⟨topoId, packsTopo, packs⟩ := bind_eq_ok.mp packs
  obtain ⟨pad, packsPad, packs⟩ := bind_eq_ok.mp packs
  cases packs
  rw [packH_eq_ok] at packsTopo packsPad
  simp only [packsTopo.2, packsPad.2, List.length_append, List.length_cons, List.length_nil,
    length_packS, VnsOpen.length]

theorem VnsClose.length_pack (m : VnsClose) : m.pack.length = m.length := length_packS _ _

theorem VnsBanner.length_pack (m : VnsBanner) : m.pack.length = m.length := length_packS _ _

theorem VnsPacket.length_pack (m : VnsPacket) : m.pack.length = m.length := by
  rw [pack, List.length_append, length_packS, length]

theorem VnsRtable.length_pack (m : VnsRtable) : m.pack.length = m.length := by
  rw [pack, List.length_append, length_packS, length, headerSize]

theorem VnsAuthStatus.length_pack (m : VnsAuthStatus) : m.pack.length = m.length := by
  rw [pack, List.length_cons, length, Nat.add_comm]

theorem VnsInterface.length_packEntry (key : ℕ) (value : Bytes) :
    (packEntry key value).length = 4 + value.length := by
  rw [packEntry, List.length_append, Vector.length_toList]

theorem VnsInterface.length_packNumber (number : Vector UInt8 4) :
    (packNumber number).length = 32 := by
  rw [packNumber, List.length_append, Vector.length_toList, length_packS]

theorem VnsInterface.length_entries (m : VnsInterface) :
    ∀ entry ∈ m.entries, entry.length = 36 := by
  intro entry listed
  simp only [entries, List.mem_cons, List.not_mem_nil, or_false] at listed
  rcases listed with rfl | rfl | rfl | rfl | rfl | rfl <;>
    simp only [length_packEntry, length_packNumber, length_packS]

theorem VnsInterface.length_pack (m : VnsInterface) : m.pack.length = size := by
  rw [pack, length_flatten_of_width m.length_entries]
  simp only [entries, List.length_cons, List.length_nil, size]

theorem VnsHardwareInfo.length_pack (m : VnsHardwareInfo) : m.pack.length = m.length := by
  have same : ∀ record ∈ m.interfaces.map VnsInterface.pack, record.length = VnsInterface.size := by
    intro record listed
    obtain ⟨interface, -, rfl⟩ := List.mem_map.mp listed
    exact interface.length_pack
  rw [pack, length_flatten_of_width same, List.length_map, length]

theorem VnsOpenTemplate.length_packFilter {filter : Bytes × ℤ} {packed : Bytes}
    (packs : packFilter inetAton filter = .ok packed) : packed.length = 5 := by
  rw [packFilter] at packs
  cases known : inetAton filter.1 with
  | none =>
    rw [known] at packs
    cases packs
  | some ip =>
    rw [known] at packs
    obtain ⟨mask, packsMask, packs⟩ := bind_eq_ok.mp packs
    cases packs
    rw [packB_eq_ok] at packsMask
    rw [packsMask.2, List.length_append, Vector.length_toList]
    rfl

/-- A template message is 30 bytes shorter than it says. -/
theorem VnsOpenTemplate.length_pack {m : VnsOpenTemplate} (packs : m.pack inetAton = .ok body) :
    m.length = body.length + 30 := by
  obtain ⟨records, loops, packs⟩ := bind_eq_ok.mp packs
  cases packs
  have same : ∀ record ∈ records, record.length = 5 := by
    intro record listed
    obtain ⟨filter, -, packsFilter⟩ := exists_of_mapM loops record listed
    exact length_packFilter packsFilter
  rw [mapM_eq_ok] at loops
  simp only [List.length_append, length_packS, length_flatten_of_width same, ← loops.length_eq,
    length, headerSize]
  omega

/-- A reply is 4 bytes longer than it says. -/
theorem VnsAuthReply.length_pack {m : VnsAuthReply} (packs : m.pack = .ok body) :
    body.length = m.length + 4 := by
  obtain ⟨usernameLen, packsLen, packs⟩ := bind_eq_ok.mp packs
  cases packs
  rw [packI_eq_ok] at packsLen
  simp only [packsLen.2, List.length_append, Vector.length_toList, length]
  omega

/-- A packed message is as long as its class says, except for templates and replies. -/
theorem length_pack_iff {m : VnsMessage} (packs : m.pack inetAton = .ok body) :
    m.length = body.length ↔ m.getType ≠ 64 ∧ m.getType ≠ 256 := by
  cases m with
  | vnsOpen m => simp [VnsMessage.length, VnsMessage.getType, VnsOpen.length_pack packs]
  | vnsClose m => cases packs; simp [VnsMessage.length, VnsMessage.getType, VnsClose.length_pack]
  | vnsPacket m => cases packs; simp [VnsMessage.length, VnsMessage.getType, VnsPacket.length_pack]
  | vnsBanner m => cases packs; simp [VnsMessage.length, VnsMessage.getType, VnsBanner.length_pack]
  | vnsHardwareInfo m =>
    cases packs
    simp [VnsMessage.length, VnsMessage.getType, VnsHardwareInfo.length_pack]
  | vnsRtable m => cases packs; simp [VnsMessage.length, VnsMessage.getType, VnsRtable.length_pack]
  | vnsOpenTemplate m =>
    simp [VnsMessage.length, VnsMessage.getType, VnsOpenTemplate.length_pack packs]
  | vnsAuthRequest m =>
    cases packs
    simp [VnsMessage.length, VnsMessage.getType, VnsAuthRequest.length, VnsAuthRequest.pack]
  | vnsAuthReply m => simp [VnsMessage.length, VnsMessage.getType, VnsAuthReply.length_pack packs]
  | vnsAuthStatus m =>
    cases packs
    simp [VnsMessage.length, VnsMessage.getType, VnsAuthStatus.length_pack]

end Lengths

/-- The canonical addresses in four bytes. Other texts are refused here. -/
def dottedQuad (s : Bytes) : Option Ip :=
  match (s.splitOn 46).map fun part => part.foldl (fun n c => n * 10 + (c.toNat - 48)) 0 with
  | [a, b, c, d] =>
    let ip : Ip := #v[.ofNat a, .ofNat b, .ofNat c, .ofNat d]
    if inetNtoa ip = s then some ip else none
  | _ => none

/-- A request with a salt of three bytes. -/
def saltRequest : VnsMessage := .vnsAuthRequest ⟨[7, 0, 9]⟩

theorem length_pack_iff_saltRequest : saltRequest.length = 3 := by
  have packs : saltRequest.pack dottedQuad = .ok [7, 0, 9] := rfl
  exact (length_pack_iff packs).mpr ⟨by decide, by decide⟩

/-- The reply of a user `"u"` with an empty hash, and a template without a name. -/
def shortReply : VnsMessage := .vnsAuthReply ⟨[117], []⟩
def emptyTemplate : VnsMessage := .vnsOpenTemplate (.new [] [] [])

/-- Both are packed, in 5 and in 67 bytes, and say 1 and 97. -/
theorem length_ne_shortReply_emptyTemplate :
    ((shortReply.pack dottedQuad).map List.length = .ok 5 ∧ shortReply.length = 1) ∧
      (emptyTemplate.pack dottedQuad).map List.length = .ok 67 ∧ emptyTemplate.length = 97 := by
  decide

/-! ## Round trips -/

/-- A text that a field of width `n` holds, without any NUL. -/
structure TextField (n : ℕ) (s : Bytes) : Prop where
  short : s.length ≤ n
  nonNul : 0 ∉ s

/-- An address as `inet_ntoa` writes it. -/
def Canonical (ip : Bytes) : Prop := ∃ v, ip = inetNtoa v

/-- The texts fit into their fields, the topology has 16 bits, and the source filters are
canonical addresses with up to 32 bits. -/
def VnsMessage.WellFormed : VnsMessage → Prop
  | vnsOpen m => (0 ≤ m.topoId ∧ m.topoId < 0x10000) ∧
      TextField idsize m.vhost ∧ TextField idsize m.user ∧ TextField idsize m.pw
  | vnsClose m => TextField textSize m.msg
  | vnsPacket m => TextField VnsPacket.headerSize m.intfName
  | vnsBanner m => TextField textSize m.msg
  -- There is nothing to unpack it.
  | vnsHardwareInfo _ => False
  | vnsRtable m => TextField idsize m.vrhost
  | vnsOpenTemplate m => TextField 30 m.templateName ∧ TextField idsize m.vrhost ∧
      ∀ filter ∈ m.srcFilters, Canonical filter.1 ∧ 0 ≤ filter.2 ∧ filter.2 ≤ 32
  | vnsAuthRequest _ => True
  | vnsAuthReply _ => True
  | vnsAuthStatus _ => True

/-- The length field of a reply holds the length of the user name. -/
def VnsMessage.NameCounted : VnsMessage → Prop
  | vnsAuthReply m => m.username.length < 0x100000000
  | _ => True

/-- The message is packed, and unpacking gives it back. -/
def VnsMessage.RoundTrips (inetAton : Bytes → Option Ip) (m : VnsMessage) : Prop :=
  ∃ body, m.pack inetAton = .ok body ∧ unpack m.getType body = some (.ok m)

section RoundTrips

variable {inetAton : Bytes → Option Ip}

theorem stripNullChars_packS {n : ℕ} {s : Bytes} (text : TextField n s) :
    stripNullChars (packS n s) = s := by
  rw [stripNullChars, packS, strip_field text.nonNul, List.take_of_length_le text.short]

/-- Unpacking an open message takes its fields apart. -/
theorem VnsOpen.unpack_fields {topoId pad vhost user pw : Bytes} (two : topoId.length = 2)
    (twoMore : pad.length = 2) (hostSize : vhost.length = idsize) (userSize : user.length = idsize)
    (pwSize : pw.length = idsize) :
    unpack (topoId ++ pad ++ vhost ++ user ++ pw) =
      .ok ⟨beNat topoId, stripNullChars vhost, stripNullChars user, stripNullChars pw⟩ := by
  simp only [idsize] at hostSize userSize pwSize
  have t0 : slice (topoId ++ pad ++ vhost ++ user ++ pw) 0 2 = topoId := by
    simp only [List.append_assoc]
    exact slice_front two
  have t2 : slice (topoId ++ pad ++ vhost ++ user ++ pw) 4 36 = vhost := by
    rw [List.append_assoc]
    exact slice_between (by rw [List.length_append, two, twoMore])
      (by rw [List.length_append, two, twoMore, hostSize])
  have t3 : slice (topoId ++ pad ++ vhost ++ user ++ pw) 36 68 = user :=
    slice_between (by simp only [List.length_append, two, twoMore, hostSize])
      (by simp only [List.length_append, two, twoMore, hostSize, userSize])
  have t4 : slice (topoId ++ pad ++ vhost ++ user ++ pw) 68 100 = pw :=
    slice_back (by simp only [List.length_append, two, twoMore, hostSize, userSize])
      (by simp only [List.length_append, two, twoMore, hostSize, userSize, pwSize])
  rw [unpack, unpackSized_eq_ok (by
    simp only [List.length_append, two, twoMore, hostSize, userSize, pwSize])]
  change Except.ok (VnsOpen.mk _ _ _ _) = _
  rw [t0, t2, t3, t4]

theorem VnsOpen.unpack_pack {m : VnsOpen} (topo : 0 ≤ m.topoId ∧ m.topoId < 0x10000)
    (vhost : TextField idsize m.vhost) (user : TextField idsize m.user)
    (pw : TextField idsize m.pw) : ∃ body, m.pack = .ok body ∧ unpack body = .ok m := by
  obtain ⟨topoId, packsTopo⟩ : ∃ topoId, packH m.topoId = .ok topoId :=
    ⟨_, packH_eq_ok.mpr ⟨topo, rfl⟩⟩
  obtain ⟨pad, packsPad⟩ : ∃ pad, packH 0 = .ok pad := ⟨_, rfl⟩
  refine ⟨topoId ++ pad ++ packS idsize m.vhost ++ packS idsize m.user ++ packS idsize m.pw,
    by rw [pack, packsTopo, packsPad]; rfl, ?_⟩
  rw [packH_eq_ok] at packsTopo packsPad
  have number : (beNat topoId : ℤ) = m.topoId := by
    rw [packsTopo.2, beNat_packH (by omega)]
    exact Int.toNat_of_nonneg topo.1
  rw [unpack_fields (by rw [packsTopo.2]; rfl) (by rw [packsPad.2]; rfl) (length_packS _ _)
    (length_packS _ _) (length_packS _ _), number, stripNullChars_packS vhost,
    stripNullChars_packS user, stripNullChars_packS pw]

theorem VnsClose.unpack_pack {m : VnsClose} (msg : TextField textSize m.msg) :
    unpack m.pack = .ok m := by
  rw [unpack, pack, unpackSized_eq_ok (length_packS _ _)]
  change Except.ok (VnsClose.mk (stripNullChars (packS textSize m.msg))) = _
  rw [stripNullChars_packS msg]

theorem VnsBanner.unpack_pack {m : VnsBanner} (msg : TextField textSize m.msg) :
    unpack m.pack = .ok m := by
  rw [unpack, pack, unpackSized_eq_ok (length_packS _ _)]
  change Except.ok (VnsBanner.mk (stripNullChars (packS textSize m.msg))) = _
  rw [stripNullChars_packS msg]

/-- Unpacking a packet message gives its frame, and the name as far as it was stored. -/
theorem VnsPacket.unpack_header {header : Bytes} (size : header.length = headerSize)
    (ethernetFrame : Bytes) :
    unpack (header ++ ethernetFrame) = .ok ⟨stripNullChars header, ethernetFrame⟩ := by
  rw [unpack, slice_front size, unpackSized_eq_ok size, List.drop_left' size]
  rfl

theorem VnsPacket.unpack_pack {m : VnsPacket} (intfName : TextField headerSize m.intfName) :
    unpack m.pack = .ok m := by
  rw [pack, unpack_header (length_packS _ _), stripNullChars_packS intfName]

theorem VnsRtable.unpack_pack {m : VnsRtable} (vrhost : TextField idsize m.vrhost) :
    unpack m.pack = m := by
  rw [pack, unpack, slice_front (length_packS _ _), List.drop_left' (length_packS _ _),
    stripNullChars_packS vrhost]

/-- Unpacking a reply takes the name and the rest apart. -/
theorem VnsAuthReply.unpack_fields {username : Bytes} (counted : username.length < 0x100000000)
    (ssp : Bytes) : unpack ((be32Bytes username.length).toList ++ username ++ ssp) =
      .ok ⟨username, ssp⟩ := by
  have four : (be32Bytes username.length).toList.length = 4 := Vector.length_toList
  rw [List.append_assoc, unpack, slice_front four, unpackSized_eq_ok four, List.drop_left' four]
  change Except.ok (VnsAuthReply.mk _ _) = _
  rw [beNat_be32Bytes counted, slice_front rfl, List.drop_left]

theorem VnsAuthReply.unpack_pack {m : VnsAuthReply} (counted : m.username.length < 0x100000000) :
    ∃ body, m.pack = .ok body ∧ unpack body = .ok m := by
  have packsLen : packI m.username.length = .ok (be32Bytes m.username.length).toList := by
    rw [packI_eq_ok]
    exact ⟨by omega, rfl⟩
  exact ⟨(be32Bytes m.username.length).toList ++ m.username ++ m.ssp,
    by rw [pack, packsLen]; rfl, unpack_fields counted m.ssp⟩

theorem VnsAuthStatus.unpack_pack (m : VnsAuthStatus) : unpack m.pack = .ok m := by
  obtain ⟨authOk, msg⟩ := m
  cases authOk <;> rfl

end RoundTrips

/-! ### Source filters -/

section Filters

variable {inetAton : Bytes → Option Ip}

theorem VnsOpenTemplate.packFilter_eq_ok (inverse : ∀ v, inetAton (inetNtoa v) = some v) {v : Ip}
    {mask : ℤ} (range : 0 ≤ mask ∧ mask ≤ 32) :
    packFilter inetAton (inetNtoa v, mask) = .ok (v.toList ++ [.ofNat mask.toNat]) := by
  have packsMask : packB mask = .ok [.ofNat mask.toNat] := packB_eq_ok.mpr ⟨by omega, rfl⟩
  rw [packFilter, inverse, packsMask]
  rfl

/-- A round of the loop finds the filter that begins there. -/
theorem VnsOpenTemplate.unpackFilter_of_drop {sfBytes behind : Bytes} {i : ℕ} {v : Ip} {mask : ℤ}
    (range : 0 ≤ mask ∧ mask ≤ 32)
    (here : sfBytes.drop (i * 5) = v.toList ++ [.ofNat mask.toNat] ++ behind) :
    unpackFilter sfBytes i = .ok (inetNtoa v, mask) := by
  have counted := congrArg List.length here
  simp only [List.length_drop, List.length_append, Vector.length_toList, List.length_cons,
    List.length_nil] at counted
  have address : (⟨i * 5⟩ : Span 4).get sfBytes = v := by
    have inside : (⟨i * 5⟩ : Span 4).Fits sfBytes := by
      change i * 5 + 4 ≤ sfBytes.length
      omega
    apply Vector.toList_inj.mp
    rw [Span.toList_get inside, here, List.append_assoc, List.take_left' Vector.length_toList]
  have byte : hostU8 ((⟨i * 5 + 4⟩ : Span 1).get sfBytes) = .ofNat mask.toNat := by
    have cell : (sfBytes.drop (i * 5))[4]? = sfBytes[i * 5 + 4]? := List.getElem?_drop
    rw [here, List.append_assoc, List.getElem?_append_right (by rw [Vector.length_toList])] at cell
    rw [hostU8, Span.getElem_get, Nat.add_zero, ← cell]
    simp
  have number : ((UInt8.ofNat mask.toNat).toNat : ℤ) = mask := by
    rw [UInt8.toNat_ofNat']
    omega
  rw [unpackFilter, address, byte, number]
  exact if_neg (by omega)

/-- A list of canonical filters comes from one of addresses in four bytes. -/
theorem exists_known_filters {filters : List (Bytes × ℤ)}
    (canonical : ∀ filter ∈ filters, Canonical filter.1) :
    ∃ known : List (Ip × ℤ), filters = known.map (Prod.map inetNtoa id) := by
  induction filters with
  | nil => exact ⟨[], rfl⟩
  | cons filter later ih =>
    rw [List.forall_mem_cons] at canonical
    obtain ⟨v, written⟩ := canonical.1
    obtain ⟨known, rfl⟩ := ih canonical.2
    refine ⟨(v, filter.2) :: known, ?_⟩
    rw [List.map_cons, Prod.map, ← written]
    rfl

/-- The record of a filter. -/
def filterRecord (filter : Ip × ℤ) : Bytes := filter.1.toList ++ [.ofNat filter.2.toNat]

theorem length_filterRecords (known : List (Ip × ℤ)) :
    ∀ record ∈ known.map filterRecord, record.length = 5 := by
  intro record listed
  obtain ⟨filter, -, rfl⟩ := List.mem_map.mp listed
  rw [filterRecord, List.length_append, Vector.length_toList]
  rfl

variable {known : List (Ip × ℤ)}

theorem VnsOpenTemplate.mapM_packFilter (inverse : ∀ v, inetAton (inetNtoa v) = some v)
    (range : ∀ filter ∈ known, 0 ≤ filter.2 ∧ filter.2 ≤ 32) :
    (known.map (Prod.map inetNtoa id)).mapM (packFilter inetAton) =
      .ok (known.map filterRecord) := by
  rw [mapM_eq_ok, List.forall₂_map_left_iff, List.forall₂_map_right_iff, List.forall₂_same]
  exact fun filter listed => packFilter_eq_ok inverse (range filter listed)

/-- The loop over the filters finds each of them. -/
theorem VnsOpenTemplate.mapM_unpackFilter
    (range : ∀ filter ∈ known, 0 ≤ filter.2 ∧ filter.2 ≤ 32) :
    (List.range ((known.map filterRecord).flatten.length / 5)).mapM
        (unpackFilter (known.map filterRecord).flatten) =
      .ok (known.map (Prod.map inetNtoa id)) := by
  have same := length_filterRecords known
  have count : (known.map filterRecord).flatten.length / 5 =
      (known.map (Prod.map inetNtoa id)).length := by
    rw [length_flatten_of_width same, List.length_map, List.length_map,
      Nat.mul_div_cancel _ (by decide)]
  rw [count]
  refine mapM_range_eq_pure fun i inside => ?_
  have inside' : i < known.length := by simpa using inside
  have here := drop_flatten same (i := i) (by simpa using inside')
  rw [List.getElem_map, filterRecord] at here
  rw [List.getElem_map]
  exact unpackFilter_of_drop (range _ (List.getElem_mem inside')) here

/-- A template message that ends behind its header has no filters. -/
theorem VnsOpenTemplate.unpack_header {templateName vrhost : Bytes}
    (nameSize : templateName.length = 30) (hostSize : vrhost.length = idsize) :
    unpack (templateName ++ vrhost) =
      .ok (new (stripNullChars templateName) (stripNullChars vrhost) []) := by
  have size : (templateName ++ vrhost).length = headerSize := by
    rw [List.length_append, nameSize, hostSize, headerSize]
  have whole : slice (templateName ++ vrhost) 0 headerSize = templateName ++ vrhost := by
    rw [slice, List.drop_zero, List.take_of_length_le size.le]
  rw [unpack, whole, unpackSized_eq_ok size, List.drop_eq_nil_of_le size.le]
  change Except.ok (new _ _ []) = _
  rw [slice_front nameSize, slice_back nameSize (by rw [nameSize, hostSize]; rfl)]

theorem VnsOpenTemplate.unpack_pack {m : VnsOpenTemplate}
    (inverse : ∀ v, inetAton (inetNtoa v) = some v) (templateName : TextField 30 m.templateName)
    (vrhost : TextField idsize m.vrhost)
    (filters : ∀ filter ∈ m.srcFilters, Canonical filter.1 ∧ 0 ≤ filter.2 ∧ filter.2 ≤ 32) :
    ∃ body, m.pack inetAton = .ok body ∧ unpack body = .ok m := by
  obtain ⟨known, listed⟩ := exists_known_filters fun filter listed => (filters filter listed).1
  have range : ∀ filter ∈ known, 0 ≤ filter.2 ∧ filter.2 ≤ 32 := by
    intro filter member
    have given := filters (Prod.map inetNtoa id filter)
      (listed ▸ List.mem_map_of_mem member)
    exact given.2
  refine ⟨packS 30 m.templateName ++ packS idsize m.vrhost ++ (known.map filterRecord).flatten,
    ?_, ?_⟩
  · rw [pack, listed, mapM_packFilter inverse range]
    rfl
  · have size : (packS 30 m.templateName ++ packS idsize m.vrhost).length = headerSize := by
      rw [List.length_append, length_packS, length_packS, headerSize]
    rw [unpack, slice_front size, unpackSized_eq_ok size, List.drop_left' size]
    simp only [mapM_unpackFilter range, ← listed]
    change Except.ok (new _ _ m.srcFilters) = _
    rw [slice_front (length_packS _ _), slice_back (length_packS _ _) (by
      rw [length_packS, length_packS]; rfl), stripNullChars_packS templateName,
      stripNullChars_packS vrhost, new, dif_pos m.filtered]

end Filters

/-- The filters of a message without any are canonical. -/
theorem canonical_noSrcFilters : ∀ filter ∈ VnsOpenTemplate.noSrcFilters,
    Canonical filter.1 ∧ 0 ≤ filter.2 ∧ filter.2 ≤ 32 := by
  intro filter listed
  obtain rfl := List.mem_singleton.mp listed
  exact ⟨⟨.replicate 4 0, by decide⟩, by decide, by decide⟩

/-- A message comes back if its class gives its value back. -/
theorem roundTrips_of_unpack {inetAton : Bytes → Option Ip} {β : Type} {make : β → VnsMessage}
    {value : β} {body : Bytes} {unpacked : Except VnsError β}
    (packs : (make value).pack inetAton = .ok body)
    (dispatches : VnsMessage.unpack (make value).getType body = some (make <$> unpacked))
    (unpacks : unpacked = .ok value) : (make value).RoundTrips inetAton := by
  refine ⟨body, packs, ?_⟩
  rw [dispatches, unpacks]
  rfl

/-- Packing and unpacking give a message back, for every class that has an `unpack`. An
empty list of source filters comes back as the filter that lets everything through. -/
theorem roundTrips {inetAton : Bytes → Option Ip}
    (inverse : ∀ v, inetAton (inetNtoa v) = some v) :
    (∀ m : VnsMessage, m.WellFormed → m.NameCounted → m.RoundTrips inetAton) ∧
      ∀ templateName vrhost : Bytes, TextField 30 templateName → TextField idsize vrhost →
        (VnsMessage.vnsOpenTemplate (.new templateName vrhost [])).RoundTrips inetAton ∧
          (VnsOpenTemplate.new templateName vrhost []).srcFilters =
            VnsOpenTemplate.noSrcFilters := by
  constructor
  · intro m wellFormed counted
    cases m with
    | vnsOpen m =>
      obtain ⟨topo, vhost, user, pw⟩ := wellFormed
      obtain ⟨body, packs, unpacks⟩ := VnsOpen.unpack_pack topo vhost user pw
      exact roundTrips_of_unpack packs rfl unpacks
    | vnsClose m =>
      exact roundTrips_of_unpack rfl rfl (VnsClose.unpack_pack wellFormed)
    | vnsPacket m =>
      exact roundTrips_of_unpack rfl rfl (VnsPacket.unpack_pack wellFormed)
    | vnsBanner m =>
      exact roundTrips_of_unpack rfl rfl (VnsBanner.unpack_pack wellFormed)
    | vnsHardwareInfo m => exact wellFormed.elim
    | vnsRtable m =>
      exact ⟨m.pack, rfl, congrArg (fun r => some (Except.ok (VnsMessage.vnsRtable r)))
        (VnsRtable.unpack_pack wellFormed)⟩
    | vnsOpenTemplate m =>
      obtain ⟨templateName, vrhost, filters⟩ := wellFormed
      obtain ⟨body, packs, unpacks⟩ :=
        VnsOpenTemplate.unpack_pack inverse templateName vrhost filters
      exact roundTrips_of_unpack packs rfl unpacks
    | vnsAuthRequest m => exact ⟨m.pack, rfl, rfl⟩
    | vnsAuthReply m =>
      obtain ⟨body, packs, unpacks⟩ := VnsAuthReply.unpack_pack counted
      exact roundTrips_of_unpack packs rfl unpacks
    | vnsAuthStatus m =>
      exact roundTrips_of_unpack rfl rfl m.unpack_pack
  · intro templateName vrhost name host
    obtain ⟨body, packs, unpacks⟩ := VnsOpenTemplate.unpack_pack
      (m := VnsOpenTemplate.new templateName vrhost []) inverse name host
      canonical_noSrcFilters
    exact ⟨roundTrips_of_unpack packs rfl unpacks, rfl⟩

/-- A byte is what its decimal digits say, and none of them is a dot. -/
theorem decimal_digits : ∀ n < 256,
    ((Nat.toDigits 10 n).map fun c => UInt8.ofNat c.toNat).foldl
        (fun n c => n * 10 + (c.toNat - 48)) 0 = n ∧
      (46 : UInt8) ∉ (Nat.toDigits 10 n).map fun c => UInt8.ofNat c.toNat := by
  decide +kernel

theorem dottedQuad_inetNtoa (v : Ip) : dottedQuad (inetNtoa v) = some v := by
  have parts : (inetNtoa v).splitOn 46 =
      v.toList.map fun b => (Nat.toDigits 10 b.toNat).map fun c => .ofNat c.toNat := by
    refine List.splitOn_intercalate 46 (fun part listed => ?_) (by simp)
    obtain ⟨b, -, rfl⟩ := List.mem_map.mp listed
    exact (decimal_digits b.toNat b.toNat_lt).2
  have values : ((inetNtoa v).splitOn 46).map
      (fun part => part.foldl (fun n c => n * 10 + (c.toNat - 48)) 0) =
      v.toList.map UInt8.toNat := by
    rw [parts, List.map_map]
    exact List.map_congr_left fun b _ => (decimal_digits b.toNat b.toNat_lt).1
  obtain ⟨a, b, c, d, rfl⟩ : ∃ a b c d, v = #v[a, b, c, d] :=
    ⟨v[0], v[1], v[2], v[3], by ext i inside; rcases i with _ | _ | _ | _ | i <;> simp; omega⟩
  rw [dottedQuad, values]
  simp

/-- A template for two networks, and a packet whose frame has NULs in it. -/
def filteredTemplate : VnsMessage :=
  .vnsOpenTemplate (.new [116] [104] [(inetNtoa #v[10, 0, 1, 0], 24), (inetNtoa #v[0, 9, 0, 0], 0)])

theorem roundTrips_filteredTemplate : filteredTemplate.RoundTrips dottedQuad := by
  refine (roundTrips dottedQuad_inetNtoa).1 filteredTemplate ⟨⟨by decide, by decide⟩,
    ⟨by decide, by decide⟩, ?_⟩ trivial
  intro filter listed
  change filter ∈ [(inetNtoa _, 24), (inetNtoa _, 0)] at listed
  simp only [List.mem_cons, List.not_mem_nil, or_false] at listed
  rcases listed with rfl | rfl
  · exact ⟨⟨_, rfl⟩, by decide, by decide⟩
  · exact ⟨⟨_, rfl⟩, by decide, by decide⟩

/-- A reply whose user name has 2^32 bytes is well formed, but it is not packed. -/
theorem not_roundTrips_longName :
    (VnsMessage.vnsAuthReply ⟨List.replicate 0x100000000 117, []⟩).WellFormed ∧
      ¬ (VnsMessage.vnsAuthReply ⟨List.replicate 0x100000000 117, []⟩).RoundTrips dottedQuad := by
  refine ⟨trivial, ?_⟩
  rintro ⟨body, packs, -⟩
  obtain ⟨usernameLen, packsLen, -⟩ := bind_eq_ok.mp packs
  have small := (packI_eq_ok.mp packsLen).1.2
  rw [List.length_replicate] at small
  exact absurd small (by decide)

end SimpleRouter
