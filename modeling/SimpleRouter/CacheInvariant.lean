/-
# The invariant of the ARP cache

No two valid entries map one address, no two requests ask for one address, no
address is both mapped and asked for, and what waits on a request is a packet for
its address that already carries the hardware address of its outgoing interface.

None of this is checked by the operations. Entering a mapping keeps it only for an
address that is not mapped yet, and so does queueing a packet. Whatever else a
development wants to know about the waiting packets travels along as `keeps`.
-/

import Mathlib.Data.List.Infix
import SimpleRouter.ArpRequests

namespace SimpleRouter

open Buffers Effects

/-- No two valid entries map one address. -/
def UniqueEntries (entries : Vector SrArpentry srArpcacheSz) : Prop :=
  ∀ i j, ∀ (hi : i < srArpcacheSz) (hj : j < srArpcacheSz), entries[i].valid → entries[j].valid →
    entries[i].ip = entries[j].ip → i = j

/-- A packet that may wait on the request for an address. -/
structure Waiting (sr : SrInstance) (ip : Ip) (packet : SrPacket) : Prop where
  long : 34 ≤ packet.buf.length
  dst : ipDst.get packet.buf = ip
  shost : ∃ iface, srGetInterface sr packet.iface = some iface ∧
    etherShost.get packet.buf = iface.addr

/-- The invariant of the ARP cache, with a property `keeps` of the packets that
wait for an address. -/
structure CacheInv (sr : SrInstance) (keeps : Ip → SrPacket → Prop) (cache : SrArpcache) :
    Prop where
  unique : UniqueEntries cache.entries
  oneRequest : (cache.requests.map SrArpreq.ip).Nodup
  unresolved : ∀ req ∈ cache.requests, ¬ cache.Resolved req.ip
  occupied : ∀ req ∈ cache.requests, req.packets ≠ []
  waiting : ∀ req ∈ cache.requests, ∀ packet ∈ req.packets, Waiting sr req.ip packet
  kept : ∀ req ∈ cache.requests, ∀ packet ∈ req.packets, keeps req.ip packet

variable {sr : SrInstance} {keeps : Ip → SrPacket → Prop} {now : ℤ} {rounds : ℕ}
  {cache cache' : SrArpcache} {ip : Ip} {arpreq : ℕ}

/-! ## Mapped addresses -/

theorem resolved_iff : cache.Resolved ip ↔
    ∃ i, ∃ h : i < srArpcacheSz, cache.entries[i].valid ∧ cache.entries[i].ip = ip := by
  constructor
  · rintro ⟨entry, listed, valid, rfl⟩
    obtain ⟨i, inside, rfl⟩ := List.mem_iff_getElem.mp listed
    have bound : i < srArpcacheSz := by simpa using inside
    exact ⟨i, bound, by simpa using valid, by simp⟩
  · rintro ⟨i, h, valid, rfl⟩
    exact ⟨cache.entries[i], by simp, valid, rfl⟩

/-- At first no address is mapped. -/
theorem not_resolved_init (ip : Ip) : ¬ srArpcacheInit.Resolved ip := by
  rintro ⟨entry, listed, valid, -⟩
  simp only [srArpcacheInit, Vector.toList_replicate, List.mem_replicate] at listed
  rw [listed.2] at valid
  cases valid

/-- The table decides which addresses are mapped. -/
theorem resolved_congr (same : cache'.entries = cache.entries) :
    cache'.Resolved ip ↔ cache.Resolved ip := by
  unfold SrArpcache.Resolved
  rw [same]

private theorem getElem_expire {curtime : ℤ} {i : ℕ} (h : i < srArpcacheSz)
    (valid : (expireEntries curtime cache).entries[i].valid) :
    (expireEntries curtime cache).entries[i] = cache.entries[i] := by
  simp only [expireEntries, Vector.getElem_map] at valid ⊢
  split at valid
  · cases valid
  · rename_i keep
    exact if_neg keep

/-- Expiry maps no new address. -/
theorem resolved_of_expire {curtime : ℤ} (h : (expireEntries curtime cache).Resolved ip) :
    cache.Resolved ip := by
  obtain ⟨i, inside, valid, mapped⟩ := resolved_iff.mp h
  have same := getElem_expire inside valid
  rw [same] at valid mapped
  exact resolved_iff.mpr ⟨i, inside, valid, mapped⟩

/-- Entering a mapping maps at most that one new address. -/
theorem resolved_of_insert {mac : Mac} {other : Ip}
    (h : (srArpcacheInsert now cache mac ip).1.Resolved other) :
    other = ip ∨ cache.Resolved other := by
  obtain ⟨i, inside, valid, mapped⟩ := resolved_iff.mp h
  rcases fillSlot_cases now mac ip cache.entries with ⟨full, -⟩ | ⟨j, hj, -, filled⟩
  · simp only [srArpcacheInsert, full] at valid mapped
    exact .inr (resolved_iff.mpr ⟨i, inside, valid, mapped⟩)
  · simp only [srArpcacheInsert, filled, Vector.getElem_set] at valid mapped
    split at valid
    · rename_i same
      rw [if_pos same] at mapped
      exact .inl mapped.symm
    · rename_i different
      rw [if_neg different] at mapped
      exact .inr (resolved_iff.mpr ⟨i, inside, valid, mapped⟩)

/-! ## Looking up an address -/

/-- In a table without two entries for one address, a lookup finds whatever entry there is. -/
theorem srArpcacheLookup_eq_some_iff (unique : UniqueEntries cache.entries) {entry : SrArpentry} :
    srArpcacheLookup cache ip = some entry ↔
      entry ∈ cache.entries.toList ∧ entry.valid ∧ entry.ip = ip := by
  refine ⟨srArpcacheLookup_eq_some, fun ⟨listed, valid, mapped⟩ => ?_⟩
  cases found : srArpcacheLookup cache ip with
  | none => exact absurd ⟨entry, listed, valid, mapped⟩ (srArpcacheLookup_eq_none_iff.mp found)
  | some other =>
    obtain ⟨listed', valid', mapped'⟩ := srArpcacheLookup_eq_some found
    obtain ⟨i, hi, rfl⟩ := Vector.mem_iff_getElem.mp (Vector.mem_toList_iff.mp listed)
    obtain ⟨j, hj, rfl⟩ := Vector.mem_iff_getElem.mp (Vector.mem_toList_iff.mp listed')
    obtain rfl := unique i j hi hj valid valid' (mapped.trans mapped'.symm)
    rfl

/-- Expiry takes away what a lookup would have found if that is too old. -/
theorem srArpcacheLookup_expire (unique : UniqueEntries cache.entries) {curtime : ℤ}
    (unique' : UniqueEntries (expireEntries curtime cache).entries) (ip : Ip) :
    srArpcacheLookup (expireEntries curtime cache) ip =
      (srArpcacheLookup cache ip).filter fun entry => curtime - entry.added ≤ srArpcacheTo := by
  ext entry
  rw [srArpcacheLookup_eq_some_iff unique', Option.filter_eq_some_iff,
    srArpcacheLookup_eq_some_iff unique]
  simp only [expireEntries, Vector.toList_map, List.mem_map, decide_eq_true_eq]
  constructor
  · rintro ⟨⟨old, listed, rfl⟩, valid, mapped⟩
    by_cases late : old.valid ∧ curtime - old.added > srArpcacheTo
    · rw [if_pos late] at valid
      cases valid
    · rw [if_neg late] at valid mapped ⊢
      exact ⟨⟨listed, valid, mapped⟩, Int.not_lt.mp fun old => late ⟨valid, old⟩⟩
  · rintro ⟨⟨listed, valid, mapped⟩, young⟩
    refine ⟨⟨entry, listed, ?_⟩, valid, mapped⟩
    exact if_neg fun late => Int.not_lt.mpr young late.2

/-- With a free slot, an address can be entered without a duplicate only if it was not
mapped. -/
theorem fresh_of_insert {now : ℤ} {mac : Mac} (room : cache.HasRoom)
    (unique' : UniqueEntries (srArpcacheInsert now cache mac ip).1.entries) :
    ¬ cache.Resolved ip := by
  intro resolved
  obtain ⟨i, hi, free, filled⟩ := fillSlot_of_hasRoom room now mac ip
  obtain ⟨j, hj, valid, mapped⟩ := resolved_iff.mp resolved
  have other : i ≠ j := by
    rintro rfl
    rw [free] at valid
    cases valid
  have table : (srArpcacheInsert now cache mac ip).1.entries =
      cache.entries.set i ⟨mac, ip, now, true⟩ hi := filled
  rw [table] at unique'
  refine other (unique' i j hi hj ?_ ?_ ?_)
  · rw [Vector.getElem_set_self]
  · rwa [Vector.getElem_set_ne _ _ other]
  · rw [Vector.getElem_set_self, Vector.getElem_set_ne _ _ other, mapped]

/-! ## The operations keep the invariant -/

/-- The empty cache. -/
theorem cacheInv_init : CacheInv sr keeps srArpcacheInit where
  unique := by
    intro i j hi hj valid
    simp [srArpcacheInit] at valid
  oneRequest := List.nodup_nil
  unresolved := by simp [srArpcacheInit]
  occupied := by simp [srArpcacheInit]
  waiting := by simp [srArpcacheInit]
  kept := by simp [srArpcacheInit]

/-- Expiry keeps the invariant. -/
theorem CacheInv.expire (inv : CacheInv sr keeps cache) (curtime : ℤ) :
    CacheInv sr keeps (expireEntries curtime cache) where
  unique := by
    intro i j hi hj first second same
    -- What is still valid has not been touched.
    rw [getElem_expire hi first, getElem_expire hj second] at same
    rw [getElem_expire hi first] at first
    rw [getElem_expire hj second] at second
    exact inv.unique i j hi hj first second same
  oneRequest := inv.oneRequest
  unresolved req listed resolved := inv.unresolved req listed (resolved_of_expire resolved)
  occupied := inv.occupied
  waiting := inv.waiting
  kept := inv.kept

/-- An address that is not mapped yet may be entered. -/
theorem CacheInv.insert (inv : CacheInv sr keeps cache) (fresh : ¬ cache.Resolved ip) (now : ℤ)
    (mac : Mac) : CacheInv sr keeps (srArpcacheInsert now cache mac ip).1 where
  unique := by
    rcases fillSlot_cases now mac ip cache.entries with ⟨full, -⟩ | ⟨slot, hslot, -, filled⟩
    · simp only [srArpcacheInsert, full]
      exact inv.unique
    · intro i j hi hj
      simp only [srArpcacheInsert, filled, Vector.getElem_set]
      -- The new entry meets no old one, because its address was not mapped.
      have clear (k : ℕ) (hk : k < srArpcacheSz) (valid : cache.entries[k].valid) :
          cache.entries[k].ip ≠ ip := fun same => fresh (resolved_iff.mpr ⟨k, hk, valid, same⟩)
      by_cases first : slot = i <;> by_cases second : slot = j
      · intros
        exact first.symm.trans second
      · simp only [if_pos first, if_neg second]
        intro _ valid same
        exact absurd same.symm (clear j hj valid)
      · simp only [if_neg first, if_pos second]
        intro valid _ same
        exact absurd same (clear i hi valid)
      · simp only [if_neg first, if_neg second]
        exact inv.unique i j hi hj
  oneRequest := Keyed.nodup_unlink inv.oneRequest ip
  unresolved := by
    intro req listed resolved
    obtain ⟨old, other⟩ := (Keyed.mem_unlink inv.oneRequest).mp listed
    -- The new mapping is for the one address whose request has just been unlinked.
    rcases resolved_of_insert resolved with same | already
    · exact other same
    · exact inv.unresolved req old already
  occupied req listed := inv.occupied req ((Keyed.unlink_sublist ip _).subset listed)
  waiting req listed := inv.waiting req ((Keyed.unlink_sublist ip _).subset listed)
  kept req listed := inv.kept req ((Keyed.unlink_sublist ip _).subset listed)

/-- Giving up a request keeps the invariant. -/
theorem CacheInv.destroy (inv : CacheInv sr keeps cache) (arpreq : ℕ) :
    CacheInv sr keeps (srArpreqDestroy cache arpreq) where
  unique := inv.unique
  oneRequest := Keyed.nodup_unlink inv.oneRequest arpreq
  unresolved req listed := inv.unresolved req ((Keyed.unlink_sublist arpreq _).subset listed)
  occupied req listed := inv.occupied req ((Keyed.unlink_sublist arpreq _).subset listed)
  waiting req listed := inv.waiting req ((Keyed.unlink_sublist arpreq _).subset listed)
  kept req listed := inv.kept req ((Keyed.unlink_sublist arpreq _).subset listed)

/-- Every request after a send is an old one, apart from its two counters. -/
theorem mem_markSent {req : SrArpreq} (listed : req ∈ (markSent now cache arpreq).requests) :
    ∃ old ∈ cache.requests, req.addr = old.addr ∧ req.ip = old.ip ∧ req.packets = old.packets := by
  rcases Keyed.mem_update.mp listed with ⟨old, oldListed, -, rfl⟩ | ⟨oldListed, -⟩
  · exact ⟨old, oldListed, rfl, rfl, rfl⟩
  · exact ⟨req, oldListed, rfl, rfl, rfl⟩

/-- Sending an ARP request again keeps the invariant. -/
theorem CacheInv.markSent (inv : CacheInv sr keeps cache) (now : ℤ) (arpreq : ℕ) :
    CacheInv sr keeps (markSent now cache arpreq) where
  unique := inv.unique
  oneRequest := by
    have ips : (SimpleRouter.markSent now cache arpreq).requests.map SrArpreq.ip =
        cache.requests.map SrArpreq.ip := by
      apply Keyed.map_update
      intro req
      rfl
    rw [ips]
    exact inv.oneRequest
  unresolved := by
    intro req listed
    obtain ⟨old, oldListed, -, ip, -⟩ := mem_markSent listed
    rw [ip]
    exact inv.unresolved old oldListed
  occupied := by
    intro req listed
    obtain ⟨old, oldListed, -, -, packets⟩ := mem_markSent listed
    rw [packets]
    exact inv.occupied old oldListed
  waiting := by
    intro req listed
    obtain ⟨old, oldListed, -, ip, packets⟩ := mem_markSent listed
    rw [ip, packets]
    exact inv.waiting old oldListed
  kept := by
    intro req listed
    obtain ⟨old, oldListed, -, ip, packets⟩ := mem_markSent listed
    rw [ip, packets]
    exact inv.kept old oldListed

/-- A call of `handle_arpreq` that returns keeps the invariant. -/
theorem CacheInv.handleArpreq (inv : CacheInv sr keeps cache)
    (returns : (handleArpreq sr now rounds cache arpreq).Returns cache') :
    CacheInv sr keeps cache' := by
  obtain ⟨req, -, ⟨-, rfl⟩ | ⟨-, -, -, rfl⟩ | ⟨-, -, -, rfl⟩⟩ := handleArpreq_cases returns
  · exact inv
  · exact inv.destroy arpreq
  · exact inv.markSent now arpreq

/-- The request that a packet joins was on the queue or is new and empty. -/
theorem joined_cases (cache : SrArpcache) (ip : Ip) :
    cache.joined ip ∈ cache.requests ∨
      cache.joined ip = ⟨cache.nextAddr, ip, 0, 0, []⟩ ∧ ∀ req ∈ cache.requests, req.ip ≠ ip := by
  unfold SrArpcache.joined
  cases found : cache.requestFor ip with
  | some req => exact .inl (mem_of_requestFor found)
  | none => exact .inr ⟨rfl, requestFor_eq_none_iff.mp found⟩

theorem ips_queuereq {packet : Bytes} {iface : IfName} :
    (srArpcacheQueuereq cache ip packet iface).1.requests.map SrArpreq.ip =
      if cache.requestFor ip = none then ip :: cache.requests.map SrArpreq.ip
      else cache.requests.map SrArpreq.ip := by
  unfold srArpcacheQueuereq
  cases cache.requestFor ip <;> by_cases empty : packet = [] <;>
    simp [empty, SrArpcache.updateRequest, SrArpcache.allocRequest, Keyed.map_update]

/-- A packet may be queued for its destination while that is not mapped. -/
theorem CacheInv.queuereq (inv : CacheInv sr keeps cache) (fresh : ¬ cache.Resolved ip)
    {packet : Bytes} {iface : IfName} (good : Waiting sr ip ⟨packet, iface⟩)
    (keep : keeps ip ⟨packet, iface⟩) :
    CacheInv sr keeps (srArpcacheQueuereq cache ip packet iface).1 := by
  have some : packet ≠ [] := ne_nil_of_long good.long
  have resolved (other : Ip) :
      (srArpcacheQueuereq cache ip packet iface).1.Resolved other ↔ cache.Resolved other :=
    resolved_congr entries_queuereq
  -- Every waiting packet is the new one or waited for the same address before.
  have origin (req : SrArpreq)
      (listed : req ∈ (srArpcacheQueuereq cache ip packet iface).1.requests)
      (p : SrPacket) (member : p ∈ req.packets) :
      (req.ip = ip ∧ p = ⟨packet, iface⟩) ∨
        ∃ old ∈ cache.requests, old.ip = req.ip ∧ p ∈ old.packets := by
    rcases (mem_queuereq some).mp listed with rfl | ⟨old, -⟩
    · rcases List.mem_cons.mp member with rfl | earlier
      · exact .inl ⟨ip_joined, rfl⟩
      · rcases joined_cases cache ip with old | ⟨new, -⟩
        · exact .inr ⟨_, old, rfl, earlier⟩
        · rw [new] at earlier
          cases earlier
    · exact .inr ⟨req, old, rfl, member⟩
  constructor
  case unique =>
    rw [entries_queuereq]
    exact inv.unique
  case oneRequest =>
    rw [ips_queuereq]
    split
    · rename_i none
      rw [List.nodup_cons]
      refine ⟨fun used => ?_, inv.oneRequest⟩
      obtain ⟨req, listed, same⟩ := List.mem_map.mp used
      -- A new request is allocated only when the address has none.
      exact requestFor_eq_none_iff.mp none req listed same
    · exact inv.oneRequest
  case unresolved =>
    intro req listed
    rw [resolved]
    rcases (mem_queuereq some).mp listed with rfl | ⟨old, -⟩
    · simpa using fresh
    · exact inv.unresolved req old
  case occupied =>
    intro req listed
    rcases (mem_queuereq some).mp listed with rfl | ⟨old, -⟩
    · exact List.cons_ne_nil _ _
    · exact inv.occupied req old
  case waiting =>
    intro req listed p member
    rcases origin req listed p member with ⟨rfl, rfl⟩ | ⟨old, oldListed, same, earlier⟩
    · exact good
    · exact same ▸ inv.waiting old oldListed p earlier
  case kept =>
    intro req listed p member
    rcases origin req listed p member with ⟨rfl, rfl⟩ | ⟨old, oldListed, same, earlier⟩
    · exact keep
    · exact same ▸ inv.kept old oldListed p earlier

/-! ## What becomes of a waiting packet -/

/-- Requests keep their packets: what is queued at an address now was queued
there before, under any packets queued since. -/
structure Descends (cache cache' : SrArpcache) : Prop where
  grows : cache.nextAddr ≤ cache'.nextAddr
  keeps : ∀ req' ∈ cache'.requests, req'.addr < cache.nextAddr →
    ∃ req ∈ cache.requests, req.addr = req'.addr ∧ req.ip = req'.ip ∧ req.packets <:+ req'.packets

namespace Descends

theorem refl (cache : SrArpcache) : Descends cache cache where
  grows := Nat.le_refl _
  keeps req' listed _ := ⟨req', listed, rfl, rfl, List.suffix_rfl⟩

theorem trans {cache'' : SrArpcache} (first : Descends cache cache')
    (second : Descends cache' cache'') :
    Descends cache cache'' where
  grows := Nat.le_trans first.grows second.grows
  keeps := by
    intro req'' listed old
    obtain ⟨req', listed', addr', ip', suffix'⟩ :=
      second.keeps req'' listed (Nat.lt_of_lt_of_le old first.grows)
    obtain ⟨req, listed, addr, ip, suffix⟩ := first.keeps req' listed' (addr' ▸ old)
    exact ⟨req, listed, addr.trans addr', ip.trans ip', suffix.trans suffix'⟩

/-- Steps that only remove requests. -/
theorem of_subset (next : cache'.nextAddr = cache.nextAddr)
    (sub : cache'.requests ⊆ cache.requests) :
    Descends cache cache' where
  grows := next.ge
  keeps req' listed _ := ⟨req', sub listed, rfl, rfl, List.suffix_rfl⟩

theorem expire (cache : SrArpcache) (curtime : ℤ) : Descends cache (expireEntries curtime cache) :=
  of_subset rfl (List.Subset.refl _)

theorem insert (cache : SrArpcache) (now : ℤ) (mac : Mac) (ip : Ip) :
    Descends cache (srArpcacheInsert now cache mac ip).1 :=
  of_subset rfl (Keyed.unlink_sublist ip _).subset

theorem queuereq (cache : SrArpcache) (ip : Ip) (packet : Bytes) (iface : IfName) :
    Descends cache (srArpcacheQueuereq cache ip packet iface).1 where
  grows := by
    unfold srArpcacheQueuereq
    cases cache.requestFor ip <;> by_cases empty : packet = [] <;>
      simp [empty, SrArpcache.updateRequest, SrArpcache.allocRequest]
  keeps := by
    intro req' listed old
    by_cases empty : packet = []
    · unfold srArpcacheQueuereq at listed
      cases found : cache.requestFor ip with
      | some req =>
        simp only [found, empty, ne_eq, not_true_eq_false, if_false] at listed
        exact ⟨req', listed, rfl, rfl, List.suffix_rfl⟩
      | none =>
        simp only [found, empty, ne_eq, not_true_eq_false, if_false,
          SrArpcache.allocRequest] at listed
        rcases List.mem_cons.mp listed with rfl | same
        · exact absurd old (Nat.lt_irrefl _)
        · exact ⟨req', same, rfl, rfl, List.suffix_rfl⟩
    · rcases (mem_queuereq empty).mp listed with rfl | ⟨same, -⟩
      · -- The request that was joined was there before, or its number is too new to ask about.
        rcases joined_cases cache ip with joined | ⟨new, -⟩
        · exact ⟨_, joined, rfl, rfl, List.suffix_cons _ _⟩
        · simp only [new] at old
          exact absurd old (Nat.lt_irrefl _)
      · exact ⟨req', same, rfl, rfl, List.suffix_rfl⟩

theorem handleArpreq (returns : (handleArpreq sr now rounds cache arpreq).Returns cache') :
    Descends cache cache' := by
  obtain ⟨req, -, ⟨-, rfl⟩ | ⟨-, -, -, rfl⟩ | ⟨-, -, -, rfl⟩⟩ := handleArpreq_cases returns
  · exact refl _
  · exact of_subset rfl (Keyed.unlink_sublist arpreq _).subset
  · refine ⟨Nat.le_refl _, fun req' listed _ => ?_⟩
    obtain ⟨old, oldListed, addr, ip, packets⟩ := mem_markSent listed
    exact ⟨old, oldListed, addr.symm, ip.symm, packets ▸ List.suffix_rfl⟩

end Descends

/-- Handling a request keeps every request that has packets. -/
theorem kept_by_handleArpreq (returns : (handleArpreq sr now rounds cache arpreq).Returns cache')
    {req : SrArpreq} (listed : req ∈ cache.requests) (occupied : req.packets ≠ []) :
    ∃ req' ∈ cache'.requests, req'.addr = req.addr ∧ req'.packets = req.packets := by
  obtain ⟨handled, found, ⟨-, rfl⟩ | ⟨-, -, empty, rfl⟩ | ⟨-, -, -, rfl⟩⟩ :=
    handleArpreq_cases returns
  · exact ⟨req, listed, rfl, rfl⟩
  · -- Only a request without packets is destroyed by a call that returns.
    have other : req.addr ≠ arpreq := by
      intro same
      rw [← addr_of_requestAt found] at same
      rw [eq_of_addr listed (mem_of_requestAt found) same] at occupied
      exact occupied empty
    exact ⟨req, (Keyed.mem_unlink cache.distinct).mpr ⟨listed, other⟩, rfl, rfl⟩
  · by_cases here : req.addr = arpreq
    · exact ⟨{ req with sent := now, timesSent := req.timesSent + 1 },
        Keyed.mem_update.mpr (.inl ⟨req, listed, here, rfl⟩), rfl, rfl⟩
    · exact ⟨req, Keyed.mem_update.mpr (.inr ⟨listed, here⟩), rfl, rfl⟩

/-- Handling a request leaves the table alone. -/
theorem entries_handleArpreq (returns : (handleArpreq sr now rounds cache arpreq).Returns cache') :
    cache'.entries = cache.entries := by
  obtain ⟨req, -, ⟨-, rfl⟩ | ⟨-, -, -, rfl⟩ | ⟨-, -, -, rfl⟩⟩ := handleArpreq_cases returns <;> rfl

end SimpleRouter
