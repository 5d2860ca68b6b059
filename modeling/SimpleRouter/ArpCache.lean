/-
# The ARP cache

`struct sr_arpcache`: a table of 100 entries and the queue of pending requests,
each with the packets that wait for its answer. The operations below are the
critical sections of `sr_arpcache.c`, each of which runs under the lock of the
cache, and the expiry that begins a round of `sr_arpcache_timeout`.

A pointer to a request is the number of its allocation. Numbers are never used
twice, so a request that has been destroyed is told from every later one. Times
are the whole seconds of `time_t`, for which `difftime` is subtraction.
-/

import Mathlib.Data.Int.Notation
import SimpleRouter.Library.Keyed
import SimpleRouter.Protocol

namespace SimpleRouter

/-- `SR_ARPCACHE_SZ`. -/
def srArpcacheSz : ℕ := 100

/-- `SR_ARPCACHE_TO`, in seconds. -/
def srArpcacheTo : ℤ := 15

/-- `struct sr_packet`: a waiting frame and the interface it is to leave by. -/
structure SrPacket where
  buf : Bytes
  iface : IfName
  deriving DecidableEq

/-- `struct sr_arpentry`. -/
structure SrArpentry where
  mac : Mac
  ip : Ip
  added : ℤ
  valid : Bool
  deriving DecidableEq

/-- `struct sr_arpreq`, with the allocation number that stands for its address.
The most recently queued packet comes first. -/
structure SrArpreq where
  addr : ℕ
  ip : Ip
  sent : ℤ
  timesSent : ℕ
  packets : List SrPacket
  deriving DecidableEq

/-- `struct sr_arpcache`, and the next allocation number. The addresses on the
queue are distinct and have been allocated. -/
@[ext] structure SrArpcache where
  entries : Vector SrArpentry srArpcacheSz
  requests : List SrArpreq
  nextAddr : ℕ
  distinct : (requests.map SrArpreq.addr).Nodup
  fresh : ∀ req ∈ requests, req.addr < nextAddr
  deriving DecidableEq

/-- The request an address points to, while it is on the queue. -/
def SrArpcache.requestAt (cache : SrArpcache) (addr : ℕ) : Option SrArpreq :=
  Keyed.find SrArpreq.addr addr cache.requests

/-- The first request on the queue for an IP address. -/
def SrArpcache.requestFor (cache : SrArpcache) (ip : Ip) : Option SrArpreq :=
  Keyed.find SrArpreq.ip ip cache.requests

/-! ## Writing the queue -/

/-- Overwrite the request at an address. Its own address stays. -/
def SrArpcache.updateRequest (cache : SrArpcache) (addr : ℕ) (f : SrArpreq → SrArpreq)
    (keeps : ∀ req, (f req).addr = req.addr) : SrArpcache where
  entries := cache.entries
  requests := Keyed.update SrArpreq.addr addr f cache.requests
  nextAddr := cache.nextAddr
  distinct := by
    rw [Keyed.map_update keeps]
    exact cache.distinct
  fresh := by
    intro req listed
    rcases Keyed.mem_update.mp listed with ⟨old, oldListed, -, rfl⟩ | ⟨oldListed, -⟩
    · rw [keeps]
      exact cache.fresh old oldListed
    · exact cache.fresh req oldListed

/-- Put a request fresh from `calloc` at the head of the queue. -/
def SrArpcache.allocRequest (cache : SrArpcache) (ip : Ip) : SrArpcache where
  entries := cache.entries
  requests := ⟨cache.nextAddr, ip, 0, 0, []⟩ :: cache.requests
  nextAddr := cache.nextAddr + 1
  distinct := by
    rw [List.map_cons, List.nodup_cons]
    -- Every request on the queue has an older number.
    refine ⟨fun used => ?_, cache.distinct⟩
    obtain ⟨req, listed, same⟩ := List.mem_map.mp used
    exact Nat.ne_of_lt (cache.fresh req listed) same
  fresh := by
    intro req listed
    rcases List.mem_cons.mp listed with rfl | old
    · exact Nat.lt_succ_self _
    · exact Nat.lt_trans (cache.fresh req old) (Nat.lt_succ_self _)

/-- Unlink the first request for an IP address. -/
def SrArpcache.unlinkIp (cache : SrArpcache) (ip : Ip) : SrArpcache where
  entries := cache.entries
  requests := Keyed.unlink SrArpreq.ip ip cache.requests
  nextAddr := cache.nextAddr
  distinct := Keyed.nodup_unlink cache.distinct ip
  fresh := fun req listed => cache.fresh req ((Keyed.unlink_sublist ip _).subset listed)

/-! ## The operations -/

/-- `sr_arpcache_init`. -/
def srArpcacheInit : SrArpcache where
  entries := .replicate srArpcacheSz ⟨.replicate 6 0, .replicate 4 0, 0, false⟩
  requests := []
  nextAddr := 0
  distinct := List.nodup_nil
  fresh := by simp

/-- `sr_arpcache_lookup`: a copy of the last entry that matches. -/
def srArpcacheLookup (cache : SrArpcache) (ip : Ip) : Option SrArpentry :=
  cache.entries.toList.foldl
    (fun entry walker => if walker.valid ∧ walker.ip = ip then some walker else entry) none

/-- `sr_arpcache_queuereq`: the queue and the address of the request the packet
waits on. A packet of length zero is not added to the list. -/
def srArpcacheQueuereq (cache : SrArpcache) (ip : Ip) (packet : Bytes) (iface : IfName) :
    SrArpcache × ℕ :=
  let (cache, req) := match cache.requestFor ip with
    | some req => (cache, req.addr)
    | none => (cache.allocRequest ip, cache.nextAddr)
  -- `if (packet && packet_len && iface)`; no caller passes null.
  if packet ≠ [] then
    (cache.updateRequest req (fun req => { req with packets := ⟨packet, iface⟩ :: req.packets })
      fun _ => rfl, req)
  else (cache, req)

/-- The first slot that is not valid is filled, if there is one. -/
def fillSlot (now : ℤ) (mac : Mac) (ip : Ip) (entries : Vector SrArpentry srArpcacheSz) :
    Vector SrArpentry srArpcacheSz :=
  let i := entries.toList.findIdx fun entry => !entry.valid
  if h : i < srArpcacheSz then entries.set i ⟨mac, ip, now, true⟩ h else entries

/-- `sr_arpcache_insert` at clock reading `now`: the mapping is entered, and the
first request for the address is unlinked and handed to the caller. -/
def srArpcacheInsert (now : ℤ) (cache : SrArpcache) (mac : Mac) (ip : Ip) :
    SrArpcache × Option SrArpreq :=
  ({ cache.unlinkIp ip with entries := fillSlot now mac ip cache.entries }, cache.requestFor ip)

/-- `sr_arpreq_destroy`: unlink the request at the address and free it. -/
def srArpreqDestroy (cache : SrArpcache) (addr : ℕ) : SrArpcache where
  entries := cache.entries
  requests := Keyed.unlink SrArpreq.addr addr cache.requests
  nextAddr := cache.nextAddr
  distinct := Keyed.nodup_unlink cache.distinct addr
  fresh := fun req listed => cache.fresh req ((Keyed.unlink_sublist addr _).subset listed)

/-- The expiry loop of `sr_arpcache_timeout`. -/
def expireEntries (curtime : ℤ) (cache : SrArpcache) : SrArpcache where
  entries := cache.entries.map fun entry =>
    if entry.valid ∧ curtime - entry.added > srArpcacheTo then { entry with valid := false }
    else entry
  requests := cache.requests
  nextAddr := cache.nextAddr
  distinct := cache.distinct
  fresh := cache.fresh

/-- `arpreq->sent = now; arpreq->times_sent++;`, after an ARP request was sent. -/
def markSent (now : ℤ) (cache : SrArpcache) (addr : ℕ) : SrArpcache :=
  cache.updateRequest addr
    (fun req => { req with sent := now, timesSent := req.timesSent + 1 }) fun _ => rfl

/-! ## The table -/

/-- A valid entry maps the address. -/
def SrArpcache.Resolved (cache : SrArpcache) (ip : Ip) : Prop :=
  ∃ entry ∈ cache.entries.toList, entry.valid ∧ entry.ip = ip

instance (cache : SrArpcache) (ip : Ip) : Decidable (cache.Resolved ip) :=
  inferInstanceAs (Decidable (∃ entry ∈ cache.entries.toList, _))

/-- The last of the slots that has a mapping of the address. -/
def lastMatch (ip : Ip) (slots : List SrArpentry) : Option SrArpentry :=
  slots.reverse.find? fun entry => entry.valid ∧ entry.ip = ip

theorem lastMatch_append (ip : Ip) (front behind : List SrArpentry) :
    lastMatch ip (front ++ behind) = (lastMatch ip behind).or (lastMatch ip front) := by
  rw [lastMatch, List.reverse_append, List.find?_append, lastMatch, lastMatch]

theorem lastMatch_singleton (ip : Ip) (slot : SrArpentry) :
    lastMatch ip [slot] = if slot.valid ∧ slot.ip = ip then some slot else none := by
  by_cases matching : slot.valid ∧ slot.ip = ip
  · rw [if_pos matching]
    exact List.find?_cons_of_pos (decide_eq_true matching)
  · rw [if_neg matching]
    exact List.find?_cons_of_neg (by simpa using matching)

theorem lastMatch_eq_none_iff {ip : Ip} {slots : List SrArpentry} :
    lastMatch ip slots = none ↔ ∀ entry ∈ slots, ¬ (entry.valid ∧ entry.ip = ip) := by
  simp only [lastMatch, List.find?_eq_none, List.mem_reverse, decide_eq_true_eq]

theorem lastMatch_eq_some_iff {ip : Ip} {slots : List SrArpentry} {entry : SrArpentry} :
    lastMatch ip slots = some entry ↔ (entry.valid ∧ entry.ip = ip) ∧
      ∃ front behind, slots = front ++ entry :: behind ∧
        ∀ later ∈ behind, ¬ (later.valid ∧ later.ip = ip) := by
  constructor
  · intro found
    obtain ⟨matching, later, earlier, split, unmapped⟩ := List.find?_eq_some_iff_append.mp found
    refine ⟨of_decide_eq_true matching, earlier.reverse, later.reverse, ?_, fun other behind => ?_⟩
    · rw [← List.reverse_reverse slots, split]
      simp
    · have passed := unmapped other (List.mem_reverse.mp behind)
      rwa [Bool.not_eq_true', decide_eq_false_iff_not] at passed
  · rintro ⟨matching, front, behind, rfl, unmapped⟩
    rw [← List.singleton_append, lastMatch_append, lastMatch_append,
      lastMatch_eq_none_iff.mpr unmapped, lastMatch_singleton, if_pos matching]
    rfl

/-- The loop of `sr_arpcache_lookup` goes on behind a match. -/
theorem srArpcacheLookup_eq_lastMatch (cache : SrArpcache) (ip : Ip) :
    srArpcacheLookup cache ip = lastMatch ip cache.entries.toList := by
  have loop (slots : List SrArpentry) (start : Option SrArpentry) : slots.foldl
      (fun entry walker => if walker.valid ∧ walker.ip = ip then some walker else entry) start =
        (lastMatch ip slots).or start := by
    induction slots generalizing start with
    | nil => rfl
    | cons slot rest ih =>
      rw [List.foldl_cons, ih, ← List.singleton_append, lastMatch_append, lastMatch_singleton,
        Option.or_assoc]
      split_ifs <;> rfl
  rw [srArpcacheLookup, loop, Option.or_none]

/-- A lookup that finds nothing looked for an address that no valid entry maps. -/
theorem srArpcacheLookup_eq_none_iff {cache : SrArpcache} {ip : Ip} :
    srArpcacheLookup cache ip = none ↔ ¬ cache.Resolved ip := by
  rw [srArpcacheLookup_eq_lastMatch, lastMatch_eq_none_iff]
  simp only [SrArpcache.Resolved, not_exists, not_and]

theorem srArpcacheLookup_eq_some {cache : SrArpcache} {ip : Ip} {entry : SrArpentry}
    (found : srArpcacheLookup cache ip = some entry) :
    entry ∈ cache.entries.toList ∧ entry.valid ∧ entry.ip = ip := by
  rw [srArpcacheLookup_eq_lastMatch, lastMatch_eq_some_iff] at found
  obtain ⟨matching, front, behind, split, -⟩ := found
  exact ⟨by rw [split]; simp, matching⟩

/-- The search for a free slot ends at the first one. -/
theorem findIdx_free {front : List SrArpentry} {slot : SrArpentry}
    (taken : ∀ entry ∈ front, entry.valid) (free : slot.valid = false) (behind : List SrArpentry) :
    (front ++ slot :: behind).findIdx (fun entry => !entry.valid) = front.length := by
  have past : front.findIdx (fun entry => !entry.valid) = front.length :=
    List.findIdx_eq_length.mpr (by simpa using taken)
  rw [List.findIdx_append, past, if_neg (Nat.lt_irrefl _), List.findIdx_cons, free]
  exact Nat.zero_add _

theorem full_or_free (slots : List SrArpentry) :
    (∀ entry ∈ slots, entry.valid) ∨
      ∃ front slot behind, slots = front ++ slot :: behind ∧ (∀ entry ∈ front, entry.valid) ∧
        slot.valid = false := by
  cases found : slots.find? fun entry => !entry.valid with
  | none => exact .inl (by simpa using found)
  | some slot =>
    obtain ⟨free, front, behind, split, before⟩ := List.find?_eq_some_iff_append.mp found
    exact .inr ⟨front, slot, behind, split, by simpa using before, by simpa using free⟩

/-- The table is full and stays as it is, or the first free slot is overwritten. -/
theorem fillSlot_first (now : ℤ) (mac : Mac) (ip : Ip) (entries : Vector SrArpentry srArpcacheSz) :
    (fillSlot now mac ip entries = entries ∧ ∀ entry ∈ entries.toList, entry.valid) ∨
      ∃ front slot behind, entries.toList = front ++ slot :: behind ∧
        (∀ entry ∈ front, entry.valid) ∧ slot.valid = false ∧
        ∃ h : front.length < srArpcacheSz,
          fillSlot now mac ip entries = entries.set front.length ⟨mac, ip, now, true⟩ h := by
  rcases full_or_free entries.toList with full | ⟨front, slot, behind, split, taken, free⟩
  · -- No slot is free: the search runs off the end of the table.
    have past : entries.toList.findIdx (fun entry => !entry.valid) = entries.toList.length :=
      List.findIdx_eq_length.mpr (by simpa using full)
    refine .inl ⟨dif_neg ?_, full⟩
    rw [past, Vector.length_toList]
    exact Nat.lt_irrefl _
  · have inside : front.length < srArpcacheSz := by
      have slots : entries.toList.length = srArpcacheSz := Vector.length_toList
      rw [split, List.length_append, List.length_cons] at slots
      omega
    refine .inr ⟨front, slot, behind, split, taken, free, inside, ?_⟩
    simp only [fillSlot, split, findIdx_free taken free, dif_pos inside]

/-- Filling a slot overwrites one entry that was not valid, or the table is full. -/
theorem fillSlot_cases (now : ℤ) (mac : Mac) (ip : Ip) (entries : Vector SrArpentry srArpcacheSz) :
    (fillSlot now mac ip entries = entries ∧ ∀ entry ∈ entries.toList, entry.valid) ∨
      ∃ i, ∃ h : i < srArpcacheSz, entries[i].valid = false ∧
        fillSlot now mac ip entries = entries.set i ⟨mac, ip, now, true⟩ h := by
  rcases fillSlot_first now mac ip entries with
    full | ⟨front, slot, behind, split, -, free, inside, filled⟩
  · exact .inl full
  · refine .inr ⟨front.length, inside, ?_, filled⟩
    have reached : entries[front.length] = slot := by
      rw [← Vector.getElem_toList (by simpa using inside)]
      simp only [split, List.getElem_append_right (Nat.le_refl _), Nat.sub_self,
        List.getElem_cons_zero]
    rw [reached, free]

/-- Some slot of the table is not valid. -/
def SrArpcache.HasRoom (cache : SrArpcache) : Prop :=
  ∃ entry ∈ cache.entries.toList, entry.valid = false

instance (cache : SrArpcache) : Decidable cache.HasRoom :=
  inferInstanceAs (Decidable (∃ entry ∈ cache.entries.toList, _))

/-- With a free slot, entering a mapping overwrites one. -/
theorem fillSlot_of_hasRoom {cache : SrArpcache} (room : cache.HasRoom) (now : ℤ) (mac : Mac)
    (ip : Ip) :
    ∃ i, ∃ h : i < srArpcacheSz, cache.entries[i].valid = false ∧
      fillSlot now mac ip cache.entries = cache.entries.set i ⟨mac, ip, now, true⟩ h := by
  rcases fillSlot_cases now mac ip cache.entries with ⟨-, full⟩ | filled
  · obtain ⟨entry, listed, free⟩ := room
    rw [full entry listed] at free
    cases free
  · exact filled

/-- The table is full and stays as it is, or its first free slot is filled. -/
theorem entries_insert_cases (now : ℤ) (cache : SrArpcache) (mac : Mac) (ip : Ip) :
    (∀ entry ∈ cache.entries.toList, entry.valid) ∧
        (srArpcacheInsert now cache mac ip).1.entries = cache.entries ∨
      ∃ front slot behind, cache.entries.toList = front ++ slot :: behind ∧
        (∀ entry ∈ front, entry.valid) ∧ slot.valid = false ∧
        (srArpcacheInsert now cache mac ip).1.entries.toList =
          front ++ ⟨mac, ip, now, true⟩ :: behind := by
  rcases fillSlot_first now mac ip cache.entries with
    ⟨kept, full⟩ | ⟨front, slot, behind, split, taken, free, inside, filled⟩
  · exact .inl ⟨full, kept⟩
  · refine .inr ⟨front, slot, behind, split, taken, free, ?_⟩
    change (fillSlot now mac ip cache.entries).toList = _
    rw [filled, Vector.toList_set, split, List.set_append_right _ _ (Nat.le_refl _), Nat.sub_self,
      List.set_cons_zero]

/-- Filling a slot that was free changes what is found for the entered address only. -/
theorem lastMatch_fill (now : ℤ) (mac : Mac) (ip : Ip) {slot : SrArpentry}
    (free : slot.valid = false) {other : Ip} (differs : other ≠ ip)
    (front behind : List SrArpentry) :
    lastMatch other (front ++ ⟨mac, ip, now, true⟩ :: behind) =
      lastMatch other (front ++ slot :: behind) := by
  have entered : lastMatch other [⟨mac, ip, now, true⟩] = none := by
    rw [lastMatch_singleton, if_neg]
    rintro ⟨-, same⟩
    exact differs same.symm
  have vacant : lastMatch other [slot] = none := by
    rw [lastMatch_singleton, if_neg]
    simp [free]
  rw [← List.singleton_append, lastMatch_append, lastMatch_append, entered,
    ← List.singleton_append (x := slot), lastMatch_append, lastMatch_append, vacant]

/-- What is found for the address that was entered: what lies behind it comes first. -/
theorem lastMatch_entered (now : ℤ) (mac : Mac) (ip : Ip) (front behind : List SrArpentry) :
    lastMatch ip (front ++ ⟨mac, ip, now, true⟩ :: behind) =
      (lastMatch ip behind).or (some ⟨mac, ip, now, true⟩) := by
  rw [← List.singleton_append, lastMatch_append, lastMatch_append, lastMatch_singleton,
    if_pos ⟨rfl, rfl⟩, Option.or_assoc, Option.some_or]

/-- The other addresses are never affected. -/
theorem srArpcacheLookup_insert_of_ne (now : ℤ) (cache : SrArpcache) (mac : Mac) {ip other : Ip}
    (differs : other ≠ ip) :
    srArpcacheLookup (srArpcacheInsert now cache mac ip).1 other =
      srArpcacheLookup cache other := by
  rw [srArpcacheLookup_eq_lastMatch, srArpcacheLookup_eq_lastMatch]
  rcases entries_insert_cases now cache mac ip with
    ⟨-, kept⟩ | ⟨front, slot, behind, split, -, free, filled⟩
  · rw [kept]
  · rw [split, filled]
    exact lastMatch_fill now mac ip free differs front behind

/-- A mapping for a new address that finds a free slot is what a lookup returns. -/
theorem srArpcacheLookup_insert {cache : SrArpcache} {ip : Ip} (fresh : ¬ cache.Resolved ip)
    (room : cache.HasRoom) (now : ℤ) (mac : Mac) :
    srArpcacheLookup (srArpcacheInsert now cache mac ip).1 ip = some ⟨mac, ip, now, true⟩ := by
  rw [srArpcacheLookup_eq_lastMatch]
  rcases entries_insert_cases now cache mac ip with
    ⟨full, -⟩ | ⟨front, slot, behind, split, -, -, filled⟩
  · obtain ⟨entry, listed, free⟩ := room
    rw [full entry listed] at free
    cases free
  · have unmapped : lastMatch ip behind = none := by
      rw [lastMatch_eq_none_iff]
      intro entry later matching
      exact fresh ⟨entry, by rw [split]; simp [later], matching⟩
    rw [filled, lastMatch_entered, unmapped, Option.none_or]

/-! ## The queue -/

section Queue

variable {cache : SrArpcache} {ip : Ip} {packet : Bytes} {iface : IfName} {addr : ℕ}
  {req : SrArpreq}

theorem mem_of_requestAt (h : cache.requestAt addr = some req) : req ∈ cache.requests :=
  Keyed.mem_of_find h

theorem addr_of_requestAt (h : cache.requestAt addr = some req) : req.addr = addr :=
  Keyed.key_of_find h

theorem requestAt_of_mem (listed : req ∈ cache.requests) : cache.requestAt req.addr = some req :=
  Keyed.find_of_mem cache.distinct listed

theorem mem_of_requestFor (h : cache.requestFor ip = some req) : req ∈ cache.requests :=
  Keyed.mem_of_find h

theorem ip_of_requestFor (h : cache.requestFor ip = some req) : req.ip = ip := Keyed.key_of_find h

theorem requestFor_eq_none_iff : cache.requestFor ip = none ↔ ∀ req ∈ cache.requests, req.ip ≠ ip :=
  Keyed.find_eq_none_iff

/-- Requests at one address are one request. -/
theorem eq_of_addr {req' : SrArpreq} (listed : req ∈ cache.requests)
    (listed' : req' ∈ cache.requests)
    (same : req.addr = req'.addr) : req = req' := by
  have first := requestAt_of_mem listed
  rw [same, requestAt_of_mem listed'] at first
  cases first
  rfl

/-- The request a packet for the address joins: the one on the queue, or a new one. -/
def SrArpcache.joined (cache : SrArpcache) (ip : Ip) : SrArpreq :=
  (cache.requestFor ip).getD ⟨cache.nextAddr, ip, 0, 0, []⟩

@[simp] theorem ip_joined : (cache.joined ip).ip = ip := by
  unfold SrArpcache.joined
  cases found : cache.requestFor ip with
  | none => rfl
  | some req => exact ip_of_requestFor found

@[simp] theorem entries_queuereq :
    (srArpcacheQueuereq cache ip packet iface).1.entries = cache.entries := by
  unfold srArpcacheQueuereq
  cases cache.requestFor ip <;> by_cases empty : packet = [] <;>
    simp [empty, SrArpcache.updateRequest, SrArpcache.allocRequest]

theorem addr_queuereq :
    (srArpcacheQueuereq cache ip packet iface).2 = (cache.joined ip).addr := by
  unfold srArpcacheQueuereq SrArpcache.joined
  cases cache.requestFor ip <;> by_cases empty : packet = [] <;> simp [empty]

/-- Queueing a packet puts it in front of the packets of the request it joins,
and leaves every other request alone. -/
theorem mem_queuereq (some : packet ≠ []) :
    req ∈ (srArpcacheQueuereq cache ip packet iface).1.requests ↔
      req = { cache.joined ip with packets := ⟨packet, iface⟩ :: (cache.joined ip).packets } ∨
        req ∈ cache.requests ∧ req.addr ≠ (cache.joined ip).addr := by
  unfold srArpcacheQueuereq SrArpcache.joined
  cases found : cache.requestFor ip with
  | some old =>
    -- The request is on the queue and is extended in place.
    simp only [some, ne_eq, not_false_eq_true, if_true, SrArpcache.updateRequest, Keyed.mem_update,
      Option.getD_some]
    constructor
    · rintro (⟨prev, listed, same, rfl⟩ | other)
      · rw [eq_of_addr listed (mem_of_requestFor found) same]
        exact .inl rfl
      · exact .inr other
    · rintro (rfl | other)
      · exact .inl ⟨old, mem_of_requestFor found, rfl, rfl⟩
      · exact .inr other
  | none =>
    -- A request is allocated, under a number that none on the queue has.
    have absent : ∀ req ∈ cache.requests, req.addr ≠ cache.nextAddr := fun req listed =>
      Nat.ne_of_lt (cache.fresh req listed)
    simp only [some, ne_eq, not_false_eq_true, if_true, SrArpcache.updateRequest,
      SrArpcache.allocRequest, Keyed.mem_update, Option.getD_none, List.mem_cons]
    constructor
    · rintro (⟨prev, rfl | listed, same, rfl⟩ | ⟨rfl | listed, other⟩)
      · exact .inl rfl
      · exact absurd same (absent prev listed)
      · exact absurd rfl other
      · exact .inr ⟨listed, other⟩
    · rintro (rfl | ⟨listed, other⟩)
      · exact .inl ⟨_, .inl rfl, rfl, rfl⟩
      · exact .inr ⟨.inr listed, other⟩

/-- The first packet for an address makes a new request at the head of the queue. -/
theorem requests_queuereq_of_none (absent : cache.requestFor ip = none) (some : packet ≠ []) :
    (srArpcacheQueuereq cache ip packet iface).1.requests =
      ⟨cache.nextAddr, ip, 0, 0, [⟨packet, iface⟩]⟩ :: cache.requests := by
  have others : ∀ req ∈ cache.requests, req.addr ≠ cache.nextAddr := fun req listed =>
    Nat.ne_of_lt (cache.fresh req listed)
  have rest := Keyed.update_of_absent
    (f := fun req : SrArpreq => { req with packets := ⟨packet, iface⟩ :: req.packets }) others
  unfold srArpcacheQueuereq
  rw [absent]
  simp only [if_pos some, SrArpcache.updateRequest, SrArpcache.allocRequest]
  rw [Keyed.update, List.map_cons, if_pos rfl]
  exact congrArg _ rest

/-- After queueing, the request that was joined is on the queue with the packet. -/
theorem joined_mem_queuereq (cache : SrArpcache) (ip : Ip) (some : packet ≠ []) (iface : IfName) :
    { cache.joined ip with packets := ⟨packet, iface⟩ :: (cache.joined ip).packets } ∈
      (srArpcacheQueuereq cache ip packet iface).1.requests :=
  (mem_queuereq some).mpr (.inl rfl)

end Queue

end SimpleRouter
