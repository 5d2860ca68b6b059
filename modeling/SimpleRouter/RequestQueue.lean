/-
# The request queue in memory

The functions of `sr_arpcache.c` that write the queue, on the linked lists that they
keep: the requests from the head of the queue on, and from each request its packets.
A request is found by its IP address in one function and by its own address in
another, and both take it out of the same list.

`Laid` says which requests are in memory, on the queue and off it, each with a list of
packets of its own, and each function is described by what it makes of them.
-/

import Mathlib.Data.List.Perm.Basic
import SimpleRouter.Library.LinkedCells
import SimpleRouter.ArpCache

namespace SimpleRouter.Pointers

open Linked Rounds

/-- `struct sr_arpreq` without its link. -/
structure Arpreq where
  ip : Ip
  sent : ℤ
  timesSent : ℕ
  packets : Option ℕ

/-- `struct sr_arpcache`, with the requests and the packets that are allocated. The
buffer and the interface name of a packet are copies of its own. -/
structure Memory where
  entries : Vector SrArpentry srArpcacheSz
  requests : Option ℕ
  reqs : Heap Arpreq
  pkts : Heap SrPacket

/-! ## The code -/

/-- `sr_arpcache_init`. -/
def srArpcacheInit : Memory where
  entries := SimpleRouter.srArpcacheInit.entries
  requests := none
  reqs := fun _ => none
  pkts := fun _ => none

/-- The end of `sr_arpcache_queuereq`: a packet fresh from `malloc`, at `newPkt`, is
put in front of the packets of a request. -/
def addPacket (mem : Memory) (req : ℕ) (packet : Bytes) (iface : IfName) (newPkt : ℕ) :
    Except Failure Memory := do
  let cell ← readCell mem.reqs req
  .ok { mem with
    pkts := writeCell mem.pkts newPkt ⟨⟨packet, iface⟩, cell.data.packets⟩
    reqs := writeCell mem.reqs req { cell with data := { cell.data with packets := some newPkt } } }

/-- `sr_arpcache_queuereq`, where `calloc` returns `newReq` and `malloc` returns
`newPkt` if they are called. -/
def srArpcacheQueuereq (mem : Memory) (ip : Ip) (packet : Bytes) (iface : IfName)
    (newReq newPkt rounds : ℕ) : Except Failure (Memory × ℕ) := do
  let (_, found) ← search (fun _ req => req.ip = ip) mem.reqs rounds none mem.requests
  let (mem, req) := match found with
    | some req => (mem, req)
    | none => ({ mem with
        reqs := writeCell mem.reqs newReq ⟨⟨ip, 0, 0, none⟩, mem.requests⟩
        requests := some newReq }, newReq)
  -- `if (packet && packet_len && iface)`; no caller passes null.
  if packet ≠ [] then
    let mem ← addPacket mem req packet iface newPkt
    .ok (mem, req)
  else .ok (mem, req)

/-- `sr_arpcache_insert` at clock reading `now`. -/
def srArpcacheInsert (now : ℤ) (mem : Memory) (mac : Mac) (ip : Ip) (rounds : ℕ) :
    Except Failure (Memory × Option ℕ) := do
  let (req, reqs, requests) ← unlinkFirst (fun _ req => req.ip = ip) mem.reqs mem.requests rounds
  .ok (⟨fillSlot now mac ip mem.entries, requests, reqs, mem.pkts⟩, req)

/-- The end of `sr_arpreq_destroy`: the packets of a request are freed and then the
request. -/
def freeRequest (mem : Memory) (entry rounds : ℕ) : Except Failure Memory := do
  let cell ← readCell mem.reqs entry
  let pkts ← freeAll mem.pkts rounds cell.data.packets
  let reqs ← freeCell mem.reqs entry
  .ok { mem with reqs := reqs, pkts := pkts }

/-- `sr_arpreq_destroy`. -/
def srArpreqDestroy (mem : Memory) (entry : Option ℕ) (rounds : ℕ) : Except Failure Memory :=
  match entry with
  | none => .ok mem
  | some entry => do
    let (_, reqs, requests) ← unlinkFirst (fun p _ => p = entry) mem.reqs mem.requests rounds
    freeRequest { mem with reqs := reqs, requests := requests } entry rounds

/-! ## What is in memory -/

/-- A request in memory: its address, its fields and its packets with their addresses. -/
structure Held where
  addr : ℕ
  fields : Arpreq
  nodes : List (ℕ × SrPacket)

namespace Held

variable (h : Held)

def ip : Ip := h.fields.ip

def cell : ℕ × Arpreq := (h.addr, h.fields)

def packets : List SrPacket := h.nodes.map Prod.snd

/-- The request with a packet in front of its packets. -/
def push (newPkt : ℕ) (packet : SrPacket) : Held :=
  ⟨h.addr, { h.fields with packets := some newPkt }, (newPkt, packet) :: h.nodes⟩

end Held

/-- The packets of the requests are lists in memory, and no two requests share an
address or a packet. -/
structure Owned (pkts : Heap SrPacket) (held : List Held) : Prop where
  packets : ∀ h ∈ held, Chain pkts h.fields.packets h.nodes
  addrs : (held.map Held.addr).Nodup
  nodes : (held.flatMap fun h => h.nodes.map Prod.fst).Nodup

/-- The requests in memory are those on the queue, in its order, with one for each IP
address, and those that were taken out of it. -/
structure Laid (mem : Memory) (queued taken : List Held) : Prop where
  chain : Chain mem.reqs mem.requests (queued.map Held.cell)
  ips : (queued.map Held.ip).Nodup
  out : ∀ h ∈ taken, ∃ next, mem.reqs h.addr = some ⟨h.fields, next⟩
  owned : Owned mem.pkts (queued ++ taken)

section Layout

variable {mem : Memory} {pkts : Heap SrPacket} {queued taken front back held held' : List Held}
  {h : Held} {ip : Ip} {newReq newPkt : ℕ}

theorem Owned.perm (owned : Owned pkts held) (same : held.Perm held') : Owned pkts held' where
  packets := fun h listed => owned.packets h (same.mem_iff.mpr listed)
  addrs := (same.map _).nodup_iff.mp owned.addrs
  nodes := (same.flatMap_right _).nodup_iff.mp owned.nodes

/-- A new packet belongs to the request it is put in. -/
theorem Owned.push (owned : Owned pkts (h :: held)) (unused : pkts newPkt = none)
    (packet : SrPacket) :
    Owned (writeCell pkts newPkt ⟨packet, h.fields.packets⟩) (h.push newPkt packet :: held) where
  packets := by
    intro k listed
    rcases List.mem_cons.mp listed with rfl | other
    · exact (owned.packets h List.mem_cons_self).cons unused packet
    · exact Segment.writeCell_of_free (owned.packets k (List.mem_cons_of_mem _ other)) unused _
  addrs := owned.addrs
  nodes := by
    refine List.nodup_cons.mpr ⟨fun used => ?_, owned.nodes⟩
    -- A packet in memory has another address than the new one.
    have inMemory : newPkt ∈ (h :: held).flatMap fun h => h.nodes.map Prod.fst := used
    obtain ⟨k, listed, inside⟩ := List.mem_flatMap.mp inMemory
    exact Segment.not_mem_of_free (owned.packets k listed) unused inside

/-- The packets of one request can be freed without touching any other. -/
theorem Owned.freeAll (owned : Owned pkts (h :: held)) :
    ∃ pkts', Finishes (fun rounds => freeAll pkts rounds h.fields.packets) pkts' ∧
      Owned pkts' held := by
  have nodes := owned.nodes
  rw [List.flatMap_cons, List.nodup_append] at nodes
  obtain ⟨own, others, apart⟩ := nodes
  obtain ⟨pkts', frees, frame⟩ := freeAll_finishes (owned.packets h List.mem_cons_self) own
  refine ⟨pkts', frees, fun k listed => ?_, (List.nodup_cons.mp owned.addrs).2, others⟩
  refine Segment.frame (owned.packets k (List.mem_cons_of_mem _ listed)) fun q inside => frame q ?_
  intro freed
  exact apart q freed q (List.mem_flatMap.mpr ⟨k, listed, inside⟩) rfl

@[simp] theorem map_fst_cell (queue : List Held) :
    (queue.map Held.cell).map Prod.fst = queue.map Held.addr := by
  rw [List.map_map]
  rfl

theorem laid_init : Laid srArpcacheInit [] [] where
  chain := rfl
  ips := List.nodup_nil
  out := by simp
  owned := ⟨by simp, List.nodup_nil, List.nodup_nil⟩

/-- Every request is allocated. -/
theorem Laid.allocated (laid : Laid mem queued taken) (listed : h ∈ queued ++ taken) :
    ∃ next, mem.reqs h.addr = some ⟨h.fields, next⟩ := by
  rcases List.mem_append.mp listed with onQueue | off
  · exact Segment.allocated laid.chain (List.mem_map_of_mem onQueue)
  · exact laid.out h off

/-- The requests that were taken out stand in no order. -/
theorem Laid.perm (laid : Laid mem queued held) (same : held.Perm held') :
    Laid mem queued held' where
  chain := laid.chain
  ips := laid.ips
  out := fun h listed => laid.out h (same.mem_iff.mpr listed)
  owned := laid.owned.perm (same.append_left queued)

/-- A request that no address on the queue waits for gets in front of it. -/
theorem Laid.alloc (laid : Laid mem queued taken) (unused : mem.reqs newReq = none)
    (absent : ∀ h ∈ queued, h.ip ≠ ip) :
    Laid { mem with
      reqs := writeCell mem.reqs newReq ⟨⟨ip, 0, 0, none⟩, mem.requests⟩
      requests := some newReq } (⟨newReq, ⟨ip, 0, 0, none⟩, []⟩ :: queued) taken := by
  have other : ∀ h ∈ queued ++ taken, h.addr ≠ newReq := by
    rintro h listed rfl
    obtain ⟨next, allocated⟩ := laid.allocated listed
    rw [unused] at allocated
    cases allocated
  refine ⟨laid.chain.cons unused _, ?_, fun h listed => ?_, ⟨fun h listed => ?_, ?_, ?_⟩⟩
  · refine List.nodup_cons.mpr ⟨fun listed => ?_, laid.ips⟩
    obtain ⟨h, onQueue, same⟩ := List.mem_map.mp listed
    exact absent h onQueue same
  · obtain ⟨next, allocated⟩ := laid.out h listed
    refine ⟨next, ?_⟩
    rw [← allocated]
    exact writeCell_of_ne (other h (List.mem_append_right _ listed)) _
  · rcases List.mem_cons.mp listed with rfl | old
    · rfl
    · exact laid.owned.packets h old
  · refine List.nodup_cons.mpr ⟨fun listed => ?_, laid.owned.addrs⟩
    obtain ⟨h, old, same⟩ := List.mem_map.mp listed
    exact other h old same
  · exact laid.owned.nodes

/-- A packet is put in front of the packets of a request on the queue. -/
theorem Laid.addPacket (laid : Laid mem (front ++ h :: back) taken)
    (unused : mem.pkts newPkt = none) (packet : Bytes) (iface : IfName) :
    ∃ mem', addPacket mem h.addr packet iface newPkt = .ok mem' ∧ mem'.entries = mem.entries ∧
      Laid mem' (front ++ h.push newPkt ⟨packet, iface⟩ :: back) taken := by
  obtain ⟨next, allocated⟩ := laid.allocated (List.mem_append_left taken List.mem_append_cons_self)
  have distinct : ((front ++ h :: back).map Held.addr).Nodup :=
    laid.owned.addrs.sublist ((List.sublist_append_left _ _).map _)
  refine ⟨{ mem with
    pkts := writeCell mem.pkts newPkt ⟨⟨packet, iface⟩, h.fields.packets⟩
    reqs := writeCell mem.reqs h.addr ⟨{ h.fields with packets := some newPkt }, next⟩ },
    ?_, rfl, ?_, ?_, fun k listed => ?_, ?_⟩
  · rw [Pointers.addPacket, readCell_eq allocated]
    rfl
  · have chain := laid.chain
    rw [← map_fst_cell] at distinct
    rw [List.map_append, List.map_cons] at chain distinct ⊢
    exact chain.overwrite distinct _ allocated
  · have ips := laid.ips
    rw [List.map_append, List.map_cons] at ips ⊢
    exact ips
  · -- A request that was taken out has another address.
    obtain ⟨link, allocated'⟩ := laid.out k listed
    refine ⟨link, ?_⟩
    rw [← allocated']
    refine writeCell_of_ne ?_ _
    have apart := laid.owned.addrs
    rw [List.map_append, List.nodup_append] at apart
    exact fun same => apart.2.2 h.addr (by simp) k.addr (List.mem_map_of_mem listed) same.symm
  · have toFront := laid.owned.perm ((List.perm_middle).append_right taken)
    exact (toFront.push unused _).perm ((List.perm_middle).symm.append_right taken)

/-- The request that a search of the queue comes to first is taken out. -/
theorem Laid.unlinkFirst (laid : Laid mem (front ++ h :: back) taken) (test : ℕ → Arpreq → Bool)
    (others : ∀ k ∈ front, test k.addr k.fields = false) (passes : test h.addr h.fields) :
    ∃ reqs requests, Finishes (unlinkFirst test mem.reqs mem.requests)
        (some h.addr, reqs, requests) ∧
      ∀ entries, Laid ⟨entries, requests, reqs, mem.pkts⟩ (front ++ back) (h :: taken) := by
  have moved : (front ++ h :: back ++ taken).Perm (front ++ back ++ h :: taken) :=
    ((List.perm_middle).append_right taken).trans (List.perm_middle).symm
  have chain := laid.chain
  have distinct : ((front ++ h :: back).map Held.addr).Nodup :=
    laid.owned.addrs.sublist ((List.sublist_append_left _ _).map _)
  have behind : ∀ k ∈ h :: taken, k.addr ∉ (front.map Held.cell).map Prod.fst := by
    intro k listed
    rw [map_fst_cell]
    have apart := (laid.owned.perm moved).addrs
    rw [List.append_assoc, List.map_append, List.nodup_append] at apart
    intro before
    exact apart.2.2 k.addr before k.addr (List.mem_map_of_mem (List.mem_append_right _ listed)) rfl
  rw [← map_fst_cell] at distinct
  rw [List.map_append, List.map_cons] at chain distinct
  obtain ⟨reqs, requests, runs, chain', frame⟩ := unlinkFirst_found chain distinct
    (fun cell listed => by
      obtain ⟨k, inFront, rfl⟩ := List.mem_map.mp listed
      exact others k inFront) passes
  refine ⟨reqs, requests, runs, fun entries => ⟨?_, ?_, fun k listed => ?_, laid.owned.perm moved⟩⟩
  · rw [List.map_append]
    exact chain'
  · exact laid.ips.sublist (((List.sublist_cons_self _ _).append_left _).map _)
  · change ∃ next, reqs k.addr = some ⟨k.fields, next⟩
    rw [frame k.addr (behind k listed)]
    refine laid.allocated ?_
    rcases List.mem_cons.mp listed with rfl | off
    · simp
    · exact List.mem_append_right _ off

/-- A search that no request on the queue passes leaves the queue as it is. -/
theorem Laid.unlinkFirst_absent (laid : Laid mem queued taken) (test : ℕ → Arpreq → Bool)
    (others : ∀ k ∈ queued, test k.addr k.fields = false) :
    Finishes (Linked.unlinkFirst test mem.reqs mem.requests) (none, mem.reqs, mem.requests) := by
  refine Linked.unlinkFirst_absent laid.chain fun cell listed => ?_
  obtain ⟨k, onQueue, rfl⟩ := List.mem_map.mp listed
  exact others k onQueue

/-- A request that was taken out is freed with its packets. -/
theorem Laid.freeRequest (laid : Laid mem queued (h :: taken)) :
    ∃ mem', Finishes (freeRequest mem h.addr) mem' ∧ mem'.entries = mem.entries ∧
      Laid mem' queued taken := by
  have toFront := laid.owned.perm List.perm_middle
  obtain ⟨next, allocated⟩ := laid.out h List.mem_cons_self
  obtain ⟨pkts, frees, owned⟩ := toFront.freeAll
  have addrs := List.nodup_cons.mp toFront.addrs
  have other : ∀ k ∈ queued ++ taken, k.addr ≠ h.addr := fun k listed same =>
    addrs.1 (same ▸ List.mem_map_of_mem listed)
  refine ⟨{ mem with reqs := Function.update mem.reqs h.addr none, pkts := pkts }, ?_, rfl, ?_,
    laid.ips, fun k listed => ?_, owned⟩
  · refine (finishes_of_eq (readCell_eq allocated)).bind (frees.bind (finishes_of_eq ?_))
    rw [freeCell_eq allocated]
    rfl
  · refine Segment.frame laid.chain fun q listed => Function.update_of_ne ?_ _ _
    rintro rfl
    rw [map_fst_cell] at listed
    obtain ⟨k, onQueue, same⟩ := List.mem_map.mp listed
    exact other k (List.mem_append_left _ onQueue) same
  · obtain ⟨link, allocated'⟩ := laid.out k (List.mem_cons_of_mem _ listed)
    refine ⟨link, ?_⟩
    rw [← allocated']
    exact Function.update_of_ne (other k (List.mem_append_right _ listed)) _ _

/-! ## What the functions do -/

variable {packet : Bytes}

/-- No request in front of one waits for the same address. -/
theorem Laid.ip_ne (laid : Laid mem (front ++ h :: back) taken) :
    ∀ k ∈ front, k.ip ≠ h.ip := by
  have ips := laid.ips
  rw [List.map_append, List.map_cons, List.nodup_append] at ips
  intro k inFront
  exact ips.2.2 k.ip (List.mem_map_of_mem inFront) h.ip List.mem_cons_self

/-- No request in front of one has the same address. -/
theorem Laid.addr_ne (laid : Laid mem (front ++ h :: back) taken) :
    ∀ k ∈ front, k.addr ≠ h.addr := by
  have addrs := laid.owned.addrs
  rw [List.append_assoc, List.map_append, List.nodup_append] at addrs
  intro k inFront
  exact addrs.2.2 k.addr (List.mem_map_of_mem inFront) h.addr (by simp)

/-- A packet for an address that a request waits for joins that request. -/
theorem queuereq_joins (laid : Laid mem (front ++ h :: back) taken)
    (unused : mem.pkts newPkt = none) (some : packet ≠ []) (iface : IfName) (newReq : ℕ) :
    ∃ mem', Finishes (srArpcacheQueuereq mem h.ip packet iface newReq newPkt) (mem', h.addr) ∧
      mem'.entries = mem.entries ∧
      Laid mem' (front ++ h.push newPkt ⟨packet, iface⟩ :: back) taken := by
  have chain := laid.chain
  rw [List.map_append, List.map_cons] at chain
  obtain ⟨prev, walk⟩ := search_finds (fun _ req => req.ip = h.ip) chain
    (fun cell listed => by
      obtain ⟨k, inFront, rfl⟩ := List.mem_map.mp listed
      exact decide_eq_false (laid.ip_ne k inFront)) (decide_eq_true rfl)
  obtain ⟨mem', added, entries, laid'⟩ := laid.addPacket unused packet iface
  refine ⟨mem', walk.bind (finishes_of_eq ?_), entries, laid'⟩
  change (if packet ≠ [] then
    (do let mem ← addPacket mem h.addr packet iface newPkt; .ok (mem, h.addr)) else _) = _
  rw [if_pos some, added]
  rfl

/-- The first packet for an address makes a request for it. -/
theorem queuereq_creates (laid : Laid mem queued taken) (absent : ∀ h ∈ queued, h.ip ≠ ip)
    (unusedReq : mem.reqs newReq = none) (unused : mem.pkts newPkt = none) (some : packet ≠ [])
    (iface : IfName) :
    ∃ mem', Finishes (srArpcacheQueuereq mem ip packet iface newReq newPkt) (mem', newReq) ∧
      mem'.entries = mem.entries ∧
      Laid mem'
        (Held.push ⟨newReq, ⟨ip, 0, 0, none⟩, []⟩ newPkt ⟨packet, iface⟩ :: queued) taken := by
  obtain ⟨prev, walk⟩ := search_misses (fun _ req => req.ip = ip) laid.chain
    (fun cell listed => by
      obtain ⟨k, onQueue, rfl⟩ := List.mem_map.mp listed
      exact decide_eq_false (absent k onQueue))
  have created : Laid _ ([] ++ ⟨newReq, ⟨ip, 0, 0, none⟩, []⟩ :: queued) taken :=
    laid.alloc unusedReq absent
  obtain ⟨mem', added, entries, laid'⟩ := created.addPacket unused packet iface
  refine ⟨mem', walk.bind (finishes_of_eq ?_), entries, laid'⟩
  change (if packet ≠ [] then
    (do let mem ← addPacket _ newReq packet iface newPkt; .ok (mem, newReq)) else _) = _
  rw [if_pos some, added]
  rfl

/-- The request that waits for the address is handed out. -/
theorem insert_hands_out (laid : Laid mem (front ++ h :: back) taken) (now : ℤ) (mac : Mac) :
    ∃ mem', Finishes (srArpcacheInsert now mem mac h.ip) (mem', some h.addr) ∧
      mem'.entries = fillSlot now mac h.ip mem.entries ∧
        Laid mem' (front ++ back) (h :: taken) := by
  obtain ⟨reqs, requests, unlinks, laid'⟩ := laid.unlinkFirst
    (fun _ req => req.ip = h.ip)
    (fun k inFront => decide_eq_false (laid.ip_ne k inFront)) (decide_eq_true rfl)
  exact ⟨_, unlinks.bind (finishes_of_eq rfl), rfl, laid' _⟩

/-- Nothing is handed out for an address that no request waits for. -/
theorem insert_hands_out_nothing (laid : Laid mem queued taken) (absent : ∀ h ∈ queued, h.ip ≠ ip)
    (now : ℤ) (mac : Mac) :
    ∃ mem', Finishes (srArpcacheInsert now mem mac ip) (mem', none) ∧
      mem'.entries = fillSlot now mac ip mem.entries ∧ Laid mem' queued taken := by
  have walks := laid.unlinkFirst_absent (fun _ req => req.ip = ip)
    fun k onQueue => decide_eq_false (absent k onQueue)
  exact ⟨_, walks.bind (finishes_of_eq rfl), rfl, laid.chain, laid.ips, laid.out, laid.owned⟩

/-- A request on the queue is taken out of it and freed. -/
theorem destroy_queued (laid : Laid mem (front ++ h :: back) taken) :
    ∃ mem', Finishes (srArpreqDestroy mem (some h.addr)) mem' ∧ mem'.entries = mem.entries ∧
      Laid mem' (front ++ back) taken := by
  obtain ⟨reqs, requests, unlinks, laid'⟩ := laid.unlinkFirst (fun p _ => p = h.addr)
    (fun k inFront => decide_eq_false (laid.addr_ne k inFront)) (decide_eq_true rfl)
  obtain ⟨mem', frees, entries, laid''⟩ := (laid' mem.entries).freeRequest
  exact ⟨mem', unlinks.bind frees, entries, laid''⟩

/-- A request that was handed out is freed, and the queue stays as it is. -/
theorem destroy_taken (laid : Laid mem queued (front ++ h :: back)) :
    ∃ mem', Finishes (srArpreqDestroy mem (some h.addr)) mem' ∧ mem'.entries = mem.entries ∧
      Laid mem' queued (front ++ back) := by
  have addrs := laid.owned.addrs
  rw [List.map_append, List.nodup_append] at addrs
  have walks := laid.unlinkFirst_absent (fun p _ => p = h.addr) fun k onQueue =>
    decide_eq_false (addrs.2.2 k.addr (List.mem_map_of_mem onQueue) h.addr (by simp))
  obtain ⟨mem', frees, entries, laid'⟩ := (laid.perm List.perm_middle).freeRequest
  exact ⟨mem', walks.bind frees, entries, laid'⟩

end Layout

end SimpleRouter.Pointers
