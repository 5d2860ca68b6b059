/-
# The request queue refines a map

`Registry` is what the queue is for: a map from IP addresses to the packets that wait
for them, and the requests that were handed out. A history of calls, each with what it
returned, describes such a map. In every history the lists in memory represent it, and
every further call returns what the map says.

The list model of the queue is refined as well: its operations are what the code on
linked lists computes.
-/

import SimpleRouter.RequestQueue
import SimpleRouter.Topology

namespace SimpleRouter.Pointers

open Linked Rounds

/-! ## Calls -/

/-- A call of one of the functions, with what the allocator and the clock answer in it. -/
inductive Call
  | queuereq (ip : Ip) (packet : Bytes) (iface : IfName) (newReq newPkt : ℕ)
  | insert (now : ℤ) (mac : Mac) (ip : Ip)
  | destroy (entry : ℕ)

/-- What a call leaves and what it returns, if its loops may run that many rounds. -/
def execute (mem : Memory) : Call → ℕ → Except Failure (Memory × Option ℕ)
  | .queuereq ip packet iface newReq newPkt, rounds => do
    let (mem, req) ← srArpcacheQueuereq mem ip packet iface newReq newPkt rounds
    .ok (mem, some req)
  | .insert now mac ip, rounds => srArpcacheInsert now mem mac ip rounds
  | .destroy entry, rounds => do
    let mem ← srArpreqDestroy mem (some entry) rounds
    .ok (mem, none)

/-- Calls with what they returned, the latest first. -/
abbrev CallLog := List (Call × Option ℕ)

/-- The requests that were returned and have not been destroyed since. -/
def outstanding : CallLog → List ℕ
  | [] => []
  | (.destroy entry, _) :: log => (outstanding log).filter (· ≠ entry)
  | (_, answer) :: log => answer.toList ++ outstanding log

/-- A packet is not empty, the allocator returns addresses that are free, and only an
outstanding request is destroyed. -/
def Allowed (log : CallLog) (mem : Memory) : Call → Prop
  | .queuereq _ packet _ newReq newPkt =>
    packet ≠ [] ∧ mem.reqs newReq = none ∧ mem.pkts newPkt = none
  | .insert .. => True
  | .destroy entry => entry ∈ outstanding log

/-- The memory that a history of calls leaves. -/
inductive Calls : CallLog → Memory → Prop
  | init : Calls [] srArpcacheInit
  | call {log : CallLog} {mem mem' : Memory} {call : Call} {answer : Option ℕ} :
      Calls log mem → Allowed log mem call → Finishes (execute mem call) (mem', answer) →
        Calls ((call, answer) :: log) mem'

/-! ## The map -/

/-- What the queue is for: the request and the packets that wait for each address, the
newest packet first, and the requests that were handed out and not destroyed. -/
structure Registry where
  waiting : Ip → Option (ℕ × List SrPacket)
  taken : List ℕ

/-- The map after a call that returned `answer`. -/
def Registry.after (registry : Registry) : Call → Option ℕ → Registry
  | .queuereq ip packet iface _ _, answer =>
    let packets := ((registry.waiting ip).map Prod.snd).getD []
    { registry with
      waiting := Function.update registry.waiting ip
        (answer.map fun req => (req, ⟨packet, iface⟩ :: packets)) }
  | .insert _ _ ip, answer =>
    ⟨Function.update registry.waiting ip none, answer.toList ++ registry.taken⟩
  | .destroy entry, _ =>
    if entry ∈ registry.taken then
      { registry with taken := registry.taken.filter (· ≠ entry) }
    else { registry with waiting := fun ip => (registry.waiting ip).filter (·.1 ≠ entry) }

/-- The map that a history of calls describes. -/
def replay : CallLog → Registry
  | [] => ⟨fun _ => none, []⟩
  | (call, answer) :: log => (replay log).after call answer

/-- The request that waits for each address. -/
def waitingIn (queue : List Held) (ip : Ip) : Option (ℕ × List SrPacket) :=
  (Keyed.find Held.ip ip queue).map fun h => (h.addr, h.packets)

/-- The list of requests in memory, each with its list of packets, is the map. -/
def Represents (mem : Memory) (waiting : Ip → Option (ℕ × List SrPacket)) : Prop :=
  ∃ queue : List Held, Chain mem.reqs mem.requests (queue.map Held.cell) ∧
    (queue.map Held.ip).Nodup ∧ (queue.map Held.addr).Nodup ∧
    (∀ h ∈ queue, Chain mem.pkts h.fields.packets h.nodes) ∧ waiting = waitingIn queue

/-- The request at the address holds these packets. -/
def HoldsPackets (mem : Memory) (req : ℕ) (packets : List SrPacket) : Prop :=
  ∃ cell nodes, mem.reqs req = some cell ∧ Chain mem.pkts cell.data.packets nodes ∧
    nodes.map Prod.snd = packets

/-- The request waits for one address. -/
def Registry.WaitsOnce (registry : Registry) (req : ℕ) : Prop :=
  ∃ ip packets, registry.waiting ip = some (req, packets) ∧
    ∀ ip' packets', registry.waiting ip' = some (req, packets') → ip' = ip

/-- What a call has to return: the request that the packet waits on, or the request
that was waiting with all of its packets. -/
def Answers (registry : Registry) (mem' : Memory) : Call → Option ℕ → Prop
  | .queuereq ip _ _ _ _, answer =>
    ∃ req, answer = some req ∧ ∀ waiting, registry.waiting ip = some waiting → waiting.1 = req
  | .insert _ _ ip, answer =>
    answer = (registry.waiting ip).map Prod.fst ∧
      ∀ waiting, registry.waiting ip = some waiting → HoldsPackets mem' waiting.1 waiting.2
  | .destroy _, answer => answer = none

/-! ## Maps read off a queue -/

section Queue

variable {queue front back : List Held} {h : Held} {ip : Ip}

theorem waitingIn_of_mem (ips : (queue.map Held.ip).Nodup) (listed : h ∈ queue) :
    waitingIn queue h.ip = some (h.addr, h.packets) := by
  rw [waitingIn, Keyed.find_of_mem ips listed]
  rfl

theorem mem_of_waitingIn {waiting : ℕ × List SrPacket} (waits : waitingIn queue ip = some waiting) :
    ∃ h ∈ queue, h.ip = ip ∧ waiting = (h.addr, h.packets) := by
  obtain ⟨h, found, rfl⟩ := Option.map_eq_some_iff.mp waits
  exact ⟨h, Keyed.mem_of_find found, Keyed.key_of_find found, rfl⟩

theorem waitingIn_eq_none_iff : waitingIn queue ip = none ↔ ∀ h ∈ queue, h.ip ≠ ip := by
  rw [waitingIn, Option.map_eq_none_iff, Keyed.find_eq_none_iff]

/-- A request anywhere on the queue adds one key to the map. -/
theorem waitingIn_middle (first : ∀ k ∈ front, k.ip ≠ h.ip) :
    waitingIn (front ++ h :: back) =
      Function.update (waitingIn (front ++ back)) h.ip (some (h.addr, h.packets)) := by
  funext ip
  unfold waitingIn Keyed.find
  by_cases same : ip = h.ip
  · subst same
    have passed : front.find? (fun k => k.ip = h.ip) = none := by
      simpa [List.find?_eq_none] using first
    rw [Function.update_self, List.find?_append, passed]
    simp
  · have other : ¬ h.ip = ip := fun eq => same eq.symm
    rw [Function.update_of_ne same, List.find?_append, List.find?_append]
    simp [other]

/-- Taking a request out of the queue takes its key out of the map. -/
theorem waitingIn_remove (ips : ((front ++ h :: back).map Held.ip).Nodup) :
    Function.update (waitingIn (front ++ h :: back)) h.ip none = waitingIn (front ++ back) := by
  have apart := ips
  rw [List.map_append, List.map_cons, List.nodup_append, List.nodup_cons] at apart
  obtain ⟨-, ⟨notBehind, -⟩, apart⟩ := apart
  have first : ∀ k ∈ front, k.ip ≠ h.ip := fun k inFront =>
    apart k.ip (List.mem_map_of_mem inFront) h.ip List.mem_cons_self
  rw [waitingIn_middle first, Function.update_idem, Function.update_eq_self_iff, eq_comm,
    waitingIn_eq_none_iff]
  intro k listed
  rcases List.mem_append.mp listed with inFront | inBack
  · exact first k inFront
  · exact fun same => notBehind (same ▸ List.mem_map_of_mem inBack)

/-- Leaving out the request with an address takes its key out of the map. -/
theorem waitingIn_filter (addrs : ((front ++ h :: back).map Held.addr).Nodup)
    (first : ∀ k ∈ front, k.ip ≠ h.ip) (ip : Ip) :
    (waitingIn (front ++ h :: back) ip).filter (·.1 ≠ h.addr) =
      Function.update (waitingIn (front ++ h :: back)) h.ip none ip := by
  by_cases same : ip = h.ip
  · subst same
    rw [waitingIn_middle first, Function.update_self, Function.update_self]
    simp
  · rw [Function.update_of_ne same]
    cases waits : waitingIn (front ++ h :: back) ip with
    | none => rfl
    | some waiting =>
      obtain ⟨k, listed, rfl, rfl⟩ := mem_of_waitingIn waits
      -- The request for another key is another request and has another address.
      have other : k.addr ≠ h.addr := by
        intro shared
        have eq := List.inj_on_of_nodup_map addrs listed List.mem_append_cons_self shared
        exact same (congrArg Held.ip eq)
      simp [other]

end Queue

/-! ## Every history -/

/-- The requests in memory are the ones that the history of calls describes. -/
structure Tracks (log : CallLog) (queued taken : List Held) : Prop where
  outstanding : ∀ req, req ∈ outstanding log ↔ req ∈ (queued ++ taken).map Held.addr
  waiting : (replay log).waiting = waitingIn queued
  taken : ∀ req, req ∈ (replay log).taken ↔ req ∈ taken.map Held.addr

/-- The call returns what the map says and does to the lists what it does to the map. -/
def Advances (log : CallLog) (mem : Memory) (call : Call) : Prop :=
  ∃ mem' answer queued taken, Finishes (execute mem call) (mem', answer) ∧
    Laid mem' queued taken ∧ Tracks ((call, answer) :: log) queued taken ∧
    Answers (replay log) mem' call answer

section Steps

variable {log : CallLog} {mem : Memory} {queued taken : List Held}

theorem queuereq_advances (laid : Laid mem queued taken) (tracks : Tracks log queued taken)
    {ip : Ip} {packet : Bytes} {iface : IfName} {newReq newPkt : ℕ}
    (allowed : Allowed log mem (.queuereq ip packet iface newReq newPkt)) :
    Advances log mem (.queuereq ip packet iface newReq newPkt) := by
  obtain ⟨nonempty, unusedReq, unused⟩ := allowed
  cases waits : waitingIn queued ip with
  | some waiting =>
    -- The packet joins the request that waits for the address.
    obtain ⟨h, onQueue, rfl, rfl⟩ := mem_of_waitingIn waits
    obtain ⟨front, back, rfl⟩ := List.append_of_mem onQueue
    obtain ⟨mem', runs, -, laid'⟩ := queuereq_joins laid unused nonempty iface newReq
    refine ⟨mem', some h.addr, _, _, runs.bind (finishes_of_eq rfl), laid', ⟨fun req => ?_, ?_,
      tracks.taken⟩, h.addr, rfl, fun waiting' same => ?_⟩
    · have listed := tracks.outstanding req
      rw [List.map_append, List.map_append, List.map_cons] at listed ⊢
      change req ∈ h.addr :: outstanding log ↔ _
      rw [List.mem_cons, listed]
      constructor
      · rintro (rfl | old)
        · simp [Held.push]
        · exact old
      · exact .inr
    · change Function.update (replay log).waiting h.ip _ = _
      rw [tracks.waiting, waits, waitingIn_middle laid.ip_ne, Function.update_idem,
        waitingIn_middle (h := h.push newPkt ⟨packet, iface⟩) laid.ip_ne]
      rfl
    · rw [tracks.waiting, waits] at same
      cases same
      rfl
  | none =>
    -- No request waits for the address, and a new one is made.
    obtain ⟨mem', runs, -, laid'⟩ := queuereq_creates laid (waitingIn_eq_none_iff.mp waits)
      unusedReq unused nonempty iface
    refine ⟨mem', some newReq, _, _, runs.bind (finishes_of_eq rfl), laid', ⟨fun req => ?_, ?_,
      tracks.taken⟩, newReq, rfl, fun waiting' same => ?_⟩
    · change req ∈ newReq :: outstanding log ↔ req ∈ newReq :: (queued ++ taken).map Held.addr
      rw [List.mem_cons, List.mem_cons, tracks.outstanding]
    · change Function.update (replay log).waiting ip _ = _
      have first : waitingIn
          ([] ++ Held.push ⟨newReq, ⟨ip, 0, 0, none⟩, []⟩ newPkt ⟨packet, iface⟩ :: queued) = _ :=
        waitingIn_middle (by simp)
      rw [List.nil_append, List.nil_append] at first
      rw [first, tracks.waiting, waits]
      rfl
    · rw [tracks.waiting, waits] at same
      cases same

theorem insert_advances (laid : Laid mem queued taken) (tracks : Tracks log queued taken)
    (now : ℤ) (mac : Mac) (ip : Ip) : Advances log mem (.insert now mac ip) := by
  cases waits : waitingIn queued ip with
  | some waiting =>
    -- The request that waits for the address is handed out with its packets.
    obtain ⟨h, onQueue, rfl, rfl⟩ := mem_of_waitingIn waits
    obtain ⟨front, back, rfl⟩ := List.append_of_mem onQueue
    obtain ⟨mem', runs, -, laid'⟩ := insert_hands_out laid now mac
    refine ⟨mem', some h.addr, _, _, runs, laid', ⟨fun req => ?_, ?_, fun req => ?_⟩, ?_,
      fun waiting' same => ?_⟩
    · change req ∈ h.addr :: outstanding log ↔ _
      rw [List.mem_cons, tracks.outstanding]
      simp only [List.map_append, List.map_cons, List.mem_append, List.mem_cons]
      tauto
    · change Function.update (replay log).waiting h.ip none = _
      rw [tracks.waiting, waitingIn_remove laid.ips]
    · change req ∈ h.addr :: (replay log).taken ↔ req ∈ h.addr :: taken.map Held.addr
      rw [List.mem_cons, List.mem_cons, tracks.taken]
    · rw [tracks.waiting, waits]
      rfl
    · rw [tracks.waiting, waits] at same
      cases same
      obtain ⟨next, allocated⟩ := laid'.out h List.mem_cons_self
      exact ⟨_, h.nodes, allocated, laid'.owned.packets h (by simp), rfl⟩
  | none =>
    obtain ⟨mem', runs, -, laid'⟩ := insert_hands_out_nothing laid
      (waitingIn_eq_none_iff.mp waits) now mac
    refine ⟨mem', none, _, _, runs, laid', ⟨tracks.outstanding, ?_, tracks.taken⟩, ?_,
      fun waiting' same => ?_⟩
    · change Function.update (replay log).waiting ip none = _
      rw [tracks.waiting, Function.update_eq_self_iff, waits]
    · rw [tracks.waiting, waits]
      rfl
    · rw [tracks.waiting, waits] at same
      cases same

/-- Without one of the addresses, the addresses of the other requests are left. -/
theorem mem_filter_addr {held rest : List Held} {h : Held} {addrs : List ℕ}
    (same : held.Perm (h :: rest)) (distinct : (held.map Held.addr).Nodup)
    (listed : ∀ req, req ∈ addrs ↔ req ∈ held.map Held.addr) (req : ℕ) :
    req ∈ addrs.filter (· ≠ h.addr) ↔ req ∈ rest.map Held.addr := by
  have apart := (same.map Held.addr).nodup_iff.mp distinct
  rw [List.map_cons, List.nodup_cons] at apart
  rw [List.mem_filter, listed, (same.map Held.addr).mem_iff, List.map_cons, List.mem_cons]
  constructor
  · rintro ⟨rfl | other, differs⟩
    · simp at differs
    · exact other
  · intro other
    refine ⟨.inr other, decide_eq_true ?_⟩
    rintro rfl
    exact apart.1 other

theorem destroy_advances (laid : Laid mem queued taken) (tracks : Tracks log queued taken)
    {entry : ℕ} (allowed : Allowed log mem (.destroy entry)) :
    Advances log mem (.destroy entry) := by
  have addrs := laid.owned.addrs
  obtain ⟨h, listed, rfl⟩ := List.mem_map.mp ((tracks.outstanding entry).mp allowed)
  rcases List.mem_append.mp listed with onQueue | off
  · -- A request on the queue: its key goes.
    obtain ⟨front, back, rfl⟩ := List.append_of_mem onQueue
    obtain ⟨mem', runs, -, laid'⟩ := destroy_queued laid
    have toFront : (front ++ h :: back ++ taken).Perm (h :: (front ++ back ++ taken)) :=
      (List.perm_middle).append_right taken
    have notTaken : h.addr ∉ (replay log).taken := by
      rw [tracks.taken]
      rw [List.map_append, List.nodup_append] at addrs
      exact fun off => addrs.2.2 h.addr (List.mem_map_of_mem onQueue) h.addr off rfl
    refine ⟨mem', none, _, _, runs.bind (finishes_of_eq rfl), laid',
      ⟨mem_filter_addr toFront addrs tracks.outstanding, ?_, fun req => ?_⟩, rfl⟩
    · rw [replay, Registry.after, if_neg notTaken, tracks.waiting, ← waitingIn_remove laid.ips]
      funext ip
      refine waitingIn_filter ?_ laid.ip_ne ip
      exact addrs.sublist ((List.sublist_append_left _ _).map _)
    · rw [replay, Registry.after, if_neg notTaken]
      exact tracks.taken req
  · -- A request that was handed out: the map stays.
    obtain ⟨front, back, rfl⟩ := List.append_of_mem off
    obtain ⟨mem', runs, -, laid'⟩ := destroy_taken laid
    have toFront : (queued ++ (front ++ h :: back)).Perm (h :: (queued ++ (front ++ back))) :=
      ((List.perm_middle).append_left queued).trans List.perm_middle
    have isTaken : h.addr ∈ (replay log).taken :=
      (tracks.taken h.addr).mpr (List.mem_map_of_mem off)
    rw [List.map_append, List.nodup_append] at addrs
    refine ⟨mem', none, _, _, runs.bind (finishes_of_eq rfl), laid',
      ⟨mem_filter_addr toFront laid.owned.addrs tracks.outstanding, ?_, fun req => ?_⟩, rfl⟩
    · rw [replay, Registry.after, if_pos isTaken]
      exact tracks.waiting
    · rw [replay, Registry.after, if_pos isTaken]
      exact mem_filter_addr List.perm_middle addrs.2.1 tracks.taken req

theorem advances (laid : Laid mem queued taken) (tracks : Tracks log queued taken) {call : Call}
    (allowed : Allowed log mem call) : Advances log mem call := by
  cases call with
  | queuereq => exact queuereq_advances laid tracks allowed
  | insert => exact insert_advances laid tracks _ _ _
  | destroy => exact destroy_advances laid tracks allowed

theorem laid_of_calls (calls : Calls log mem) :
    ∃ queued taken, Laid mem queued taken ∧ Tracks log queued taken := by
  induction calls with
  | init => exact ⟨[], [], laid_init, by simp [outstanding], rfl, by simp [replay]⟩
  | call _ allowed finishes ih =>
    obtain ⟨queued, taken, laid, tracks⟩ := ih
    obtain ⟨mem', answer, queued', taken', finishes', laid', tracks', -⟩ :=
      advances laid tracks allowed
    cases finishes.unique finishes'
    exact ⟨queued', taken', laid', tracks'⟩

theorem represents_of_tracks (laid : Laid mem queued taken) (tracks : Tracks log queued taken) :
    Represents mem (replay log).waiting := by
  refine ⟨queued, laid.chain, laid.ips, ?_, fun h onQueue => ?_, tracks.waiting⟩
  · exact laid.owned.addrs.sublist ((List.sublist_append_left _ _).map _)
  · exact laid.owned.packets h (List.mem_append_left _ onQueue)

/-- An outstanding request was handed out, or it waits for one address. -/
theorem outstanding_cases (laid : Laid mem queued taken) (tracks : Tracks log queued taken)
    {req : ℕ} (returned : req ∈ outstanding log) :
    req ∈ (replay log).taken ∨ (replay log).WaitsOnce req := by
  obtain ⟨h, listed, rfl⟩ := List.mem_map.mp ((tracks.outstanding req).mp returned)
  rcases List.mem_append.mp listed with onQueue | off
  · refine .inr ⟨h.ip, h.packets, ?_, fun ip packets waits => ?_⟩
    · rw [tracks.waiting, waitingIn_of_mem laid.ips onQueue]
    · rw [tracks.waiting] at waits
      obtain ⟨k, onQueue', rfl, same⟩ := mem_of_waitingIn waits
      have addrs := laid.owned.addrs.sublist ((List.sublist_append_left _ _).map _)
      rw [List.inj_on_of_nodup_map addrs onQueue onQueue' (congrArg Prod.fst same)]
  · exact .inl ((tracks.taken h.addr).mpr (List.mem_map_of_mem off))

/-- In every history of calls the lists in memory represent the map that the calls
describe, and every call that may come next returns, returns what the map says and
leaves the map that it should. -/
theorem queue_refines_map (calls : Calls log mem) :
    Represents mem (replay log).waiting ∧
      (∀ req ∈ outstanding log, req ∈ (replay log).taken ∨ (replay log).WaitsOnce req) ∧
      ∀ call, Allowed log mem call → ∃ mem' answer,
        Finishes (execute mem call) (mem', answer) ∧ Answers (replay log) mem' call answer ∧
          Represents mem' ((replay log).after call answer).waiting := by
  obtain ⟨queued, taken, laid, tracks⟩ := laid_of_calls calls
  refine ⟨represents_of_tracks laid tracks, fun req => outstanding_cases laid tracks,
    fun call allowed => ?_⟩
  obtain ⟨mem', answer, queued', taken', finishes, laid', tracks', answers⟩ :=
    advances laid tracks allowed
  exact ⟨mem', answer, finishes, answers, represents_of_tracks laid' tracks'⟩

end Steps

/-- A packet that waits for an address, alone on the queue. -/
def onePacketQueued : Memory :=
  let first := writeCell (fun _ => none) 7 ⟨⟨server1Ip, 0, 0, none⟩, none⟩
  { srArpcacheInit with
    requests := some 7
    reqs := writeCell first 7 ⟨⟨server1Ip, 0, 0, some 8⟩, none⟩
    pkts := writeCell (fun _ => none) 8 ⟨⟨[1], eth1⟩, none⟩ }

theorem queue_refines_map_onePacketQueued :
    Represents onePacketQueued
        (replay [(.queuereq (server1Ip) [1] eth1 7 8, some 7)]).waiting ∧
      ∃ mem', Finishes (execute onePacketQueued (.destroy 7)) (mem', none) := by
  have queued : Calls [(.queuereq (server1Ip) [1] eth1 7 8, some 7)] onePacketQueued := by
    refine .call .init ⟨by decide, rfl, rfl⟩ ⟨0, fun rounds _ => ?_⟩
    cases rounds <;> rfl
  have refined := queue_refines_map queued
  obtain ⟨mem', answer, finishes, rfl, -⟩ := refined.2.2 (.destroy 7) (List.mem_singleton_self 7)
  exact ⟨refined.1, mem', finishes⟩

/-! ## The list model -/

/-- The request as the list model has it. -/
def Held.view (h : Held) : SrArpreq := ⟨h.addr, h.ip, h.fields.sent, h.fields.timesSent, h.packets⟩

/-- The memory holds the cache of the list model, and the requests taken out of it. -/
structure Holds (mem : Memory) (queued taken : List Held) (cache : SrArpcache) : Prop where
  laid : Laid mem queued taken
  requests : cache.requests = queued.map Held.view
  entries : cache.entries = mem.entries

section ListModel

variable {mem : Memory} {queued taken : List Held} {cache : SrArpcache}

theorem holds_init : Holds srArpcacheInit [] [] SimpleRouter.srArpcacheInit :=
  ⟨laid_init, rfl, rfl⟩

/-- The list model finds the request that the memory holds for the address. -/
theorem Holds.requestFor (holds : Holds mem queued taken cache) {h : Held}
    (onQueue : h ∈ queued) : cache.requestFor h.ip = some h.view := by
  have ips : (cache.requests.map SrArpreq.ip).Nodup := by
    rw [holds.requests, List.map_map]
    exact holds.laid.ips
  have listed : h.view ∈ cache.requests := holds.requests ▸ List.mem_map_of_mem onQueue
  exact Keyed.find_of_mem ips listed

theorem Holds.requestFor_eq_none (holds : Holds mem queued taken cache) {ip : Ip}
    (absent : ∀ h ∈ queued, h.ip ≠ ip) : cache.requestFor ip = none := by
  refine requestFor_eq_none_iff.mpr fun req listed => ?_
  rw [holds.requests] at listed
  obtain ⟨h, onQueue, rfl⟩ := List.mem_map.mp listed
  exact absent h onQueue

/-- Either no request is on the queue for the address, or the list model finds the one that is. -/
theorem Holds.requestFor_cases (holds : Holds mem queued taken cache) (ip : Ip) :
    ((∀ h ∈ queued, h.ip ≠ ip) ∧ cache.requestFor ip = none) ∨
      ∃ front h back, queued = front ++ h :: back ∧ h.ip = ip ∧
        cache.requestFor ip = some h.view := by
  by_cases absent : ∀ h ∈ queued, h.ip ≠ ip
  · exact .inl ⟨absent, holds.requestFor_eq_none absent⟩
  · push Not at absent
    obtain ⟨h, onQueue, rfl⟩ := absent
    obtain ⟨front, back, split⟩ := List.append_of_mem onQueue
    exact .inr ⟨front, h, back, split, rfl, holds.requestFor onQueue⟩

/-- What the list model unlinks is off the queue. -/
theorem Holds.unlink_requests {κ : Type} [DecidableEq κ] {key : SrArpreq → κ}
    {front back : List Held} {h : Held} (holds : Holds mem (front ++ h :: back) taken cache)
    (others : ∀ k ∈ front, key k.view ≠ key h.view) :
    Keyed.unlink key (key h.view) cache.requests = (front ++ back).map Held.view := by
  rw [holds.requests, List.map_append, List.map_cons, Keyed.unlink_append_cons, ← List.map_append]
  intro req listed
  obtain ⟨k, inFront, rfl⟩ := List.mem_map.mp listed
  exact others k inFront

/-- `sr_arpcache_queuereq` on linked lists does what it does in the list model, when
the allocator returns the number that the list model takes. -/
theorem Holds.queuereq (holds : Holds mem queued taken cache) {packet : Bytes}
    (nonempty : packet ≠ []) (unusedReq : mem.reqs cache.nextAddr = none) {newPkt : ℕ}
    (unused : mem.pkts newPkt = none) (ip : Ip) (iface : IfName) :
    ∃ mem' queued', Finishes (srArpcacheQueuereq mem ip packet iface cache.nextAddr newPkt)
        (mem', (SimpleRouter.srArpcacheQueuereq cache ip packet iface).2) ∧
      Holds mem' queued' taken (SimpleRouter.srArpcacheQueuereq cache ip packet iface).1 := by
  rcases holds.requestFor_cases ip with
    ⟨absent, noRequest⟩ | ⟨front, h, back, rfl, rfl, found⟩
  · obtain ⟨mem', runs, entries, laid⟩ :=
      queuereq_creates holds.laid absent unusedReq unused nonempty iface
    refine ⟨mem', _, ?_, laid, ?_, ?_⟩
    · rw [addr_queuereq, SrArpcache.joined, noRequest]
      exact runs
    · rw [requests_queuereq_of_none noRequest nonempty, holds.requests]
      rfl
    · rw [entries_queuereq, holds.entries, entries]
  · obtain ⟨mem', runs, entries, laid⟩ :=
      queuereq_joins holds.laid unused nonempty iface cache.nextAddr
    refine ⟨mem', _, ?_, laid, ?_, ?_⟩
    · rw [addr_queuereq, SrArpcache.joined, found]
      exact runs
    · have distinct := cache.distinct
      have requests := holds.requests
      rw [List.map_append, List.map_cons] at requests
      rw [requests] at distinct
      unfold SimpleRouter.srArpcacheQueuereq
      simp only [found, if_pos nonempty, SrArpcache.updateRequest]
      rw [requests, Keyed.update_append_cons distinct, List.map_append, List.map_cons]
      rfl
    · rw [entries_queuereq, holds.entries, entries]

/-- `sr_arpcache_insert` hands out the request of the list model. -/
theorem Holds.insert (holds : Holds mem queued taken cache) (now : ℤ) (mac : Mac) (ip : Ip) :
    ∃ mem' queued' taken', Finishes (srArpcacheInsert now mem mac ip)
        (mem', (SimpleRouter.srArpcacheInsert now cache mac ip).2.map SrArpreq.addr) ∧
      Holds mem' queued' taken' (SimpleRouter.srArpcacheInsert now cache mac ip).1 ∧
      ∀ req, (SimpleRouter.srArpcacheInsert now cache mac ip).2 = some req →
        ∃ h ∈ taken', h.view = req := by
  rcases holds.requestFor_cases ip with
    ⟨absent, noRequest⟩ | ⟨front, h, back, rfl, rfl, found⟩
  · obtain ⟨mem', runs, entries, laid⟩ := insert_hands_out_nothing holds.laid absent now mac
    refine ⟨mem', _, _, ?_, ⟨laid, ?_, ?_⟩, fun req handed => ?_⟩
    · rw [SimpleRouter.srArpcacheInsert, noRequest]
      exact runs
    · rw [← holds.requests]
      exact Keyed.unlink_of_absent (requestFor_eq_none_iff.mp noRequest)
    · rw [entries, ← holds.entries]
      rfl
    · rw [SimpleRouter.srArpcacheInsert, noRequest] at handed
      cases handed
  · obtain ⟨mem', runs, entries, laid⟩ := insert_hands_out holds.laid now mac
    refine ⟨mem', _, _, ?_, ⟨laid, ?_, ?_⟩, fun req handed => ⟨h, List.mem_cons_self, ?_⟩⟩
    · rw [SimpleRouter.srArpcacheInsert, found]
      exact runs
    · change Keyed.unlink SrArpreq.ip h.view.ip cache.requests = _
      exact holds.unlink_requests holds.laid.ip_ne
    · rw [entries, ← holds.entries]
      rfl
    · rw [SimpleRouter.srArpcacheInsert, found] at handed
      exact Option.some.inj handed

/-- `sr_arpreq_destroy` of a request on the queue. -/
theorem Holds.destroy_queued {front back : List Held} {h : Held}
    (holds : Holds mem (front ++ h :: back) taken cache) :
    ∃ mem', Finishes (srArpreqDestroy mem (some h.addr)) mem' ∧
      Holds mem' (front ++ back) taken (SimpleRouter.srArpreqDestroy cache h.addr) := by
  obtain ⟨mem', runs, entries, laid⟩ := Pointers.destroy_queued holds.laid
  refine ⟨mem', runs, laid, ?_, ?_⟩
  · change Keyed.unlink SrArpreq.addr h.view.addr cache.requests = _
    exact holds.unlink_requests holds.laid.addr_ne
  · rw [entries, ← holds.entries]
    rfl

/-- `sr_arpreq_destroy` of a request that was handed out. -/
theorem Holds.destroy_taken {front back : List Held} {h : Held}
    (holds : Holds mem queued (front ++ h :: back) cache) :
    ∃ mem', Finishes (srArpreqDestroy mem (some h.addr)) mem' ∧
      Holds mem' queued (front ++ back) (SimpleRouter.srArpreqDestroy cache h.addr) := by
  obtain ⟨mem', runs, entries, laid⟩ := Pointers.destroy_taken holds.laid
  refine ⟨mem', runs, laid, ?_, ?_⟩
  · change Keyed.unlink SrArpreq.addr h.addr cache.requests = _
    rw [← holds.requests]
    refine Keyed.unlink_of_absent fun req listed => ?_
    rw [holds.requests] at listed
    obtain ⟨k, onQueue, rfl⟩ := List.mem_map.mp listed
    have addrs := holds.laid.owned.addrs
    rw [List.map_append, List.nodup_append] at addrs
    exact addrs.2.2 k.addr (List.mem_map_of_mem onQueue) h.addr (by simp)
  · rw [entries, ← holds.entries]
    rfl

end ListModel

end SimpleRouter.Pointers
