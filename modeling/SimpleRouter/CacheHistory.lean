/-
# The table and the latest replies

What the table of the ARP cache should say of an address is told by the history of the
router alone: the hardware address of the latest ARP reply that came from it, until a
tick of the timer finds that reply more than 15 seconds old.

`deal_arp` enters a reply only if its sender is not mapped. While that is so for every
reply, and a slot is free whenever a reply is entered, the table says just what it
should. A reply from a mapped address is not entered, so the table keeps the old
hardware address and the old time.
-/

import SimpleRouter.CacheSafety
import SimpleRouter.Resolution

namespace SimpleRouter

open Buffers Effects Machine

variable {sr : SrInstance} {h : History} {c : Config RouterOp RouterOp.Resp RouterState} {ip : Ip}

/-! ## What the history says -/

/-- What matters to the table: an ARP reply that `deal_arp` has handled, or a tick. -/
inductive Notice
  | reply (ip : Ip) (mac : Mac) (heard : ℤ)
  | tick (curtime : ℤ)
  deriving DecidableEq

/-- The frame that was accepted last. -/
def inHand : History → Option Bytes
  | [] => none
  | entry :: earlier => match entry.what with
    | .start frame => some frame.1
    | _ => inHand earlier

/-- The ARP frame in hand, if it is one. -/
def arpInHand (earlier : History) : Option Bytes :=
  (inHand earlier).filter fun packet => IsArp packet

/-- The notice a step gives. A reply has been handled when its sender is entered or, while
an ARP frame is in hand, when a lookup has found its sender. -/
def notice (earlier : History) :
    Happening RouterOp RouterOp.Resp Moment TimerMove (Bytes × IfName) →
    Option Notice
  | .op m (.insert mac ip) _ => some (.reply ip mac m.now)
  | .op m (.lookup ip) (some _) =>
    (arpInHand earlier).map fun packet => .reply ip (arSha.get packet) m.now
  | .move (.tick curtime) => some (.tick curtime)
  | _ => none

/-- The notices of a history, the latest first. -/
def notices : History → List Notice
  | [] => []
  | entry :: earlier => (notice earlier entry.what).toList ++ notices earlier

/-- The latest reply from the address gave the hardware address, and no tick since then
came more than 15 seconds after it. -/
def StillLatest (ip : Ip) (mac : Mac) (log : List Notice) : Prop :=
  ∃ later heard earlier, log = later ++ .reply ip mac heard :: earlier ∧
    (∀ mac' heard', .reply ip mac' heard' ∉ later) ∧
    ∀ curtime, .tick curtime ∈ later → curtime - heard ≤ srArpcacheTo

/-- After the history, a lookup of an address returns a hardware address if and only if
the latest reply from it gave that one and is not too old. -/
def ReflectsLatest (h : History) (cache : SrArpcache) : Prop :=
  ∀ ip mac, (∃ entry, srArpcacheLookup cache ip = some entry ∧ entry.mac = mac) ↔
    StillLatest ip mac (notices h)

/-- `deal_arp` handles an ARP reply whose sender is mapped. -/
def Reannounces (earlier : History) (entry : RouterEntry) : Prop :=
  match entry.what with
  | .op _ (.lookup ip) _ => (arpInHand earlier).isSome ∧ entry.before.cache.Resolved ip
  | _ => False

/-- No ARP reply comes from a mapped address. -/
def FirstHeard : History → Prop
  | [] => True
  | entry :: earlier => ¬ Reannounces earlier entry ∧ FirstHeard earlier

instance (earlier : History) (entry : RouterEntry) : Decidable (Reannounces earlier entry) := by
  unfold Reannounces
  split <;> infer_instance

instance decidableFirstHeard : (h : History) → Decidable (FirstHeard h)
  | [] => inferInstanceAs (Decidable True)
  | entry :: earlier =>
    have := decidableFirstHeard earlier
    inferInstanceAs (Decidable (¬ Reannounces earlier entry ∧ FirstHeard earlier))

/-! ## The mapping that the notices make -/

/-- The latest reply from the address and when it was heard, unless it has expired. -/
def latest (ip : Ip) : List Notice → Option (Mac × ℤ)
  | [] => none
  | .reply sender mac heard :: earlier =>
    if sender = ip then some (mac, heard) else latest ip earlier
  | .tick curtime :: earlier =>
    (latest ip earlier).filter fun reply => curtime - reply.2 ≤ srArpcacheTo

/-- Behind a notice that is neither the reply in question nor hides it, the latest reply
is that of the notices before. -/
private theorem split_cons {first reply : Notice} {log : List Notice} (other : first ≠ reply)
    {P : Notice → Prop} :
    (∃ later earlier, first :: log = later ++ reply :: earlier ∧ ∀ n ∈ later, P n) ↔
      P first ∧ ∃ later earlier, log = later ++ reply :: earlier ∧ ∀ n ∈ later, P n := by
  constructor
  · rintro ⟨later, earlier, split, holds⟩
    cases later with
    | nil => exact absurd (List.cons.inj split).1 other
    | cons n later =>
      obtain ⟨rfl, rest⟩ := List.cons.inj split
      exact ⟨holds _ List.mem_cons_self, later, earlier, rest, fun n listed =>
        holds n (List.mem_cons_of_mem _ listed)⟩
  · rintro ⟨head, later, earlier, rfl, holds⟩
    refine ⟨first :: later, earlier, rfl, fun n listed => ?_⟩
    rcases List.mem_cons.mp listed with rfl | rest
    · exact head
    · exact holds n rest

/-- The notice neither replaces a reply heard at the time nor outdates it. -/
def Leaves (ip : Ip) (heard : ℤ) : Notice → Prop
  | .reply sender _ _ => sender ≠ ip
  | .tick curtime => curtime - heard ≤ srArpcacheTo

theorem latest_eq_some_iff {mac : Mac} {heard : ℤ} {log : List Notice} :
    latest ip log = some (mac, heard) ↔ ∃ later earlier,
      log = later ++ .reply ip mac heard :: earlier ∧ ∀ n ∈ later, Leaves ip heard n := by
  induction log with
  | nil => simp [latest]
  | cons first log ih =>
    cases first with
    | reply sender mac' heard' =>
      rw [latest]
      by_cases same : sender = ip
      · subst same
        rw [if_pos rfl]
        constructor
        · intro this
          cases this
          exact ⟨[], log, rfl, by simp⟩
        · rintro ⟨later, earlier, split, leaves⟩
          -- The first notice is a reply from the address, so nothing lies above it.
          cases later with
          | nil =>
            cases split
            rfl
          | cons n later =>
            obtain ⟨rfl, -⟩ := List.cons.inj split
            exact absurd rfl (leaves _ List.mem_cons_self)
      · have other : Notice.reply sender mac' heard' ≠ .reply ip mac heard := fun eq =>
          same (Notice.reply.inj eq).1
        rw [if_neg same, ih, split_cons other]
        exact (and_iff_right same).symm
    | tick curtime =>
      rw [latest, Option.filter_eq_some_iff, ih, split_cons Notice.noConfusion]
      simp only [decide_eq_true_eq]
      exact and_comm

theorem stillLatest_iff {mac : Mac} {log : List Notice} :
    StillLatest ip mac log ↔ ∃ heard, latest ip log = some (mac, heard) := by
  simp only [latest_eq_some_iff]
  constructor
  · rintro ⟨later, heard, earlier, split, noReply, noTick⟩
    refine ⟨heard, later, earlier, split, fun n listed => ?_⟩
    cases n with
    | reply sender mac' heard' =>
      rintro rfl
      exact noReply mac' heard' listed
    | tick curtime => exact noTick curtime listed
  · rintro ⟨heard, later, earlier, split, leaves⟩
    exact ⟨later, heard, earlier, split, fun mac' heard' listed => leaves _ listed rfl,
      fun curtime listed => leaves _ listed⟩

/-! ## The table follows the notices -/

/-- The table says of every address what the notices say. -/
def Follows (cache : SrArpcache) (log : List Notice) : Prop :=
  ∀ ip, (srArpcacheLookup cache ip).map (fun entry => (entry.mac, entry.added)) = latest ip log

theorem Follows.reflectsLatest {cache : SrArpcache} (follows : Follows cache (notices h)) :
    ReflectsLatest h cache := by
  intro ip mac
  rw [stillLatest_iff, ← follows ip]
  constructor
  · rintro ⟨entry, found, rfl⟩
    exact ⟨entry.added, by rw [found]; rfl⟩
  · rintro ⟨heard, found⟩
    obtain ⟨entry, looked, same⟩ := Option.map_eq_some_iff.mp found
    exact ⟨entry, looked, (Prod.mk.inj same).1⟩

/-- The table decides what is found. -/
theorem Follows.congr {cache cache' : SrArpcache} {log : List Notice} (follows : Follows cache log)
    (same : cache'.entries = cache.entries) : Follows cache' log := by
  intro ip
  have looked : srArpcacheLookup cache' ip = srArpcacheLookup cache ip := by
    rw [srArpcacheLookup, same, srArpcacheLookup]
  rw [looked]
  exact follows ip

theorem follows_initially : Follows srArpcacheInit [] := by
  intro ip
  have nothing : srArpcacheLookup srArpcacheInit ip = none :=
    srArpcacheLookup_eq_none_iff.mpr (not_resolved_init ip)
  rw [nothing]
  rfl

/-- A reply that is entered becomes the latest of its sender. -/
theorem Follows.insert {cache : SrArpcache} {log : List Notice} (follows : Follows cache log)
    (room : cache.HasRoom) {now : ℤ} {mac : Mac}
    (unique' : UniqueEntries (srArpcacheInsert now cache mac ip).1.entries) :
    Follows (srArpcacheInsert now cache mac ip).1 (.reply ip mac now :: log) := by
  intro other
  rw [latest]
  by_cases same : ip = other
  · subst same
    rw [if_pos rfl, srArpcacheLookup_insert (fresh_of_insert room unique') room]
    rfl
  · rw [if_neg same, srArpcacheLookup_insert_of_ne now cache mac (Ne.symm same)]
    exact follows other

/-- A tick takes away the same replies on both sides. -/
theorem Follows.expire {cache : SrArpcache} {log : List Notice} (follows : Follows cache log)
    (unique : UniqueEntries cache.entries) {curtime : ℤ}
    (unique' : UniqueEntries (expireEntries curtime cache).entries) :
    Follows (expireEntries curtime cache) (.tick curtime :: log) := by
  intro ip
  rw [latest, srArpcacheLookup_expire unique unique', ← follows ip, Option.filter_map]
  rfl

/-- A step without a notice leaves the notices as they are. -/
theorem notices_of_none {entry : RouterEntry} (silent : notice h entry.what = none) :
    notices (entry :: h) = notices h := by
  rw [notices, silent]
  rfl

/-- A lookup gives no notice unless it finds the sender of an ARP reply. -/
theorem notice_lookup {entry : RouterEntry} {m : Moment} {r : Option SrArpentry}
    (looked : entry.what = .op m (.lookup ip) r)
    (answer : r = srArpcacheLookup entry.before.cache ip)
    (quiet : ¬ Reannounces h entry) : notice h entry.what = none := by
  rw [looked]
  cases r with
  | none => rfl
  | some found =>
    obtain ⟨listed, valid, mapped⟩ := srArpcacheLookup_eq_some answer.symm
    have resolved : entry.before.cache.Resolved ip := ⟨found, listed, valid, mapped⟩
    have none : arpInHand h = .none := by
      rw [Reannounces, looked] at quiet
      exact Option.not_isSome_iff_eq_none.mp fun some => quiet ⟨some, resolved⟩
    rw [notice, none]
    rfl

/-- In a run in which every reply is heard for the first time, the table follows the
notices. -/
theorem follows_of_runs (runs : Runs sr h c) (roomy : ∀ entry ∈ h, entry.before.cache.HasRoom)
    (first : FirstHeard h) : Follows c.state.cache (notices h) := by
  induction runs with
  | nil => exact follows_initially
  | start label runs ih => exact ih (List.forall_mem_of_forall_mem_cons roomy) first.2
  | @op h s s' o next r m runs ready returns ih =>
    have before := ih (List.forall_mem_of_forall_mem_cons roomy) first.2
    have unique := (cacheInv_of_reachable (Runs.reachable runs)).unique
    have unique' := (cacheInv_of_reachable (Runs.reachable (.op m runs ready returns))).unique
    have done := (exec_returns_iff.mp returns).1
    cases o with
    | lookup ip =>
      rw [notices_of_none (notice_lookup rfl (returns_lookup done).2 first.1)]
      exact before.congr (congrArg _ (returns_lookup done).1)
    | insert mac ip =>
      -- Only here does a slot have to be free.
      have room : s.cache.HasRoom := roomy _ List.mem_cons_self
      have entered : s'.cache = _ := (returns_insert done).1
      rw [entered] at unique' ⊢
      exact before.insert room unique'
    | queuereq ip packet iface =>
      have queued : s'.cache = _ := (returns_queuereq done).1
      exact before.congr (by rw [queued, entries_queuereq])
    | handleArpreq arpreq => exact before.congr (entries_handleArpreq (returns_handleArpreq done))
    | send frame => exact before.congr (congrArg _ (returns_send done))
    | stop why => exact r.elim
  | @move h s s' p out k runs available returns ih =>
    have before := ih (List.forall_mem_of_forall_mem_cons roomy) first.2
    have unique := (cacheInv_of_reachable (Runs.reachable runs)).unique
    have unique' := (cacheInv_of_reachable (Runs.reachable (.move k runs available returns))).unique
    cases k with
    | tick curtime =>
      obtain ⟨-, rfl⟩ := timerMove_tick available
      cases returns
      exact before.expire unique unique'
    | sweep m =>
      obtain ⟨walker, -, handled⟩ := returns_timerMove_sweep available returns
      exact before.congr (entries_handleArpreq handled)
    | release =>
      obtain ⟨-, rfl⟩ := timerMove_release available
      cases returns
      exact before

/-- **The latest reply.** In every run in which a slot is always free and no ARP reply
comes from a mapped address, the table reflects the latest replies. -/
theorem reflectsLatest_of_runs (runs : Runs sr h c)
    (roomy : ∀ entry ∈ h, entry.before.cache.HasRoom) (first : FirstHeard h) :
    ReflectsLatest h c.state.cache :=
  (follows_of_runs runs roomy first).reflectsLatest

/-- The server answers at second 1, and the timer looks in at second 2. -/
@[irreducible] def serverHeard : History × RouterState :=
  (chronicle sampleInstance [.run (serverReply, eth1) ⟨1, 0⟩, .move (.tick 2),
    .move .release]).getD ([], initially)

theorem runs_serverHeard : Runs sampleInstance serverHeard.1 ⟨serverHeard.2, .done ()⟩ := by
  unfold serverHeard
  exact runs_of_chronicle (by decide) _

theorem reflectsLatest_serverHeard : ReflectsLatest serverHeard.1 serverHeard.2.cache :=
  reflectsLatest_of_runs runs_serverHeard (by decide +kernel) (by decide +kernel)

/-- The first server answers once more after its hardware address has changed. -/
def movedReply : Bytes :=
  sampleArp sampleEth1.addr 2 clientMac server1Ip sampleEth1.addr sampleEth1.ip

/-- The server answers at second 1 and, from its new hardware address, at second 2. -/
@[irreducible] def serverMoved : History × RouterState :=
  (chronicle sampleInstance [.run (serverReply, eth1) ⟨1, 0⟩,
    .run (movedReply, eth1) ⟨2, 0⟩]).getD ([], initially)

theorem runs_serverMoved : Runs sampleInstance serverMoved.1 ⟨serverMoved.2, .done ()⟩ := by
  unfold serverMoved
  exact runs_of_chronicle (by decide) _

/-- The table keeps the hardware address of the first answer. -/
theorem not_reflectsLatest_serverMoved :
    Runs sampleInstance serverMoved.1 ⟨serverMoved.2, .done ()⟩ ∧ ClockSteady serverMoved.1 ∧
      (∀ entry ∈ serverMoved.1, entry.before.cache.HasRoom) ∧ serverMoved.2.cache.HasRoom ∧
      ¬ ReflectsLatest serverMoved.1 serverMoved.2.cache := by
  refine ⟨runs_serverMoved, by decide +kernel, by decide +kernel, by decide +kernel,
    fun reflects => ?_⟩
  have found : ∃ entry, srArpcacheLookup serverMoved.2.cache server1Ip = some entry ∧
      entry.mac = server1Mac := by
    refine Option.map_eq_some_iff.mp ?_
    decide +kernel
  obtain ⟨heard, said⟩ := stillLatest_iff.mp ((reflects server1Ip server1Mac).mp found)
  have newer : latest server1Ip (notices serverMoved.1) = some (clientMac, 2) := by decide +kernel
  rw [newer] at said
  exact absurd (Prod.mk.inj (Option.some.inj said)).1 (by decide)

end SimpleRouter
