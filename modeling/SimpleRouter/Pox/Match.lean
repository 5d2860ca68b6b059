/-
# The match of a flow

`ofp_match` of `libopenflow_01.py`: twelve fields of a packet. Each of them can be a wildcard, and
of the two network addresses so can the low bits. A match is the set of the packets whose flow it
describes; `matches_with_wildcards` decides inclusion.
-/

import Mathlib.Data.BitVec
import Mathlib.Logic.Basic
import Mathlib.Tactic.SplitIfs

namespace SimpleRouter.Pox

/-! ## The fields -/

/-- The fields with one bit in `wildcards`. -/
inductive MatchField where
  | inPort | dlVlan | dlSrc | dlDst | dlType | nwProto | tpSrc | tpDst | dlVlanPcp | nwTos
  deriving DecidableEq

def MatchField.fields : List MatchField :=
  [.inPort, .dlVlan, .dlSrc, .dlDst, .dlType, .nwProto, .tpSrc, .tpDst, .dlVlanPcp, .nwTos]

@[simp] theorem MatchField.mem_fields (f : MatchField) : f ∈ fields := by
  cases f <;> decide

/-- `ofp_flow_wildcards_rev_map`. -/
def MatchField.wildcard : MatchField → BitVec 32
  | .inPort => 1
  | .dlVlan => 2
  | .dlSrc => 4
  | .dlDst => 8
  | .dlType => 16
  | .nwProto => 32
  | .tpSrc => 64
  | .tpDst => 128
  | .dlVlanPcp => 1048576
  | .nwTos => 1 <<< 21

/-- The two network addresses, with six bits each. -/
inductive NwField where
  | src | dst
  deriving DecidableEq

/-- `OFPFW_NW_SRC_SHIFT`, `OFPFW_NW_DST_SHIFT`. -/
def NwField.shift : NwField → ℕ
  | .src => 8
  | .dst => 14

/-- `OFPFW_NW_SRC_ALL`, `OFPFW_NW_DST_ALL`. -/
def NwField.all : NwField → BitVec 32
  | .src => 8192
  | .dst => 524288

/-- `OFPFW_NW_SRC_MASK`, `OFPFW_NW_DST_MASK`. -/
def NwField.mask : NwField → BitVec 32
  | .src => 16128
  | .dst => 1032192

def ofpfwAll : BitVec 32 := (1 <<< 22) - 1

/-- `ofp_match`, with the values it keeps also where they are wildcards. -/
@[ext] structure Match where
  wildcards : BitVec 32
  value : MatchField → ℕ
  nw : NwField → BitVec 32

/-! ## Reading and writing a field -/

/-- `__getattr__`, but for the network addresses. -/
def Match.get (m : Match) (f : MatchField) : Option ℕ :=
  if m.wildcards &&& f.wildcard = f.wildcard then none else some (m.value f)

/-- `get_nw_src`, `get_nw_dst`: the address and the number of its bits that count. -/
def Match.getNw (m : Match) (s : NwField) : Option (BitVec 32) × ℕ :=
  if m.wildcards &&& s.all = s.all then (none, 0)
  else
    let w := ((m.wildcards &&& s.mask) >>> s.shift).toNat
    (some (m.nw s), if w ≤ 32 then 32 - w else 0)

/-- `__setattr__` with a value, but for the network addresses. -/
def Match.set (m : Match) (f : MatchField) (v : ℕ) : Match where
  wildcards := m.wildcards &&& ~~~f.wildcard
  value g := if g = f then v else m.value g
  nw := m.nw

/-- `set_nw_src`, `set_nw_dst` with an address and a number of bits. -/
def Match.setNw (m : Match) (s : NwField) (addr : BitVec 32) (bits : ℕ) : Match where
  wildcards := (m.wildcards &&& ~~~s.mask) ||| (BitVec.ofNat 32 (32 - min bits 32) <<< s.shift)
  value := m.value
  nw t := if t = s then addr else m.nw t

/-- One of the two halves of `_normalize_wildcards`. -/
def normalizeNw (s : NwField) (wildcards : BitVec 32) : BitVec 32 :=
  if 32 < ((wildcards &&& s.mask) >>> s.shift).toNat then
    (wildcards &&& ~~~s.mask) ||| (32 <<< s.shift)
  else wildcards

def normalizeWildcards (wildcards : BitVec 32) : BitVec 32 :=
  normalizeNw .dst (normalizeNw .src wildcards)

/-- `ofp_match()`. -/
def Match.blank : Match where
  wildcards := normalizeWildcards ofpfwAll
  value := fun _ => 0
  nw := fun _ => 0

def Match.isWildcarded (m : Match) : Bool := m.wildcards &&& ofpfwAll != 0

/-! ## Comparing matches -/

/-- `__eq__`. -/
def Match.eq (self other : Match) : Bool :=
  self.wildcards == other.wildcards &&
    (MatchField.fields.all fun f => self.get f == other.get f) &&
    ((self.getNw .src).1 == (other.getNw .src).1 && (self.getNw .dst).1 == (other.getNw .dst).1)

/-- `IPAddr.inNetwork`, with the number of the wildcard bits. -/
def inNetwork (addr network : BitVec 32) (wild : ℕ) : Bool :=
  addr &&& ~~~((1#32 <<< wild) - 1#32) == network

/-- `match_fail` of `matches_with_wildcards`. -/
def matchFail (mine others : Option ℕ) : Bool := mine != none && mine != others

/-- What `matches_with_wildcards` asks of a network address. Where the other is a wildcard, none of
its bits count, so its address is not looked at. -/
def nwFail (mine others : Option (BitVec 32) × ℕ) : Bool :=
  match mine.1 with
  | none => false
  | some network =>
    others.2 < mine.2 || !others.1.any fun addr => inNetwork addr network (32 - mine.2)

def Match.matchesWithWildcards (self other : Match) (considerOtherWildcards : Bool) : Bool :=
  if self.eq other then true
  else
    let selfBits := self.wildcards &&& ~~~(NwField.src.mask ||| NwField.dst.mask)
    let otherBits := other.wildcards &&& ~~~(NwField.src.mask ||| NwField.dst.mask)
    if considerOtherWildcards && selfBits ||| otherBits != selfBits then false
    else
      !(MatchField.fields.any fun f => matchFail (self.get f) (other.get f)) &&
        !nwFail (self.getNw .src) (other.getNw .src) && !nwFail (self.getNw .dst) (other.getNw .dst)

/-! ## The packets of a match -/

/-- What a packet has of the fields. -/
structure Headers where
  field : MatchField → Option ℕ
  nw : NwField → Option (BitVec 32)

/-- The packet is of the flow. -/
structure Match.Covers (m : Match) (packet : Headers) : Prop where
  field : ∀ {f v}, m.get f = some v → packet.field f = some v
  nw : ∀ {s network}, (m.getNw s).1 = some network →
    ∃ addr, packet.nw s = some addr ∧ inNetwork addr network (32 - (m.getNw s).2) = true

/-- No bit is set beyond those of the fields, nor in a part of an address that does not count. -/
structure Match.Canonical (m : Match) : Prop where
  wildcards : m.wildcards &&& ofpfwAll = m.wildcards
  nw : ∀ {s network}, (m.getNw s).1 = some network →
    inNetwork network network (32 - (m.getNw s).2) = true

section Bits

/-- The place of the bit of a field. -/
def MatchField.bit : MatchField → ℕ
  | .inPort => 0
  | .dlVlan => 1
  | .dlSrc => 2
  | .dlDst => 3
  | .dlType => 4
  | .nwProto => 5
  | .tpSrc => 6
  | .tpDst => 7
  | .dlVlanPcp => 20
  | .nwTos => 21

theorem MatchField.wildcard_eq (f : MatchField) : f.wildcard = BitVec.twoPow 32 f.bit := by
  cases f <;> decide

theorem MatchField.bit_lt (f : MatchField) : f.bit < 32 := by
  cases f <;> decide

theorem and_twoPow_eq_iff {w : BitVec 32} {i : ℕ} (small : i < 32) :
    w &&& BitVec.twoPow 32 i = BitVec.twoPow 32 i ↔ w.getLsbD i = true := by
  rw [BitVec.and_twoPow]
  split_ifs with set
  · exact iff_of_true rfl set
  · refine iff_of_false (fun zero => ?_) set
    have one := congrArg (BitVec.getLsbD · i) zero
    simp [small] at one

theorem Match.get_eq_none_iff {m : Match} {f : MatchField} :
    m.get f = none ↔ m.wildcards.getLsbD f.bit = true := by
  rw [Match.get, f.wildcard_eq, ite_eq_left_iff, and_twoPow_eq_iff f.bit_lt]
  simp

theorem NwField.all_eq (s : NwField) : s.all = BitVec.twoPow 32 (s.shift + 5) := by
  cases s <;> decide

theorem NwField.getLsbD_mask_above (s : NwField) {i : ℕ} (above : 5 < i) :
    s.mask.getLsbD (s.shift + i) = false := by
  have top : s.mask.toNat < 2 ^ (s.shift + 6) := by
    cases s <;> decide
  exact Nat.testBit_lt_two_pow (top.trans_le (Nat.pow_le_pow_right (by decide) (by omega)))

theorem Match.getNw_of_some {m : Match} {s : NwField} {network : BitVec 32}
    (counts : (m.getNw s).1 = some network) :
    m.wildcards.getLsbD (s.shift + 5) = false ∧ network = m.nw s ∧
      1 ≤ (m.getNw s).2 ∧ (m.getNw s).2 ≤ 32 := by
  rw [Match.getNw] at counts ⊢
  split_ifs at counts ⊢ with clear
  obtain rfl := Option.some.inj counts
  rw [s.all_eq, and_twoPow_eq_iff (by cases s <;> decide), Bool.not_eq_true] at clear
  have small : ((m.wildcards &&& s.mask) >>> s.shift).toNat < 2 ^ 5 := by
    refine Nat.lt_pow_two_of_testBit _ fun i above => ?_
    rw [BitVec.testBit_toNat, BitVec.getLsbD_ushiftRight, BitVec.getLsbD_and]
    rcases Nat.eq_or_lt_of_le above with rfl | above
    · rw [clear, Bool.false_and]
    · rw [s.getLsbD_mask_above above, Bool.and_false]
  refine ⟨clear, rfl, ?_⟩
  dsimp only
  split_ifs <;> omega

theorem wildMask_eq {wild : ℕ} (small : wild ≤ 32) :
    ~~~((1#32 <<< wild) - 1#32) = BitVec.allOnes 32 <<< wild := by
  revert wild
  decide

theorem getLsbD_wildMask (wild i : ℕ) :
    (BitVec.allOnes 32 <<< wild).getLsbD i = decide (wild ≤ i ∧ i < 32) := by
  rw [BitVec.getLsbD_shiftLeft, BitVec.getLsbD_allOnes, Bool.eq_iff_iff]
  simp only [Bool.and_eq_true, decide_eq_true_eq, Bool.not_eq_true', decide_eq_false_iff_not]
  omega

theorem inNetwork_iff {addr network : BitVec 32} {wild : ℕ} (small : wild ≤ 32) :
    inNetwork addr network wild = true ↔
      ∀ i, network.getLsbD i = (addr.getLsbD i && decide (wild ≤ i ∧ i < 32)) := by
  rw [inNetwork, beq_iff_eq, wildMask_eq small]
  constructor
  · rintro rfl i
    rw [BitVec.getLsbD_and, getLsbD_wildMask]
  · intro bits
    refine BitVec.eq_of_getLsbD_eq fun i _ => ?_
    rw [BitVec.getLsbD_and, getLsbD_wildMask, bits i]

theorem inNetwork_self (addr : BitVec 32) : inNetwork addr addr 0 = true := by
  rw [inNetwork, beq_iff_eq, wildMask_eq (Nat.zero_le 32), BitVec.shiftLeft_zero,
    BitVec.and_allOnes]

theorem exists_bit {i : ℕ} (inside : ofpfwAll.getLsbD i = true)
    (outside : (~~~(NwField.src.mask ||| NwField.dst.mask)).getLsbD i = true) :
    ∃ f : MatchField, f.bit = i := by
  have small : i < 32 := BitVec.lt_of_getLsbD inside
  have all : ∀ i < 32, ofpfwAll.getLsbD i = true →
      (~~~(NwField.src.mask ||| NwField.dst.mask)).getLsbD i = true →
        ∃ f ∈ MatchField.fields, f.bit = i := by
    decide
  obtain ⟨f, -, place⟩ := all i small inside outside
  exact ⟨f, place⟩

/-- A network that holds another one counts no more bits. -/
theorem le_of_networks {part network : BitVec 32} {bits bits' : ℕ} (most : bits ≤ 32)
    (canonical : inNetwork part part (32 - bits') = true)
    (holds : ∀ addr, inNetwork addr part (32 - bits') = true →
      inNetwork addr network (32 - bits) = true) : bits ≤ bits' := by
  by_contra fewer
  have least := holds part canonical
  -- another address of the smaller network, with the first bit set that does not count there
  have other := holds (part ||| BitVec.twoPow 32 (31 - bits')) <| by
    rw [inNetwork_iff (Nat.sub_le _ _)] at canonical ⊢
    intro i
    rw [canonical i, BitVec.getLsbD_or, BitVec.getLsbD_twoPow, canonical i]
    have apart : 31 - bits' = i → ¬ (32 - bits' ≤ i ∧ i < 32) := by
      omega
    grind
  rw [inNetwork_iff (Nat.sub_le _ _)] at least other canonical
  have first := (other (31 - bits')).symm.trans (least (31 - bits'))
  have clear : part.getLsbD (31 - bits') = false := by
    rw [canonical, decide_eq_false (by omega), Bool.and_false]
  have counts : 32 - bits ≤ 31 - bits' ∧ 31 - bits' < 32 := by
    omega
  rw [BitVec.getLsbD_or, BitVec.getLsbD_twoPow, clear, decide_eq_true counts] at first
  simp at first
  omega

end Bits

section Covers

variable {self other m : Match} {packet : Headers}

theorem Match.eq_iff : self.eq other = true ↔ self.wildcards = other.wildcards ∧
    (∀ f, self.get f = other.get f) ∧ ∀ s, (self.getNw s).1 = (other.getNw s).1 := by
  rw [Match.eq, Bool.and_eq_true, Bool.and_eq_true, Bool.and_eq_true, List.all_eq_true, and_assoc]
  simp only [beq_iff_eq, MatchField.mem_fields, forall_true_left]
  refine and_congr_right fun _ => and_congr_right fun _ => ⟨fun both s => ?_, fun all => ?_⟩
  · cases s
    · exact both.1
    · exact both.2
  · exact ⟨all .src, all .dst⟩

theorem Match.eq_refl (m : Match) : m.eq m = true := by
  rw [eq_iff]
  exact ⟨rfl, fun _ => rfl, fun _ => rfl⟩

theorem Match.eq_symm (same : self.eq other = true) : other.eq self = true := by
  rw [eq_iff] at same ⊢
  obtain ⟨bits, fields, nws⟩ := same
  exact ⟨bits.symm, fun f => (fields f).symm, fun s => (nws s).symm⟩

theorem Match.eq_trans (first : self.eq m = true) (second : m.eq other = true) :
    self.eq other = true := by
  rw [eq_iff] at first second ⊢
  obtain ⟨bits, fields, nws⟩ := first
  obtain ⟨bits', fields', nws'⟩ := second
  exact ⟨bits.trans bits', fun f => (fields f).trans (fields' f),
    fun s => (nws s).trans (nws' s)⟩

theorem Match.getNw_of_eq (same : self.eq other = true) (s : NwField) :
    self.getNw s = other.getNw s := by
  rw [eq_iff] at same
  obtain ⟨bits, -, nws⟩ := same
  have addr := nws s
  rw [getNw, getNw, bits] at addr ⊢
  split_ifs at addr ⊢
  · rfl
  · exact Prod.ext addr rfl

theorem Match.covers_of_eq (same : self.eq other = true) (covers : other.Covers packet) :
    self.Covers packet where
  field {f v} some_ := by
    rw [eq_iff] at same
    obtain ⟨-, fields, -⟩ := same
    exact covers.field ((fields f).symm.trans some_)
  nw counts := by
    rw [getNw_of_eq same] at counts ⊢
    exact covers.nw counts

theorem matchFail_eq_false {mine others : Option ℕ} :
    matchFail mine others = false ↔ ∀ v, mine = some v → others = some v := by
  cases mine with
  | none => simp [matchFail]
  | some v =>
    rw [matchFail]
    constructor
    · rintro agree _ ⟨⟩
      exact (by simpa using agree : some v = others).symm
    · intro agree
      rw [agree v rfl, bne_self_eq_false, Bool.and_false]

theorem nwFail_eq_false {mine others : Option (BitVec 32) × ℕ} :
    nwFail mine others = false ↔ ∀ network, mine.1 = some network → mine.2 ≤ others.2 ∧
      ∃ addr, others.1 = some addr ∧ inNetwork addr network (32 - mine.2) = true := by
  obtain ⟨mine, bits⟩ := mine
  cases mine with
  | none => simp [nwFail]
  | some network => simp [nwFail, Option.any_eq_true]

theorem Match.covers_of_fields (fields : ∀ f v, self.get f = some v → other.get f = some v)
    (nws : ∀ s, nwFail (self.getNw s) (other.getNw s) = false) (covers : other.Covers packet) :
    self.Covers packet where
  field some_ := covers.field (fields _ _ some_)
  nw {s network} counts := by
    obtain ⟨fewer, part, some_, inside⟩ := nwFail_eq_false.mp (nws s) network counts
    obtain ⟨addr, has, inside'⟩ := covers.nw some_
    refine ⟨addr, has, ?_⟩
    rw [inNetwork_iff (Nat.sub_le _ _)] at inside inside' ⊢
    intro i
    rw [inside i, inside' i, Bool.and_assoc, ← Bool.decide_and]
    refine congrArg _ (decide_eq_decide.mpr ?_)
    omega

/-- What `matches_with_wildcards` says of a match that covers all another one covers. -/
theorem Match.fields_of_covers (canonical : other.Canonical)
    (covers : ∀ packet, other.Covers packet → self.Covers packet) :
    (∀ f v, self.get f = some v → other.get f = some v) ∧
      ∀ s, nwFail (self.getNw s) (other.getNw s) = false := by
  have least : self.Covers ⟨other.get, fun s => (other.getNw s).1⟩ :=
    covers _ ⟨fun some_ => some_, fun some_ => ⟨_, some_, canonical.nw some_⟩⟩
  refine ⟨fun f v some_ => least.field some_, fun s => nwFail_eq_false.mpr fun network counts => ?_⟩
  obtain ⟨part, some_, inside⟩ := least.nw counts
  have some_ : (other.getNw s).1 = some part := some_
  suffices holds : ∀ addr, inNetwork addr part (32 - (other.getNw s).2) = true →
      inNetwork addr network (32 - (self.getNw s).2) = true from
    ⟨le_of_networks (getNw_of_some counts).2.2.2 (canonical.nw some_) holds, part, some_, inside⟩
  intro addr within
  have apart : self.Covers
      ⟨other.get, fun t => if t = s then some addr else (other.getNw t).1⟩ := by
    refine covers _ ⟨fun some_ => some_, fun {t network'} some' => ?_⟩
    by_cases same : t = s
    · subst same
      obtain rfl := Option.some.inj (some_.symm.trans some')
      exact ⟨addr, if_pos rfl, within⟩
    · exact ⟨network', (if_neg same).trans some', canonical.nw some'⟩
  obtain ⟨addr', some', inside'⟩ := apart.nw counts
  obtain rfl := Option.some.inj ((if_pos rfl).symm.trans some')
  exact inside'

theorem Match.matchesWithWildcards_eq_true {consider : Bool} :
    self.matchesWithWildcards other consider = true ↔ self.eq other = true ∨
      ((consider = true →
          self.wildcards &&& ~~~(NwField.src.mask ||| NwField.dst.mask) |||
            other.wildcards &&& ~~~(NwField.src.mask ||| NwField.dst.mask) =
              self.wildcards &&& ~~~(NwField.src.mask ||| NwField.dst.mask)) ∧
        (∀ f v, self.get f = some v → other.get f = some v) ∧
        ∀ s, nwFail (self.getNw s) (other.getNw s) = false) := by
  have fields : (MatchField.fields.any fun f => matchFail (self.get f) (other.get f)) = false ↔
      ∀ f v, self.get f = some v → other.get f = some v := by
    simp [matchFail_eq_false]
  have nws : (∀ s, nwFail (self.getNw s) (other.getNw s) = false) ↔
      nwFail (self.getNw .src) (other.getNw .src) = false ∧
        nwFail (self.getNw .dst) (other.getNw .dst) = false :=
    ⟨fun all => ⟨all .src, all .dst⟩, fun both s => by cases s <;> simp [both]⟩
  rw [Match.matchesWithWildcards, nws, ← fields]
  by_cases same : self.eq other = true
  · simp [same]
  · cases consider <;> simp [same, and_assoc]

/-- The packets from `10.1.0.0/16` to `10.0.0.0/8` that come in on port 3. -/
def sampleMatch : Match :=
  ((Match.blank.set .inPort 3).setNw .src 0x0a010000 16).setNw .dst 0x0a000000 8

/-- All packets to `10.0.0.0/8`. -/
def sampleNet : Match := Match.blank.setNw .dst 0x0a000000 8

end Covers

/-! ## The match of a packet -/

/-- What follows an IPv4 header. -/
inductive Transport where
  /-- `tcp`, `udp` -/
  | ports (srcport dstport : ℕ)
  | icmp (type code : ℕ)
  | other

/-- What follows the Ethernet header, and the `vlan` header if there is one. -/
inductive Layer where
  | ipv4 (srcip dstip : BitVec 32) (protocol tos : ℕ) (next : Transport)
  | arp (opcode : ℕ) (protosrc protodst : BitVec 32)
  | other

structure Vlan where
  ethType : ℕ
  id : ℕ
  pcp : ℕ

/-- A parsed packet. -/
structure Ethernet where
  src : ℕ
  dst : ℕ
  type : ℕ
  vlan : Option Vlan
  next : Layer

/-- `OFP_VLAN_NONE` -/
def ofpVlanNone : ℕ := 65535

/-- What `from_packet` takes from the IPv4 payload. -/
def Match.transport (m : Match) : Transport → Match
  | .ports srcport dstport => (m.set .tpSrc srcport).set .tpDst dstport
  | .icmp type code => (m.set .tpSrc type).set .tpDst code
  | .other => m

/-- What `from_packet` takes from the Ethernet payload. -/
def Match.network (m : Match) : Layer → Match
  | .ipv4 srcip dstip protocol tos next =>
    ((((m.setNw .src srcip 32).setNw .dst dstip 32).set .nwProto protocol).set .nwTos tos).transport
      next
  | .arp opcode protosrc protodst =>
    if opcode ≤ 255 then
      ((m.set .nwProto opcode).setNw .src protosrc 32).setNw .dst protodst 32
    else m
  | .other => m

/-- `from_packet` -/
def Match.fromPacket (packet : Ethernet) (inPort : Option ℕ) : Match :=
  let m := match inPort with
    | some port => blank.set .inPort port
    | none => blank
  let m := ((m.set .dlSrc packet.src).set .dlDst packet.dst).set .dlType packet.type
  let m := match packet.vlan with
    | some vlan => ((m.set .dlType vlan.ethType).set .dlVlan vlan.id).set .dlVlanPcp vlan.pcp
    | none => (m.set .dlVlan ofpVlanNone).set .dlVlanPcp 0
  m.network packet.next

/-! ## The headers of a packet -/

def Layer.field : Layer → MatchField → Option ℕ
  | .ipv4 _ _ protocol _ _, .nwProto => some protocol
  | .ipv4 _ _ _ tos _, .nwTos => some tos
  | .ipv4 _ _ _ _ (.ports srcport _), .tpSrc => some srcport
  | .ipv4 _ _ _ _ (.ports _ dstport), .tpDst => some dstport
  | .ipv4 _ _ _ _ (.icmp type _), .tpSrc => some type
  | .ipv4 _ _ _ _ (.icmp _ code), .tpDst => some code
  | .arp opcode _ _, .nwProto => if opcode ≤ 255 then some opcode else none
  | _, _ => none

def Layer.nw : Layer → NwField → Option (BitVec 32)
  | .ipv4 srcip _ _ _ _, .src => some srcip
  | .ipv4 _ dstip _ _ _, .dst => some dstip
  | .arp opcode protosrc _, .src => if opcode ≤ 255 then some protosrc else none
  | .arp opcode _ protodst, .dst => if opcode ≤ 255 then some protodst else none
  | .other, _ => none

/-- The fields of a packet that came in on a port. -/
def Ethernet.headers (packet : Ethernet) (inPort : Option ℕ) : Headers where
  field
    | .inPort => inPort
    | .dlSrc => some packet.src
    | .dlDst => some packet.dst
    | .dlType => some (packet.vlan.elim packet.type Vlan.ethType)
    | .dlVlan => some (packet.vlan.elim ofpVlanNone Vlan.id)
    | .dlVlanPcp => some (packet.vlan.elim 0 Vlan.pcp)
    | f => packet.next.field f
  nw := packet.next.nw

/-! ## What is read of the match of a packet -/

section FromPacket

variable {m : Match} {f g : MatchField} {s t : NwField} {v : ℕ} {addr : BitVec 32}

theorem MatchField.bit_inj (same : f.bit = g.bit) : f = g := by
  cases f <;> cases g <;> first | rfl | cases same

theorem Match.get_eq (m : Match) (f : MatchField) :
    m.get f = if m.wildcards.getLsbD f.bit = true then none else some (m.value f) := by
  rw [get, f.wildcard_eq, ite_congr (propext (and_twoPow_eq_iff f.bit_lt))]
  all_goals exact fun _ => rfl

theorem Match.getNw_congr {m' : Match} (bits : m.wildcards &&& s.mask = m'.wildcards &&& s.mask)
    (addr : m.nw s = m'.nw s) : m.getNw s = m'.getNw s := by
  have all : s.mask &&& s.all = s.all := by
    cases s <;> decide
  rw [getNw, getNw, bits, addr, ← all, ← BitVec.and_assoc, ← BitVec.and_assoc, bits]

theorem Match.get_set_self : (m.set f v).get f = some v := by
  rw [get_eq, set, f.wildcard_eq]
  simp

theorem Match.get_set_of_ne (apart : g ≠ f) : (m.set f v).get g = m.get g := by
  have place : f.bit ≠ g.bit := fun same => apart (MatchField.bit_inj same).symm
  rw [get_eq, get_eq, set, f.wildcard_eq]
  simp only [BitVec.getLsbD_and, BitVec.getLsbD_not, BitVec.getLsbD_twoPow, g.bit_lt, apart, place,
    decide_true, decide_false, Bool.and_false, Bool.not_false, Bool.and_true, if_false]

theorem Match.getNw_set : (m.set f v).getNw s = m.getNw s := by
  have outside : ~~~f.wildcard &&& s.mask = s.mask := by
    cases f <;> cases s <;> decide
  exact getNw_congr (by rw [set, BitVec.and_assoc, outside]) rfl

theorem Match.wildcards_setNw : (m.setNw s addr 32).wildcards = m.wildcards &&& ~~~s.mask := by
  simp [setNw]

theorem Match.get_setNw : (m.setNw s addr 32).get f = m.get f := by
  have outside : s.mask.getLsbD f.bit = false := by
    cases f <;> cases s <;> decide
  rw [get_eq, get_eq, wildcards_setNw, BitVec.getLsbD_and, BitVec.getLsbD_not, outside,
    decide_eq_true f.bit_lt]
  simp [setNw]

theorem Match.getNw_setNw_self : (m.setNw s addr 32).getNw s = (some addr, 32) := by
  have clear : (m.setNw s addr 32).wildcards &&& s.mask = (0#32) &&& s.mask := by
    rw [wildcards_setNw, BitVec.and_assoc]
    simp
  have blank : (⟨0, m.value, fun _ => addr⟩ : Match).getNw s = (some addr, 32) := by
    have some_ : ¬ 0#32 = s.all := by
      cases s <;> decide
    simp [getNw, some_]
  exact (getNw_congr clear (by simp [setNw])).trans blank

theorem Match.getNw_setNw_of_ne (apart : t ≠ s) : (m.setNw s addr 32).getNw t = m.getNw t := by
  have outside : ~~~s.mask &&& t.mask = t.mask := by
    cases s <;> cases t <;> first | decide | exact absurd rfl apart
  refine getNw_congr ?_ (by simp [setNw, apart])
  rw [wildcards_setNw, BitVec.and_assoc, outside]

theorem Match.get_blank : blank.get f = none := by
  cases f <;> decide

theorem Match.getNw_blank : blank.getNw s = (none, 0) := by
  cases s <;> decide

theorem Match.get_set : (m.set f v).get g = if g = f then some v else m.get g := by
  split_ifs with same
  · rw [same, get_set_self]
  · exact get_set_of_ne same

theorem Match.getNw_setNw :
    (m.setNw s addr 32).getNw t = if t = s then (some addr, 32) else m.getNw t := by
  split_ifs with same
  · rw [same, getNw_setNw_self]
  · exact getNw_setNw_of_ne same

variable (packet : Ethernet) (inPort : Option ℕ)

theorem Match.get_network (next : Layer) (f : MatchField) :
    (m.network next).get f = (next.field f).or (m.get f) := by
  cases next with
  | ipv4 srcip dstip protocol tos next =>
    cases next <;> cases f <;> simp [network, transport, get_set, get_setNw, Layer.field]
  | arp opcode protosrc protodst =>
    by_cases small : opcode ≤ 255 <;>
      cases f <;> simp [network, small, get_set, get_setNw, Layer.field]
  | other => simp [network, Layer.field]

theorem Match.getNw_network (next : Layer) (s : NwField) :
    (m.network next).getNw s = (next.nw s).elim (m.getNw s) fun addr => (some addr, 32) := by
  cases next with
  | ipv4 srcip dstip protocol tos next =>
    cases next <;> cases s <;> simp [network, transport, getNw_set, getNw_setNw, Layer.nw]
  | arp opcode protosrc protodst =>
    by_cases small : opcode ≤ 255 <;>
      cases s <;> simp [network, small, getNw_setNw, Layer.nw]
  | other => simp [network, Layer.nw]

/-- `from_packet` reads the fields that the packet has. -/
theorem Match.get_fromPacket (f : MatchField) :
    (fromPacket packet inPort).get f = (packet.headers inPort).field f := by
  obtain ⟨src, dst, type, vlan, next⟩ := packet
  have link : ∀ f, f ≠ .nwProto → f ≠ .nwTos → f ≠ .tpSrc → f ≠ .tpDst → next.field f = none := by
    cases next <;> intro f _ _ _ _ <;> cases f <;> first | rfl | contradiction
  cases vlan <;> cases inPort <;> cases f <;>
    simp [fromPacket, get_network, get_set, get_blank, Ethernet.headers, link]

theorem Match.getNw_fromPacket (s : NwField) :
    (fromPacket packet inPort).getNw s =
      ((packet.headers inPort).nw s).elim (none, 0) fun addr => (some addr, 32) := by
  obtain ⟨src, dst, type, vlan, next⟩ := packet
  cases vlan <;> cases inPort <;>
    simp [fromPacket, getNw_network, getNw_set, getNw_blank, Ethernet.headers]

/-- The match covers a packet exactly if `matches_with_wildcards` holds of the match of the packet,
as `entry_for_packet` calls it. -/
theorem Match.matchesWithWildcards_fromPacket :
    m.matchesWithWildcards (fromPacket packet inPort) false = true ↔
      m.Covers (packet.headers inPort) := by
  have own : (fromPacket packet inPort).Covers (packet.headers inPort) := by
    refine ⟨fun {f v} some_ => (get_fromPacket packet inPort f).symm.trans some_,
      fun {s network} some_ => ?_⟩
    rw [getNw_fromPacket] at some_ ⊢
    cases has : (packet.headers inPort).nw s with
    | none => rw [has] at some_; cases some_
    | some addr =>
      rw [has] at some_
      obtain rfl := Option.some.inj some_
      exact ⟨addr, rfl, inNetwork_self addr⟩
  rw [matchesWithWildcards_eq_true]
  constructor
  · rintro (same | ⟨-, fields, nws⟩)
    · exact covers_of_eq same own
    · exact covers_of_fields fields nws own
  · intro covers
    refine .inr ⟨fun strict => Bool.noConfusion strict, fun f v some_ => ?_, fun s => ?_⟩
    · rw [get_fromPacket]
      exact covers.field some_
    · refine nwFail_eq_false.mpr fun network counts => ?_
      obtain ⟨addr, has, inside⟩ := covers.nw counts
      rw [getNw_fromPacket, has]
      exact ⟨(getNw_of_some counts).2.2.2, addr, rfl, inside⟩

end FromPacket

end SimpleRouter.Pox
