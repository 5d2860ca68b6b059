/-
# Packets that the controller sends out

`ofp_packet_out` with actions to put a packet out of a port: what is packed, and what the other end
unpacks.
-/

import SimpleRouter.Pox.OpenFlow

namespace SimpleRouter.Pox

/-- `ofp_action_output` -/
structure OutputAction where
  port : ℕ
  maxLen : ℕ
  deriving DecidableEq

/-- `OFPP_CONTROLLER` -/
def ofppController : ℕ := 65533

/-- The length matters for the controller alone; `pack` clears it elsewhere. -/
def OutputAction.cleared (action : OutputAction) : OutputAction :=
  if action.port ≠ ofppController then { action with maxLen := 0 } else action

def OutputAction.pack (action : OutputAction) : Option (List UInt8) :=
  Struct.pack [2, 2, 2, 2] [0, 8, action.port, action.cleared.maxLen]

/-- `ofp_packet_out` -/
structure PacketOut where
  header : OfpHeader
  /-- None for `-1`. -/
  bufferId : Option ℕ
  inPort : ℕ
  actions : List OutputAction
  data : List UInt8

/-- `pack`: the assertion fails where both a buffer and data are set. -/
def PacketOut.pack (ofp : PacketOut) : Option (List UInt8) :=
  if ofp.bufferId ≠ none ∧ ofp.data ≠ [] then none
  else do
    let actions ← ofp.actions.mapM OutputAction.pack
    let header ← (ofp.header.sized (16 + actions.flatten.length + ofp.data.length)).pack
    let fields ← Struct.pack [4, 2, 2]
      [wireBuffer ofp.bufferId, ofp.inPort, actions.flatten.length]
    some (header ++ fields ++ actions.flatten ++ ofp.data)

/-- The loop of `_unpack_actions`, for actions that put a packet out. It fails where there is an
exception, and for an action of another type, which is left out here. -/
def unpackActionsLoop (b : List UInt8) (finish : ℕ) :
    ℕ → List OutputAction → ℕ → Option (List OutputAction × ℕ)
  | 0, _, _ => none
  | rounds + 1, actions, offset =>
    if finish ≤ offset then some (actions, offset)
    else if b.length < offset + 4 then none
    else match Struct.unpackFrom [2, 2] b offset with
      | [t, l] =>
        if b.length - offset < l then some ([], offset)
        else if t ≠ 0 ∨ l ≠ 8 then none
        else match Struct.unpackFrom [2, 2, 2, 2] (part b offset (offset + l)) 0 with
          | [_, _, port, maxLen] =>
            unpackActionsLoop b finish rounds (actions ++ [⟨port, maxLen⟩]) (offset + l)
          | _ => none
      | _ => none

/-- `_unpack_actions` -/
def unpackActions (b : List UInt8) (length offset : ℕ) : Option (List OutputAction × ℕ) :=
  if b.length - offset < length then some ([], offset)
  else unpackActionsLoop b (length + offset) (length + 1) [] offset

def PacketOut.unpack (s : List UInt8) : Option PacketOut :=
  if s.length < 16 then none
  else
    let header := OfpHeader.unpack s
    match Struct.unpackFrom [4, 2, 2] s 8 with
    | [bufferId, inPort, actionsLen] => do
      let (actions, offset) ← unpackActions s actionsLen 16
      some
        { header, inPort, actions
          bufferId := readBuffer bufferId
          data := if offset < header.length then part s offset header.length else [] }
    | _ => none

section RoundTrip

variable {packed : List UInt8}

theorem OutputAction.port_cleared (action : OutputAction) : action.cleared.port = action.port := by
  rw [cleared]
  split_ifs <;> rfl

theorem OutputAction.pack_spec {action : OutputAction} (ok : action.pack = some packed) :
    packed.length = 8 ∧ ∀ before rest,
      Struct.unpackFrom [2, 2, 2, 2] (before ++ (packed ++ rest)) before.length =
        [0, 8, action.cleared.port, action.cleared.maxLen] := by
  rw [action.port_cleared]
  exact ⟨Struct.length_pack ok, fun before rest => Struct.unpackFrom_pack ok before rest⟩

/-- The actions behind an offset are unpacked. -/
theorem unpackActionsLoop_pack {actions : List OutputAction} {packs : List (List UInt8)}
    (ok : actions.mapM OutputAction.pack = some packs) (done : List OutputAction)
    (before rest : List UInt8) {rounds : ℕ} (enough : packs.flatten.length < rounds) :
    unpackActionsLoop (before ++ (packs.flatten ++ rest)) (before.length + packs.flatten.length)
        rounds done before.length =
      some (done ++ actions.map OutputAction.cleared, before.length + packs.flatten.length) := by
  obtain ⟨rounds, rfl⟩ : ∃ below, rounds = below + 1 := ⟨rounds - 1, by omega⟩
  induction actions generalizing packs done before rounds with
  | nil =>
    obtain rfl : [] = packs := Option.some.inj ok
    rw [unpackActionsLoop, if_pos (by simp)]
    simp
  | cons action actions ih =>
    rw [List.mapM_cons] at ok
    obtain ⟨pack, first, packs, others, rfl⟩ := by
      simpa only [Option.bind_eq_bind, Option.bind_eq_some_iff, Option.pure_def,
        Option.some.injEq] using ok
    obtain ⟨eight, read⟩ := OutputAction.pack_spec first
    have fields := read before (packs.flatten ++ rest)
    have here := read [] []
    have front : Struct.unpackFrom [2, 2] (before ++ (pack ++ (packs.flatten ++ rest))) before.length =
        [0, 8] := congrArg (List.take 2) fields
    have action_part : part (before ++ (pack ++ (packs.flatten ++ rest))) before.length
        (before.length + 8) = pack := part_between rfl (by rw [eight]) _
    rw [List.nil_append, List.append_nil, List.length_nil] at here
    rw [List.flatten_cons, List.length_append] at enough
    obtain ⟨more, rfl⟩ : ∃ more, rounds = more + 1 := ⟨rounds - 1, by omega⟩
    have later := ih others (done ++ [action.cleared]) (before ++ pack) more (by omega)
    rw [List.length_append, eight, List.append_assoc] at later
    rw [List.flatten_cons, List.append_assoc, List.length_append, eight, unpackActionsLoop,
      if_neg (by omega), if_neg (by simp only [List.length_append]; omega), front]
    dsimp only
    rw [if_neg (by simp only [List.length_append]; omega), if_neg (by simp), action_part, here]
    dsimp only
    rw [← Nat.add_assoc, later, List.map_cons, List.append_assoc]
    rfl

/-- The actions are cleared and the length is that of the message; nothing else changes. -/
theorem PacketOut.pack_spec {ofp : PacketOut} (ok : ofp.pack = some packed) (rest : List UInt8) :
    PacketOut.unpack (packed ++ rest) = some
      { ofp with
        header := ofp.header.sized packed.length
        bufferId := readBuffer (wireBuffer ofp.bufferId)
        actions := ofp.actions.map OutputAction.cleared } := by
  rw [pack] at ok
  split_ifs at ok
  obtain ⟨packs, acts, header, first, fields, second, rfl⟩ := by
    simpa only [Option.bind_eq_bind, Option.bind_eq_some_iff, Option.some.injEq] using ok
  obtain ⟨eight, read⟩ := OfpHeader.pack_spec first
  have fields_length : fields.length = 8 := Struct.length_pack second
  have front : (header ++ fields).length = 16 := by
    rw [List.length_append, eight, fields_length]
  have whole : (header ++ fields ++ packs.flatten ++ ofp.data).length =
      16 + packs.flatten.length + ofp.data.length := by
    rw [List.length_append, List.length_append, front]
  have actions : unpackActions (header ++ (fields ++ (packs.flatten ++ (ofp.data ++ rest))))
      packs.flatten.length 16 =
        some (ofp.actions.map OutputAction.cleared, 16 + packs.flatten.length) := by
    rw [← List.append_assoc header, unpackActions,
      if_neg (by rw [List.length_append, front, List.length_append]; omega)]
    have loop := unpackActionsLoop_pack acts [] (header ++ fields) (ofp.data ++ rest)
      (Nat.lt_succ_self packs.flatten.length)
    rw [front] at loop
    rw [Nat.add_comm packs.flatten.length 16, loop, List.nil_append]
  have behind : (if 16 + packs.flatten.length < 16 + packs.flatten.length + ofp.data.length then
      part (header ++ (fields ++ (packs.flatten ++ (ofp.data ++ rest)))) (16 + packs.flatten.length)
        (16 + packs.flatten.length + ofp.data.length) else []) = ofp.data := by
    split_ifs with some_
    · rw [← List.append_assoc fields, ← List.append_assoc header]
      exact part_between (by rw [← List.append_assoc, List.length_append, front]) rfl rest
    · exact (List.eq_nil_of_length_eq_zero (by omega)).symm
  rw [unpack, if_neg (by rw [List.length_append, whole]; omega), whole]
  simp only [List.append_assoc]
  rw [unpackFrom_after second eight, read]
  dsimp only
  rw [actions, OfpHeader.length_sized]
  dsimp only [Option.bind_eq_bind, Option.bind_some]
  rw [behind]

end RoundTrip

section Packing

theorem OfpHeader.exists_pack {header : OfpHeader} (version : header.version < 2 ^ 8)
    (headerType : header.headerType ≤ 21) (length : header.length < 2 ^ 16)
    (xid : header.xid < 2 ^ 32) : ∃ packed, header.pack = some packed := by
  have fit : List.Forall₂ (fun w v => v < 256 ^ w) [1, 1, 2, 4]
      [header.version, header.headerType, header.length, header.xid] := by
    simp
    omega
  obtain ⟨packed, packs⟩ := Struct.exists_pack fit
  exact ⟨packed, (if_pos headerType).trans packs⟩

theorem OutputAction.exists_mapM_pack {actions : List OutputAction}
    (small : ∀ action ∈ actions, action.port < 2 ^ 16 ∧ action.maxLen < 2 ^ 16) :
    ∃ packs, actions.mapM OutputAction.pack = some packs ∧
      packs.flatten.length = 8 * actions.length := by
  induction actions with
  | nil => exact ⟨[], rfl, rfl⟩
  | cons action actions ih =>
    rw [List.forall_mem_cons] at small
    obtain ⟨packs, rest, length⟩ := ih small.2
    have cleared : action.cleared.maxLen < 2 ^ 16 := by
      rw [OutputAction.cleared]
      split_ifs
      · exact Nat.two_pow_pos 16
      · exact small.1.2
    have fit : List.Forall₂ (fun w v => v < 256 ^ w) [2, 2, 2, 2]
        [0, 8, action.port, action.cleared.maxLen] := by
      simp
      omega
    obtain ⟨pack, first⟩ := Struct.exists_pack fit
    refine ⟨pack :: packs, ?_, ?_⟩
    · rw [List.mapM_cons, OutputAction.pack, first, rest]
      rfl
    · rw [List.flatten_cons, List.length_append, Struct.length_pack first, length, List.length_cons,
        Nat.mul_succ, Nat.add_comm]
      rfl

/-- The numbers of a message fit, it is not too long, and it has a buffer or data at most. -/
structure PacketOut.Packable (ofp : PacketOut) : Prop where
  exclusive : ofp.bufferId = none ∨ ofp.data = []
  version : ofp.header.version < 2 ^ 8
  headerType : ofp.header.headerType ≤ 21
  xid : ofp.header.xid < 2 ^ 32
  inPort : ofp.inPort < 2 ^ 16
  actions : ∀ action ∈ ofp.actions, action.port < 2 ^ 16 ∧ action.maxLen < 2 ^ 16
  short : 16 + 8 * ofp.actions.length + ofp.data.length < 2 ^ 16

theorem PacketOut.Packable.exists_pack {ofp : PacketOut} (packable : ofp.Packable) :
    ∃ packed, ofp.pack = some packed ∧
      packed.length = 16 + 8 * ofp.actions.length + ofp.data.length := by
  obtain ⟨packs, acts, acts_length⟩ := OutputAction.exists_mapM_pack packable.actions
  have short := packable.short
  have inPort := packable.inPort
  have buffer : wireBuffer ofp.bufferId < 2 ^ 32 := Nat.mod_lt _ (Nat.two_pow_pos 32)
  obtain ⟨header, first⟩ : ∃ header,
      (ofp.header.sized (16 + packs.flatten.length + ofp.data.length)).pack = some header :=
    OfpHeader.exists_pack packable.version packable.headerType
      (by rw [OfpHeader.length_sized]; omega) packable.xid
  have fit : List.Forall₂ (fun w v => v < 256 ^ w) [4, 2, 2]
      [wireBuffer ofp.bufferId, ofp.inPort, packs.flatten.length] := by
    rw [acts_length]
    simp
    omega
  obtain ⟨fields, second⟩ := Struct.exists_pack fit
  have exclusive : ¬ (ofp.bufferId ≠ none ∧ ofp.data ≠ []) := by
    have := packable.exclusive
    tauto
  refine ⟨header ++ fields ++ packs.flatten ++ ofp.data, ?_, ?_⟩
  · rw [PacketOut.pack, if_neg exclusive, acts]
    dsimp only [Option.bind_eq_bind, Option.bind_some]
    rw [first, Option.bind_some, second, Option.bind_some]
  · simp only [List.length_append]
    rw [(OfpHeader.pack_spec first).1, Struct.length_pack second, acts_length]
    rfl

end Packing

end SimpleRouter.Pox
