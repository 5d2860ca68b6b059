/-
# The messages of the handshake

`main` copies the user, host and template of the command line into fields of
`struct sr_instance` that lie next to each other, and `strncpy` does not end a name that
fills its field. `sr_connect_to_server` and `sr_handle_auth_request` build their messages
from these fields.

The open messages copy the fields with their bounds, and the controller unpacks what was
given. The reply measures the user with `strlen`: if the user fills its field, the host is
a part of the name.
-/

import SimpleRouter.PacketMessage

namespace SimpleRouter

open Buffers FixedFields

/-! ## The instance -/

/-- What `strncpy` with bound `n` leaves of the string that begins there. -/
def strncpy (n : ℕ) (s : Bytes) : Vector UInt8 n := ⟨(field 0 n (text 0 s)).toArray, by simp⟩

/-- The names in `struct sr_instance`, in the order in which they lie in memory, with what
is behind the address of the server. -/
structure Session where
  user : Vector UInt8 32
  host : Vector UInt8 32
  template : Vector UInt8 30
  topoId : UInt16
  behind : Bytes

namespace Session

variable (session : Session)

/-- `sr_addr` begins with `AF_INET`, a `short`. -/
def addrMemory : Bytes := [2, 0] ++ session.behind

def templateMemory : Bytes :=
  session.template.toList ++ ((hostBytes session.topoId).toList ++ session.addrMemory)

def hostMemory : Bytes := session.host.toList ++ session.templateMemory

def userMemory : Bytes := session.user.toList ++ session.hostMemory

end Session

/-- The arguments of the command line. -/
structure Arguments where
  user : Bytes
  host : Bytes
  template : Option Bytes
  topo : ℕ

/-- `main`, up to the connection. `stale` is what was in the field of a template that is not
given; only its first byte is written then. -/
def Arguments.session (args : Arguments) (stale : Vector UInt8 30) (behind : Bytes) : Session where
  user := strncpy 32 args.user
  host := strncpy 32 args.host
  template :=
    match args.template with
    | none => stale.set 0 0 (by decide)
    | some template => strncpy 30 template
  topoId := .ofNat args.topo
  behind := behind

/-! ## The messages -/

def vnsopen : ℕ := 1
def vnsOpenTemplate : ℕ := 64
def vnsAuthReply : ℕ := 256

namespace Session

variable (session : Session)

/-- The `VNSOPEN` message: its fields are zero before the names are copied. -/
def openMessage : Bytes :=
  (be32Bytes 108).toList ++ (be32Bytes vnsopen).toList ++
    ((hostBytes (htons session.topoId)).toList ++ [0, 0] ++
      (strncpy idsize session.hostMemory).toList ++
      (strncpy idsize session.userMemory).toList ++ List.replicate idsize 0)

/-- The `VNS_OPEN_TEMPLATE` message. No source filters are given. -/
def openTemplateMessage : Bytes :=
  (be32Bytes 70).toList ++ (be32Bytes vnsOpenTemplate).toList ++
    ((strncpy 30 session.templateMemory).toList ++
      (strncpy idsize session.hostMemory).toList)

/-- The message that opens the topology: a template is asked for if its name is not empty. -/
def opening : Bytes :=
  if 0 < (text 0 session.templateMemory).length then session.openTemplateMessage
  else session.openMessage

/-- The reply of `sr_handle_auth_request`. -/
def authReply (digest : Vector UInt8 20) : Bytes :=
  let username := text 0 session.userMemory
  (be32Bytes (12 + username.length + 20)).toList ++ (be32Bytes vnsAuthReply).toList ++
    ((be32Bytes username.length).toList ++ username ++ digest.toList)

end Session

/-! ## What is asked of the messages -/

/-- What the controller unpacks from the messages is what was given on the command line, cut
to the widths of the fields. -/
structure Arrives (args : Arguments) (session : Session) : Prop where
  topology : args.template.getD [] = [] →
    VnsOpen.unpack (session.opening.drop baseSize) =
      .ok ⟨(args.topo % 0x10000 : ℕ), args.host.take 32, args.user.take 32, []⟩
  template : args.template.getD [] ≠ [] →
    VnsOpenTemplate.unpack (session.opening.drop baseSize) =
      .ok (.new ((args.template.getD []).take 30) (args.host.take 32) [])
  reply : ∀ digest, VnsAuthReply.unpack ((session.authReply digest).drop baseSize) =
    .ok ⟨args.user.take 32, digest.toList⟩

/-- No argument has a NUL in it. -/
structure Arguments.Plain (args : Arguments) : Prop where
  user : 0 ∉ args.user
  host : 0 ∉ args.host
  template : 0 ∉ args.template.getD []

/-- The user does not fill its field, or the host behind it is empty. -/
def UserEnds (args : Arguments) : Prop := args.user.length < 32 ∨ args.host = []

/-! ## The fields -/

section Fields

variable {args : Arguments} {stale : Vector UInt8 30} {behind rest : Bytes} {n : ℕ} {s : Bytes}

@[simp] theorem toList_strncpy (n : ℕ) (s : Bytes) :
    (strncpy n s).toList = field 0 n (text 0 s) := rfl

theorem length_toList_strncpy (n : ℕ) (s : Bytes) : (strncpy n s).toList.length = n :=
  Vector.length_toList

/-- From a field on, `strncpy` with the width of the field copies the field. -/
theorem strncpy_field (plain : 0 ∉ s) (rest : Bytes) :
    (strncpy n (field 0 n s ++ rest)).toList = field 0 n s := by
  rw [toList_strncpy, field_text_field plain]

/-- The controller strips a copied field to the text that was given. -/
theorem stripNullChars_strncpy (plain : 0 ∉ s) (rest : Bytes) :
    stripNullChars (strncpy n (field 0 n s ++ rest)).toList = s.take n := by
  rw [strncpy_field plain, stripNullChars, strip_field plain]

theorem userMemory_eq (plain : args.Plain) : (args.session stale behind).userMemory =
    field 0 32 args.user ++ (args.session stale behind).hostMemory := by
  rw [Session.userMemory, Arguments.session, toList_strncpy, text_of_not_mem plain.user]

theorem hostMemory_eq (plain : args.Plain) : (args.session stale behind).hostMemory =
    field 0 32 args.host ++ (args.session stale behind).templateMemory := by
  rw [Session.hostMemory, Arguments.session, toList_strncpy, text_of_not_mem plain.host]

theorem template_session_some {template : Bytes} (given : args.template = some template) :
    (args.session stale behind).template = strncpy 30 template := by
  simp only [Arguments.session, given]

theorem template_session_none (missing : args.template = none) :
    (args.session stale behind).template = stale.set 0 0 (by decide) := by
  simp only [Arguments.session, missing]

/-- Without a template its field reads as an empty string, and so does that of an empty
template. -/
theorem text_templateMemory_of_empty (empty : args.template.getD [] = []) :
    text 0 (args.session stale behind).templateMemory = [] := by
  have first : ∃ cells, (args.session stale behind).template.toList = 0 :: cells := by
    cases given : args.template with
    | none =>
      obtain ⟨c, cells, cons⟩ := List.exists_cons_of_length_pos
        (show 0 < stale.toList.length by rw [Vector.length_toList]; decide)
      rw [template_session_none given, Vector.toList_set, cons]
      exact ⟨cells, rfl⟩
    | some template =>
      rw [given] at empty
      obtain rfl : template = [] := empty
      rw [template_session_some given]
      exact ⟨_, rfl⟩
  obtain ⟨cells, first⟩ := first
  rw [Session.templateMemory, first, List.cons_append, text_cons_pad]

theorem templateMemory_eq (plain : args.Plain) (given : args.template.getD [] ≠ []) :
    (args.session stale behind).templateMemory = field 0 30 (args.template.getD []) ++
      ((hostBytes (.ofNat args.topo)).toList ++ (args.session stale behind).addrMemory) := by
  have plain := plain.template
  cases set : args.template with
  | none =>
    rw [set] at given
    exact absurd rfl given
  | some template =>
    rw [set, Option.getD_some] at plain
    rw [Session.templateMemory, template_session_some set, toList_strncpy, text_of_not_mem plain]
    rfl

end Fields

/-! ## The open messages -/

section Opening

variable {args : Arguments} {stale : Vector UInt8 30} {behind : Bytes}

theorem drop_openMessage (session : Session) : session.openMessage.drop baseSize =
    (hostBytes (htons session.topoId)).toList ++ [0, 0] ++
      (strncpy idsize session.hostMemory).toList ++ (strncpy idsize session.userMemory).toList ++
      List.replicate idsize 0 := List.drop_left' (by
    rw [List.length_append, Vector.length_toList, Vector.length_toList, baseSize])

theorem drop_openTemplateMessage (session : Session) :
    session.openTemplateMessage.drop baseSize =
      (strncpy 30 session.templateMemory).toList ++ (strncpy idsize session.hostMemory).toList :=
  List.drop_left' (by
    rw [List.length_append, Vector.length_toList, Vector.length_toList, baseSize])

/-- The topology is sent modulo 2^16, in network byte order. -/
theorem beNat_topoId (topo : ℕ) :
    beNat (hostBytes (htons (.ofNat topo))).toList = topo % 0x10000 := by
  have bytes := be16_hostBytes_htons (.ofNat topo)
  rw [UInt16.toNat_ofNat'] at bytes
  rw [← bytes]
  simp [beNat, be16, hostBytes]

theorem unpack_openMessage (plain : args.Plain) :
    VnsOpen.unpack ((args.session stale behind).openMessage.drop baseSize) =
      .ok ⟨(args.topo % 0x10000 : ℕ), args.host.take 32, args.user.take 32, []⟩ := by
  rw [drop_openMessage, VnsOpen.unpack_fields Vector.length_toList rfl (length_toList_strncpy _ _)
    (length_toList_strncpy _ _) List.length_replicate, hostMemory_eq plain, userMemory_eq plain,
    idsize, stripNullChars_strncpy plain.host, stripNullChars_strncpy plain.user,
    stripNullChars, strip_replicate]
  exact congrArg (fun topo : ℕ => Except.ok (VnsOpen.mk topo _ _ _)) (beNat_topoId args.topo)

theorem unpack_openTemplateMessage (plain : args.Plain) (given : args.template.getD [] ≠ []) :
    VnsOpenTemplate.unpack ((args.session stale behind).openTemplateMessage.drop baseSize) =
      .ok (.new ((args.template.getD []).take 30) (args.host.take 32) []) := by
  rw [drop_openTemplateMessage, VnsOpenTemplate.unpack_header (length_toList_strncpy _ _)
    (length_toList_strncpy _ _), templateMemory_eq plain given, hostMemory_eq plain,
    stripNullChars_strncpy plain.template, idsize, stripNullChars_strncpy plain.host]

end Opening

/-! ## The reply -/

section Reply

variable {args : Arguments} {stale : Vector UInt8 30} {behind : Bytes}

/-- The name that `strlen` measures ends in the address of the server at the latest. -/
theorem length_username_lt (session : Session) :
    (text 0 session.userMemory).length < 0x100000000 := by
  have front : session.userMemory = (session.user.toList ++ session.host.toList ++
      session.template.toList ++ (hostBytes session.topoId).toList ++ [2, 0]) ++
        session.behind := by
    simp only [Session.userMemory, Session.hostMemory, Session.templateMemory, Session.addrMemory,
      List.append_assoc]
  have ends := length_text_le 0 (session.user.toList ++ session.host.toList ++
    session.template.toList ++ (hostBytes session.topoId).toList ++ [2, 0])
  rw [front, text_append_of_mem (List.mem_append_right _ (by decide))]
  simp only [List.length_append, Vector.length_toList, List.length_cons, List.length_nil] at ends
  omega

/-- The controller unpacks the name that `strlen` has measured. -/
theorem unpack_authReply (session : Session) (digest : Vector UInt8 20) :
    VnsAuthReply.unpack ((session.authReply digest).drop baseSize) =
      .ok ⟨text 0 session.userMemory, digest.toList⟩ := by
  have header : (session.authReply digest).drop baseSize =
      (be32Bytes (text 0 session.userMemory).length).toList ++ text 0 session.userMemory ++
        digest.toList := List.drop_left' (by
    rw [List.length_append, Vector.length_toList, Vector.length_toList, baseSize])
  rw [header, VnsAuthReply.unpack_fields (length_username_lt session)]

/-- A user that fills its field is followed by the host. -/
theorem text_userMemory_iff (plain : args.Plain) (stale : Vector UInt8 30) (behind : Bytes) :
    text 0 (args.session stale behind).userMemory = args.user.take 32 ↔ UserEnds args := by
  rw [userMemory_eq plain]
  by_cases short : args.user.length < 32
  · rw [text_field_of_lt plain.user short, List.take_of_length_le short.le]
    exact iff_of_true rfl (.inl short)
  · rw [text_field_of_ge plain.user (Nat.le_of_not_lt short), List.append_right_eq_self,
      hostMemory_eq plain]
    refine ⟨fun nothing => .inr ?_, fun ends => ?_⟩
    · by_contra named
      exact text_field_ne_nil plain.host named (by decide) nothing
    · rw [ends.resolve_left short]
      exact text_cons_pad _

end Reply

/-! ## Every argument -/

theorem opening_of_empty {args : Arguments} {stale : Vector UInt8 30} {behind : Bytes}
    (empty : args.template.getD [] = []) :
    (args.session stale behind).opening = (args.session stale behind).openMessage := by
  rw [Session.opening, text_templateMemory_of_empty empty]
  exact if_neg (by decide)

theorem opening_of_template {args : Arguments} {stale : Vector UInt8 30} {behind : Bytes}
    (plain : args.Plain) (given : args.template.getD [] ≠ []) :
    (args.session stale behind).opening = (args.session stale behind).openTemplateMessage := by
  rw [Session.opening, templateMemory_eq plain given]
  exact if_pos (List.length_pos_iff.mpr (text_field_ne_nil plain.template given (by decide)))

/-- What was given arrives if and only if the user does not run into the host. -/
theorem arrives_iff {args : Arguments} (plain : args.Plain) (stale : Vector UInt8 30)
    (behind : Bytes) : Arrives args (args.session stale behind) ↔ UserEnds args := by
  have reply : (∀ digest, VnsAuthReply.unpack
      (((args.session stale behind).authReply digest).drop baseSize) =
        .ok ⟨args.user.take 32, digest.toList⟩) ↔ UserEnds args := by
    rw [← text_userMemory_iff plain stale behind]
    simp only [unpack_authReply]
    constructor
    · intro unpacks
      exact congrArg VnsAuthReply.username (Except.ok.inj (unpacks (.replicate 20 0)))
    · intro same digest
      rw [same]
  constructor
  · exact fun arrives => reply.mp arrives.reply
  · intro ends
    refine ⟨fun empty => ?_, fun given => ?_, reply.mpr ends⟩
    · rw [opening_of_empty empty, unpack_openMessage plain]
    · rw [opening_of_template plain given, unpack_openTemplateMessage plain given]

/-- The user `"vns"`, and one that fills its field. -/
def shortUser : Arguments := ⟨[118, 110, 115], [118, 114], none, 70000⟩
def fullUser : Arguments := ⟨List.replicate 32 117, [118, 114], none, 1⟩

theorem arrives_iff_shortUser : Arrives shortUser (shortUser.session (.replicate 30 255) []) :=
  (arrives_iff ⟨by decide, by decide, by decide⟩ _ _).mpr (.inl (by decide))

/-- The host is sent behind the user. -/
theorem not_arrives_fullUser : ¬ Arrives fullUser (fullUser.session (.replicate 30 0) []) := by
  intro arrives
  have plain : fullUser.Plain := ⟨by decide, by decide, by decide⟩
  have unpacks := arrives.reply (.replicate 20 0)
  rw [unpack_authReply] at unpacks
  have ends := (text_userMemory_iff plain _ _).mp
    (congrArg VnsAuthReply.username (Except.ok.inj unpacks))
  exact absurd ends (by unfold UserEnds; decide)

end SimpleRouter
