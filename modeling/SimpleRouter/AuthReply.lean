/-
# The reply to an authentication request

The router proves that it knows the key in the file `auth_key`: it hashes the salt of the request
and the key, and sends the digest. The reply should depend on these alone.

`fgets` stops at the end of the first line and writes a NUL behind it, but 64 bytes of the buffer
are hashed. What the rest of it held goes into the digest. Nothing is left of it if and only if
the line and its NUL fill the 64 bytes.
-/

import SimpleRouter.ClientMessages
import SimpleRouter.RoutingTable
import SimpleRouter.Sha1

namespace SimpleRouter

open Buffers BufferWrites Effects TextLines

/-! ## The function -/

/-- `AUTH_KEY_LEN`. -/
def authKeyLen : ℕ := 64

/-- The first read of a file with `fgets` and the whole buffer, unless it is at its end. The line
is stored with a NUL behind it. -/
def fgets {n : ℕ} (buffer : Vector UInt8 n) (file : Bytes) : Option (Vector UInt8 n) :=
  let line := (readLine newline (n - 1) file).1
  if line = [] then none else some (writeAt buffer 0 (line ++ [0]))

/-- What the local variables of `sr_handle_auth_request` held before. -/
structure AuthLocals where
  authKey : Vector UInt8 (authKeyLen + 1)
  sha1 : Sha1Context

/-- What the system answers. -/
structure AuthAnswers where
  /-- The content of the file, if it could be opened. -/
  authKeyFile : Option Bytes
  /-- `malloc` returned a buffer for the reply. -/
  allocates : Bool
  /-- The reply was sent in full. -/
  replySent : Bool

/-- What `sr_handle_auth_request` does. -/
inductive AuthEvent
  /-- `SHA1Input` of these bytes. -/
  | hash (bytes : Bytes)
  | send (reply : Bytes)
  deriving DecidableEq

/-- The digest in network byte order. -/
def Sha1Words.bytes (words : Sha1Words) : Vector UInt8 20 :=
  be32Bytes words.a.toNat ++ be32Bytes words.b.toNat ++ be32Bytes words.c.toNat ++
    be32Bytes words.d.toNat ++ be32Bytes words.e.toNat

/-- `sr_handle_auth_request`, once the key is in its buffer. -/
def Session.replyWithKey (session : Session) (answers : AuthAnswers) (sha1 : Sha1Context)
    (salt key : Bytes) : Outcome AuthEvent Empty Bool := do
  .emit (.hash salt)
  .emit (.hash key)
  match sha1Digest sha1 [salt, key] with
  | none => pure false
  | some digest =>
    if answers.allocates then do
      .emit (.send (session.authReply digest.bytes))
      pure answers.replySent
    else pure false

/-- The key buffer once the file has been read, if it could be. -/
def AuthAnswers.authKey (answers : AuthAnswers) (locals : AuthLocals) :
    Option (Vector UInt8 (authKeyLen + 1)) :=
  answers.authKeyFile.bind (fgets locals.authKey)

/-- `sr_handle_auth_request`, with the bytes that it hashes and sends. -/
def Session.srHandleAuthRequest (session : Session) (answers : AuthAnswers) (locals : AuthLocals)
    (salt : Bytes) : Outcome AuthEvent Empty Bool :=
  match answers.authKey locals with
  | none => pure false
  | some authKey =>
    session.replyWithKey answers locals.sha1 salt (authKey.toList.take authKeyLen)

/-! ## What is asked of the code -/

/-- The replies that are sent. -/
def replies (log : List AuthEvent) : List Bytes :=
  log.filterMap fun event => match event with
    | .send reply => some reply
    | .hash _ => none

/-- The bytes that are hashed. -/
def hashed (log : List AuthEvent) : List Bytes :=
  log.filterMap fun event => match event with
    | .hash bytes => some bytes
    | .send _ => none

/-- What the local variables held before changes neither the reply nor what is hashed. -/
structure DependsOnInputs (session : Session) (answers : AuthAnswers) (salt : Bytes) : Prop where
  reply : ∀ locals locals',
    replies (session.srHandleAuthRequest answers locals salt).sent =
      replies (session.srHandleAuthRequest answers locals' salt).sent
  keyMaterial : ∀ locals locals',
    hashed (session.srHandleAuthRequest answers locals salt).sent =
      hashed (session.srHandleAuthRequest answers locals' salt).sent

/-! ## When the code does it -/

/-- The key as it is read: up to the end of the first line, at most 64 bytes of it. -/
def keyLine (file : Bytes) : Bytes := (readLine newline authKeyLen file).1

/-- The key and its NUL fill the bytes that are hashed, or there is no key. -/
def KeyFills (file : Bytes) : Prop := keyLine file = [] ∨ authKeyLen ≤ (keyLine file).length + 1

/-! ## The reply -/

section Reply

variable {session : Session} {answers : AuthAnswers} {file : Bytes} {locals : AuthLocals}
  {salt key : Bytes}

theorem hashed_replyWithKey (sha1 : Sha1Context) :
    hashed (session.replyWithKey answers sha1 salt key).sent = [salt, key] := by
  rw [Session.replyWithKey]
  cases sha1Digest sha1 [salt, key] with
  | none => rfl
  | some digest => cases answers.allocates <;> rfl

theorem replyWithKey_congr (sha1 sha1' : Sha1Context) :
    session.replyWithKey answers sha1 salt key = session.replyWithKey answers sha1' salt key := by
  rw [Session.replyWithKey, Session.replyWithKey, sha1Digest_congr sha1 sha1']

/-- The bytes of the key buffer that are hashed. -/
def keyMaterial (locals : AuthLocals) (file : Bytes) : Bytes :=
  (writeAt locals.authKey 0 (keyLine file ++ [0])).toList.take authKeyLen

theorem srHandleAuthRequest_of_empty (opened : answers.authKeyFile = some file)
    (empty : keyLine file = []) :
    session.srHandleAuthRequest answers locals salt = pure false := by
  have ended : fgets locals.authKey file = none := if_pos empty
  rw [Session.srHandleAuthRequest, AuthAnswers.authKey, opened, Option.bind_some, ended]

theorem srHandleAuthRequest_of_key (opened : answers.authKeyFile = some file)
    (some : keyLine file ≠ []) :
    session.srHandleAuthRequest answers locals salt =
      session.replyWithKey answers locals.sha1 salt (keyMaterial locals file) := by
  have read : fgets locals.authKey file =
      .some (writeAt locals.authKey 0 (keyLine file ++ [0])) := if_neg some
  rw [Session.srHandleAuthRequest, AuthAnswers.authKey, opened, Option.bind_some, read, keyMaterial]

theorem keyMaterial_const_iff (file : Bytes) :
    (∀ locals locals', keyMaterial locals file = keyMaterial locals' file) ↔
      authKeyLen ≤ (keyLine file).length + 1 := by
  have fits : (keyLine file ++ [0]).length ≤ authKeyLen + 1 := by
    rw [List.length_append, List.length_singleton]
    exact Nat.succ_le_succ (length_readLine_le newline authKeyLen file)
  have distinct : (0 : UInt8) ≠ 1 := by decide
  have written := take_writeAt_iff distinct fits (Nat.le_succ authKeyLen)
  rw [List.length_append, List.length_singleton] at written
  rw [← written]
  constructor
  · intro same buffer buffer'
    exact same ⟨buffer, default⟩ ⟨buffer', default⟩
  · intro same locals locals'
    exact same locals.authKey locals'.authKey

/-- Where there is a key, what is asked for is that the same bytes are hashed. -/
theorem dependsOnInputs_iff_keyMaterial (session : Session)
    (opened : answers.authKeyFile = some file) (some : keyLine file ≠ []) (salt : Bytes) :
    DependsOnInputs session answers salt ↔
      ∀ locals locals', keyMaterial locals file = keyMaterial locals' file := by
  have hashes (locals : AuthLocals) :
      hashed (session.srHandleAuthRequest answers locals salt).sent =
        [salt, keyMaterial locals file] := by
    rw [srHandleAuthRequest_of_key opened some, hashed_replyWithKey]
  constructor
  · intro depends locals locals'
    have same := depends.keyMaterial locals locals'
    rw [hashes, hashes] at same
    simpa using same
  · intro same
    refine ⟨fun locals locals' => ?_, fun locals locals' => ?_⟩
    · rw [srHandleAuthRequest_of_key opened some, srHandleAuthRequest_of_key opened some,
        same locals locals', replyWithKey_congr locals.sha1 locals'.sha1]
    · rw [hashes, hashes, same locals locals']

/-- The reply depends on its inputs alone if and only if the key fills the bytes that are
hashed. -/
theorem dependsOnInputs_iff (session : Session) (opened : answers.authKeyFile = some file)
    (salt : Bytes) : DependsOnInputs session answers salt ↔ KeyFills file := by
  by_cases empty : keyLine file = []
  · refine iff_of_true ⟨fun locals locals' => ?_, fun locals locals' => ?_⟩ (.inl empty)
    · rw [srHandleAuthRequest_of_empty opened empty, srHandleAuthRequest_of_empty opened empty]
    · rw [srHandleAuthRequest_of_empty opened empty, srHandleAuthRequest_of_empty opened empty]
  · rw [dependsOnInputs_iff_keyMaterial session opened empty, KeyFills, or_iff_right empty,
      keyMaterial_const_iff]

end Reply

/-! ## The request as a message -/

section Request

variable {buf : Bytes} {len : ℕ}

/-- The digest of the reply, if one is sent. -/
def AuthAnswers.digest (answers : AuthAnswers) (locals : AuthLocals) (salt : Bytes) :
    Option (Vector UInt8 20) := do
  let authKey ← answers.authKey locals
  let digest ← sha1Digest locals.sha1 [salt, authKey.toList.take authKeyLen]
  if answers.allocates then some digest.bytes else none

/-- The host that answers like this. -/
def AuthAnswers.host (answers : AuthAnswers) (locals : AuthLocals) (salt : Bytes) (host : Host) :
    Host :=
  { host with
    keyRead := (answers.authKey locals).isSome
    digest := answers.digest locals salt
    replySent := answers.replySent }

/-- The reply that an event of the message handler stands for. -/
def replyOf (session : Session) : MessageEvent → Option Bytes
  | .sendReply digest => some (session.authReply digest)
  | _ => none

/-- The handler of the message sends this reply for the salt behind its header, and returns what
the function returns. -/
theorem srHandleAuthRequest_message (session : Session) (answers : AuthAnswers)
    (locals : AuthLocals) (host : Host) (whole : buf.length = len) (long : baseSize ≤ len)
    (small : len ≤ 10000) :
    let handled := SimpleRouter.srHandleAuthRequest
      (answers.host locals (buf.drop baseSize) host) buf len
    let replied := session.srHandleAuthRequest answers locals (buf.drop baseSize)
    handled.sent.filterMap (replyOf session) = replies replied.sent ∧
      ∀ ret, handled.Returns ret ↔ replied.Returns ret := by
  intro handled replied
  have salt : (buf.drop baseSize).take (len - baseSize) = buf.drop baseSize :=
    List.take_of_length_le (by rw [List.length_drop, whole])
  cases read : answers.authKey locals with
  | none =>
    have silent : handled = pure false := if_neg (by simp [AuthAnswers.host, read])
    have silent' : replied = pure false := by
      simp only [replied, Session.srHandleAuthRequest, read]
    rw [silent, silent']
    exact ⟨rfl, fun ret => Outcome.returns_returned.trans Outcome.returns_returned.symm⟩
  | some authKey =>
    have keyRead : (answers.host locals (buf.drop baseSize) host).keyRead := by
      simp [AuthAnswers.host, read]
    have digest : (answers.host locals (buf.drop baseSize) host).digest =
        (sha1Digest locals.sha1 [buf.drop baseSize, authKey.toList.take authKeyLen]).bind
          fun digest => if answers.allocates then some digest.bytes else none := by
      simp only [AuthAnswers.host, AuthAnswers.digest, read]
      rfl
    simp only [handled, replied, SimpleRouter.srHandleAuthRequest,
      Session.srHandleAuthRequest, read]
    rw [if_pos keyRead, saltLength_eq long small, deriveLength_of_eq (by omega), pure_bind,
      readBytes_of_le (by omega), pure_bind, salt, digest, Session.replyWithKey]
    cases sha1Digest locals.sha1 [buf.drop baseSize, authKey.toList.take authKeyLen] with
    | none => exact ⟨rfl, fun ret => Outcome.returns_returned.trans Outcome.returns_returned.symm⟩
    | some digest =>
      cases answers.allocates with
      | false =>
        exact ⟨rfl, fun ret => Outcome.returns_returned.trans Outcome.returns_returned.symm⟩
      | true =>
        exact ⟨rfl, fun ret => Outcome.returns_returned.trans Outcome.returns_returned.symm⟩

end Request

section Sample

/-- A key of 64 characters, and a short one. -/
def longKey : AuthAnswers := ⟨some (.replicate 64 107), true, true⟩
def shortKey : AuthAnswers := ⟨some [107, 101, 121, 10], true, true⟩

theorem dependsOnInputs_longKey :
    DependsOnInputs (shortUser.session (.replicate 30 255) []) longKey (.replicate 20 7) :=
  (dependsOnInputs_iff _ rfl _).mpr (.inr (by decide))

/-- What is hashed depends on the stack. -/
theorem not_dependsOnInputs_shortKey :
    ¬ DependsOnInputs (shortUser.session (.replicate 30 255) []) shortKey (.replicate 20 7) := by
  rw [dependsOnInputs_iff_keyMaterial _ rfl (by decide)]
  intro same
  exact absurd (same ⟨.replicate 65 0, default⟩ ⟨.replicate 65 1, default⟩) (by decide)

end Sample

end SimpleRouter
