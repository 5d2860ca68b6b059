/-
# The handshake

`sr_connect_to_server` keeps no protocol state: where it is shows in the command that the
next message is expected to have, and whether a step succeeded shows in the value 1 of a
reader that knows all commands. A close is accepted at every step, and ends it with 0.

Whatever messages the server sends, a topology is opened only behind a request that was
answered in full and an accepting status, and the client sends nothing else but that
answer. No packet and no hardware message is acted on.
-/

import SimpleRouter.ClientMessages

namespace SimpleRouter

open Buffers Effects FixedFields Rounds

/-! ## Connecting -/

/-- What the operating system answers while the client connects. -/
structure Network where
  /-- The server was found and the connection was made. -/
  connects : Bool
  /-- The message that opens the topology was sent in full. -/
  openSent : Bool

/-- Why connecting has not returned. -/
inductive Halt
  /-- It waits for the server, with this instance. -/
  | waits (sr : SrInstance) (why : Pending)
  /-- A handler does not return. -/
  | stops (why : MessageStop)

/-- What the client has done so far in connecting. -/
abbrev Connecting := Outcome MessageEvent Halt

/-- A call that has received its message. -/
def settle (acting : Acting (SrInstance × ℤ)) (socket : Socket) :
    Connecting (SrInstance × ℤ × Socket) :=
  match acting.result with
  | .error why => .stopped acting.sent (.stops why)
  | .ok (sr, ret) => .returned acting.sent (sr, ret, socket)

/-- A call of `sr_read_from_server_expect`. -/
def readExpected (sr : SrInstance) (host : Host) (expected : ℕ) (socket : Socket) (rounds : ℕ) :
    Connecting (SrInstance × ℤ × Socket) :=
  match srReadFromServerExpect sr host expected socket rounds with
  | .error why => .stop (.waits sr why)
  | .ok (acting, socket) => settle acting socket

/-- The end of `sr_connect_to_server`, once the client is authenticated. -/
def openTopology (session : Session) (network : Network) (host : Host) (sr : SrInstance)
    (socket : Socket) (rounds : ℕ) : Connecting (SrInstance × ℤ) := do
  Outcome.emit (.sendOpen session.opening)
  if network.openSent = false then pure (sr, -1)
  else if 0 < (text 0 session.templateMemory).length then do
    let (sr, ret, _) ← readExpected sr host vnsRtable socket rounds
    pure (sr, if ret ≠ 1 then -1 else 0)
  else pure (sr, 0)

/-- `sr_connect_to_server`, with so many rounds for its loops. `hosts` answers the handlers
of its calls. -/
def srConnectToServer (session : Session) (network : Network) (hosts : ℕ → Host)
    (sr : SrInstance) (socket : Socket) (rounds : ℕ) : Connecting (SrInstance × ℤ) :=
  if network.connects = false then pure (sr, -1)
  else do
    let (sr, ret, socket) ← readExpected sr (hosts 0) vnsAuthRequest socket rounds
    if ret ≠ 1 then pure (sr, -1)
    else do
      let (sr, ret, socket) ← readExpected sr (hosts 1) vnsAuthStatus socket rounds
      if ret ≠ 1 then pure (sr, -1)
      else openTopology session network (hosts 2) sr socket rounds

/-! ## What is asked of the code -/

/-- A message whose length field counts its bytes. -/
structure IsFrame (m : Bytes) : Prop where
  atLeast : baseSize ≤ m.length
  declared : be32 (mLen.get m) = m.length

/-- The body is as long as its command needs, and the strings in it end. -/
structure CompleteBody (m : Bytes) : Prop where
  close : be32 (mType.get m) = vnsClose → 0 ∈ m.drop baseSize
  status : be32 (mType.get m) = vnsAuthStatus →
    baseSize < m.length ∧ (m[baseSize]? = some 0 → 0 ∈ m.drop (baseSize + 1))
  rtable : be32 (mType.get m) = vnsRtable →
    baseSize + idsize ≤ m.length ∧ 0 ∈ m.drop baseSize

/-- The event hands a message to `send`. -/
def MessageEvent.IsSend : MessageEvent → Bool
  | .sendReply _ => true
  | .sendOpen _ => true
  | _ => false

/-- The first message was a request, which was answered in full, and the second one was a
status that accepts the answer. -/
def Authenticated (hosts : ℕ → Host) (messages : List Bytes)
    (acting : Connecting (SrInstance × ℤ)) : Prop :=
  ∃ request status later, messages = request :: status :: later ∧
    be32 (mType.get request) = vnsAuthRequest ∧
    (∃ digest, .sendReply digest ∈ acting.sent ∧ (hosts 0).replySent) ∧
    be32 (mType.get status) = vnsAuthStatus ∧ ∃ ok, status[baseSize]? = some ok ∧ ok ≠ 0

/-- The instance is as before, whether the client waits or has returned, and no packet is
handed on. A handler that does not return was given an incomplete body. -/
structure Quiet (sr : SrInstance) (messages : List Bytes) (acting : Connecting (SrInstance × ℤ)) :
    Prop where
  unchanged : ∀ sr' ret, acting.Returns (sr', ret) → sr' = sr
  waiting : ∀ sr' why, acting.result = .error (.waits sr' why) → sr' = sr
  stops : ∀ why, acting.result = .error (.stops why) → ∃ m ∈ messages, ¬ CompleteBody m
  noPacket : ∀ packet interface, .handlePacket packet interface ∉ acting.sent

/-- A topology is opened only by an authenticated client. As long as none is opened, nothing
is sent but at most one reply, and the result can only be -1. -/
structure HandshakeSafe (hosts : ℕ → Host) (sr : SrInstance) (messages : List Bytes)
    (acting : Connecting (SrInstance × ℤ)) : Prop extends Quiet sr messages acting where
  opens : ∀ message, .sendOpen message ∈ acting.sent → Authenticated hosts messages acting
  otherwise : (∀ message, .sendOpen message ∉ acting.sent) →
    (acting.sent.filter MessageEvent.IsSend = [] ∨
      ∃ digest, acting.sent.filter MessageEvent.IsSend = [.sendReply digest]) ∧
    ∀ sr' ret, acting.Returns (sr', ret) → ret = -1

/-! ## One call -/

/-- What a call with an expected command does with a message. -/
structure CallSpec (expected : ℕ) (host : Host) (sr : SrInstance) (m : Bytes)
    (acting : Acting (SrInstance × ℤ)) : Prop where
  unchanged : ∀ sr' ret, acting.Returns (sr', ret) → sr' = sr
  noPacket : ∀ packet interface, .handlePacket packet interface ∉ acting.sent
  noOpen : ∀ message, .sendOpen message ∉ acting.sent
  sends : acting.sent.filter MessageEvent.IsSend = [] ∨ expected = vnsAuthRequest ∧
    ∃ digest, acting.sent.filter MessageEvent.IsSend = [.sendReply digest]
  one : ∀ sr', acting.Returns (sr', 1) → be32 (mType.get m) = expected ∧
    (expected = vnsAuthRequest → ∃ digest, .sendReply digest ∈ acting.sent ∧ host.replySent) ∧
    (expected = vnsAuthStatus → ∃ ok, m[baseSize]? = some ok ∧ ok ≠ 0)
  returns : CompleteBody m → ∃ ret, acting.Returns (sr, ret)

section Calls

variable {expected : ℕ} {host : Host} {sr : SrInstance} {m : Bytes} {buf : Bytes} {len : ℕ}

/-- A call that returns another value than 1 and sends nothing is as it should be. -/
theorem CallSpec.of_returned (events : List MessageEvent) {ret : ℤ} (other : ret ≠ 1)
    (noPacket : ∀ packet interface, .handlePacket packet interface ∉ events)
    (noOpen : ∀ message, .sendOpen message ∉ events)
    (sends : events.filter MessageEvent.IsSend = [] ∨ expected = vnsAuthRequest ∧
      ∃ digest, events.filter MessageEvent.IsSend = [.sendReply digest]) :
    CallSpec expected host sr m (.returned events (sr, ret)) where
  unchanged := fun sr' ret' returns => by
    cases returns
    rfl
  noPacket := noPacket
  noOpen := noOpen
  sends := sends
  one := fun sr' returns => by
    cases returns
    exact absurd rfl other
  returns := fun _ => ⟨ret, rfl⟩

/-- A call that returns 1 is as it should be if its message was the right one. -/
theorem CallSpec.of_one (events : List MessageEvent)
    (noPacket : ∀ packet interface, .handlePacket packet interface ∉ events)
    (noOpen : ∀ message, .sendOpen message ∉ events)
    (sends : events.filter MessageEvent.IsSend = [] ∨ expected = vnsAuthRequest ∧
      ∃ digest, events.filter MessageEvent.IsSend = [.sendReply digest])
    (command : be32 (mType.get m) = expected)
    (replied : expected = vnsAuthRequest → ∃ digest, .sendReply digest ∈ events ∧ host.replySent)
    (accepted : expected = vnsAuthStatus → ∃ ok, m[baseSize]? = some ok ∧ ok ≠ 0) :
    CallSpec expected host sr m (.returned events (sr, 1)) where
  unchanged := fun sr' ret' returns => by
    cases returns
    rfl
  noPacket := noPacket
  noOpen := noOpen
  sends := sends
  one := fun _ _ => ⟨command, replied, accepted⟩
  returns := fun _ => ⟨1, rfl⟩

theorem CallSpec.refused : CallSpec expected host sr m (pure (sr, -1)) :=
  .of_returned [] (by decide) (fun _ _ => List.not_mem_nil) (fun _ => List.not_mem_nil) (.inl rfl)

/-- A call that stops has an incomplete body. -/
theorem CallSpec.of_stopped {why : MessageStop} (cut : ¬ CompleteBody m) :
    CallSpec expected host sr m (.stop why) where
  unchanged := fun _ _ returns => by cases returns
  noPacket := fun _ _ => List.not_mem_nil
  noOpen := fun _ => List.not_mem_nil
  sends := .inl rfl
  one := fun _ returns => by cases returns
  returns := fun complete => absurd complete cut

/-- A close ends the call with 0. -/
theorem callSpec_close (behind : buf.drop baseSize = m.drop baseSize)
    (command : be32 (mType.get m) = vnsClose) :
    CallSpec expected host sr m (do
      let reason ← readString .textOverread (buf.drop baseSize)
      Outcome.emit (.print reason)
      pure (sr, 0)) := by
  rw [behind]
  by_cases ends : 0 ∈ m.drop baseSize
  · rw [readString_of_mem ends, pure_bind]
    exact .of_returned [.print _] (by decide) (by simp) (by simp) (.inl rfl)
  · rw [readString_of_not_mem ends]
    exact .of_stopped fun complete => ends (complete.close command)

/-- A request is answered, and only an answer that was sent in full gives 1. -/
theorem callSpec_authRequest (whole : buf.length = len) (long : baseSize ≤ len)
    (small : len ≤ 10000) (command : be32 (mType.get m) = vnsAuthRequest) :
    CallSpec vnsAuthRequest host sr m (do
      let replied ← srHandleAuthRequest host buf len
      pure (sr, if replied then 1 else -1)) := by
  rw [srHandleAuthRequest]
  by_cases key : host.keyRead
  · rw [if_pos key, saltLength_eq long small, deriveLength_of_eq (by omega), pure_bind,
      readBytes_of_le (by omega), pure_bind]
    cases known : host.digest with
    | none => exact .of_returned [.hashSalt _] (by decide) (by simp) (by simp) (.inl rfl)
    | some digest =>
      have once (salt : Bytes) : [MessageEvent.hashSalt salt, .sendReply digest].filter
          MessageEvent.IsSend = [.sendReply digest] := rfl
      cases sent : host.replySent with
      | true =>
        exact .of_one [.hashSalt _, .sendReply digest] (by simp) (by simp)
          (.inr ⟨rfl, digest, once _⟩) command (fun _ => ⟨digest, by simp, sent⟩)
          (fun other => absurd other (by decide))
      | false =>
        exact .of_returned [.hashSalt _, .sendReply digest] (by decide) (by simp)
          (by simp) (.inr ⟨rfl, digest, once _⟩)
  · rw [if_neg key]
    exact .refused

/-- A status gives 1 if it accepts, and the text of another one is printed. -/
theorem callSpec_authStatus (here : buf[baseSize]? = m[baseSize]?)
    (behind : buf.drop (baseSize + 1) = m.drop (baseSize + 1))
    (command : be32 (mType.get m) = vnsAuthStatus) :
    CallSpec vnsAuthStatus host sr m (do
      let accepted ← srHandleAuthStatus buf
      pure (sr, if accepted then 1 else -1)) := by
  rw [srHandleAuthStatus]
  cases status : m[baseSize]? with
  | none =>
    have short : m.length ≤ baseSize := List.getElem?_eq_none_iff.mp status
    have cut : buf.length ≤ baseSize := List.getElem?_eq_none_iff.mp (here.trans status)
    rw [readField_of_short (f := (⟨baseSize⟩ : Span 1)) (Nat.lt_succ_of_le cut)]
    exact .of_stopped fun complete => absurd (complete.status command).1 (Nat.not_lt_of_le short)
  | some ok =>
    have long : baseSize < buf.length := by
      rw [status] at here
      exact (List.getElem?_eq_some_iff.mp here).1
    have value : hostU8 ((⟨baseSize⟩ : Span 1).get buf) = ok := by
      rw [hostU8, Span.getElem_get, Nat.add_zero, here, status]
      rfl
    rw [readField_of_fits (f := (⟨baseSize⟩ : Span 1)) long, pure_bind, value, behind]
    by_cases accepts : ok ≠ 0
    · rw [if_pos accepts]
      exact .of_one [] (by simp) (by simp) (.inl rfl) command
        (fun other => absurd other (by decide)) fun _ => ⟨ok, status, accepts⟩
    · rw [if_neg accepts]
      by_cases ends : 0 ∈ m.drop (baseSize + 1)
      · rw [readString_of_mem ends, pure_bind]
        exact .of_returned [.print _] (by decide) (by simp) (by simp) (.inl rfl)
      · rw [readString_of_not_mem ends]
        refine .of_stopped fun complete => ends ((complete.status command).2 ?_)
        rw [status, not_not.mp accepts]

/-- A routing table is written to its file. -/
theorem callSpec_rtable (whole : buf.length = m.length)
    (behind : buf.drop baseSize = m.drop baseSize) (small : m.length ≤ 10000)
    (command : be32 (mType.get m) = vnsRtable) :
    CallSpec vnsRtable host sr m (do
      let stored ← srHandleRtable host buf m.length
      pure (sr, if stored then 1 else -1)) := by
  by_cases ends : 0 ∈ buf.drop baseSize
  · by_cases opens : host.rtableOpens
    · by_cases long : baseSize + idsize ≤ m.length
      · rw [srHandleRtable_of_long ends opens whole long small]
        exact .of_one [.writeRtable _ _] (by simp) (by simp) (.inl rfl) command
          (fun other => absurd other (by decide)) (fun other => absurd other (by decide))
      · rw [srHandleRtable_of_short ends opens (Nat.lt_of_not_le long)]
        exact .of_stopped fun complete => long (complete.rtable command).1
    · rw [srHandleRtable, readString_of_mem ends, pure_bind, if_neg opens]
      exact .refused
  · rw [srHandleRtable, readString_of_not_mem ends]
    exact .of_stopped fun complete => ends (behind ▸ (complete.rtable command).2)

/-- The commands that the handshake expects. -/
def Expected (expected : ℕ) : Prop :=
  expected = vnsAuthRequest ∨ expected = vnsAuthStatus ∨ expected = vnsRtable

theorem callSpec_message (expects : Expected expected) (long : baseSize ≤ m.length)
    (small : m.length ≤ 10000) :
    CallSpec expected host sr m
      (if Unexpected expected (be32 (mType.get m)) then pure (sr, -1)
      else switchCommand sr host (mType.set (mType.get m).reverse m) m.length
        (be32 (mType.get m))) := by
  -- The handlers read behind the command, where the buffer is as it was received.
  have whole : (mType.set (mType.get m).reverse m).length = m.length := Span.length_set _ _ _
  have behind : ∀ k, baseSize ≤ k → (mType.set (mType.get m).reverse m).drop k = m.drop k :=
    fun k later => Span.drop_set later _ _
  have here : (mType.set (mType.get m).reverse m)[baseSize]? = m[baseSize]? :=
    Span.getElem?_set_of_not_covers _ _ (by decide)
  by_cases unexpected : Unexpected expected (be32 (mType.get m))
  · rw [if_pos unexpected]
    exact .refused
  rw [if_neg unexpected]
  by_cases close : be32 (mType.get m) = vnsClose
  · rw [close]
    exact callSpec_close (behind _ (Nat.le_refl _)) close
  have command : be32 (mType.get m) = expected := by
    by_contra other
    have positive : expected ≠ 0 := by
      rcases expects with rfl | rfl | rfl <;> decide
    exact unexpected ⟨positive, other, close⟩
  rw [command]
  rcases expects with rfl | rfl | rfl
  · exact callSpec_authRequest whole long small command
  · exact callSpec_authStatus here (behind _ (Nat.le_succ _)) command
  · exact callSpec_rtable whole (behind _ (Nat.le_refl _)) small command

variable {socket : Socket} {rest : Bytes}

/-- A call with a frame on the way does with it what is asked, and only if it returns 1 there
may be another call. -/
theorem callSpec_frame (expects : Expected expected) (unbroken : socket.Unbroken)
    (frame : IsFrame m) (carries : socket.stream = m ++ rest) (host : Host) (sr : SrInstance) :
    ∃ acting socket', Finishes (srReadFromServerExpect sr host expected socket) (acting, socket') ∧
      CallSpec expected host sr m acting ∧
      ((∃ sr', acting.Returns (sr', 1)) → socket'.stream = rest ∧ socket'.Unbroken) := by
  have long : 4 ≤ m.length := Nat.le_trans (by decide) frame.atLeast
  have onTheWay : 4 ≤ socket.stream.length := by
    rw [carries, List.length_append]
    omega
  have declared : be32 (mLen.get socket.stream) = m.length := by
    rw [carries, Span.get_append_left (f := mLen) long, frame.declared]
  by_cases refused : 10000 < m.length ∨ host.allocates = false
  · obtain ⟨socket', reads, -⟩ := receiveLength_finishes unbroken onTheWay
    refine ⟨pure (sr, -1), socket', (reads.bind (receiveBody_refused
      (refused.imp (fun large => declared.symm ▸ large) id))).bind (finishes_of_eq rfl),
      .refused, ?_⟩
    rintro ⟨sr', returns⟩
    cases returns
  · rw [not_or] at refused
    have memory : host.allocates := by simpa using refused.2
    obtain ⟨socket', finishes, left, unbroken'⟩ := srReadFromServerExpect_finishes memory unbroken
      ⟨frame.atLeast, Nat.le_of_not_lt refused.1, frame.declared⟩ carries sr expected
    exact ⟨_, socket', finishes, callSpec_message expects frame.atLeast
      (Nat.le_of_not_lt refused.1), fun _ => ⟨left, unbroken'⟩⟩

end Calls

/-! ## Runs -/

section Runs

variable {sr : SrInstance} {α β : Type}

/-- From some number of rounds on, the client does not wait. -/
def Settles (run : ℕ → Connecting β) : Prop :=
  ∃ enough, ∀ rounds, enough ≤ rounds → ∀ sr why, (run rounds).result ≠ .error (.waits sr why)

/-- The client waits with nothing done, until it has come to the point `reached`. -/
structure Reaches (sr : SrInstance) (run : ℕ → Connecting α) (reached : Connecting α) : Prop where
  always : ∀ rounds, (∃ why, run rounds = .stop (.waits sr why)) ∨ run rounds = reached
  atLast : ∃ enough, ∀ rounds, enough ≤ rounds → run rounds = reached

/-- What holds all the time, and when the client does not wait for ever. -/
structure RunSpec (P : Connecting β → Prop) (needs : Prop) (run : ℕ → Connecting β) : Prop where
  always : ∀ rounds, P (run rounds)
  settles : needs → Settles run

variable {P Q : Connecting β → Prop} {needs : Prop}

theorem RunSpec.weaken {run : ℕ → Connecting β} {more : Prop} (spec : RunSpec P needs run)
    (enough : more → needs) : RunSpec P more run := ⟨spec.always, spec.settles ∘ enough⟩

theorem RunSpec.of_forall {acting : Connecting β} (holds : P acting)
    (notWaiting : ∀ sr why, acting.result ≠ .error (.waits sr why)) :
    RunSpec P needs fun _ => acting where
  always := fun _ => holds
  settles := fun _ => ⟨0, fun _ _ => notWaiting⟩

/-- What has been done before stays done. -/
theorem RunSpec.prepend {run : ℕ → Connecting β} (spec : RunSpec P needs run)
    {events : List MessageEvent}
    (adds : ∀ acting, P acting → Q ⟨events ++ acting.sent, acting.result⟩) :
    RunSpec Q needs fun rounds => ⟨events ++ (run rounds).sent, (run rounds).result⟩ where
  always := fun rounds => adds _ (spec.always rounds)
  settles := spec.settles

/-- A run is as it should be if it is while it waits and from the point on that it reaches. -/
theorem RunSpec.bind {first : ℕ → Connecting α} {next : ℕ → α → Connecting β}
    {reached : Connecting α} (reaches : Reaches sr first reached)
    (waiting : ∀ why, P (.stop (.waits sr why)))
    (rest : RunSpec P needs fun rounds => reached >>= next rounds) :
    RunSpec P needs fun rounds => first rounds >>= next rounds where
  always := fun rounds => by
    rcases reaches.always rounds with ⟨why, waits⟩ | here
    · rw [waits]
      exact waiting why
    · rw [here]
      exact rest.always rounds
  settles := fun needed => by
    obtain ⟨enough, here⟩ := reaches.atLast
    obtain ⟨enough', settles⟩ := rest.settles needed
    refine ⟨max enough enough', fun rounds many => ?_⟩
    dsimp only
    rw [here rounds (Nat.le_trans (Nat.le_max_left _ _) many)]
    exact settles rounds (Nat.le_trans (Nat.le_max_right _ _) many)

/-- A run that waits for ever. -/
theorem RunSpec.of_waits {first : ℕ → Connecting α} {next : ℕ → α → Connecting β}
    (waits : ∀ rounds, ∃ why, first rounds = .stop (.waits sr why))
    (waiting : ∀ why, P (.stop (.waits sr why))) (lacks : ¬ needs) :
    RunSpec P needs fun rounds => first rounds >>= next rounds where
  always := fun rounds => by
    obtain ⟨why, waits⟩ := waits rounds
    rw [waits]
    exact waiting why
  settles := fun needed => absurd needed lacks

end Runs

/-! ## Calls that wait -/

section Calls

variable {expected : ℕ} {host : Host} {sr : SrInstance} {m : Bytes} {socket socket' : Socket}
  {acting : Acting (SrInstance × ℤ)} {messages : List Bytes}

/-- A call that finishes waits until it has its message. -/
theorem readExpected_reaches
    (finishes : Finishes (srReadFromServerExpect sr host expected socket) (acting, socket')) :
    Reaches sr (readExpected sr host expected socket) (settle acting socket') where
  always := fun rounds => by
    rw [readExpected]
    cases reads : srReadFromServerExpect sr host expected socket rounds with
    | error why => exact .inl ⟨why, rfl⟩
    | ok ended =>
      have steady := srReadFromServerExpect_steady sr host expected socket
      cases (steady.finishes reads).unique finishes
      exact .inr rfl
  atLast := by
    obtain ⟨enough, reads⟩ := finishes
    refine ⟨enough, fun rounds many => ?_⟩
    rw [readExpected, reads rounds many]

/-- Without a frame on the way it waits for ever. -/
theorem readExpected_of_empty (unbroken : socket.Unbroken) (empty : socket.stream = [])
    (sr : SrInstance) (host : Host) (expected : ℕ) (rounds : ℕ) :
    ∃ why, readExpected sr host expected socket rounds = .stop (.waits sr why) := by
  have starved : socket.stream.length < 4 := by
    rw [empty]
    decide
  obtain ⟨why, starves⟩ := receiveMessage_starves unbroken starved rounds
  refine ⟨why, ?_⟩
  rw [readExpected, srReadFromServerExpect, starves]
  rfl

/-- How connecting ends behind a call that does not return 1. -/
def Ended (sr : SrInstance) (m : Bytes) (result : Except Halt (SrInstance × ℤ)) : Prop :=
  result = .ok (sr, -1) ∨ ∃ why, result = .error (.stops why) ∧ ¬ CompleteBody m

theorem Ended.notWaiting {result : Except Halt (SrInstance × ℤ)} (ended : Ended sr m result)
    (sr' : SrInstance) (why : Pending) : result ≠ .error (.waits sr' why) := by
  rcases ended with rfl | ⟨why', rfl, -⟩
  · rintro ⟨⟩
  · rintro ⟨⟩

theorem Ended.returns {events : List MessageEvent} {result : Except Halt (SrInstance × ℤ)}
    (ended : Ended sr m result) {sr' : SrInstance} {ret : ℤ}
    (returns : (⟨events, result⟩ : Connecting (SrInstance × ℤ)).Returns (sr', ret)) :
    sr' = sr ∧ ret = -1 := by
  rcases ended with rfl | ⟨why, rfl, -⟩
  · cases returns
    exact ⟨rfl, rfl⟩
  · cases returns

theorem Ended.quiet {events : List MessageEvent} {result : Except Halt (SrInstance × ℤ)}
    (ended : Ended sr m result) (listed : m ∈ messages)
    (noPacket : ∀ packet interface, .handlePacket packet interface ∉ events) :
    Quiet sr messages ⟨events, result⟩ where
  unchanged := fun _ _ returns => (ended.returns returns).1
  waiting := fun sr' why waits => absurd waits (ended.notWaiting sr' why)
  stops := fun why stops => by
    rcases ended with rfl | ⟨_, -, incomplete⟩
    · cases stops
    · exact ⟨m, listed, incomplete⟩
  noPacket := noPacket

/-- If it returns 1, it leaves the instance as it was. -/
theorem CallSpec.returned_of_one (spec : CallSpec expected host sr m acting)
    (one : ∃ sr', acting.Returns (sr', 1)) : ∃ events, acting = .returned events (sr, 1) := by
  obtain ⟨sr', one⟩ := one
  obtain rfl := spec.unchanged sr' 1 one
  obtain ⟨events, result⟩ := acting
  cases one
  exact ⟨events, rfl⟩

/-- If it does not return 1 and no other call is made, connecting ends there. -/
theorem CallSpec.ends (spec : CallSpec expected host sr m acting)
    (others : ¬ ∃ sr', acting.Returns (sr', 1)) {socket : Socket}
    {next : ℕ → SrInstance × ℤ × Socket → Connecting (SrInstance × ℤ)}
    (givesUp : ∀ rounds ret, ret ≠ 1 → next rounds (sr, ret, socket) = pure (sr, -1))
    {P : Connecting (SrInstance × ℤ) → Prop} {needs : Prop}
    (holds : ∀ result, Ended sr m result → P ⟨acting.sent, result⟩) :
    RunSpec P needs fun rounds => settle acting socket >>= next rounds := by
  obtain ⟨events, why | ⟨sr', ret⟩⟩ := acting
  · refine .of_forall (holds (.error (.stops why)) (.inr ⟨why, rfl, fun complete => ?_⟩)) ?_
    · obtain ⟨ret, returns⟩ := spec.returns complete
      cases returns
    · rintro _ _ ⟨⟩
  · obtain rfl := spec.unchanged sr' ret rfl
    have other : ret ≠ 1 := by
      rintro rfl
      exact others ⟨sr', rfl⟩
    have run : (fun rounds => settle ⟨events, .ok (sr', ret)⟩ socket >>= next rounds) =
        fun _ => ⟨events, .ok (sr', -1)⟩ := by
      funext rounds
      change Outcome.returned events (sr', ret, socket) >>= next rounds = _
      rw [Outcome.returned_bind, givesUp rounds ret other]
      exact congrArg (Outcome.mk · _) (List.append_nil events)
    rw [run]
    exact .of_forall (holds _ (.inl rfl)) (by rintro _ _ ⟨⟩)

end Calls

/-! ## The steps -/

/-- A topology is opened. -/
structure OpenSpec (sr : SrInstance) (messages : List Bytes)
    (acting : Connecting (SrInstance × ℤ)) : Prop extends Quiet sr messages acting where
  opened : ∃ message, .sendOpen message ∈ acting.sent

/-- A topology is opened if a status accepts the answer, and else nothing is sent. -/
structure StatusSpec (sr : SrInstance) (messages : List Bytes)
    (acting : Connecting (SrInstance × ℤ)) : Prop extends Quiet sr messages acting where
  opens : ∀ message, .sendOpen message ∈ acting.sent → ∃ status later,
    messages = status :: later ∧ be32 (mType.get status) = vnsAuthStatus ∧
      ∃ ok, status[baseSize]? = some ok ∧ ok ≠ 0
  otherwise : (∀ message, .sendOpen message ∉ acting.sent) →
    acting.sent.filter MessageEvent.IsSend = [] ∧
      ∀ sr' ret, acting.Returns (sr', ret) → ret = -1

section Steps

variable {sr : SrInstance} {m : Bytes} {messages : List Bytes}

theorem quiet_waits (sr : SrInstance) (messages : List Bytes) (why : Pending) :
    Quiet sr messages (.stop (.waits sr why)) where
  unchanged := fun _ _ returns => by cases returns
  waiting := fun _ _ waits => by
    cases waits
    rfl
  stops := fun _ stops => by cases stops
  noPacket := fun _ _ => List.not_mem_nil

theorem quiet_pure (sr : SrInstance) (messages : List Bytes) (ret : ℤ) :
    Quiet sr messages (pure (sr, ret)) where
  unchanged := fun _ _ returns => by
    cases returns
    rfl
  waiting := fun _ _ waits => by cases waits
  stops := fun _ stops => by cases stops
  noPacket := fun _ _ => List.not_mem_nil

theorem Quiet.prepend {acting : Connecting (SrInstance × ℤ)} {events : List MessageEvent}
    (quiet : Quiet sr messages acting)
    (noPacket : ∀ packet interface, .handlePacket packet interface ∉ events) :
    Quiet sr (m :: messages) ⟨events ++ acting.sent, acting.result⟩ where
  unchanged := quiet.unchanged
  waiting := quiet.waiting
  stops := fun why stops => by
    obtain ⟨m', listed, incomplete⟩ := quiet.stops why stops
    exact ⟨m', List.mem_cons_of_mem _ listed, incomplete⟩
  noPacket := fun packet interface handed => (List.mem_append.mp handed).elim
    (noPacket packet interface) (quiet.noPacket packet interface)

theorem statusSpec_waits (why : Pending) : StatusSpec sr messages (.stop (.waits sr why)) where
  toQuiet := quiet_waits sr messages why
  opens := fun _ sends => absurd sends List.not_mem_nil
  otherwise := fun _ => ⟨rfl, fun _ _ returns => by cases returns⟩

theorem handshakeSafe_waits {hosts : ℕ → Host} (why : Pending) :
    HandshakeSafe hosts sr messages (.stop (.waits sr why)) where
  toQuiet := quiet_waits sr messages why
  opens := fun _ sends => absurd sends List.not_mem_nil
  otherwise := fun _ => ⟨.inl rfl, fun _ _ returns => by cases returns⟩

/-- An accepting status comes before what opens the topology. -/
theorem OpenSpec.statusSpec {acting : Connecting (SrInstance × ℤ)}
    (opened : OpenSpec sr messages acting)
    {host : Host} {events : List MessageEvent}
    (spec : CallSpec vnsAuthStatus host sr m ⟨events, .ok (sr, 1)⟩) :
    StatusSpec sr (m :: messages) ⟨events ++ acting.sent, acting.result⟩ where
  toQuiet := opened.toQuiet.prepend spec.noPacket
  opens := fun _ _ => by
    obtain ⟨command, -, accepts⟩ := spec.one sr rfl
    exact ⟨m, messages, rfl, command, accepts rfl⟩
  otherwise := fun none => by
    obtain ⟨message, sends⟩ := opened.opened
    exact absurd (List.mem_append_right _ sends) (none message)

/-- Without an accepting status nothing is opened. -/
theorem Ended.statusSpec {result : Except Halt (SrInstance × ℤ)} (ended : Ended sr m result)
    {host : Host} {acting : Acting (SrInstance × ℤ)}
    (spec : CallSpec vnsAuthStatus host sr m acting) :
    StatusSpec sr (m :: messages) ⟨acting.sent, result⟩ where
  toQuiet := ended.quiet List.mem_cons_self spec.noPacket
  opens := fun message sends => absurd sends (spec.noOpen message)
  otherwise := fun _ =>
    ⟨spec.sends.resolve_right fun replies => absurd replies.1 (by decide),
      fun _ _ returns => (ended.returns returns).2⟩

/-- An answered request comes before the status. -/
theorem StatusSpec.handshakeSafe {acting : Connecting (SrInstance × ℤ)}
    (safe : StatusSpec sr messages acting) {hosts : ℕ → Host} {events : List MessageEvent}
    (spec : CallSpec vnsAuthRequest (hosts 0) sr m ⟨events, .ok (sr, 1)⟩) :
    HandshakeSafe hosts sr (m :: messages) ⟨events ++ acting.sent, acting.result⟩ where
  toQuiet := safe.toQuiet.prepend spec.noPacket
  opens := fun message sends => by
    obtain ⟨command, replied, -⟩ := spec.one sr rfl
    obtain ⟨digest, answers, full⟩ := replied rfl
    obtain ⟨status, later, rfl, isStatus, accepts⟩ := safe.opens message
      ((List.mem_append.mp sends).resolve_left (spec.noOpen message))
    exact ⟨m, status, later, rfl, command, ⟨digest, List.mem_append_left _ answers, full⟩,
      isStatus, accepts⟩
  otherwise := fun none => by
    obtain ⟨silent, returns⟩ := safe.otherwise fun message sends =>
      none message (List.mem_append_right _ sends)
    refine ⟨?_, returns⟩
    -- The one reply, if any, is the one to the request.
    have kept : (events ++ acting.sent).filter MessageEvent.IsSend =
        events.filter MessageEvent.IsSend := by
      rw [List.filter_append, silent, List.append_nil]
    rw [kept]
    exact spec.sends.imp id And.right

/-- Without an answered request nothing is opened. -/
theorem Ended.handshakeSafe {result : Except Halt (SrInstance × ℤ)} (ended : Ended sr m result)
    {hosts : ℕ → Host} {acting : Acting (SrInstance × ℤ)}
    (spec : CallSpec vnsAuthRequest (hosts 0) sr m acting) :
    HandshakeSafe hosts sr (m :: messages) ⟨acting.sent, result⟩ where
  toQuiet := ended.quiet List.mem_cons_self spec.noPacket
  opens := fun message sends => absurd sends (spec.noOpen message)
  otherwise := fun _ => ⟨spec.sends.imp id And.right, fun _ _ returns => (ended.returns returns).2⟩

variable {socket : Socket}

/-- The routing table may be awaited, and what comes instead ends the connecting. -/
theorem awaitRtable_spec (host : Host) (sr : SrInstance) (unbroken : socket.Unbroken)
    (frames : ∀ m ∈ messages, IsFrame m) (carries : socket.stream = messages.flatten) :
    RunSpec (Quiet sr messages) (1 ≤ messages.length) fun rounds =>
      readExpected sr host vnsRtable socket rounds >>= fun call =>
        pure (call.1, if call.2.1 ≠ 1 then -1 else 0) := by
  cases messages with
  | nil =>
    exact .of_waits (readExpected_of_empty unbroken carries sr host _) (quiet_waits sr [])
      (by decide)
  | cons m later =>
    obtain ⟨acting, socket', finishes, spec, -⟩ := callSpec_frame (.inr (.inr rfl)) unbroken
      (frames m List.mem_cons_self) carries host sr
    refine .bind (readExpected_reaches finishes) (quiet_waits sr _) ?_
    by_cases one : ∃ sr', acting.Returns (sr', 1)
    · obtain ⟨events, rfl⟩ := spec.returned_of_one one
      have ends : settle (.returned events (sr, 1)) socket' >>=
          (fun call => pure (call.1, if call.2.1 ≠ 1 then -1 else 0)) =
            Outcome.returned events (sr, (0 : ℤ)) := Outcome.returned_bind_pure events _ _
      rw [ends]
      have quiet := quiet_pure sr (m :: later) 0
      exact .of_forall ⟨quiet.unchanged, quiet.waiting, quiet.stops, spec.noPacket⟩
        (by rintro _ _ ⟨⟩)
    · exact spec.ends one (fun _ ret other => congrArg (fun ret => pure (sr, ret)) (if_pos other))
        fun _ ended => ended.quiet List.mem_cons_self spec.noPacket

/-- The open message is sent, and then a routing table may be awaited. -/
theorem openTopology_spec (session : Session) (network : Network) (host : Host) (sr : SrInstance)
    (unbroken : socket.Unbroken) (frames : ∀ m ∈ messages, IsFrame m)
    (carries : socket.stream = messages.flatten) :
    RunSpec (OpenSpec sr messages) (1 ≤ messages.length)
      (openTopology session network host sr socket) := by
  have opened (acting : Connecting (SrInstance × ℤ)) (quiet : Quiet sr messages acting) :
      OpenSpec sr messages ⟨[.sendOpen session.opening] ++ acting.sent, acting.result⟩ := by
    refine ⟨⟨quiet.unchanged, quiet.waiting, quiet.stops, ?_⟩, _, List.mem_cons_self⟩
    simpa using quiet.noPacket
  have settled (ret : ℤ) : RunSpec (Quiet sr messages) (1 ≤ messages.length)
      (fun _ => (pure (sr, ret) : Connecting (SrInstance × ℤ))) :=
    .of_forall (quiet_pure sr messages ret) (by rintro _ _ ⟨⟩)
  by_cases openSent : network.openSent = false
  · have run : openTopology session network host sr socket = fun _ =>
        ⟨[.sendOpen session.opening] ++ [], .ok (sr, -1)⟩ := by
      funext rounds
      rw [openTopology, if_pos openSent]
      rfl
    rw [run]
    exact (settled (-1)).prepend opened
  by_cases template : 0 < (text 0 session.templateMemory).length
  · have run : openTopology session network host sr socket = fun rounds =>
        Outcome.emit (.sendOpen session.opening) >>= fun _ =>
          readExpected sr host vnsRtable socket rounds >>= fun call =>
            pure (call.1, if call.2.1 ≠ 1 then -1 else 0) := by
      funext rounds
      rw [openTopology, if_neg openSent, if_pos template]
    rw [run]
    exact (awaitRtable_spec host sr unbroken frames carries).prepend opened
  · have run : openTopology session network host sr socket = fun _ =>
        ⟨[.sendOpen session.opening] ++ [], .ok (sr, 0)⟩ := by
      funext rounds
      rw [openTopology, if_neg openSent, if_neg template]
      rfl
    rw [run]
    exact (settled 0).prepend opened

/-- The second call, and what follows it. -/
def awaitStatus (session : Session) (network : Network) (hosts : ℕ → Host) (sr : SrInstance)
    (socket : Socket) (rounds : ℕ) : Connecting (SrInstance × ℤ) := do
  let (sr, ret, socket) ← readExpected sr (hosts 1) vnsAuthStatus socket rounds
  if ret ≠ 1 then pure (sr, -1)
  else openTopology session network (hosts 2) sr socket rounds

theorem awaitStatus_spec (session : Session) (network : Network) (hosts : ℕ → Host)
    (sr : SrInstance) (unbroken : socket.Unbroken) (frames : ∀ m ∈ messages, IsFrame m)
    (carries : socket.stream = messages.flatten) :
    RunSpec (StatusSpec sr messages) (2 ≤ messages.length)
      (awaitStatus session network hosts sr socket) := by
  cases messages with
  | nil =>
    exact .of_waits (readExpected_of_empty unbroken carries sr (hosts 1) _) statusSpec_waits
      (by decide)
  | cons status later =>
    rw [List.forall_mem_cons] at frames
    obtain ⟨acting, socket', finishes, spec, leaves⟩ := callSpec_frame (.inr (.inl rfl)) unbroken
      frames.1 carries (hosts 1) sr
    refine .bind (readExpected_reaches finishes) statusSpec_waits ?_
    by_cases one : ∃ sr', acting.Returns (sr', 1)
    · obtain ⟨left, unbroken'⟩ := leaves one
      obtain ⟨events, rfl⟩ := spec.returned_of_one one
      have opens := openTopology_spec session network (hosts 2) sr unbroken' frames.2 left
      exact (opens.weaken Nat.le_of_succ_le_succ).prepend fun _ opened => opened.statusSpec spec
    · exact spec.ends one (fun _ _ other => if_pos other) fun _ ended => ended.statusSpec spec

/-- Connecting keeps to the handshake all the time, and three messages are enough for it. -/
theorem srConnectToServer_spec (session : Session) (network : Network) (hosts : ℕ → Host)
    (sr : SrInstance) (unbroken : socket.Unbroken) (frames : ∀ m ∈ messages, IsFrame m)
    (carries : socket.stream = messages.flatten) :
    RunSpec (HandshakeSafe hosts sr messages) (3 ≤ messages.length)
      (srConnectToServer session network hosts sr socket) := by
  by_cases connects : network.connects = false
  · have run : srConnectToServer session network hosts sr socket = fun _ => pure (sr, -1) := by
      funext rounds
      exact if_pos connects
    rw [run]
    refine .of_forall ⟨quiet_pure sr messages (-1), ?_, ?_⟩ (by rintro _ _ ⟨⟩)
    · exact fun _ sends => absurd sends List.not_mem_nil
    · refine fun _ => ⟨.inl rfl, ?_⟩
      rintro _ _ ⟨⟩
      rfl
  have run : srConnectToServer session network hosts sr socket = fun rounds =>
      readExpected sr (hosts 0) vnsAuthRequest socket rounds >>= fun call =>
        if call.2.1 ≠ 1 then pure (call.1, -1)
        else awaitStatus session network hosts call.1 call.2.2 rounds := by
    funext rounds
    exact if_neg connects
  rw [run]
  cases messages with
  | nil =>
    exact .of_waits (readExpected_of_empty unbroken carries sr (hosts 0) _) handshakeSafe_waits
      (by decide)
  | cons request messages =>
    rw [List.forall_mem_cons] at frames
    obtain ⟨acting, socket', finishes, spec, leaves⟩ := callSpec_frame (.inl rfl) unbroken frames.1
      carries (hosts 0) sr
    refine .bind (readExpected_reaches finishes) handshakeSafe_waits ?_
    by_cases one : ∃ sr', acting.Returns (sr', 1)
    · obtain ⟨left, unbroken'⟩ := leaves one
      obtain ⟨events, rfl⟩ := spec.returned_of_one one
      have awaits := awaitStatus_spec session network hosts sr unbroken' frames.2 left
      exact (awaits.weaken Nat.le_of_succ_le_succ).prepend fun _ safe => safe.handshakeSafe spec
    · exact spec.ends one (fun _ _ other => if_pos other) fun _ ended => ended.handshakeSafe spec

/-- Whatever messages the server sends, the client keeps to the handshake at every moment,
and it returns when three messages with complete bodies come. -/
theorem handshake_safe (session : Session) (network : Network) (hosts : ℕ → Host)
    (sr : SrInstance) (unbroken : socket.Unbroken) (frames : ∀ m ∈ messages, IsFrame m)
    (carries : socket.stream = messages.flatten) :
    (∀ rounds, HandshakeSafe hosts sr messages
      (srConnectToServer session network hosts sr socket rounds)) ∧
    (3 ≤ messages.length → (∀ m ∈ messages, CompleteBody m) → ∃ enough, ∀ rounds,
      enough ≤ rounds → ∃ ret,
        (srConnectToServer session network hosts sr socket rounds).Returns (sr, ret)) := by
  have spec := srConnectToServer_spec session network hosts sr unbroken frames carries
  refine ⟨spec.always, fun three complete => ?_⟩
  obtain ⟨enough, settles⟩ := spec.settles three
  refine ⟨enough, fun rounds many => ?_⟩
  have safe := spec.always rounds
  cases ends : (srConnectToServer session network hosts sr socket rounds).result with
  | ok returned =>
    obtain ⟨sr', ret⟩ := returned
    obtain rfl := safe.unchanged sr' ret ends
    exact ⟨ret, ends⟩
  | error why =>
    cases why with
    | waits sr' why => exact absurd ends (settles rounds many sr' why)
    | stops why =>
      obtain ⟨m, listed, incomplete⟩ := safe.stops why ends
      exact absurd (complete m listed) incomplete

end Steps

/-- A request, a status that accepts, and a banner, which nothing waits for. -/
def greetings : List Bytes :=
  [[0, 0, 0, 8, 0, 0, 0, 128], [0, 0, 0, 9, 0, 0, 2, 0, 1], [0, 0, 0, 8, 0, 0, 0, 8]]

theorem handshake_safe_greetings :
    HandshakeSafe (fun _ => willingHost) sampleInstance greetings
      (srConnectToServer (shortUser.session (.replicate 30 0) []) ⟨true, true⟩
        (fun _ => willingHost) sampleInstance ⟨greetings.flatten, [.piece 2, .interrupted], true⟩
        9) := by
  refine (handshake_safe _ _ _ _ ?_ ?_ rfl).1 9
  · unfold Socket.Unbroken
    decide
  · simp only [greetings, List.forall_mem_cons]
    exact ⟨⟨by decide, rfl⟩, ⟨by decide, rfl⟩, ⟨by decide, rfl⟩, fun _ listed => absurd listed
      List.not_mem_nil⟩

end SimpleRouter
