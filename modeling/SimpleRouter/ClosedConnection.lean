/-
# The end of the connection

When the server has closed the connection, `recv` and `read` return 0 for ever. The
loops of `sr_read_from_server_expect` take that for an empty piece and ask again, so a
call whose message is cut off never returns.

A call ends if and only if its message is whole or its length is refused, and the main
loop ends if and only if all of its calls do.
-/

import Mathlib.Logic.Relation
import SimpleRouter.ReadLoop

namespace SimpleRouter

open Buffers Effects Rounds

/-! ## What is asked of the code -/

/-- The stream begins with a length field and has as many bytes as that says. -/
def WholeMessage (stream : Bytes) : Prop :=
  4 ≤ stream.length ∧ be32 (mLen.get stream) ≤ stream.length

/-- A call of `sr_read_from_server_expect` returns from its loops, and not with 1 if the
stream ends before a whole message. -/
def CallEnds (sr : SrInstance) (host : Host) (expected : ℕ) (socket : Socket) : Prop :=
  ∃ acting socket', Finishes (srReadFromServerExpect sr host expected socket) (acting, socket') ∧
    (¬ WholeMessage socket.stream → ∃ sr' ret, acting.Returns (sr', ret) ∧ ret ≠ 1)

/-- Where the main loop is: the number of calls it has made, its instance and its
connection. -/
structure Turn where
  calls : ℕ
  sr : SrInstance
  socket : Socket

/-- The main loop of the router, which goes on while a call returns 1. A handler that does
not return ends it here. -/
def mainLoop (hosts : ℕ → Host) : ℕ → Turn → Except Pending Socket
  | 0, _ => .error .running
  | rounds + 1, turn => do
    let (acting, socket) ←
      srReadFromServerExpect turn.sr (hosts turn.calls) 0 turn.socket (rounds + 1)
    match acting.result with
    | .error _ => .ok socket
    | .ok (sr, ret) =>
      if ret = 1 then mainLoop hosts rounds ⟨turn.calls + 1, sr, socket⟩ else .ok socket

/-- A call of the main loop returns 1, and the loop makes the next one. -/
def GoesOn (hosts : ℕ → Host) (turn turn' : Turn) : Prop :=
  ∃ acting, Finishes (srReadFromServerExpect turn.sr (hosts turn.calls) 0 turn.socket)
      (acting, turn'.socket) ∧
    acting.Returns (turn'.sr, 1) ∧ turn'.calls = turn.calls + 1

/-- The main loop makes a call there. -/
def MakesCall (hosts : ℕ → Host) : Turn → Turn → Prop := Relation.ReflTransGen (GoesOn hosts)

/-! ## When the code does it -/

/-- The stream holds a length field. The guard refuses it, there is no memory for the
message, or the message is whole. -/
def HasMessage (host : Host) (stream : Bytes) : Prop :=
  4 ≤ stream.length ∧ (10000 < be32 (mLen.get stream) ∨ host.allocates = false ∨
    be32 (mLen.get stream) ≤ stream.length)

/-! ## One call -/

section Calls

variable {sr : SrInstance} {host : Host} {expected : ℕ} {socket : Socket}

/-- A length field that is refused leaves no message. -/
theorem receiveBody_refused {word : Vector UInt8 4}
    (refused : 10000 < be32 word ∨ host.allocates = false) :
    Finishes (receiveBody host word socket) (none, socket) := by
  refine finishes_of_forall fun rounds => ?_
  rw [receiveBody]
  by_cases large : 10000 < asInt (be32 word) ∨ asInt (be32 word) < 0
  · rw [dif_pos large]
  · rw [dif_neg large, if_pos (refused.resolve_left (mt (rejected_iff word).mpr large))]

/-- With less than a message on the way, the rest of it is never read. -/
theorem receiveBody_fails (unbroken : socket.Unbroken) {word : Vector UInt8 4}
    (memory : host.allocates) (small : be32 word ≤ 10000)
    (starved : socket.stream.length + 4 < be32 word) : Fails (receiveBody host word socket) := by
  have allocated : ¬ host.allocates = false := by simp [memory]
  refine fails_of_forall fun rounds => ?_
  obtain ⟨why, fails⟩ := receive_starves unbroken (.empty : Filling (be32 word - 4))
    (by simp only [Filling.empty, List.length_nil]; omega) rounds
  refine ⟨why, ?_⟩
  rw [receiveBody, dif_neg (not_rejected small), if_neg allocated, fails]
  rfl

/-- What the loops have read is gone from the stream. -/
theorem Socket.Passes.length {bytes : Bytes} {socket' : Socket}
    (passes : socket.Passes bytes socket') :
    socket.stream.length = bytes.length + socket'.stream.length := by
  rw [passes.stream, List.length_append]

/-- A call that there is a message for ends, takes bytes from the stream, and receives
nothing unless the message is whole. -/
theorem receiveMessage_of_hasMessage (unbroken : socket.Unbroken)
    (message : HasMessage host socket.stream) :
    ∃ received socket', Finishes (receiveMessage host socket) (received, socket') ∧
      socket'.stream.length < socket.stream.length ∧ socket'.Unbroken ∧
      (¬ WholeMessage socket.stream → received = none) := by
  obtain ⟨long, message⟩ := message
  obtain ⟨socket', reads, passes⟩ := receiveLength_finishes unbroken long
  have unbroken' := passes.unbroken unbroken
  have shorter := passes.length
  rw [List.length_take_of_le long] at shorter
  by_cases refused : 10000 < be32 (mLen.get socket.stream) ∨ host.allocates = false
  · exact ⟨none, socket', reads.bind (receiveBody_refused refused), by omega, unbroken',
      fun _ => rfl⟩
  · have whole := message.resolve_left fun large => refused (.inl large)
    rw [not_or] at refused
    have whole := whole.resolve_left refused.2
    obtain ⟨received, socket'', reads', -, passes'⟩ :=
      receiveBody_finishes (by simpa using refused.2) unbroken' (mLen.get socket.stream)
        (by omega) (by omega)
    have shorter' := passes'.length
    refine ⟨some received, socket'', reads.bind reads', by omega, passes'.unbroken unbroken',
      fun cut => absurd ⟨long, whole⟩ cut⟩

/-- A call that there is no message for never ends. -/
theorem receiveMessage_fails (unbroken : socket.Unbroken)
    (cut : ¬ HasMessage host socket.stream) : Fails (receiveMessage host socket) := by
  by_cases long : 4 ≤ socket.stream.length
  · obtain ⟨socket', reads, passes⟩ := receiveLength_finishes unbroken long
    have shorter := passes.length
    rw [List.length_take_of_le long] at shorter
    have partial' : ¬ (10000 < be32 (mLen.get socket.stream) ∨ host.allocates = false ∨
        be32 (mLen.get socket.stream) ≤ socket.stream.length) := fun message => cut ⟨long, message⟩
    simp only [not_or] at partial'
    obtain ⟨small, memory, starved⟩ := partial'
    refine reads.bind_fails (receiveBody_fails (passes.unbroken unbroken) ?_ ?_ ?_)
    · simpa using memory
    · omega
    · omega
  · exact fails_of_forall (receiveMessage_starves unbroken (Nat.lt_of_not_le long))

/-- So the function ends there, and with -1 if the message is not whole. -/
theorem srReadFromServerExpect_of_hasMessage (unbroken : socket.Unbroken)
    (message : HasMessage host socket.stream) (sr : SrInstance) (expected : ℕ) :
    ∃ acting socket', Finishes (srReadFromServerExpect sr host expected socket) (acting, socket') ∧
      socket'.stream.length < socket.stream.length ∧ socket'.Unbroken ∧
      (¬ WholeMessage socket.stream → acting.Returns (sr, -1)) := by
  obtain ⟨received, socket', receives, shorter, unbroken', nothing⟩ :=
    receiveMessage_of_hasMessage unbroken message
  refine ⟨_, socket', receives.bind (finishes_of_eq rfl), shorter, unbroken', fun cut => ?_⟩
  rw [nothing cut]
  rfl

theorem hasMessage_of_finishes (unbroken : socket.Unbroken)
    {end' : Acting (SrInstance × ℤ) × Socket}
    (finishes : Finishes (srReadFromServerExpect sr host expected socket) end') :
    HasMessage host socket.stream := by
  by_contra cut
  exact ((receiveMessage_fails unbroken cut).bind _).not_finishes _ finishes

/-- A call ends as it should if and only if there is a message for it. -/
theorem callEnds_iff (unbroken : socket.Unbroken) :
    CallEnds sr host expected socket ↔ HasMessage host socket.stream := by
  constructor
  · rintro ⟨acting, socket', finishes, -⟩
    exact hasMessage_of_finishes unbroken finishes
  · intro message
    obtain ⟨acting, socket', finishes, -, -, returns⟩ :=
      srReadFromServerExpect_of_hasMessage unbroken message sr expected
    exact ⟨acting, socket', finishes, fun cut => ⟨sr, -1, returns cut, by decide⟩⟩

end Calls

/-! ## The main loop -/

section MainLoop

variable {hosts : ℕ → Host} {turn turn' : Turn}

/-- A call leaves the connection unbroken. -/
theorem GoesOn.unbroken (goes : GoesOn hosts turn turn') (unbroken : turn.socket.Unbroken) :
    turn'.socket.Unbroken := by
  obtain ⟨acting, finishes, -, -⟩ := goes
  obtain ⟨acting', socket', finishes', -, unbroken', -⟩ :=
    srReadFromServerExpect_of_hasMessage unbroken (hasMessage_of_finishes unbroken finishes)
      turn.sr 0
  cases finishes.unique finishes'
  exact unbroken'

/-- What the main loop does with what a call has returned. -/
def continueLoop (hosts : ℕ → Host) (calls rounds : ℕ) (acting : Acting (SrInstance × ℤ))
    (socket : Socket) : Except Pending Socket :=
  match acting.result with
  | .error _ => .ok socket
  | .ok (sr, ret) =>
    if ret = 1 then mainLoop hosts rounds ⟨calls + 1, sr, socket⟩ else .ok socket

/-- A call either ends the main loop or is followed by the next one. -/
theorem continueLoop_cases {acting : Acting (SrInstance × ℤ)} {socket : Socket}
    (finishes : Finishes (srReadFromServerExpect turn.sr (hosts turn.calls) 0 turn.socket)
      (acting, socket)) :
    (∀ rounds, continueLoop hosts turn.calls rounds acting socket = .ok socket) ∨
      ∃ turn', GoesOn hosts turn turn' ∧ turn'.socket = socket ∧
        ∀ rounds, continueLoop hosts turn.calls rounds acting socket =
          mainLoop hosts rounds turn' := by
  rcases returns : acting.result with why | ⟨sr, ret⟩
  · exact .inl fun rounds => by rw [continueLoop, returns]
  · by_cases one : ret = 1
    · subst one
      refine .inr ⟨⟨turn.calls + 1, sr, socket⟩, ⟨acting, finishes, returns, rfl⟩, rfl,
        fun rounds => ?_⟩
      rw [continueLoop, returns]
      exact if_pos rfl
    · refine .inl fun rounds => ?_
      rw [continueLoop, returns]
      exact if_neg one

/-- If every call has a message, the main loop ends: each call takes bytes from the stream. -/
theorem mainLoop_finishes (unbroken : turn.socket.Unbroken)
    (messages : ∀ turn', MakesCall hosts turn turn' →
      HasMessage (hosts turn'.calls) turn'.socket.stream) :
    ∃ socket, Finishes (fun rounds => mainLoop hosts rounds turn) socket := by
  induction size : turn.socket.stream.length using Nat.strong_induction_on generalizing turn with
  | _ size ih =>
    obtain ⟨acting, socket, finishes, shorter, unbroken', -⟩ :=
      srReadFromServerExpect_of_hasMessage unbroken (messages turn .refl) turn.sr 0
    rcases continueLoop_cases finishes with ends | ⟨turn', goes, rfl, continues⟩
    · exact ⟨socket, .of_succ (finishes.succ.bind (finishes_of_forall ends))⟩
    · obtain ⟨last, finishes'⟩ := ih turn'.socket.stream.length (size ▸ shorter) unbroken'
        (fun turn'' makes => messages turn'' (.head goes makes)) rfl
      refine ⟨last, .of_succ (finishes.succ.bind ?_)⟩
      change Finishes (fun rounds => continueLoop hosts turn.calls rounds acting turn'.socket) last
      simp only [continues]
      exact finishes'

/-- The main loop ends only if it does from each of its calls on. -/
theorem finishes_of_makesCall (makes : MakesCall hosts turn turn') {last : Socket}
    (finishes : Finishes (fun rounds => mainLoop hosts rounds turn) last) :
    Finishes (fun rounds => mainLoop hosts rounds turn') last := by
  induction makes with
  | refl => exact finishes
  | @tail turn' turn'' _ goes ih =>
    obtain ⟨acting, returned, returns, counted⟩ := goes
    have whole : Finishes (fun rounds =>
        srReadFromServerExpect turn'.sr (hosts turn'.calls) 0 turn'.socket (rounds + 1) >>=
          fun ended => continueLoop hosts turn'.calls rounds ended.1 ended.2) last := ih.succ
    have continued := Finishes.of_bind returned.succ whole
    have same : ∀ rounds, continueLoop hosts turn'.calls rounds acting turn''.socket =
        mainLoop hosts rounds turn'' := by
      intro rounds
      rw [continueLoop, returns, ← counted]
      exact if_pos rfl
    simpa only [same] using continued

theorem MakesCall.unbroken (makes : MakesCall hosts turn turn') (unbroken : turn.socket.Unbroken) :
    turn'.socket.Unbroken := by
  induction makes with
  | refl => exact unbroken
  | tail _ goes ih => exact goes.unbroken ih

/-- The main loop ends if and only if there is a message for each of its calls. -/
theorem mainLoop_ends_iff (unbroken : turn.socket.Unbroken) :
    (∃ last, Finishes (fun rounds => mainLoop hosts rounds turn) last) ↔
      ∀ turn', MakesCall hosts turn turn' →
        HasMessage (hosts turn'.calls) turn'.socket.stream := by
  refine ⟨?_, mainLoop_finishes unbroken⟩
  rintro ⟨last, finishes⟩ turn' makes
  by_contra cut
  have call : Fails (srReadFromServerExpect turn'.sr (hosts turn'.calls) 0 turn'.socket) :=
    (receiveMessage_fails (makes.unbroken unbroken) cut).bind _
  have stuck : Fails (fun rounds => mainLoop hosts (rounds + 1) turn') :=
    call.succ.bind fun rounds ended => continueLoop hosts turn'.calls rounds ended.1 ended.2
  exact stuck.not_finishes last (finishes_of_makesCall makes finishes).succ

/-- A call ends as it should if and only if there is a message for it, and the main loop
does if and only if there is one for each of its calls. -/
theorem closedConnection_ends_iff (hosts : ℕ → Host) (turn : Turn)
    (unbroken : turn.socket.Unbroken) :
    (∀ sr host expected, CallEnds sr host expected turn.socket ↔
      HasMessage host turn.socket.stream) ∧
    ((∃ last, Finishes (fun rounds => mainLoop hosts rounds turn) last) ↔
      ∀ turn', MakesCall hosts turn turn' →
        HasMessage (hosts turn'.calls) turn'.socket.stream) :=
  ⟨fun _ _ _ => callEnds_iff unbroken, mainLoop_ends_iff unbroken⟩

end MainLoop

/-- A close comes in pieces, and the connection is closed. -/
def closingSocket : Socket where
  stream := [0, 0, 0, 9, 0, 0, 0, 2, 0]
  arrivals := [.piece 2, .interrupted, .piece 0, .interrupted]
  closed := true

theorem closedConnection_ends_iff_closingSocket :
    CallEnds sampleInstance willingHost 0 closingSocket := by
  have unbroken : closingSocket.Unbroken := by
    unfold Socket.Unbroken
    decide
  have ends := closedConnection_ends_iff (fun _ => willingHost)
    ⟨0, sampleInstance, closingSocket⟩ unbroken
  exact (ends.1 sampleInstance willingHost 0).mpr ⟨by decide, by decide⟩

/-- The connection was closed behind a whole message. -/
def exhaustedSocket : Socket := ⟨[], [], true⟩

/-- The next call never ends, nor does the main loop. -/
theorem not_ends_exhaustedSocket : ¬ CallEnds sampleInstance willingHost 0 exhaustedSocket ∧
    ¬ ∃ last, Finishes (fun rounds =>
      mainLoop (fun _ => willingHost) rounds ⟨1, sampleInstance, exhaustedSocket⟩) last := by
  have unbroken : exhaustedSocket.Unbroken := List.not_mem_nil
  have none : ¬ HasMessage willingHost exhaustedSocket.stream := fun message =>
    absurd message.1 (by decide)
  constructor
  · rw [callEnds_iff unbroken]
    exact none
  · rw [mainLoop_ends_iff unbroken]
    exact fun messages => none (messages ⟨1, sampleInstance, exhaustedSocket⟩ .refl)

end SimpleRouter
