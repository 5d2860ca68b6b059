/-
# Reading messages from the stream

The first part of `sr_read_from_server_expect` reads a length and then the rest of a
message, each in a loop that asks for what is still missing. The connection answers in
pieces of any size, and signals interrupt the calls.

However the stream is cut and interrupted, repeated calls dispatch the messages of the
stream in order, each with exactly its own bytes.
-/

import SimpleRouter.Library.Rounds
import SimpleRouter.ServerMessages

namespace SimpleRouter

open Buffers Effects Rounds

/-! ## The connection -/

/-- What the next call of `recv` or `read` meets. -/
inductive Arrival
  /-- A signal: the call returns -1, and `errno` is `EINTR`. -/
  | interrupted
  /-- Another error. -/
  | failed
  /-- At most `more + 1` bytes are there. -/
  | piece (more : ℕ)
  deriving DecidableEq

/-- The bytes that the server has yet to send, what the next calls meet, and whether the
server closes the connection behind the last byte. A call that meets nothing listed gets
all it asks for. -/
structure Socket where
  stream : Bytes
  arrivals : List Arrival
  closed : Bool

/-- Why a call has not returned. -/
inductive Pending
  /-- The rounds granted to a loop are used up. -/
  | running
  /-- It waits for bytes. -/
  | blocked
  deriving DecidableEq

/-- The bytes that have come into a buffer of size `n`. -/
structure Filling (n : ℕ) where
  bytes : Bytes
  within : bytes.length ≤ n

/-- What `recv` and `read` return. -/
inductive Reply (n : ℕ)
  | interrupted
  | failed
  | got (bytes : Filling n)

namespace Filling

variable {n : ℕ}

def empty : Filling n := ⟨[], Nat.zero_le n⟩

/-- The bytes that come next are put behind the ones that are there. -/
def append (filling : Filling n) (got : Filling (n - filling.bytes.length)) : Filling n where
  bytes := filling.bytes ++ got.bytes
  within := by
    have := filling.within
    have := got.within
    rw [List.length_append]
    omega

/-- A buffer that is not short of any byte. -/
def full (filling : Filling n) (notShort : ¬ filling.bytes.length < n) : Vector UInt8 n :=
  ⟨filling.bytes.toArray, by
    have := filling.within
    rw [List.size_toArray]
    omega⟩

end Filling

/-- At most `size` bytes arrive for a call that asks for `n`. At the end of a closed
stream it gets none. -/
def Socket.deliver (socket : Socket) (n : ℕ) (arrivals : List Arrival) (size : ℕ) :
    Except Pending (Reply n × Socket) :=
  if socket.stream = [] ∧ socket.closed = false then .error .blocked
  else
    let bytes := socket.stream.take (min size n)
    .ok (.got ⟨bytes, (List.length_take_le _ _).trans (Nat.min_le_right _ _)⟩,
      ⟨socket.stream.drop bytes.length, arrivals, socket.closed⟩)

/-- `recv` and `read` for `n` bytes. -/
def recv (socket : Socket) (n : ℕ) : Except Pending (Reply n × Socket) :=
  match socket.arrivals with
  | [] => socket.deliver n [] n
  | .interrupted :: later => .ok (.interrupted, { socket with arrivals := later })
  | .failed :: later => .ok (.failed, { socket with arrivals := later })
  | .piece more :: later => socket.deliver n later (more + 1)

/-! ## The loops -/

/-- The inner loop: the call is made again while `errno` is `EINTR`. -/
def recvAgain (n : ℕ) : ℕ → Socket → Except Pending (Option (Filling n) × Socket)
  | 0, _ => .error .running
  | rounds + 1, socket => do
    let (reply, socket) ← recv socket n
    match reply with
    -- `continue` goes on with the test of `errno`.
    | .interrupted => recvAgain n rounds socket
    | .failed => .ok (none, socket)
    -- `errno` was cleared before the call.
    | .got bytes => .ok (some bytes, socket)

/-- The outer loop: it reads until the buffer is full. -/
def receive (n : ℕ) : ℕ → Socket → Filling n → Except Pending (Option (Vector UInt8 n) × Socket)
  | rounds, socket, filling =>
    if short : filling.bytes.length < n then
      match rounds with
      | 0 => .error .running
      | rounds + 1 => do
        let (got, socket) ← recvAgain (n - filling.bytes.length) (rounds + 1) socket
        match got with
        | none => .ok (none, socket)
        | some got => receive n rounds socket (filling.append got)
    else .ok (some (filling.full short), socket)

/-- The `int` with the bits of a `uint32_t`. -/
def asInt (n : ℕ) : ℤ := if n < 0x80000000 then n else n - 0x100000000

theorem be32_lt (v : Vector UInt8 4) : be32 v < 0x100000000 := by
  have := v[0].toNat_lt
  have := v[1].toNat_lt
  have := v[2].toNat_lt
  have := v[3].toNat_lt
  rw [be32]
  omega

/-- The guard lets lengths up to 10000 through. -/
theorem rejected_iff (v : Vector UInt8 4) :
    10000 < asInt (be32 v) ∨ asInt (be32 v) < 0 ↔ 10000 < be32 v := by
  have := be32_lt v
  rw [asInt]
  split_ifs <;> omega

theorem not_rejected {v : Vector UInt8 4} (small : be32 v ≤ 10000) :
    ¬ (10000 < asInt (be32 v) ∨ asInt (be32 v) < 0) :=
  mt (rejected_iff v).mp (Nat.not_lt_of_le small)

/-- From the guard on: the message, or none if the function returns -1 without one. -/
def receiveBody (host : Host) (word : Vector UInt8 4) (socket : Socket) (rounds : ℕ) :
    Except Pending (Option Received × Socket) :=
  -- `if ( len > 10000 || len < 0 )`
  if rejected : 10000 < asInt (be32 word) ∨ asInt (be32 word) < 0 then .ok (none, socket)
  else if host.allocates = false then .ok (none, socket)
  else do
    let (body, socket) ← receive (be32 word - 4) rounds socket .empty
    match body with
    | none => .ok (none, socket)
    | some body =>
      .ok (some ⟨be32 word, body.toList, Nat.le_of_not_lt (mt (rejected_iff word).mpr rejected),
        Vector.length_toList⟩, socket)

/-- The first part of `sr_read_from_server_expect`, up to the command. -/
def receiveMessage (host : Host) (socket : Socket) (rounds : ℕ) :
    Except Pending (Option Received × Socket) := do
  let (word, socket) ← receive 4 rounds socket .empty
  match word with
  | none => .ok (none, socket)
  | some word => receiveBody host word socket rounds

/-- `sr_read_from_server_expect`. -/
def srReadFromServerExpect (sr : SrInstance) (host : Host) (expected : ℕ) (socket : Socket)
    (rounds : ℕ) : Except Pending (Acting (SrInstance × ℤ) × Socket) := do
  let (message, socket) ← receiveMessage host socket rounds
  .ok (match message with
    | none => pure (sr, -1)
    | some received => actOnMessage sr host expected received, socket)

/-- What repeated calls with no expected command dispatch. -/
def dispatches (host : Host) : ℕ → Socket → ℕ → Except Pending (List (ℕ × Bytes) × Socket)
  | 0, socket, _ => .ok ([], socket)
  | calls + 1, socket, rounds => do
    let (message, socket) ← receiveMessage host socket rounds
    let (later, socket) ← dispatches host calls socket rounds
    .ok ((message.bind (Received.dispatch 0)).toList ++ later, socket)

/-! ## What the loops read -/

/-- No call fails for another reason than a signal. -/
def Socket.Unbroken (socket : Socket) : Prop := .failed ∉ socket.arrivals

section Loops

variable {n : ℕ} {socket : Socket}

/-- Part of the stream has come into the buffer, and the rest is still on the way. -/
structure Socket.Passes (socket : Socket) (bytes : Bytes) (socket' : Socket) : Prop where
  stream : socket.stream = bytes ++ socket'.stream
  closed : socket'.closed = socket.closed
  unbroken : socket.Unbroken → socket'.Unbroken

theorem Socket.Passes.trans {bytes bytes' : Bytes} {socket' socket'' : Socket}
    (first : socket.Passes bytes socket') (second : socket'.Passes bytes' socket'') :
    socket.Passes (bytes ++ bytes') socket'' where
  stream := by rw [first.stream, second.stream, List.append_assoc]
  closed := second.closed.trans first.closed
  unbroken := second.unbroken ∘ first.unbroken

/-- A delivery waits at the end of an open stream, and else takes the first bytes. With
bytes on the way it takes at least one. -/
theorem deliver_cases (socket : Socket) (n : ℕ) {later : List Arrival}
    (within : later ⊆ socket.arrivals) (size : ℕ) :
    (socket.stream = [] ∧ socket.deliver n later size = .error .blocked) ∨
      ∃ (got : Filling n) (socket' : Socket),
        socket.deliver n later size = .ok (.got got, socket') ∧
          socket.Passes got.bytes socket' ∧
          (0 < size → 0 < n → socket.stream ≠ [] → 0 < got.bytes.length) := by
  by_cases waits : socket.stream = [] ∧ socket.closed = false
  · exact .inl ⟨waits.1, if_pos waits⟩
  · refine .inr ⟨_, _, if_neg waits, ⟨?_, rfl, fun unbroken listed => unbroken (within listed)⟩,
      fun positive asks more => ?_⟩
    · have cut := List.take_append_drop (socket.stream.take (min size n)).length socket.stream
      rw [← List.prefix_iff_eq_take.mp (List.take_prefix _ _)] at cut
      exact cut.symm
    · have := List.length_pos_iff.mpr more
      rw [List.length_take]
      omega

/-- A round of the inner loop that is not interrupted ends it with a delivery. -/
theorem recvAgain_deliver {rounds size : ℕ} {later : List Arrival} {got : Filling n}
    {socket' : Socket} (meets : recv socket n = socket.deliver n later size)
    (delivers : socket.deliver n later size = .ok (.got got, socket')) :
    recvAgain n (rounds + 1) socket = .ok (some got, socket') := by
  rw [recvAgain, meets, delivers]
  rfl

/-- The next call is interrupted, or what it meets is delivered. -/
theorem recv_cases (unbroken : socket.Unbroken) (n : ℕ) :
    (∃ later, socket.arrivals = .interrupted :: later ∧
        recv socket n = .ok (.interrupted, { socket with arrivals := later })) ∨
      ∃ later size, later ⊆ socket.arrivals ∧ (0 < n → 0 < size) ∧
        recv socket n = socket.deliver n later size := by
  obtain ⟨stream, arrivals, closed⟩ := socket
  cases arrivals with
  | nil => exact .inr ⟨[], n, List.Subset.refl _, id, rfl⟩
  | cons arrival later =>
    cases arrival with
    | interrupted => exact .inl ⟨later, rfl, rfl⟩
    | failed => exact absurd List.mem_cons_self unbroken
    | piece more =>
      exact .inr ⟨later, more + 1, List.subset_cons_self _ _, fun _ => Nat.succ_pos _, rfl⟩

theorem passes_interrupted {later : List Arrival}
    (meets : socket.arrivals = .interrupted :: later) :
    socket.Passes [] { socket with arrivals := later } where
  stream := rfl
  closed := rfl
  unbroken := fun unbroken listed => unbroken (meets ▸ List.mem_cons_of_mem _ listed)

/-- The inner loop fails or hands over the next bytes. -/
theorem recvAgain_cases (unbroken : socket.Unbroken) (n rounds : ℕ) :
    (∃ why, recvAgain n rounds socket = .error why) ∨
      ∃ (got : Filling n) (socket' : Socket),
        recvAgain n rounds socket = .ok (some got, socket') ∧ socket.Passes got.bytes socket' := by
  induction rounds generalizing socket with
  | zero => exact .inl ⟨.running, rfl⟩
  | succ rounds ih =>
    rcases recv_cases unbroken n with ⟨later, meets, interrupts⟩ | ⟨later, size, within, -, meets⟩
    · have passes := passes_interrupted meets
      have again : recvAgain n (rounds + 1) socket =
          recvAgain n rounds { socket with arrivals := later } := by
        rw [recvAgain, interrupts]
        rfl
      rw [again]
      refine (ih (passes.unbroken unbroken)).imp id ?_
      rintro ⟨got, socket', hands, passes'⟩
      exact ⟨got, socket', hands, passes.trans passes'⟩
    · rcases deliver_cases socket n within size with
        ⟨-, waits⟩ | ⟨got, socket', delivers, passes, -⟩
      · refine .inl ⟨.blocked, ?_⟩
        rw [recvAgain, meets, waits]
        rfl
      · exact .inr ⟨got, socket', recvAgain_deliver meets delivers, passes⟩

/-- With bytes on the way the inner loop ends, and some of them have come. -/
theorem recvAgain_finishes (unbroken : socket.Unbroken) (asks : 0 < n)
    (more : socket.stream ≠ []) :
    ∃ (got : Filling n) (socket' : Socket),
      Finishes (fun rounds => recvAgain n rounds socket) (some got, socket') ∧
        socket.Passes got.bytes socket' ∧ 0 < got.bytes.length := by
  -- Every interruption uses up one of the arrivals that are listed.
  induction count : socket.arrivals.length using Nat.strong_induction_on generalizing socket with
  | _ calls ih =>
    rcases recv_cases unbroken n with
      ⟨later, meets, interrupts⟩ | ⟨later, size, within, positive, meets⟩
    · have passes := passes_interrupted meets
      have fewer : later.length < calls := by
        rw [← count, meets]
        exact Nat.lt_succ_self _
      obtain ⟨got, socket', finishes, passes', some⟩ :=
        ih later.length fewer (passes.unbroken unbroken) more rfl
      refine ⟨got, socket', .of_succ ?_, passes.trans passes', some⟩
      simp only [recvAgain, interrupts]
      exact finishes
    · rcases deliver_cases socket n within size with
        ⟨none, -⟩ | ⟨got, socket', delivers, passes, some⟩
      · exact absurd none more
      · refine ⟨got, socket', .of_succ (finishes_of_forall fun _ => ?_), passes,
          some (positive asks) asks more⟩
        exact recvAgain_deliver meets delivers

theorem receive_of_full {filling : Filling n} (notShort : ¬ filling.bytes.length < n)
    (rounds : ℕ) :
    receive n rounds socket filling = .ok (some (filling.full notShort), socket) := by
  cases rounds <;> rw [receive, dif_neg notShort]

/-- With enough bytes on the way the buffer is filled with the next of them. -/
theorem receive_finishes (unbroken : socket.Unbroken) (filling : Filling n)
    (enough : n ≤ filling.bytes.length + socket.stream.length) :
    ∃ (buf : Vector UInt8 n) (bytes : Bytes) (socket' : Socket),
      Finishes (fun rounds => receive n rounds socket filling) (some buf, socket') ∧
        socket.Passes bytes socket' ∧ buf.toList = filling.bytes ++ bytes := by
  -- Every round brings the buffer nearer to its end.
  induction missing : n - filling.bytes.length using Nat.strong_induction_on
    generalizing socket filling with
  | _ missing ih =>
    by_cases short : filling.bytes.length < n
    · have more : socket.stream ≠ [] := by
        intro none
        rw [none, List.length_nil] at enough
        omega
      obtain ⟨got, socket', hands, passes, some⟩ :=
        recvAgain_finishes unbroken (Nat.sub_pos_of_lt short) more
      have grown : (filling.append got).bytes.length = filling.bytes.length + got.bytes.length :=
        List.length_append
      have split : socket.stream.length = got.bytes.length + socket'.stream.length := by
        rw [passes.stream, List.length_append]
      obtain ⟨buf, bytes, socket'', finishes, passes', filled⟩ :=
        ih _ (by omega) (passes.unbroken unbroken) (filling.append got) (by omega) rfl
      refine ⟨buf, got.bytes ++ bytes, socket'', .of_succ ?_, passes.trans passes', ?_⟩
      · simp only [receive, short, dite_true]
        exact hands.succ.bind finishes
      · rw [filled]
        exact List.append_assoc _ _ _
    · refine ⟨filling.full short, [], socket, finishes_of_forall (receive_of_full short),
        ⟨rfl, rfl, id⟩, ?_⟩
      rw [List.append_nil]
      rfl

/-- With too few bytes on the way the buffer is never full. -/
theorem receive_starves (unbroken : socket.Unbroken) (filling : Filling n)
    (starved : filling.bytes.length + socket.stream.length < n) (rounds : ℕ) :
    ∃ why, receive n rounds socket filling = .error why := by
  induction rounds generalizing socket filling with
  | zero =>
    have short : filling.bytes.length < n := by omega
    exact ⟨.running, dif_pos short⟩
  | succ rounds ih =>
    have short : filling.bytes.length < n := by omega
    rw [receive, dif_pos short]
    rcases recvAgain_cases unbroken (n - filling.bytes.length) (rounds + 1) with
      ⟨why, fails⟩ | ⟨got, socket', hands, passes⟩
    · exact ⟨why, by rw [fails]; rfl⟩
    · rw [hands]
      -- What has come and what is still to come are as many bytes as before.
      refine ih (passes.unbroken unbroken) (filling.append got) ?_
      rw [passes.stream, List.length_append] at starved
      change (filling.bytes ++ got.bytes).length + _ < n
      rw [List.length_append]
      omega

/-- Once the inner loop has returned, more rounds change nothing. -/
theorem recvAgain_steady (n : ℕ) (socket : Socket) :
    Steady (fun rounds => recvAgain n rounds socket) := by
  intro rounds
  induction rounds generalizing socket with
  | zero =>
    intro _ returns
    cases returns
  | succ rounds ih =>
    intro b returns
    dsimp only at returns ⊢
    rw [recvAgain] at returns ⊢
    cases meets : recv socket n with
    | error why =>
      rw [meets] at returns
      cases returns
    | ok got =>
      rw [meets] at returns
      obtain ⟨reply, socket'⟩ := got
      cases reply with
      | interrupted => exact ih socket' b returns
      | failed => exact returns
      | got bytes => exact returns

/-- Nor do they once the outer loop has. -/
theorem receive_steady (socket : Socket) (filling : Filling n) :
    Steady (fun rounds => receive n rounds socket filling) := by
  intro rounds
  induction rounds generalizing socket filling with
  | zero =>
    intro b returns
    by_cases short : filling.bytes.length < n
    · cases (dif_pos short).symm.trans returns
    · dsimp only at returns ⊢
      rw [receive_of_full short] at returns ⊢
      exact returns
  | succ rounds ih =>
    intro b returns
    dsimp only at returns ⊢
    by_cases short : filling.bytes.length < n
    · rw [receive, dif_pos short] at returns ⊢
      cases part : recvAgain (n - filling.bytes.length) (rounds + 1) socket with
      | error why =>
        rw [part] at returns
        cases returns
      | ok got =>
        have again : recvAgain (n - filling.bytes.length) (rounds + 1 + 1) socket = .ok got :=
          recvAgain_steady _ socket (rounds + 1) got part
        rw [part] at returns
        rw [again]
        obtain ⟨got | got, socket'⟩ := got
        · exact returns
        · exact ih socket' (filling.append got) b returns
    · rw [receive_of_full short] at returns ⊢
      exact returns

end Loops

/-! ## Messages in the stream -/

/-- A message as the server sends it: the length field counts all of its bytes and is
between 8 and 10000. -/
structure IsMessage (m : Bytes) : Prop where
  atLeast : baseSize ≤ m.length
  atMost : m.length ≤ 10000
  declared : be32 (mLen.get m) = m.length

/-- The command and the bytes of a message. -/
def dispatched (m : Bytes) : ℕ × Bytes := (be32 (mType.get m), m)

section Messages

variable {socket : Socket} {host : Host} {m rest : Bytes} {messages : List Bytes}

/-- The length that is stored in the buffer is the one that was received. -/
theorem be32Bytes_be32 (v : Vector UInt8 4) : be32Bytes (be32 v) = v := by
  have := v[0].toNat_lt
  have := v[1].toNat_lt
  have := v[2].toNat_lt
  have := v[3].toNat_lt
  ext i inside
  rcases i with _ | _ | _ | _ | i
  · simp [be32Bytes, be32]
    omega
  · simp [be32Bytes, be32]
    omega
  · simp [be32Bytes, be32]
    omega
  · simp [be32Bytes, be32]
  · omega

/-- What fills a buffer is the front of the stream. -/
theorem Socket.Passes.front {bytes : Bytes} {socket' : Socket}
    (passes : socket.Passes bytes socket')
    {front : Bytes} (carries : socket.stream = front ++ rest) (same : bytes.length = front.length) :
    bytes = front ∧ socket'.stream = rest :=
  List.append_inj (passes.stream.symm.trans carries) same

/-- With its body on the way, a message whose length passes the guard is received. -/
theorem receiveBody_finishes (memory : host.allocates) (unbroken : socket.Unbroken)
    (word : Vector UInt8 4) (small : be32 word ≤ 10000)
    (enough : be32 word ≤ socket.stream.length + 4) :
    ∃ (received : Received) (socket' : Socket),
      Finishes (receiveBody host word socket) (some received, socket') ∧
        received.len = be32 word ∧ socket.Passes received.body socket' := by
  have accepted := not_rejected small
  have allocated : ¬ host.allocates = false := by simp [memory]
  obtain ⟨body, bytes, socket', reads, passes, body_eq⟩ :=
    receive_finishes unbroken (.empty : Filling (be32 word - 4)) (by omega)
  refine ⟨⟨be32 word, body.toList, small, Vector.length_toList⟩, socket', ?_, rfl, ?_⟩
  · change Finishes (fun rounds => receiveBody host word socket rounds) _
    simp only [receiveBody, accepted, allocated, dite_false]
    exact reads.bind (finishes_of_eq rfl)
  · change socket.Passes body.toList socket'
    rw [body_eq]
    exact passes

/-- The length field is the first four bytes on the way. -/
theorem receiveLength_finishes (unbroken : socket.Unbroken) (long : 4 ≤ socket.stream.length) :
    ∃ socket' : Socket,
      Finishes (fun rounds => receive 4 rounds socket .empty)
        (some (mLen.get socket.stream), socket') ∧
        socket.Passes (socket.stream.take 4) socket' := by
  obtain ⟨word, first, socket', reads, passes, word_eq⟩ :=
    receive_finishes unbroken (.empty : Filling 4) (Nat.le_trans long (Nat.le_add_left _ _))
  have firstLength : first.length = (socket.stream.take 4).length := by
    have counted := congrArg List.length word_eq
    simp [Filling.empty] at counted
    simp [long, ← counted]
  obtain ⟨rfl, -⟩ := passes.front (List.take_append_drop 4 socket.stream).symm firstLength
  have same : word = mLen.get socket.stream := by
    apply Vector.toList_inj.mp
    rw [word_eq, Span.toList_get (f := mLen) long]
    rfl
  exact ⟨socket', same ▸ reads, passes⟩

/-- A call that has returned returns the same with more rounds. -/
theorem srReadFromServerExpect_steady (sr : SrInstance) (host : Host) (expected : ℕ)
    (socket : Socket) : Steady (srReadFromServerExpect sr host expected socket) := by
  have body (word : Vector UInt8 4) (socket : Socket) : Steady (receiveBody host word socket) := by
    change Steady (fun rounds => receiveBody host word socket rounds)
    by_cases rejected : 10000 < asInt (be32 word) ∨ asInt (be32 word) < 0
    · simp only [receiveBody, rejected, dite_true]
      exact steady_of_forall
    by_cases memory : host.allocates = false
    · simp only [receiveBody, rejected, dite_false, memory, if_true]
      exact steady_of_forall
    · simp only [receiveBody, rejected, dite_false, memory]
      refine (receive_steady socket .empty).bind fun got => ?_
      obtain ⟨got | got, socket'⟩ := got <;> exact steady_of_forall
  have message : Steady (receiveMessage host socket) := by
    refine (receive_steady socket .empty).bind fun got => ?_
    obtain ⟨got | got, socket'⟩ := got
    · exact steady_of_forall
    · exact body got socket'
  exact message.bind fun got => steady_of_forall

/-- A message at the front of the stream is received, and nothing behind it is taken. -/
theorem receiveMessage_finishes (memory : host.allocates) (unbroken : socket.Unbroken)
    (message : IsMessage m) (carries : socket.stream = m ++ rest) :
    ∃ (received : Received) (socket' : Socket),
      Finishes (receiveMessage host socket) (some received, socket') ∧
        received.len = m.length ∧ received.buf = m ∧ socket'.stream = rest ∧ socket'.Unbroken := by
  have long : 4 ≤ m.length := Nat.le_trans (by decide) message.atLeast
  have small := message.atMost
  obtain ⟨socket', reads, passes⟩ := receiveLength_finishes unbroken
    (by rw [carries, List.length_append]; omega)
  have declared : mLen.get socket.stream = mLen.get m := by
    rw [carries, Span.get_append_left (f := mLen) long]
  have cut : socket.stream = m.take 4 ++ (m.drop 4 ++ rest) := by
    rw [← List.append_assoc, List.take_append_drop, carries]
  obtain ⟨-, behind⟩ := passes.front cut (by simp [carries]; omega)
  obtain ⟨received, socket'', reads', length, passes'⟩ :=
    receiveBody_finishes memory (passes.unbroken unbroken) (mLen.get socket.stream)
      (by rw [declared, message.declared]; exact small)
      (by rw [declared, message.declared, behind, List.length_append, List.length_drop]; omega)
  rw [declared, message.declared] at length
  have bodyLength : received.body.length = (m.drop 4).length := by
    rw [received.complete, length, List.length_drop]
  obtain ⟨body, left⟩ := passes'.front behind bodyLength
  refine ⟨received, socket'', reads.bind reads', length, ?_, left,
    passes'.unbroken (passes.unbroken unbroken)⟩
  rw [Received.buf, length, ← message.declared, be32Bytes_be32, Span.toList_get (f := mLen) long,
    body]
  exact List.take_append_drop 4 m

/-- A call that a message is on the way for acts on that message. -/
theorem srReadFromServerExpect_finishes (memory : host.allocates) (unbroken : socket.Unbroken)
    (message : IsMessage m) (carries : socket.stream = m ++ rest) (sr : SrInstance)
    (expected : ℕ) :
    ∃ socket' : Socket, Finishes (srReadFromServerExpect sr host expected socket)
        (if Unexpected expected (be32 (mType.get m)) then pure (sr, -1)
        else switchCommand sr host (mType.set (mType.get m).reverse m) m.length
          (be32 (mType.get m)), socket') ∧
      socket'.stream = rest ∧ socket'.Unbroken := by
  obtain ⟨received, socket', receives, length, whole, left, unbroken'⟩ :=
    receiveMessage_finishes memory unbroken message carries
  refine ⟨socket', receives.bind (finishes_of_eq ?_), left, unbroken'⟩
  have acts : actOnMessage sr host expected received = _ :=
    actOnMessage_eq (length ▸ message.atLeast)
  rw [Received.dispatch, Received.command, whole] at acts
  change Except.ok (actOnMessage sr host expected received, socket') = _
  rw [acts]
  split_ifs <;> rfl

/-- As many calls as there are messages dispatch these, in order. -/
theorem dispatches_finishes (memory : host.allocates) (unbroken : socket.Unbroken)
    (framed : ∀ m ∈ messages, IsMessage m) (carries : socket.stream = messages.flatten ++ rest) :
    ∃ socket' : Socket,
      Finishes (dispatches host messages.length socket) (messages.map dispatched, socket') ∧
        socket'.stream = rest ∧ socket'.Unbroken := by
  induction messages generalizing socket with
  | nil => exact ⟨socket, finishes_of_eq rfl, carries, unbroken⟩
  | cons m later ih =>
    rw [List.flatten_cons, List.append_assoc] at carries
    obtain ⟨received, socket', receives, -, whole, left, unbroken'⟩ :=
      receiveMessage_finishes memory unbroken (framed m List.mem_cons_self) carries
    obtain ⟨socket'', dispatch, left', unbroken''⟩ :=
      ih unbroken' (fun m' listed => framed m' (List.mem_cons_of_mem _ listed)) left
    refine ⟨socket'', receives.bind (dispatch.bind (finishes_of_eq ?_)), left', unbroken''⟩
    have here : received.dispatch 0 = some (dispatched m) := by
      rw [Received.dispatch, if_neg (fun unexpected => unexpected.1 rfl), Received.command, whole]
      rfl
    change Except.ok (((some received).bind (Received.dispatch 0)).toList ++ _, _) = _
    rw [Option.bind_some, here]
    rfl

/-- Without bytes on the way no call receives a message. -/
theorem receiveMessage_starves (unbroken : socket.Unbroken) (starved : socket.stream.length < 4)
    (rounds : ℕ) : ∃ why, receiveMessage host socket rounds = .error why := by
  obtain ⟨why, fails⟩ := receive_starves unbroken (.empty : Filling 4)
    (by simpa [Filling.empty] using starved) rounds
  exact ⟨why, by rw [receiveMessage, fails]; rfl⟩

/-- However the stream is cut into pieces and interrupted, repeated calls dispatch the
messages of the stream in order, each with its own bytes, and one more call dispatches
nothing. -/
theorem framing_independent (memory : host.allocates) (unbroken : socket.Unbroken)
    (framed : ∀ m ∈ messages, IsMessage m) (carries : socket.stream = messages.flatten) :
    (∀ calls ≤ messages.length, ∃ socket' : Socket,
      Finishes (dispatches host calls socket) ((messages.take calls).map dispatched, socket') ∧
        socket'.stream = (messages.drop calls).flatten) ∧
      ∀ socket' log, Finishes (dispatches host messages.length socket) (log, socket') →
        ∀ rounds, ∃ why, receiveMessage host socket' rounds = .error why := by
  constructor
  · intro calls within
    have front : ∀ m ∈ messages.take calls, IsMessage m := fun m listed =>
      framed m (List.mem_of_mem_take listed)
    have split : socket.stream =
      (messages.take calls).flatten ++ (messages.drop calls).flatten := by
      rw [← List.flatten_append, List.take_append_drop, carries]
    obtain ⟨socket', finishes, left, -⟩ := dispatches_finishes memory unbroken front split
    rw [List.length_take_of_le within] at finishes
    exact ⟨socket', finishes, left⟩
  · intro socket' log finishes
    obtain ⟨socket'', finishes', left, unbroken'⟩ :=
      dispatches_finishes memory unbroken framed (carries.trans (List.append_nil _).symm)
    cases finishes.unique finishes'
    exact receiveMessage_starves unbroken' (by rw [left]; decide)

end Messages

/-- A banner and a close, cut within a length field and within a command. -/
def choppedSocket : Socket where
  stream := [0, 0, 0, 8, 0, 0, 0, 8, 0, 0, 0, 8, 0, 0, 0, 2]
  arrivals := [.interrupted, .piece 1, .interrupted, .interrupted, .piece 3, .piece 7]
  closed := false

theorem framing_independent_choppedSocket :
    ∃ socket' : Socket, Finishes (dispatches willingHost 2 choppedSocket)
        ([(vnsBanner, [0, 0, 0, 8, 0, 0, 0, 8]), (vnsClose, [0, 0, 0, 8, 0, 0, 0, 2])], socket') ∧
      socket'.stream = [] := by
  have framed : ∀ m ∈ [[0, 0, 0, 8, 0, 0, 0, 8], [0, 0, 0, 8, 0, 0, 0, 2]], IsMessage m := by
    intro m listed
    simp only [List.mem_cons, List.not_mem_nil, or_false] at listed
    rcases listed with rfl | rfl
    · exact ⟨by decide, by decide, by decide⟩
    · exact ⟨by decide, by decide, by decide⟩
  have memory : willingHost.allocates := rfl
  have unbroken : choppedSocket.Unbroken := by
    unfold Socket.Unbroken
    decide
  have carries : choppedSocket.stream =
      [[0, 0, 0, 8, 0, 0, 0, 8], [0, 0, 0, 8, 0, 0, 0, 2]].flatten := rfl
  exact (framing_independent memory unbroken framed carries).1 2 (by decide)

end SimpleRouter
