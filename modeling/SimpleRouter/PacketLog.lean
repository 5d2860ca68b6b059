/-
# The packet log

If it is told to, the router writes the packets that come in and go out to a capture file, with
up to 1024 bytes of each. The file should tell of every packet what was captured of it and how
long it was.

The file is one of the pcap format, and its records are the packets in their order. But
`sr_log_packet` stores the captured length a second time where the length of the packet should
be, so a packet of more than 1024 bytes is logged as one of 1024.
-/

import SimpleRouter.Library.Savefile
import SimpleRouter.MessageBounds

namespace SimpleRouter

open Buffers Effects Savefile

/-! ## The functions -/

/-- Code that writes to a file with `fwrite`. -/
abbrev Writing := Outcome Bytes MessageStop

def tcpdumpMagic : ℕ := 0xa1b2c3d4
def pcapVersionMajor : ℕ := 2
def pcapVersionMinor : ℕ := 4
def linktypeEthernet : ℤ := 1

/-- `struct timeval`. -/
structure Timeval where
  tvSec : ℤ
  tvUsec : ℤ

/-- `struct pcap_pkthdr`. -/
structure PcapPkthdr where
  ts : Timeval
  caplen : UInt32
  len : UInt32

/-- The file that `sr_dump_open` returns. -/
inductive DumpFile
  | stdout
  | named (fname : Bytes)

section Dumper

variable (order : ByteOrder)

/-- `sf_write_header`. -/
def sfWriteHeader (linktype thiszone snaplen : ℤ) : Writing Unit :=
  .emit (order.bytes 4 tcpdumpMagic ++ order.bytes 2 pcapVersionMajor ++
    order.bytes 2 pcapVersionMinor ++ order.bytes 4 (UInt32.ofInt thiszone).toNat ++
    order.bytes 4 0 ++ order.bytes 4 (UInt32.ofInt snaplen).toNat ++
    order.bytes 4 (UInt32.ofInt linktype).toNat)

/-- `sr_dump_open`, where `fopen` can open some files. The name `"-"` is that of the standard
output. -/
def srDumpOpen (fopen : Bytes → Bool) (fname : Bytes) (thiszone snaplen : ℤ) :
    Writing (Option DumpFile) :=
  if fname = [45] then do
    sfWriteHeader order linktypeEthernet thiszone snaplen
    pure (some .stdout)
  else if fopen fname then do
    sfWriteHeader order linktypeEthernet thiszone snaplen
    pure (some (.named fname))
  else pure none

/-- `sr_dump`. The packet is read up to `caplen`. -/
def srDump (h : PcapPkthdr) (sp : Bytes) : Writing Unit := do
  .emit (order.bytes 4 (UInt32.ofInt h.ts.tvSec).toNat ++
    order.bytes 4 (UInt32.ofInt h.ts.tvUsec).toNat ++ order.bytes 4 h.caplen.toNat ++
    order.bytes 4 h.len.toNat)
  if h.caplen.toNat ≤ sp.length then .emit (sp.take h.caplen.toNat) else .stop .overread

/-- `sr_log_packet`, at the time `ts`. -/
def VnsComm.srLogPacket (logfile : Option DumpFile) (ts : Timeval) (buf : Bytes) (len : ℤ) :
    Writing Unit :=
  match logfile with
  | none => pure ()
  | some _ =>
    let size : ℤ := min packetDumpSize len
    srDump order
      { ts
        caplen := .ofInt size
        len := .ofInt (if size < packetDumpSize then size else packetDumpSize) } buf

end Dumper

/-- A call of `sr_log_packet`: a packet of `len` bytes at the front of a buffer. -/
structure LogCall where
  ts : Timeval
  buf : Bytes
  len : ℕ
  inside : len ≤ buf.length
  -- The length is an `int`.
  small : len < 0x80000000

/-- The calls after each other. -/
def logPackets (order : ByteOrder) (logfile : Option DumpFile) : List LogCall → Writing Unit
  | [] => pure ()
  | call :: rest => do
    VnsComm.srLogPacket order logfile call.ts call.buf call.len
    logPackets order logfile rest

/-- The log is opened, and packets are logged. -/
def packetLog (order : ByteOrder) (fopen : Bytes → Bool) (fname : Bytes) (thiszone snaplen : ℤ)
    (calls : List LogCall) : Writing Unit := do
  let logfile ← srDumpOpen order fopen fname thiszone snaplen
  logPackets order logfile calls

/-! ## What is asked of the code -/

/-- The first 1024 bytes of a packet, or all of it. -/
def LogCall.captured (call : LogCall) : Bytes := call.buf.take (min packetDumpSize call.len)

/-- What was written is a capture file with a record for every packet, in their order, that has
what was captured and the length of the packet. -/
structure ReadsBack (log : Writing Unit) (calls : List LogCall) : Prop where
  returns : log.Returns ()
  decodes : ∃ header records, readFile log.sent.flatten = some (header, records) ∧
    records.map (fun record => (record.captured, record.len.toNat)) =
      calls.map fun call => (call.captured, call.len)

/-! ## What is written -/

/-- The code returns `a` and has written these bytes. -/
def Writes {α : Type} (x : Writing α) (written : Bytes) (a : α) : Prop :=
  x.Returns a ∧ x.sent.flatten = written

section Writes

variable {α β : Type} {order : ByteOrder}

theorem writes_pure (a : α) : Writes (pure a) [] a := ⟨rfl, rfl⟩

theorem writes_emit (s : Bytes) : Writes (.emit s) s () := ⟨rfl, List.append_nil s⟩

theorem Writes.bind {x : Writing α} {f : α → Writing β} {s t : Bytes} {a : α} {b : β}
    (first : Writes x s a) (second : Writes (f a) t b) : Writes (x >>= f) (s ++ t) b := by
  obtain ⟨events, result⟩ := x
  obtain ⟨rfl, rfl⟩ := first
  refine ⟨Outcome.returns_bind.mpr ⟨a, rfl, second.1⟩, ?_⟩
  change (events ++ (f a).sent).flatten = _
  rw [List.flatten_append, second.2]

/-- The last step may write nothing more. -/
theorem Writes.bind_last {x : Writing α} {f : α → Writing β} {s : Bytes} {a : α} {b : β}
    (first : Writes x s a) (last : Writes (f a) [] b) : Writes (x >>= f) s b := by
  have both := first.bind last
  rwa [List.append_nil] at both

/-- The header of the file. -/
def dumpHeader (linktype thiszone snaplen : ℤ) : FileHeader where
  thiszone := .ofInt thiszone
  sigfigs := 0
  snaplen := .ofInt snaplen
  linktype := .ofInt linktype

theorem writes_sfWriteHeader (linktype thiszone snaplen : ℤ) :
    Writes (sfWriteHeader order linktype thiszone snaplen)
      ((dumpHeader linktype thiszone snaplen).write order) () := by
  rw [sfWriteHeader]
  simp only [List.append_assoc]
  exact writes_emit _

theorem writes_srDumpOpen {fopen : Bytes → Bool} {fname : Bytes} {thiszone snaplen : ℤ}
    {file : DumpFile}
    (opened : (srDumpOpen order fopen fname thiszone snaplen).Returns (some file)) :
    Writes (srDumpOpen order fopen fname thiszone snaplen)
      ((dumpHeader linktypeEthernet thiszone snaplen).write order) (some file) := by
  have header : Writes (sfWriteHeader order linktypeEthernet thiszone snaplen) _ () :=
    writes_sfWriteHeader linktypeEthernet thiszone snaplen
  rw [srDumpOpen] at opened ⊢
  split_ifs at opened ⊢
  · cases opened
    exact header.bind_last (writes_pure _)
  · cases opened
    exact header.bind_last (writes_pure _)
  · cases opened

/-- The record of a packet header and what is behind it. -/
def PcapPkthdr.record (h : PcapPkthdr) (sp : Bytes) : Record where
  tvSec := .ofInt h.ts.tvSec
  tvUsec := .ofInt h.ts.tvUsec
  len := h.len
  captured := sp.take h.caplen.toNat
  fits := (List.length_take_le _ _).trans_lt h.caplen.toNat_lt

theorem writes_srDump {h : PcapPkthdr} {sp : Bytes} (inside : h.caplen.toNat ≤ sp.length) :
    Writes (srDump order h sp) ((h.record sp).write order) () := by
  have caplen : (sp.take h.caplen.toNat).length = h.caplen.toNat :=
    List.length_take_of_le inside
  rw [srDump, if_pos inside]
  have split : (h.record sp).write order =
      (order.bytes 4 (UInt32.ofInt h.ts.tvSec).toNat ++
        order.bytes 4 (UInt32.ofInt h.ts.tvUsec).toNat ++ order.bytes 4 h.caplen.toNat ++
        order.bytes 4 h.len.toNat) ++ sp.take h.caplen.toNat := by
    simp only [Record.write, PcapPkthdr.record, caplen, List.append_assoc]
  rw [split]
  exact (writes_emit _).bind (writes_emit _)

end Writes

/-! ## A call, and calls after each other -/

namespace LogCall

variable {call : LogCall}

/-- The header of a call's record: it has the captured length, twice. -/
def header (call : LogCall) : PcapPkthdr where
  ts := call.ts
  caplen := .ofNat (min packetDumpSize call.len)
  len := .ofNat (min packetDumpSize call.len)

def record (call : LogCall) : Record := call.header.record call.buf

theorem toNat_size (call : LogCall) :
    (UInt32.ofNat (min packetDumpSize call.len)).toNat = min packetDumpSize call.len := by
  have small : min packetDumpSize call.len ≤ 1024 := Nat.min_le_left _ _
  exact UInt32.toNat_ofNat_of_lt' (small.trans_lt (by decide))

theorem captured_record (call : LogCall) : call.record.captured = call.captured :=
  congrArg call.buf.take call.toNat_size

theorem srLogPacket_eq (order : ByteOrder) (file : DumpFile) (call : LogCall) :
    VnsComm.srLogPacket order (some file) call.ts call.buf call.len =
      srDump order call.header call.buf := by
  have size : min (packetDumpSize : ℤ) call.len = (min packetDumpSize call.len : ℕ) := by omega
  have same : (if ((min packetDumpSize call.len : ℕ) : ℤ) < packetDumpSize then
      ((min packetDumpSize call.len : ℕ) : ℤ) else packetDumpSize) =
      (min packetDumpSize call.len : ℕ) := by
    split <;> omega
  have small : ((min packetDumpSize call.len : ℕ) : ℤ) < 2 ^ 32 :=
    Int.ofNat_lt.mpr ((Nat.min_le_left _ _).trans_lt (by decide : packetDumpSize < 2 ^ 32))
  have stored : UInt32.ofInt (min packetDumpSize call.len : ℕ) =
      .ofNat (min packetDumpSize call.len) := by
    rw [UInt32.ofInt, Int.emod_eq_of_lt (Int.natCast_nonneg _) small, Int.toNat_natCast]
  rw [VnsComm.srLogPacket]
  simp only [size, same, stored]
  rfl

theorem writes_srLogPacket (order : ByteOrder) (file : DumpFile) (call : LogCall) :
    Writes (VnsComm.srLogPacket order (some file) call.ts call.buf call.len)
      (call.record.write order) () := by
  rw [srLogPacket_eq]
  refine writes_srDump ?_
  change (UInt32.ofNat (min packetDumpSize call.len)).toNat ≤ _
  rw [toNat_size]
  exact (Nat.min_le_right _ _).trans call.inside

/-- What a message has the host log is what the record has as captured. -/
theorem srLogPacket_message {host : Host} (logs : host.logs = true) {buf : Bytes}
    (header : packetHeaderSize ≤ buf.length) (behind : call.buf = buf.drop packetHeaderSize) :
    srLogPacket host buf call.len = .returned [.logPacket call.record.captured] () := by
  have inside : packetHeaderSize + min packetDumpSize call.len ≤ buf.length := by
    have fits := call.inside
    rw [behind, List.length_drop] at fits
    omega
  rw [srLogPacket, if_pos logs, readBytes_of_le inside, pure_bind, captured_record, captured,
    behind]
  rfl

end LogCall

section Log

variable {order : ByteOrder} {file : DumpFile}

/-- Calls after each other write their records after each other. -/
theorem writes_logPackets (order : ByteOrder) (file : DumpFile) (calls : List LogCall) :
    Writes (logPackets order (some file) calls)
      ((calls.map LogCall.record).map (Record.write order)).flatten () := by
  induction calls with
  | nil => exact writes_pure ()
  | cons call rest ih => exact (call.writes_srLogPacket order file).bind ih

variable {fopen : Bytes → Bool} {fname : Bytes} {thiszone snaplen : ℤ}

/-- The log is a capture file of the records. -/
theorem writes_packetLog
    (opened : (srDumpOpen order fopen fname thiszone snaplen).Returns (some file))
    (calls : List LogCall) :
    Writes (packetLog order fopen fname thiszone snaplen calls)
      (writeFile order (dumpHeader linktypeEthernet thiszone snaplen)
        (calls.map LogCall.record)) () :=
  (writes_srDumpOpen opened).bind (writes_logPackets order file calls)

/-- It is read back as those. -/
theorem readFile_packetLog
    (opened : (srDumpOpen order fopen fname thiszone snaplen).Returns (some file))
    (calls : List LogCall) :
    readFile (packetLog order fopen fname thiszone snaplen calls).sent.flatten =
      some (dumpHeader linktypeEthernet thiszone snaplen, calls.map LogCall.record) := by
  rw [(writes_packetLog opened calls).2, readFile_writeFile]

/-- The records have what was captured and the lengths of the packets exactly if no packet is
longer than what is captured. -/
theorem records_eq_iff (calls : List LogCall) :
    ((calls.map LogCall.record).map fun record => (record.captured, record.len.toNat)) =
      (calls.map fun call => (call.captured, call.len)) ↔
        ∀ call ∈ calls, call.len ≤ packetDumpSize := by
  rw [List.map_map, List.map_inj_left]
  refine forall₂_congr fun call _ => ?_
  change (call.record.captured, call.header.len.toNat) = (call.captured, call.len) ↔ _
  rw [call.captured_record, Prod.mk_right_inj]
  change (UInt32.ofNat (min packetDumpSize call.len)).toNat = call.len ↔ _
  rw [call.toNat_size]
  omega

/-- If the log is as it should be, the records are. -/
theorem ReadsBack.records_eq
    (opened : (srDumpOpen order fopen fname thiszone snaplen).Returns (some file))
    {calls : List LogCall}
    (reads : ReadsBack (packetLog order fopen fname thiszone snaplen calls) calls) :
    ((calls.map LogCall.record).map fun record => (record.captured, record.len.toNat)) =
      calls.map fun call => (call.captured, call.len) := by
  obtain ⟨-, header, records, decoded, same⟩ := reads
  rw [readFile_packetLog opened calls] at decoded
  obtain ⟨-, rfl⟩ := Prod.mk.inj (Option.some.inj decoded)
  exact same

/-- The log can be read back exactly if no packet is longer than 1024 bytes. -/
theorem readsBack_packetLog_iff
    (opened : (srDumpOpen order fopen fname thiszone snaplen).Returns (some file))
    (calls : List LogCall) :
    ReadsBack (packetLog order fopen fname thiszone snaplen calls) calls ↔
      ∀ call ∈ calls, call.len ≤ packetDumpSize := by
  constructor
  · intro reads
    exact (records_eq_iff calls).mp (reads.records_eq opened)
  · intro short
    exact ⟨(writes_packetLog opened calls).1, _, _, readFile_packetLog opened calls,
      (records_eq_iff calls).mpr short⟩

end Log

/-- A packet of zeros. -/
def zeroPacket (len : Fin 0x80000000) : LogCall where
  ts := ⟨0, 0⟩
  buf := .replicate len 0
  len := len
  inside := List.length_replicate.ge
  small := len.isLt

theorem opened_log :
    (srDumpOpen .little (fun _ => true) [108, 111, 103] 0 packetDumpSize).Returns
      (some (.named [108, 111, 103])) :=
  rfl

theorem readsBack_packetLog_short :
    ReadsBack (packetLog .little (fun _ => true) [108, 111, 103] 0 packetDumpSize
      [zeroPacket 60, zeroPacket 0, zeroPacket 1024])
      [zeroPacket 60, zeroPacket 0, zeroPacket 1024] :=
  (readsBack_packetLog_iff opened_log _).mpr (by decide)

/-- A packet of 1025 bytes is not logged as one of 1025 bytes. -/
theorem not_readsBack_packetLog_long :
    ¬ ReadsBack (packetLog .little (fun _ => true) [108, 111, 103] 0 packetDumpSize
      [zeroPacket 1025]) [zeroPacket 1025] := by
  intro reads
  have short := (records_eq_iff _).mp (reads.records_eq opened_log) (zeroPacket 1025)
    (List.mem_singleton.mpr rfl)
  exact absurd short (by decide)

end SimpleRouter
