/-
# Files of captured packets

A capture file of the pcap format begins with a header: a magic number that tells the byte order
of the host that wrote it, the version, and what is common to all packets. Behind it are the
records, each a header and as many bytes of the packet as its header says. A record also says how
long the packet was on the wire.

What is written in this format is read back, in either byte order.
-/

import Mathlib.Tactic.Ring
import SimpleRouter.Library.Readers

namespace Savefile

open Readers

/-! ## Numbers -/

/-- The order in which a host stores the bytes of a number. -/
inductive ByteOrder
  | little
  | big
  deriving DecidableEq

/-- A number in `w` bytes, the least significant one first. -/
def littleBytes : ℕ → ℕ → List UInt8
  | 0, _ => []
  | w + 1, n => .ofNat n :: littleBytes w (n / 256)

def littleNat : List UInt8 → ℕ
  | [] => 0
  | b :: rest => b.toNat + 256 * littleNat rest

theorem length_littleBytes (w n : ℕ) : (littleBytes w n).length = w := by
  induction w generalizing n with
  | zero => rfl
  | succ w ih => rw [littleBytes, List.length_cons, ih]

theorem littleNat_littleBytes {w n : ℕ} (small : n < 256 ^ w) :
    littleNat (littleBytes w n) = n := by
  induction w generalizing n with
  | zero => exact (Nat.lt_one_iff.mp small).symm
  | succ w ih =>
    have above : n / 256 < 256 ^ w := Nat.div_lt_of_lt_mul (by rwa [Nat.pow_succ'] at small)
    have lowest : (UInt8.ofNat n).toNat = n % 256 := UInt8.toNat_ofNat'
    rw [littleBytes, littleNat, ih above, lowest, Nat.mod_add_div]

namespace ByteOrder

def bytes (order : ByteOrder) (w n : ℕ) : List UInt8 :=
  match order with
  | little => littleBytes w n
  | big => (littleBytes w n).reverse

def nat (order : ByteOrder) (s : List UInt8) : ℕ :=
  match order with
  | little => littleNat s
  | big => littleNat s.reverse

theorem length_bytes (order : ByteOrder) (w n : ℕ) : (order.bytes w n).length = w := by
  cases order with
  | little => exact length_littleBytes w n
  | big => exact List.length_reverse.trans (length_littleBytes w n)

theorem nat_bytes (order : ByteOrder) {w n : ℕ} (small : n < 256 ^ w) :
    order.nat (order.bytes w n) = n := by
  cases order with
  | little => exact littleNat_littleBytes small
  | big => rw [nat, bytes, List.reverse_reverse, littleNat_littleBytes small]

/-- Read a number of `w` bytes. -/
def number (order : ByteOrder) (w : ℕ) : Reader UInt8 ℕ := order.nat <$> takeN w

def u16 (order : ByteOrder) : Reader UInt8 UInt16 := UInt16.ofNat <$> order.number 2

def u32 (order : ByteOrder) : Reader UInt8 UInt32 := UInt32.ofNat <$> order.number 4

theorem reads_number (order : ByteOrder) {w n : ℕ} (small : n < 256 ^ w) :
    Reads (order.number w) (order.bytes w n) n := by
  have taken := (reads_takeN (order.bytes w n)).map order.nat
  rwa [length_bytes, nat_bytes order small] at taken

theorem reads_u16 (order : ByteOrder) (x : UInt16) :
    Reads order.u16 (order.bytes 2 x.toNat) x := by
  have number := (order.reads_number (w := 2) x.toNat_lt).map UInt16.ofNat
  rwa [UInt16.ofNat_toNat] at number

theorem reads_u32 (order : ByteOrder) (x : UInt32) :
    Reads order.u32 (order.bytes 4 x.toNat) x := by
  have number := (order.reads_number (w := 4) x.toNat_lt).map UInt32.ofNat
  rwa [UInt32.ofNat_toNat] at number

end ByteOrder

/-! ## The header of the file -/

def magic : ℕ := 0xa1b2c3d4
def versionMajor : UInt16 := 2
def versionMinor : UInt16 := 4

/-- What is common to all packets of a file. -/
structure FileHeader where
  thiszone : UInt32
  sigfigs : UInt32
  snaplen : UInt32
  linktype : UInt32
  deriving DecidableEq

def FileHeader.write (order : ByteOrder) (header : FileHeader) : List UInt8 :=
  order.bytes 4 magic ++ (order.bytes 2 versionMajor.toNat ++
    (order.bytes 2 versionMinor.toNat ++ (order.bytes 4 header.thiszone.toNat ++
      (order.bytes 4 header.sigfigs.toNat ++ (order.bytes 4 header.snaplen.toNat ++
        order.bytes 4 header.linktype.toNat)))))

/-- The byte order is the one in which the magic number is read. -/
def byteOrder : Reader UInt8 ByteOrder := do
  let s ← takeN 4
  if ByteOrder.little.nat s = magic then pure .little
  else if ByteOrder.big.nat s = magic then pure .big
  else fail

/-- Read the header of a file of the version 2.4. -/
def fileHeader : Reader UInt8 (ByteOrder × FileHeader) := do
  let order ← byteOrder
  let major ← order.u16
  let minor ← order.u16
  if major = versionMajor ∧ minor = versionMinor then do
    let thiszone ← order.u32
    let sigfigs ← order.u32
    let snaplen ← order.u32
    let linktype ← order.u32
    pure (order, ⟨thiszone, sigfigs, snaplen, linktype⟩)
  else fail

theorem reads_byteOrder (order : ByteOrder) : Reads byteOrder (order.bytes 4 magic) order := by
  intro rest
  cases order <;> rfl

theorem reads_fileHeader (order : ByteOrder) (header : FileHeader) :
    Reads fileHeader (header.write order) (order, header) := by
  refine (reads_byteOrder order).bind ?_
  refine (order.reads_u16 versionMajor).bind ?_
  refine (order.reads_u16 versionMinor).bind ?_
  rw [if_pos ⟨rfl, rfl⟩]
  refine (order.reads_u32 header.thiszone).bind ?_
  refine (order.reads_u32 header.sigfigs).bind ?_
  refine (order.reads_u32 header.snaplen).bind ?_
  exact (order.reads_u32 header.linktype).bind_last (reads_pure _)

/-! ## Records -/

/-- A packet of a file: when it was captured, what of it was captured, and how long it was. -/
structure Record where
  tvSec : UInt32
  tvUsec : UInt32
  len : UInt32
  captured : List UInt8
  fits : captured.length < UInt32.size

def Record.write (order : ByteOrder) (record : Record) : List UInt8 :=
  order.bytes 4 record.tvSec.toNat ++ (order.bytes 4 record.tvUsec.toNat ++
    (order.bytes 4 record.captured.length ++ (order.bytes 4 record.len.toNat ++ record.captured)))

def record (order : ByteOrder) : Reader UInt8 Record := do
  let tvSec ← order.u32
  let tvUsec ← order.u32
  let caplen ← order.number 4
  let len ← order.u32
  let captured ← takeN caplen
  if fits : captured.length < UInt32.size then pure ⟨tvSec, tvUsec, len, captured, fits⟩
  else fail

theorem reads_record (order : ByteOrder) (r : Record) : Reads (record order) (r.write order) r := by
  refine (order.reads_u32 r.tvSec).bind ?_
  refine (order.reads_u32 r.tvUsec).bind ?_
  refine (order.reads_number r.fits).bind ?_
  refine (order.reads_u32 r.len).bind ?_
  refine (reads_takeN r.captured).bind_last ?_
  rw [dif_pos r.fits]
  exact reads_pure r

/-! ## Files -/

def writeFile (order : ByteOrder) (header : FileHeader) (records : List Record) : List UInt8 :=
  header.write order ++ (records.map (Record.write order)).flatten

def readFile (s : List UInt8) : Option (FileHeader × List Record) := do
  let ((order, header), rest) ← fileHeader.run s
  let records ← readToEnd (record order) rest
  some (header, records)

/-- What is written is read back. -/
theorem readFile_writeFile (order : ByteOrder) (header : FileHeader) (records : List Record) :
    readFile (writeFile order header records) = some (header, records) := by
  have some (r : Record) : r.write order ≠ [] := by
    intro empty
    have sizes := congrArg List.length empty
    rw [Record.write, List.length_append, ByteOrder.length_bytes, List.length_nil] at sizes
    omega
  rw [readFile, writeFile, reads_fileHeader]
  change (do
    let records ← readToEnd (record order) (records.map (Record.write order)).flatten
    Option.some (header, records)) = _
  rw [readToEnd_flatten some (reads_record order)]
  rfl

end Savefile
