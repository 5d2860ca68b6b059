/-
# The messages of the VNS protocol

The message classes of `VNSProtocol.py`, which the controller packs and unpacks with the
`struct` module. A Python string is the list of its bytes. The headers that frame a message
are the business of the protocol library and are not a part of it here.

Every class says how long its messages are and, apart from that, packs them. The two agree
for all classes but `VNSOpenTemplate` and `VNSAuthReply`.

The addresses that `inet_aton` takes are a parameter.
-/

import SimpleRouter.Library.FixedFields
import SimpleRouter.ServerMessages

namespace SimpleRouter

open Buffers FixedFields

/-! ## Packing -/

/-- What a method of a message class raises. -/
inductive VnsError
  /-- `struct.error`. -/
  | structError
  /-- The error of `inet_aton` for an illegal address. -/
  | illegalAddress
  /-- `VNSProtocolException`. -/
  | protocolException (msg : String)
  deriving DecidableEq

/-- The format `Ns`. -/
def packS (n : ℕ) (s : Bytes) : Bytes := field 0 n s

/-- The format `>B`. -/
def packB (n : ℤ) : Except VnsError Bytes :=
  if 0 ≤ n ∧ n < 0x100 then .ok [.ofNat n.toNat] else .error .structError

/-- The format `>H`. -/
def packH (n : ℤ) : Except VnsError Bytes :=
  if 0 ≤ n ∧ n < 0x10000 then .ok [.ofNat (n.toNat / 0x100), .ofNat n.toNat]
  else .error .structError

/-- The format `>I`. -/
def packI (n : ℤ) : Except VnsError Bytes :=
  if 0 ≤ n ∧ n < 0x100000000 then .ok (be32Bytes n.toNat).toList else .error .structError

/-- The bytes `s[i:j]`. -/
def slice (s : Bytes) (i j : ℕ) : Bytes := (s.take j).drop i

/-- `struct.unpack` of a string of `n` bytes fails for a string of another length. -/
def unpackSized (n : ℕ) (s : Bytes) : Except VnsError Bytes :=
  if s.length = n then .ok s else .error .structError

/-- The number in bytes of network order. -/
def beNat (s : Bytes) : ℕ := s.foldl (fun n b => n * 256 + b.toNat) 0

/-- `strip_null_chars`. -/
def stripNullChars (s : Bytes) : Bytes := strip 0 s

/-! ## The message classes -/

/-- `inet_ntoa`: the bytes in decimal, with dots between them. -/
def inetNtoa (ip : Ip) : Bytes :=
  [46].intercalate (ip.toList.map fun b => (Nat.toDigits 10 b.toNat).map fun c => .ofNat c.toNat)

/-- `VNSOpen`. -/
structure VnsOpen where
  topoId : ℤ
  vhost : Bytes
  user : Bytes
  pw : Bytes
  deriving DecidableEq

namespace VnsOpen

def length (_ : VnsOpen) : ℕ := 2 + 2 + idsize + idsize + idsize

def pack (m : VnsOpen) : Except VnsError Bytes := do
  let topoId ← packH m.topoId
  let pad ← packH 0
  .ok (topoId ++ pad ++ packS idsize m.vhost ++ packS idsize m.user ++ packS idsize m.pw)

def unpack (body : Bytes) : Except VnsError VnsOpen := do
  let t ← unpackSized 100 body
  .ok ⟨beNat (slice t 0 2), stripNullChars (slice t 4 36), stripNullChars (slice t 36 68),
    stripNullChars (slice t 68 100)⟩

end VnsOpen

/-- The width of the text of `VNSClose` and `VNSBanner`. -/
def textSize : ℕ := 256

/-- `VNSClose`. -/
structure VnsClose where
  msg : Bytes
  deriving DecidableEq

namespace VnsClose

def length (_ : VnsClose) : ℕ := textSize

def pack (m : VnsClose) : Bytes := packS textSize m.msg

def unpack (body : Bytes) : Except VnsError VnsClose := do
  let t ← unpackSized textSize body
  .ok ⟨stripNullChars t⟩

end VnsClose

/-- `VNSPacket`. -/
structure VnsPacket where
  intfName : Bytes
  ethernetFrame : Bytes
  deriving DecidableEq

namespace VnsPacket

/-- `HEADER_SIZE`. -/
def headerSize : ℕ := 16

def length (m : VnsPacket) : ℕ := headerSize + m.ethernetFrame.length

def pack (m : VnsPacket) : Bytes := packS headerSize m.intfName ++ m.ethernetFrame

def unpack (body : Bytes) : Except VnsError VnsPacket := do
  let t ← unpackSized headerSize (slice body 0 headerSize)
  .ok ⟨stripNullChars t, body.drop headerSize⟩

end VnsPacket

/-- `VNSInterface`, with what its constructor checks. -/
structure VnsInterface where
  name : Bytes
  mac : Mac
  ip : Ip
  mask : Ip
  deriving DecidableEq

namespace VnsInterface

/-- The constructor. -/
def new (name mac ip mask : Bytes) : Except VnsError VnsInterface :=
  if macSize : mac.length = 6 then
    if ipSize : ip.length = 4 then
      if maskSize : mask.length = 4 then
        .ok ⟨name, ⟨mac.toArray, macSize⟩, ⟨ip.toArray, ipSize⟩, ⟨mask.toArray, maskSize⟩⟩
      else .error (.protocolException "IP address mask must be 4B")
    else .error (.protocolException "IP address must be 4B")
  else .error (.protocolException "MAC address must be 6B")

section Keys

def hwInterface : ℕ := 1
def hwSpeed : ℕ := 2
def hwSubnet : ℕ := 4
def hwEther : ℕ := 32
def hwEthip : ℕ := 64
def hwMask : ℕ := 128

end Keys

/-- An entry for a key, which the value fills up to 32 bytes. -/
def packEntry (key : ℕ) (value : Bytes) : Bytes := (be32Bytes key).toList ++ value

/-- The value of a number, with 28 bytes behind it. -/
def packNumber (number : Vector UInt8 4) : Bytes := number.toList ++ packS 28 []

/-- The six entries of an interface. -/
def entries (m : VnsInterface) : List Bytes :=
  [packEntry hwInterface (packS 32 m.name),
    packEntry hwSpeed (packNumber (be32Bytes 0)),
    packEntry hwEther (packS 32 m.mac.toList),
    packEntry hwEthip (packNumber m.ip),
    packEntry hwSubnet (packNumber (be32Bytes 0)),
    packEntry hwMask (packNumber m.mask)]

def pack (m : VnsInterface) : Bytes := m.entries.flatten

/-- `SIZE`. -/
def size : ℕ := 36 + 36 + 36 + 36 + 36 + 36

end VnsInterface

/-- `VNSBanner`. -/
structure VnsBanner where
  msg : Bytes
  deriving DecidableEq

namespace VnsBanner

def length (_ : VnsBanner) : ℕ := textSize

def pack (m : VnsBanner) : Bytes := packS textSize m.msg

def unpack (body : Bytes) : Except VnsError VnsBanner := do
  let t ← unpackSized textSize body
  .ok ⟨stripNullChars t⟩

end VnsBanner

/-- `VNSHardwareInfo`. The class has no `unpack`. -/
structure VnsHardwareInfo where
  interfaces : List VnsInterface
  deriving DecidableEq

namespace VnsHardwareInfo

def length (m : VnsHardwareInfo) : ℕ := m.interfaces.length * VnsInterface.size

def pack (m : VnsHardwareInfo) : Bytes := (m.interfaces.map VnsInterface.pack).flatten

end VnsHardwareInfo

/-- `VNSRtable`. -/
structure VnsRtable where
  vrhost : Bytes
  rtable : Bytes
  deriving DecidableEq

namespace VnsRtable

/-- `HEADER_SIZE`. -/
def headerSize : ℕ := idsize

def length (m : VnsRtable) : ℕ := headerSize + m.rtable.length

def pack (m : VnsRtable) : Bytes := packS idsize m.vrhost ++ m.rtable

def unpack (body : Bytes) : VnsRtable :=
  ⟨stripNullChars (slice body 0 idsize), body.drop idsize⟩

end VnsRtable

/-- `VNSOpenTemplate`. There is always at least one source filter, an address and the
number of bits that are set in its mask. -/
structure VnsOpenTemplate where
  templateName : Bytes
  vrhost : Bytes
  srcFilters : List (Bytes × ℤ)
  filtered : srcFilters ≠ []
  deriving DecidableEq

namespace VnsOpenTemplate

/-- `NO_SRC_FILTERS`: the address `"0.0.0.0"` with an empty mask. -/
def noSrcFilters : List (Bytes × ℤ) := [([48, 46, 48, 46, 48, 46, 48], 0)]

/-- The constructor. -/
def new (templateName vrhost : Bytes) (srcFilters : List (Bytes × ℤ)) : VnsOpenTemplate :=
  if given : srcFilters ≠ [] then ⟨templateName, vrhost, srcFilters, given⟩
  else ⟨templateName, vrhost, noSrcFilters, List.cons_ne_nil _ _⟩

/-- `HEADER_SIZE`. -/
def headerSize : ℕ := 30 + idsize

def length (m : VnsOpenTemplate) : ℕ := headerSize + 30 + 5 * m.srcFilters.length

def packFilter (inetAton : Bytes → Option Ip) (filter : Bytes × ℤ) : Except VnsError Bytes :=
  match inetAton filter.1 with
  | none => .error .illegalAddress
  | some ip => do
    let mask ← packB filter.2
    .ok (ip.toList ++ mask)

def pack (inetAton : Bytes → Option Ip) (m : VnsOpenTemplate) : Except VnsError Bytes := do
  let body ← m.srcFilters.mapM (packFilter inetAton)
  .ok (packS 30 m.templateName ++ packS idsize m.vrhost ++ body.flatten)

/-- A round of the loop over the source filters. -/
def unpackFilter (sfBytes : Bytes) (i : ℕ) : Except VnsError (Bytes × ℤ) :=
  let ip := inetNtoa ((⟨i * 5⟩ : Span 4).get sfBytes)
  let mask : ℤ := (hostU8 ((⟨i * 5 + 4⟩ : Span 1).get sfBytes)).toNat
  if mask < 0 ∨ 32 < mask then
    .error (.protocolException ("mask must be between 0 and 32 but it was " ++ toString mask))
  else .ok (ip, mask)

def unpack (body : Bytes) : Except VnsError VnsOpenTemplate := do
  let t ← unpackSized headerSize (slice body 0 headerSize)
  let sfBytes := body.drop headerSize
  let srcFilters ← (List.range (sfBytes.length / 5)).mapM (unpackFilter sfBytes)
  .ok (new (stripNullChars (slice t 0 30)) (stripNullChars (slice t 30 62)) srcFilters)

end VnsOpenTemplate

/-- `VNSAuthRequest`. -/
structure VnsAuthRequest where
  salt : Bytes
  deriving DecidableEq

namespace VnsAuthRequest

def length (m : VnsAuthRequest) : ℕ := m.salt.length

def pack (m : VnsAuthRequest) : Bytes := m.salt

def unpack (body : Bytes) : VnsAuthRequest := ⟨body⟩

end VnsAuthRequest

/-- `VNSAuthReply`, with the salted hash of the password. -/
structure VnsAuthReply where
  username : Bytes
  ssp : Bytes
  deriving DecidableEq

namespace VnsAuthReply

def length (m : VnsAuthReply) : ℕ := m.username.length + m.ssp.length

def pack (m : VnsAuthReply) : Except VnsError Bytes := do
  let usernameLen ← packI m.username.length
  .ok (usernameLen ++ m.username ++ m.ssp)

def unpack (body : Bytes) : Except VnsError VnsAuthReply := do
  let usernameLen ← unpackSized 4 (slice body 0 4)
  let body := body.drop 4
  .ok ⟨slice body 0 (beNat usernameLen), body.drop (beNat usernameLen)⟩

end VnsAuthReply

/-- `VNSAuthStatus`. -/
structure VnsAuthStatus where
  authOk : Bool
  msg : Bytes
  deriving DecidableEq

namespace VnsAuthStatus

def length (m : VnsAuthStatus) : ℕ := 1 + m.msg.length

def pack (m : VnsAuthStatus) : Bytes := (if m.authOk then 1 else 0) :: m.msg

def unpack (body : Bytes) : Except VnsError VnsAuthStatus := do
  let authOk ← unpackSized 1 (slice body 0 1)
  .ok ⟨beNat authOk ≠ 0, body.drop 1⟩

end VnsAuthStatus

/-! ## Messages of any class -/

/-- A message of one of the classes in `VNS_MESSAGES`. -/
inductive VnsMessage
  | vnsOpen (m : VnsOpen)
  | vnsClose (m : VnsClose)
  | vnsPacket (m : VnsPacket)
  | vnsBanner (m : VnsBanner)
  | vnsHardwareInfo (m : VnsHardwareInfo)
  | vnsRtable (m : VnsRtable)
  | vnsOpenTemplate (m : VnsOpenTemplate)
  | vnsAuthRequest (m : VnsAuthRequest)
  | vnsAuthReply (m : VnsAuthReply)
  | vnsAuthStatus (m : VnsAuthStatus)
  deriving DecidableEq

namespace VnsMessage

/-- `get_type`. -/
def getType : VnsMessage → ℕ
  | vnsOpen _ => 1
  | vnsClose _ => 2
  | vnsPacket _ => 4
  | vnsBanner _ => 8
  | vnsHardwareInfo _ => 16
  | vnsRtable _ => 32
  | vnsOpenTemplate _ => 64
  | vnsAuthRequest _ => 128
  | vnsAuthReply _ => 256
  | vnsAuthStatus _ => 512

def length : VnsMessage → ℕ
  | vnsOpen m => m.length
  | vnsClose m => m.length
  | vnsPacket m => m.length
  | vnsBanner m => m.length
  | vnsHardwareInfo m => m.length
  | vnsRtable m => m.length
  | vnsOpenTemplate m => m.length
  | vnsAuthRequest m => m.length
  | vnsAuthReply m => m.length
  | vnsAuthStatus m => m.length

def pack (inetAton : Bytes → Option Ip) : VnsMessage → Except VnsError Bytes
  | vnsOpen m => m.pack
  | vnsClose m => .ok m.pack
  | vnsPacket m => .ok m.pack
  | vnsBanner m => .ok m.pack
  | vnsHardwareInfo m => .ok m.pack
  | vnsRtable m => .ok m.pack
  | vnsOpenTemplate m => m.pack inetAton
  | vnsAuthRequest m => .ok m.pack
  | vnsAuthReply m => m.pack
  | vnsAuthStatus m => .ok m.pack

/-- The `unpack` of the class of a type, if there is one. -/
def unpack (type : ℕ) (body : Bytes) : Option (Except VnsError VnsMessage) :=
  match type with
  | 1 => some (vnsOpen <$> VnsOpen.unpack body)
  | 2 => some (vnsClose <$> VnsClose.unpack body)
  | 4 => some (vnsPacket <$> VnsPacket.unpack body)
  | 8 => some (vnsBanner <$> VnsBanner.unpack body)
  | 32 => some (.ok (vnsRtable (VnsRtable.unpack body)))
  | 64 => some (vnsOpenTemplate <$> VnsOpenTemplate.unpack body)
  | 128 => some (.ok (vnsAuthRequest (VnsAuthRequest.unpack body)))
  | 256 => some (vnsAuthReply <$> VnsAuthReply.unpack body)
  | 512 => some (vnsAuthStatus <$> VnsAuthStatus.unpack body)
  | _ => none

end VnsMessage

end SimpleRouter
