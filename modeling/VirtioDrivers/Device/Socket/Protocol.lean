import VirtioDrivers.Queue.Types
import VirtioDrivers.Lib.LittleEndian

/-! The socket device's packet header (`device/socket/protocol.rs`): a packed record of
44 bytes, every field little-endian, that the driver sends in front of each packet and
reads at the front of each received buffer. Reading a header back from its bytes gives
the header. -/
namespace VirtioDrivers
open LittleEndian

/-- `VsockAddr`: a context id and a port. -/
structure VsockAddr where
  cid : UInt64
  port : UInt32
deriving DecidableEq, Repr

inductive VirtioVsockOp where
  | invalid
  | request
  | response
  | rst
  | shutdown
  | rw
  | creditUpdate
  | creditRequest
deriving DecidableEq, Repr

namespace VirtioVsockOp

/-- The operation's code on the wire. -/
def toU16 : VirtioVsockOp → UInt16
  | .invalid => 0
  | .request => 1
  | .response => 2
  | .rst => 3
  | .shutdown => 4
  | .rw => 5
  | .creditUpdate => 6
  | .creditRequest => 7

/-- `TryFrom<U16<LittleEndian>>`: a code past 7 is an unknown operation. -/
def tryFrom (v : UInt16) : Except SocketError VirtioVsockOp :=
  match v.toNat with
  | 0 => pure .invalid
  | 1 => pure .request
  | 2 => pure .response
  | 3 => pure .rst
  | 4 => pure .shutdown
  | 5 => pure .rw
  | 6 => pure .creditUpdate
  | 7 => pure .creditRequest
  | _ => throw (.unknownOperation v)

end VirtioVsockOp

/-- `StreamShutdown::RECEIVE` and `StreamShutdown::SEND`. -/
def StreamShutdown.RECEIVE : UInt32 := 1
def StreamShutdown.SEND : UInt32 := 2

structure VirtioVsockHdr where
  srcCid : UInt64
  dstCid : UInt64
  srcPort : UInt32
  dstPort : UInt32
  len : UInt32
  socketType : UInt16
  op : UInt16
  flags : UInt32
  bufAlloc : UInt32
  fwdCnt : UInt32
deriving DecidableEq, Repr

namespace VirtioVsockHdr

/-- `size_of::<VirtioVsockHdr>()`. -/
def SIZE : Nat := 44

def STREAM : UInt16 := 1

/-- `Default`: a stream packet with every other field zero. -/
def default : VirtioVsockHdr := ⟨0, 0, 0, 0, 0, STREAM, 0, 0, 0, 0⟩

/-- `as_bytes`: the fields in order, each little-endian. -/
def asBytes (h : VirtioVsockHdr) : List UInt8 :=
  encode 8 h.srcCid.toNat ++ encode 8 h.dstCid.toNat ++ encode 4 h.srcPort.toNat ++
    encode 4 h.dstPort.toNat ++ encode 4 h.len.toNat ++ encode 2 h.socketType.toNat ++
    encode 2 h.op.toNat ++ encode 4 h.flags.toNat ++ encode 4 h.bufAlloc.toNat ++
    encode 4 h.fwdCnt.toNat

/-- The little-endian field of `w` bytes at `offset`. -/
def field (bytes : List UInt8) (offset w : Nat) : Nat := decode ((bytes.drop offset).take w)

/-- `read_from_prefix`: the header at the front of `bytes`, if they are long enough. -/
def readFromPrefix (bytes : List UInt8) : Option VirtioVsockHdr :=
  if SIZE ≤ bytes.length then
    some ⟨UInt64.ofNat (field bytes 0 8), UInt64.ofNat (field bytes 8 8),
      UInt32.ofNat (field bytes 16 4), UInt32.ofNat (field bytes 20 4),
      UInt32.ofNat (field bytes 24 4), UInt16.ofNat (field bytes 28 2),
      UInt16.ofNat (field bytes 30 2), UInt32.ofNat (field bytes 32 4),
      UInt32.ofNat (field bytes 36 4), UInt32.ofNat (field bytes 40 4)⟩
  else none

@[simp] theorem length_asBytes (h : VirtioVsockHdr) : h.asBytes.length = SIZE := by
  simp [asBytes, SIZE]

/-! ### Reading back what was written -/

theorem field_encode_append_zero {w n : Nat} (rest : List UInt8) (hn : n < 256 ^ w) :
    field (encode w n ++ rest) 0 w = n := by
  simp [field, decode_encode_of_lt hn]

theorem field_encode_append_of_le {w' m off w : Nat} (rest : List UInt8) (h : w' ≤ off) :
    field (encode w' m ++ rest) off w = field rest (off - w') w := by
  have hdrop : (encode w' m ++ rest).drop off = rest.drop (off - w') := by
    rw [List.drop_append, List.drop_eq_nil_of_le (by simp; omega), List.nil_append, length_encode]
  simp [field, hdrop]

theorem readFromPrefix_asBytes (h : VirtioVsockHdr) (rest : List UInt8) :
    readFromPrefix (h.asBytes ++ rest) = some h := by
  have hlen : SIZE ≤ (h.asBytes ++ rest).length := by simp
  have h64 : ∀ x : UInt64, x.toNat < 256 ^ 8 := fun x => x.toNat_lt
  have h32 : ∀ x : UInt32, x.toNat < 256 ^ 4 := fun x => x.toNat_lt
  have h16 : ∀ x : UInt16, x.toNat < 256 ^ 2 := fun x => x.toNat_lt
  unfold readFromPrefix
  rw [if_pos hlen]
  simp (disch := omega) only [asBytes, List.append_assoc, field_encode_append_of_le,
    field_encode_append_zero _ (h64 _), field_encode_append_zero _ (h32 _),
    field_encode_append_zero _ (h16 _)]
  simp

/-- `op()`. -/
def opOf (h : VirtioVsockHdr) : Except SocketError VirtioVsockOp := VirtioVsockOp.tryFrom h.op

def source (h : VirtioVsockHdr) : VsockAddr := ⟨h.srcCid, h.srcPort⟩
def destination (h : VirtioVsockHdr) : VsockAddr := ⟨h.dstCid, h.dstPort⟩

def checkDataIsEmpty (h : VirtioVsockHdr) : Except SocketError Unit :=
  if h.len = 0 then pure () else throw .unexpectedDataInPacket

end VirtioVsockHdr
end VirtioDrivers
