import VirtioDrivers.Device.Socket.Protocol
import VirtioDrivers.Lib.Overflow
import VirtioDrivers.Queue.Owning
import VirtioDrivers.Queue.New

/-! The low-level socket driver (`device/socket/vsock.rs`). A connection's credit state
is four free-running `u32` counters: what the peer last said it has allocated and
forwarded, and what we have sent and forwarded. Their arithmetic is Rust's `+` and `-`
on `u32`, which panics in a debug build and wraps in a release build; the build is a
parameter. Received packets come through an `OwningQueue`; every packet sent waits for
the device on the transmit queue. -/
namespace VirtioDrivers
open Transport

namespace Vsock

def RX_QUEUE_IDX : UInt16 := 0
def TX_QUEUE_IDX : UInt16 := 1
def EVENT_QUEUE_IDX : UInt16 := 2
def QUEUE_SIZE : Nat := 8

def SUPPORTED_FEATURES : UInt64 := Features.RING_EVENT_IDX ||| Features.RING_INDIRECT_DESC

/-- `DEFAULT_RX_BUFFER_SIZE` (`device/socket/mod.rs`). -/
def DEFAULT_RX_BUFFER_SIZE : Nat := 512

end Vsock

open Vsock

structure ConnectionInfo where
  dst : VsockAddr
  srcPort : UInt32
  peerBufAlloc : UInt32
  peerFwdCnt : UInt32
  txCnt : UInt32
  bufAlloc : UInt32
  fwdCnt : UInt32
  hasPendingCreditRequest : Bool
deriving DecidableEq, Repr

structure VsockBufferStatus where
  bufferAllocation : UInt32
  forwardCount : UInt32
deriving DecidableEq, Repr

inductive DisconnectReason where
  | reset
  | shutdown
deriving DecidableEq, Repr

inductive VsockEventType where
  | connectionRequest
  | connected
  | disconnected (reason : DisconnectReason)
  | received (length : Nat)
  | creditRequest
  | creditUpdate
deriving DecidableEq, Repr

structure VsockEvent where
  source : VsockAddr
  destination : VsockAddr
  bufferStatus : VsockBufferStatus
  eventType : VsockEventType
deriving DecidableEq, Repr

/-- A `u32` result of the build's arithmetic: an overflow that panics is a panic. -/
def arith : Option UInt32 → Except Fault UInt32
  | some v => pure v
  | none => throw .panic

/-- A `SocketError` turned into the crate's `Error` by `?`. -/
def socketErr {α : Type} (r : Except SocketError α) : Except Error α :=
  r.mapError .socketDeviceError

namespace ConnectionInfo
variable (o : Overflow) (info : ConnectionInfo)

def new (destination : VsockAddr) (srcPort : UInt32) : ConnectionInfo :=
  ⟨destination, srcPort, 0, 0, 0, 0, 0, false⟩

/-- `update_for_event`: the peer's latest buffer status; a credit update answers our
credit request. -/
def updateForEvent (event : VsockEvent) : ConnectionInfo :=
  { info with
    peerBufAlloc := event.bufferStatus.bufferAllocation
    peerFwdCnt := event.bufferStatus.forwardCount
    hasPendingCreditRequest :=
      if event.eventType = .creditUpdate then false else info.hasPendingCreditRequest }

/-- `done_forwarding(length)`: `fwd_cnt += length as u32`. -/
def doneForwarding (length : Nat) : Except Fault ConnectionInfo := do
  let fwdCnt ← arith (o.add info.fwdCnt (UInt32.ofNat length))
  pure { info with fwdCnt }

/-- `peer_free`: `peer_buf_alloc - (tx_cnt - peer_fwd_cnt)`. -/
def peerFree : Except Fault UInt32 := do
  let inFlight ← arith (o.sub info.txCnt info.peerFwdCnt)
  arith (o.sub info.peerBufAlloc inFlight)

/-- `new_header`: our addresses and credit in a default header. -/
def newHeader (srcCid : UInt64) : VirtioVsockHdr :=
  { VirtioVsockHdr.default with
    srcCid := srcCid, dstCid := info.dst.cid, srcPort := info.srcPort, dstPort := info.dst.port,
    bufAlloc := info.bufAlloc, fwdCnt := info.fwdCnt }

end ConnectionInfo

namespace VsockEvent

def matchesConnection (event : VsockEvent) (info : ConnectionInfo) (guestCid : UInt64) : Bool :=
  event.source == info.dst && event.destination.cid == guestCid &&
    event.destination.port == info.srcPort

/-- `from_header`: a packet that carries no data must have an empty body. -/
def fromHeader (header : VirtioVsockHdr) : Except Error VsockEvent := do
  let op ← socketErr header.opOf
  let bufferStatus : VsockBufferStatus := ⟨header.bufAlloc, header.fwdCnt⟩
  let eventType ← match op with
    | .request => do socketErr header.checkDataIsEmpty; pure .connectionRequest
    | .response => do socketErr header.checkDataIsEmpty; pure .connected
    | .creditUpdate => do socketErr header.checkDataIsEmpty; pure .creditUpdate
    | .rst => do socketErr header.checkDataIsEmpty; pure (.disconnected .reset)
    | .shutdown => do socketErr header.checkDataIsEmpty; pure (.disconnected .shutdown)
    | .rw => pure (.received header.len.toNat)
    | .creditRequest => do socketErr header.checkDataIsEmpty; pure .creditRequest
    | .invalid => throw (.socketDeviceError .invalidOperation)
  pure ⟨header.source, header.destination, bufferStatus, eventType⟩

end VsockEvent

/-- `read_header_and_body`: the header at the front of a received buffer and the body
its `len` announces. `size_of::<VirtioVsockHdr>() + len` cannot overflow a `usize`. -/
def readHeaderAndBody (buffer : List UInt8) : Except Error (VirtioVsockHdr × List UInt8) := do
  let some header := VirtioVsockHdr.readFromPrefix buffer
    | throw (.socketDeviceError .bufferTooShort)
  let bodyLength := header.len.toNat
  let dataEnd := VirtioVsockHdr.SIZE + bodyLength
  if dataEnd ≤ buffer.length then pure (header, (buffer.drop VirtioVsockHdr.SIZE).take bodyLength)
  else throw (.socketDeviceError .bufferTooShort)

structure VirtIOSocket (RX_BUFFER_SIZE : Nat) where
  transport : List TransportCall
  rx : OwningQueue QUEUE_SIZE RX_BUFFER_SIZE
  tx : VirtQueue QUEUE_SIZE
  event : VirtQueue QUEUE_SIZE
  guestCid : UInt64

namespace VirtIOSocket
variable {RX_BUFFER_SIZE : Nat} (H : Hal) (T : TransportBehaviour) (dm : DeviceMemory)

/-- The part of `new` that talks to the transport. The guest's context id is read
between two equal config generations, within `fuel` tries; `boxes i` is where the
allocator puts receive buffer `i`. -/
def initDevice (fuel : Nat) (boxes : Nat → Nat) :
    EStateM Fault (List TransportCall)
      (OwningQueue QUEUE_SIZE RX_BUFFER_SIZE × VirtQueue QUEUE_SIZE × VirtQueue QUEUE_SIZE × UInt64) := do
  MonadExcept.ofExcept (assert (decide (VirtioVsockHdr.SIZE < RX_BUFFER_SIZE)))
  let negotiatedFeatures ← beginInit T SUPPORTED_FEATURES
  -- `guest_cid_low` at offset 0 and `guest_cid_high` at offset 4, four bytes each
  let guestCid ← readConsistent T (do
      let low ← readConfigSpace T 0 4
      let high ← readConfigSpace T 4 4
      pure (UInt64.ofNat low ||| (UInt64.ofNat high <<< 32))) fuel
  let rx ← VirtQueue.new H T RX_QUEUE_IDX
    (Features.contains negotiatedFeatures Features.RING_INDIRECT_DESC)
    (Features.contains negotiatedFeatures Features.RING_EVENT_IDX)
  let tx ← VirtQueue.new H T TX_QUEUE_IDX
    (Features.contains negotiatedFeatures Features.RING_INDIRECT_DESC)
    (Features.contains negotiatedFeatures Features.RING_EVENT_IDX)
  let event ← VirtQueue.new H T EVENT_QUEUE_IDX
    (Features.contains negotiatedFeatures Features.RING_INDIRECT_DESC)
    (Features.contains negotiatedFeatures Features.RING_EVENT_IDX)
  let rx ← MonadExcept.ofExcept
    (OwningQueue.new H rx boxes : Except Fault (OwningQueue QUEUE_SIZE RX_BUFFER_SIZE))
  finishInit
  if rx.queue.shouldNotify (dm.used RX_QUEUE_IDX) then
    notify RX_QUEUE_IDX
  pure (rx, tx, event, guestCid)

def new (fuel : Nat) (boxes : Nat → Nat) (transport : List TransportCall) :
    Except Fault (VirtIOSocket RX_BUFFER_SIZE) :=
  match (initDevice H T dm fuel boxes).run transport with
  | .error e _ => .error e
  | .ok (rx, tx, event, guestCid) log => .ok ⟨log, rx, tx, event, guestCid⟩

/-- Runs `add_notify_wait_pop` on the transmit queue. -/
def onTx {α : Type} (m : EStateM Fault (VirtQueue QUEUE_SIZE × List TransportCall) α) :
    EStateM Fault (VirtIOSocket RX_BUFFER_SIZE) α :=
  EStateM.zoom (fun s => (s.tx, s.transport)) (fun s p => { s with tx := p.1, transport := p.2 }) m

section Send
variable (views : List UsedRing) (stack : Nat)

/-- `send_packet_to_tx_queue(header, buffer)`: the header's bytes are on the driver's
stack at `stack`; an empty body is not put in the queue. -/
def sendPacketToTxQueue (header : VirtioVsockHdr) (buffer : Buf) :
    EStateM Fault (VirtIOSocket RX_BUFFER_SIZE) Unit := do
  let hdr : Buf := ⟨stack, header.asBytes.length⟩
  let _ ← if buffer.len = 0 then
      onTx (VirtQueue.addNotifyWaitPop H [hdr] [] (dm.used TX_QUEUE_IDX) views)
    else onTx (VirtQueue.addNotifyWaitPop H [hdr, buffer] [] (dm.used TX_QUEUE_IDX) views)

/-- A header-only packet of operation `op` for the connection. -/
def sendControl (op : VirtioVsockOp) (info : ConnectionInfo) :
    EStateM Fault (VirtIOSocket RX_BUFFER_SIZE) Unit := do
  let s ← getThe (VirtIOSocket RX_BUFFER_SIZE)
  sendPacketToTxQueue H dm views stack { info.newHeader s.guestCid with op := op.toU16 } ⟨0, 0⟩

/-- `connect`, `accept`, `request_credit`, `credit_update` and `force_close`: one
header-only packet each. -/
def connect (info : ConnectionInfo) : EStateM Fault (VirtIOSocket RX_BUFFER_SIZE) Unit :=
  sendControl H dm views stack .request info
def accept (info : ConnectionInfo) : EStateM Fault (VirtIOSocket RX_BUFFER_SIZE) Unit :=
  sendControl H dm views stack .response info
def requestCredit (info : ConnectionInfo) : EStateM Fault (VirtIOSocket RX_BUFFER_SIZE) Unit :=
  sendControl H dm views stack .creditRequest info
def creditUpdate (info : ConnectionInfo) : EStateM Fault (VirtIOSocket RX_BUFFER_SIZE) Unit :=
  sendControl H dm views stack .creditUpdate info
def forceClose (info : ConnectionInfo) : EStateM Fault (VirtIOSocket RX_BUFFER_SIZE) Unit :=
  sendControl H dm views stack .rst info

def shutdownWithHints (info : ConnectionInfo) (hints : UInt32) :
    EStateM Fault (VirtIOSocket RX_BUFFER_SIZE) Unit := do
  let s ← getThe (VirtIOSocket RX_BUFFER_SIZE)
  sendPacketToTxQueue H dm views stack
    { info.newHeader s.guestCid with op := VirtioVsockOp.shutdown.toU16, flags := hints } ⟨0, 0⟩

/-- `shutdown(info)`: neither side sends or receives any more. -/
def shutdown (info : ConnectionInfo) : EStateM Fault (VirtIOSocket RX_BUFFER_SIZE) Unit :=
  shutdownWithHints H dm views stack info (StreamShutdown.SEND ||| StreamShutdown.RECEIVE)

/-- Runs a method of the driver on the driver and a connection's info. -/
def onDriver {α : Type} (m : EStateM Fault (VirtIOSocket RX_BUFFER_SIZE) α) :
    EStateM Fault (VirtIOSocket RX_BUFFER_SIZE × ConnectionInfo) α :=
  EStateM.zoom Prod.fst (fun s d => (d, s.2)) m

variable (o : Overflow)

/-- `check_peer_buffer_is_sufficient(info, buffer_len)`: without room, asks the peer for
credit once and fails. -/
def checkPeerBufferIsSufficient (bufferLen : Nat) :
    EStateM Fault (VirtIOSocket RX_BUFFER_SIZE × ConnectionInfo) Unit := do
  let (_, info) ← getThe (VirtIOSocket RX_BUFFER_SIZE × ConnectionInfo)
  let peerFree ← MonadExcept.ofExcept (info.peerFree o)
  if bufferLen ≤ peerFree.toNat then pure ()
  else
    if !info.hasPendingCreditRequest then
      onDriver (requestCredit H dm views stack info)
      modifyThe (VirtIOSocket RX_BUFFER_SIZE × ConnectionInfo)
        fun s => (s.1, { s.2 with hasPendingCreditRequest := true })
    throw (.err (.socketDeviceError .insufficientBufferSpaceInPeer))

/-- `send(buffer, info)`: checks the peer's credit, counts the bytes as sent, and sends
them. `checkViews` are what the device writes while a credit request waits. -/
def send (checkViews : List UsedRing) (buffer : Buf) :
    EStateM Fault (VirtIOSocket RX_BUFFER_SIZE × ConnectionInfo) Unit := do
  checkPeerBufferIsSufficient H dm checkViews stack o buffer.len
  let (_, info) ← getThe (VirtIOSocket RX_BUFFER_SIZE × ConnectionInfo)
  let len := UInt32.ofNat buffer.len
  let (s, _) ← getThe (VirtIOSocket RX_BUFFER_SIZE × ConnectionInfo)
  let header := { info.newHeader s.guestCid with op := VirtioVsockOp.rw.toU16, len := len }
  let txCnt ← MonadExcept.ofExcept (arith (o.add info.txCnt len))
  modifyThe (VirtIOSocket RX_BUFFER_SIZE × ConnectionInfo) fun s => (s.1, { s.2 with txCnt })
  onDriver (sendPacketToTxQueue H dm views stack header buffer)

end Send

/-- `poll(handler)`: the next received packet, its header read and turned into an event,
goes to `handler` with its body; the handler also updates state `ρ` of the caller, and
may panic. -/
def poll {ρ : Type} (used : UsedRing) (mem : Nat → UInt8)
    (handler : VsockEvent → List UInt8 → ρ → Except Fault (Option VsockEvent) × ρ) :
    EStateM Fault (VirtIOSocket RX_BUFFER_SIZE × ρ) (Option VsockEvent) :=
  EStateM.zoom (fun s => ((s.1.rx, s.1.transport), s.2))
    (fun s p => ({ s.1 with rx := p.1.1, transport := p.1.2 }, p.2))
    (OwningQueue.pollWith H used mem fun buffer r =>
      match (do
          let (header, body) ← readHeaderAndBody buffer
          let event ← VsockEvent.fromHeader header
          pure (event, body) : Except Error (VsockEvent × List UInt8)) with
      | .error e => (.error (.err e), r)
      | .ok (event, body) => handler event body r)

end VirtIOSocket
end VirtioDrivers
