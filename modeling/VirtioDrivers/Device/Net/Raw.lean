import VirtioDrivers.Queue.New

/-! The raw network driver (`device/net/dev_raw.rs`): a receive queue and a transmit
queue, each taking one buffer per request. A receive buffer holds a header of
`NET_HDR_SIZE` bytes followed by the packet; a request is started, polled for by its
token, and completed with the same buffer. -/
namespace VirtioDrivers
open Transport

namespace Net

def QUEUE_RECEIVE : UInt16 := 0
def QUEUE_TRANSMIT : UInt16 := 1

def MAC : UInt64 := 1 <<< (5 : UInt64)
def STATUS : UInt64 := 1 <<< (16 : UInt64)

def SUPPORTED_FEATURES : UInt64 :=
  MAC ||| STATUS ||| Features.RING_EVENT_IDX ||| Features.RING_INDIRECT_DESC

/-- `size_of::<VirtioNetHdr>()`: flags and GSO type of a byte each, and four `u16`s. -/
def NET_HDR_SIZE : Nat := 10

def MIN_BUFFER_LEN : Nat := 1526

end Net

open Net

/-- `VirtIONetRaw<H, T, QUEUE_SIZE>`: the transport's calls so far, the MAC address as
read from the configuration space, and the two queues. -/
structure VirtIONetRaw (QUEUE_SIZE : Nat) where
  transport : List TransportCall
  mac : Nat
  recvQueue : VirtQueue QUEUE_SIZE
  sendQueue : VirtQueue QUEUE_SIZE

namespace VirtIONetRaw
variable {QUEUE_SIZE : Nat} (H : Hal) (T : TransportBehaviour)

/-- The part of `new` that talks to the transport. The MAC address, six bytes at offset
0, is read between two equal config generations within `fuel` tries; the status, two
bytes at offset 6, is read once. -/
def initDevice (fuel : Nat) :
    EStateM Fault (List TransportCall) (Nat × VirtQueue QUEUE_SIZE × VirtQueue QUEUE_SIZE) := do
  let negotiatedFeatures ← beginInit T SUPPORTED_FEATURES
  let mac ← readConsistent T (readConfigSpace T 0 6) fuel
  let _ ← ofResult (← (readConfigSpace T 6 2).run)
  let sendQueue ← VirtQueue.new H T QUEUE_TRANSMIT
    (Features.contains negotiatedFeatures Features.RING_INDIRECT_DESC)
    (Features.contains negotiatedFeatures Features.RING_EVENT_IDX)
  let recvQueue ← VirtQueue.new H T QUEUE_RECEIVE
    (Features.contains negotiatedFeatures Features.RING_INDIRECT_DESC)
    (Features.contains negotiatedFeatures Features.RING_EVENT_IDX)
  finishInit
  pure (mac, recvQueue, sendQueue)

def new (fuel : Nat) (transport : List TransportCall) : Except Fault (VirtIONetRaw QUEUE_SIZE) :=
  match (initDevice H T fuel).run transport with
  | .error e _ => .error e
  | .ok (mac, recvQueue, sendQueue) log => .ok ⟨log, mac, recvQueue, sendQueue⟩

/-- Runs a transport call on the driver. -/
def onTransport {α : Type} (m : EStateM Fault (List TransportCall) α) :
    EStateM Fault (VirtIONetRaw QUEUE_SIZE) α :=
  EStateM.zoom (·.transport) (fun n log => { n with transport := log }) m

def ackInterrupt : EStateM Fault (VirtIONetRaw QUEUE_SIZE) Bool :=
  onTransport (Transport.ackInterrupt T)

/-- `disable_interrupts` and `enable_interrupts`: both queues stop or start asking for
notifications. -/
def setInterrupts (enable : Bool) (n : VirtIONetRaw QUEUE_SIZE) : VirtIONetRaw QUEUE_SIZE :=
  { n with sendQueue := n.sendQueue.setDevNotify enable, recvQueue := n.recvQueue.setDevNotify enable }
def disableInterrupts := @setInterrupts QUEUE_SIZE false
def enableInterrupts := @setInterrupts QUEUE_SIZE true

/-- `can_send`: two free descriptors in the transmit queue. -/
def canSend (n : VirtIONetRaw QUEUE_SIZE) : Bool :=
  let availableDesc := if n.sendQueue.indirect then
      (if n.sendQueue.numUsed = QUEUE_SIZE then 0 else QUEUE_SIZE)
    else QUEUE_SIZE - n.sendQueue.numUsed
  decide (availableDesc ≥ 2)

/-- `check_rx_buf_len` and `check_tx_buf_len`: a buffer shorter than `min` is refused. -/
def checkBufLen (min : Nat) (buf : Buf) : Except Error Unit :=
  if buf.len < min then throw .invalidParam else pure ()
def checkRxBufLen := checkBufLen MIN_BUFFER_LEN
def checkTxBufLen := checkBufLen NET_HDR_SIZE

/-- `transmit_begin(tx_buf)`: the buffer goes in the transmit queue, and the device is
notified if it asks to be. -/
def transmitBegin (used : UsedRing) (txBuf : Buf) : EStateM Fault (VirtIONetRaw QUEUE_SIZE) Nat := do
  ofResult (checkTxBufLen txBuf)
  let token ← EStateM.onPart (·.sendQueue) (fun n q => { n with sendQueue := q })
    (fun q => q.add H [txBuf] [])
  let n ← getThe (VirtIONetRaw QUEUE_SIZE)
  if n.sendQueue.shouldNotify used then
    onTransport (notify QUEUE_TRANSMIT)
  pure token

def pollTransmit (used : UsedRing) (n : VirtIONetRaw QUEUE_SIZE) : Option Nat :=
  n.sendQueue.peekUsed used

/-- `transmit_complete(token, tx_buf)`: the length the device reported. -/
def transmitComplete (used : UsedRing) (token : Nat) (txBuf : Buf) :
    EStateM Fault (VirtIONetRaw QUEUE_SIZE) Nat := do
  let len ← EStateM.onPart (·.sendQueue) (fun n q => { n with sendQueue := q })
    (fun q => do
      let (q, len, _) ← q.popUsed H used token [txBuf] []
      pure (q, len))
  pure len.toNat

/-- `receive_begin(rx_buf)`: the buffer goes in the receive queue, and the device is
notified if it asks to be. Returns the token. -/
def receiveBegin (used : UsedRing) (rxBuf : Buf) : EStateM Fault (VirtIONetRaw QUEUE_SIZE) Nat := do
  ofResult (checkRxBufLen rxBuf)
  let token ← EStateM.onPart (·.recvQueue) (fun n q => { n with recvQueue := q })
    (fun q => q.add H [] [rxBuf])
  let n ← getThe (VirtIONetRaw QUEUE_SIZE)
  if n.recvQueue.shouldNotify used then
    onTransport (notify QUEUE_RECEIVE)
  pure token

def pollReceive (used : UsedRing) (n : VirtIONetRaw QUEUE_SIZE) : Option Nat :=
  n.recvQueue.peekUsed used

/-- `receive_complete(token, rx_buf)`: the header's length and the packet's, the length
the device reported less the header; a report shorter than a header is an I/O error. -/
def receiveComplete (used : UsedRing) (token : Nat) (rxBuf : Buf) :
    EStateM Fault (VirtIONetRaw QUEUE_SIZE) (Nat × Nat) := do
  let len ← EStateM.onPart (·.recvQueue) (fun n q => { n with recvQueue := q })
    (fun q => do
      let (q, len, _) ← q.popUsed H used token [] [rxBuf]
      pure (q, len))
  -- `len.checked_sub(NET_HDR_SIZE).ok_or(Error::IoError)?`
  if NET_HDR_SIZE ≤ len.toNat then pure (NET_HDR_SIZE, len.toNat - NET_HDR_SIZE)
  else throw (.err .ioError)

/-- `send(tx_buf)`: a default header from the driver's stack at `stack`, then the packet
unless it is empty, and a wait for the device. -/
def send (used : UsedRing) (views : List UsedRing) (stack : Nat) (txBuf : Buf) :
    EStateM Fault (VirtIONetRaw QUEUE_SIZE) Unit := do
  let header : Buf := ⟨stack, NET_HDR_SIZE⟩
  let _ ← EStateM.zoom (fun n => (n.sendQueue, n.transport))
    (fun n p => { n with sendQueue := p.1, transport := p.2 })
    (if txBuf.len = 0 then VirtQueue.addNotifyWaitPop H [header] [] used views
      else VirtQueue.addNotifyWaitPop H [header, txBuf] [] used views)

/-- The spin of `receive_wait`, one view of the receive queue's device area for each
test of `poll_receive`. Returns the view the loop left with. -/
def waitReceive (n : VirtIONetRaw QUEUE_SIZE) : List UsedRing → Except Fault UsedRing
  | [] => throw .stuck
  | used :: views => if (pollReceive used n).isSome then pure used else waitReceive n views

/-- `receive_wait(rx_buf)`: starts a request and waits for the device to complete one. -/
def receiveWait (used : UsedRing) (views : List UsedRing) (rxBuf : Buf) :
    EStateM Fault (VirtIONetRaw QUEUE_SIZE) (Nat × Nat) := do
  let token ← receiveBegin H used rxBuf
  let n ← getThe (VirtIONetRaw QUEUE_SIZE)
  let used ← MonadExcept.ofExcept (waitReceive n views)
  receiveComplete H used token rxBuf

end VirtIONetRaw
end VirtioDrivers
