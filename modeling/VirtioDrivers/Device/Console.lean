import VirtioDrivers.Queue.New
import VirtioDrivers.Lib.Memory

/-! The console driver (`device/console.rs` and its `embedded-io` traits in
`device/console/embedded_io.rs`). One page is lent to the device for input; `cursor`
and `pending_len` say how much of what it wrote has been handed out, and
`receive_token` is the outstanding receive request, if any. Output goes one buffer at a
time through `add_notify_wait_pop`.

Every method reads the device's shared memory as `dm`; the loop of `wait_for_receive`
reads a new view at each test, and the spin of `add_notify_wait_pop` reads a new view
of the transmit queue's device area at each test. -/
namespace VirtioDrivers
open Transport

namespace Console

def QUEUE_RECEIVEQ_PORT_0 : UInt16 := 0
def QUEUE_TRANSMITQ_PORT_0 : UInt16 := 1
def QUEUE_SIZE : Nat := 2

/-- `Features::SIZE` and `Features::EMERG_WRITE`. -/
def SIZE : UInt64 := 1
def EMERG_WRITE : UInt64 := 4

def SUPPORTED_FEATURES : UInt64 :=
  Features.RING_EVENT_IDX ||| Features.RING_INDIRECT_DESC ||| SIZE ||| EMERG_WRITE

end Console

open Console

/-- `VirtIOConsole`: the transport's calls so far, the negotiated features, the two
queues, where the receive page is, and the receive state. -/
structure VirtIOConsole where
  transport : List TransportCall
  negotiatedFeatures : UInt64
  receiveq : VirtQueue QUEUE_SIZE
  transmitq : VirtQueue QUEUE_SIZE
  queueBufRx : Nat
  cursor : Nat
  pendingLen : Nat
  receiveToken : Option Nat

namespace VirtIOConsole
variable (H : Hal) (T : TransportBehaviour) (dm : DeviceMemory)

/-- The receive page as the queue sees it. -/
def rxBuf (c : VirtIOConsole) : Buf := ⟨c.queueBufRx, PAGE_SIZE⟩

/-- Runs a step of the receive queue. -/
def onReceiveq {α : Type} (m : VirtQueue QUEUE_SIZE → Except Fault (VirtQueue QUEUE_SIZE × α)) :
    EStateM Fault VirtIOConsole α :=
  EStateM.onPart (·.receiveq) (fun c q => { c with receiveq := q }) m

/-- Runs calls on the transport. -/
def onTransport {α : Type} (m : EStateM Fault (List TransportCall) α) : EStateM Fault VirtIOConsole α :=
  EStateM.zoom (·.transport) (fun c log => { c with transport := log }) m

/-- `poll_retrieve`: lends the page to the device again once everything received has
been handed out and no request is outstanding. -/
def pollRetrieve : EStateM Fault VirtIOConsole Unit := do
  let c ← getThe VirtIOConsole
  if c.receiveToken.isNone && c.cursor == c.pendingLen then
    let token ← onReceiveq fun q => q.add H [] [c.rxBuf]
    modifyThe VirtIOConsole fun c => { c with receiveToken := some token }
    if (← getThe VirtIOConsole).receiveq.shouldNotify (dm.used QUEUE_RECEIVEQ_PORT_0) then
      onTransport (notify QUEUE_RECEIVEQ_PORT_0)

/-- `finish_receive`: completes the outstanding request if the device has used it.
Returns whether new data arrived. -/
def finishReceive : EStateM Fault VirtIOConsole Bool := do
  let c ← getThe VirtIOConsole
  match c.receiveToken with
  | none => pure false
  | some receiveToken =>
    if c.receiveToken == c.receiveq.peekUsed (dm.used QUEUE_RECEIVEQ_PORT_0) then
      let (len, _) ← onReceiveq fun q =>
        q.popUsed H (dm.used QUEUE_RECEIVEQ_PORT_0) receiveToken [] [c.rxBuf]
      -- `assert_ne!(len, 0)`
      MonadExcept.ofExcept (assert (len != 0))
      modifyThe VirtIOConsole fun c =>
        { c with cursor := 0, pendingLen := len.toNat, receiveToken := none }
      pure true
    else pure false

def ackInterrupt : EStateM Fault VirtIOConsole Bool := do
  if !(← onTransport (Transport.ackInterrupt T)) then return false
  finishReceive H dm

/-- `queue_buf_rx[i]`. -/
def rxByte (c : VirtIOConsole) (i : Nat) : Except Fault UInt8 :=
  getIdx (fun j => dm.mem (c.queueBufRx + j)) PAGE_SIZE i

/-- `queue_buf_rx[start..stop]`: a range out of the page, or backwards, panics. -/
def rxSlice (c : VirtIOConsole) (start stop : Nat) : Except Fault (List UInt8) := do
  assert (decide (start ≤ stop ∧ stop ≤ PAGE_SIZE))
  pure (Memory.read dm.mem (c.queueBufRx + start) (stop - start))

/-- `recv(pop)`: the next received byte, if any; `pop` consumes it. -/
def recv (pop : Bool) : EStateM Fault VirtIOConsole (Option UInt8) := do
  let _ ← finishReceive H dm
  let c ← getThe VirtIOConsole
  if c.cursor == c.pendingLen then return none
  let ch ← MonadExcept.ofExcept (rxByte dm c c.cursor)
  if pop then
    modifyThe VirtIOConsole fun c => { c with cursor := c.cursor + 1 }
    pollRetrieve H dm
  pure (some ch)

/-- Runs `add_notify_wait_pop` on the transmit queue. -/
def onTransmitq {α : Type} (m : EStateM Fault (VirtQueue QUEUE_SIZE × List TransportCall) α) :
    EStateM Fault VirtIOConsole α :=
  EStateM.zoom (fun c => (c.transmitq, c.transport))
    (fun c s => { c with transmitq := s.1, transport := s.2 }) m

def sendBytes (views : List UsedRing) (buffer : Buf) : EStateM Fault VirtIOConsole Unit := do
  let _ ← onTransmitq (VirtQueue.addNotifyWaitPop H [buffer] [] (dm.used QUEUE_TRANSMITQ_PORT_0) views)

/-- `send(chr)`: the byte is sent from a one-byte buffer at `addr` on the stack. -/
def send (views : List UsedRing) (addr : Nat) : EStateM Fault VirtIOConsole Unit := do
  let _ ← onTransmitq (VirtQueue.addNotifyWaitPop H [⟨addr, 1⟩] [] (dm.used QUEUE_TRANSMITQ_PORT_0) views)

/-- `core::fmt::Write::write_str(s)`: sends the string's bytes; an error becomes
`fmt::Error`, which the model leaves as the error it came from. -/
def writeStr (views : List UsedRing) (s : Buf) : EStateM Fault VirtIOConsole Unit :=
  sendBytes H dm views s

/-- `embedded_io::Write::write(buf)`: an empty buffer is not sent. -/
def write (views : List UsedRing) (buf : Buf) : EStateM Fault VirtIOConsole Nat := do
  if buf.len = 0 then return 0
  sendBytes H dm views buf
  pure buf.len

/-- The loop of `wait_for_receive`, one view of shared memory for each test of
`cursor == pending_len`. Returns the view the loop left with. -/
def waitLoop : DeviceMemory → List DeviceMemory → EStateM Fault VirtIOConsole DeviceMemory
  | dm, [] => do
    let c ← getThe VirtIOConsole
    if c.cursor == c.pendingLen then throw .stuck else pure dm
  | dm, dm' :: views => do
    let c ← getThe VirtIOConsole
    if c.cursor == c.pendingLen then
      let _ ← finishReceive H dm'
      waitLoop dm' views
    else pure dm

/-- `wait_for_receive`: requests input if there is none, and waits until some arrives. -/
def waitForReceive (views : List DeviceMemory) : EStateM Fault VirtIOConsole DeviceMemory := do
  pollRetrieve H dm
  waitLoop H dm views

def readReady : EStateM Fault VirtIOConsole Bool := do
  let _ ← finishReceive H dm
  let c ← getThe VirtIOConsole
  pure (c.cursor != c.pendingLen)

/-- `embedded_io::Read::read` into a buffer of `len` bytes: returns the bytes written
into it, whose number is the count `read` returns. -/
def read (views : List DeviceMemory) (len : Nat) : EStateM Fault VirtIOConsole (List UInt8) := do
  if len = 0 then return []
  let dm' ← waitForReceive H dm views
  let c ← getThe VirtIOConsole
  let readLength := min len (c.pendingLen - c.cursor)
  MonadExcept.ofExcept (rxSlice dm' c c.cursor (c.cursor + readLength))

def fillBuf (views : List DeviceMemory) : EStateM Fault VirtIOConsole (List UInt8) := do
  let dm' ← waitForReceive H dm views
  let c ← getThe VirtIOConsole
  MonadExcept.ofExcept (rxSlice dm' c c.cursor c.pendingLen)

def consume (amt : Nat) : EStateM Fault VirtIOConsole Unit := do
  let c ← getThe VirtIOConsole
  MonadExcept.ofExcept (assert (decide (c.cursor + amt ≤ c.pendingLen)))
  modifyThe VirtIOConsole fun c => { c with cursor := c.cursor + amt }

/-- The part of `new` before the console exists: feature negotiation, the two queues,
and `finish_init`. -/
def initDevice : EStateM Fault (List TransportCall) (UInt64 × VirtQueue QUEUE_SIZE × VirtQueue QUEUE_SIZE) := do
  let negotiatedFeatures ← beginInit T SUPPORTED_FEATURES
  let receiveq ← VirtQueue.new H T QUEUE_RECEIVEQ_PORT_0
    (Features.contains negotiatedFeatures Features.RING_INDIRECT_DESC)
    (Features.contains negotiatedFeatures Features.RING_EVENT_IDX)
  let transmitq ← VirtQueue.new H T QUEUE_TRANSMITQ_PORT_0
    (Features.contains negotiatedFeatures Features.RING_INDIRECT_DESC)
    (Features.contains negotiatedFeatures Features.RING_EVENT_IDX)
  finishInit
  pure (negotiatedFeatures, receiveq, transmitq)

/-- `VirtIOConsole::new`: the receive page is a new box from the allocator, and a
receive request is made at once. -/
def new (transport : List TransportCall) : Except Fault VirtIOConsole :=
  match (initDevice H T).run transport with
  | .error e _ => .error e
  | .ok (negotiatedFeatures, receiveq, transmitq) log =>
    let console : VirtIOConsole :=
      { transport := log, negotiatedFeatures, receiveq, transmitq,
        queueBufRx := H.boxAddr PAGE_SIZE, cursor := 0, pendingLen := 0, receiveToken := none }
    match (pollRetrieve H dm).run console with
    | .error e _ => .error e
    | .ok () console => .ok console

end VirtIOConsole
end VirtioDrivers
