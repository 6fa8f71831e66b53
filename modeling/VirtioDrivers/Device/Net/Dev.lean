import VirtioDrivers.Device.Net.Raw

/-! The network driver over the raw one (`device/net/dev.rs`, `device/net/net_buf.rs`).
`new` makes one receive buffer per descriptor and puts each in the receive queue, where
buffer `i` must get token `i`, and keeps it in slot `i` of `rx_buffers`. `receive` takes
the buffer of the token the device completed out of its slot and hands it to the client;
`recycle_rx_buffer` puts a buffer the client gives back in the queue under whatever token
the queue hands out, and in that token's slot. -/
namespace VirtioDrivers
open Transport Net

/-- `RxBuffer`: where its bytes are and how many (`buf_len` rounded down to whole
`usize`s), the length of the packet received in it, and the token it was added under. -/
structure RxBuffer where
  buf : Nat
  len : Nat
  packetLen : Nat
  idx : UInt16
deriving DecidableEq, Repr

namespace RxBuffer

/-- `RxBuffer::new(idx, buf_len)`, its bytes at `addr`: an index past `u16` panics. -/
def new (addr idx bufLen : Nat) : Except Fault RxBuffer :=
  if idx < 2 ^ 16 then pure ⟨addr, bufLen / 8 * 8, 0, UInt16.ofNat idx⟩ else throw .panic

/-- `as_bytes_mut`: all of the buffer, header and packet. -/
def asBytes (b : RxBuffer) : Buf := ⟨b.buf, b.len⟩

/-- `packet()`: the packet after the header. -/
def packet (b : RxBuffer) : Buf := ⟨b.buf + NET_HDR_SIZE, b.packetLen⟩

end RxBuffer

/-- `VirtIONet<H, T, QUEUE_SIZE>`: the raw driver, and the slots `rx_buffers` of the
buffers lent to the device. -/
structure VirtIONet (QUEUE_SIZE : Nat) where
  inner : VirtIONetRaw QUEUE_SIZE
  rxBuffers : Nat → Option RxBuffer

namespace VirtIONet
variable {QUEUE_SIZE : Nat} (H : Hal) (T : TransportBehaviour)

/-- Runs a method of the raw driver. -/
def onInner {α : Type} (m : EStateM Fault (VirtIONetRaw QUEUE_SIZE) α) :
    EStateM Fault (VirtIONet QUEUE_SIZE) α :=
  EStateM.zoom (·.inner) (fun n i => { n with inner := i }) m

/-- The loop of `new`: buffer `i`, at `boxes i`, goes in the receive queue, must get
token `i`, and is kept in slot `i`. `used` is the device area when `should_notify` reads
it. -/
def fillRxBuffers (used : UsedRing) (boxes : Nat → Nat) (bufLen : Nat) :
    List Nat → EStateM Fault (VirtIONet QUEUE_SIZE) Unit
  | [] => pure ()
  | i :: is => do
    let rxBuf ← MonadExcept.ofExcept (RxBuffer.new (boxes i) i bufLen)
    let token ← onInner (VirtIONetRaw.receiveBegin H used rxBuf.asBytes)
    MonadExcept.ofExcept (assert (token == i))
    modifyThe (VirtIONet QUEUE_SIZE) fun n =>
      { n with rxBuffers := Function.update n.rxBuffers i (some rxBuf) }
    fillRxBuffers used boxes bufLen is

/-- `VirtIONet::new(transport, buf_len)`: receive buffer `i` is a new allocation at
`boxes i`. -/
def new (dm : DeviceMemory) (fuel : Nat) (boxes : Nat → Nat) (bufLen : Nat)
    (transport : List TransportCall) : Except Fault (VirtIONet QUEUE_SIZE) :=
  match VirtIONetRaw.new H T fuel transport with
  | .error e => .error e
  | .ok inner =>
    match (fillRxBuffers H (dm.used QUEUE_RECEIVE) boxes bufLen (List.range QUEUE_SIZE)).run
        ⟨inner, fun _ => none⟩ with
    | .ok _ n => .ok n
    | .error e _ => .error e

def ackInterrupt : EStateM Fault (VirtIONet QUEUE_SIZE) Bool :=
  onInner (VirtIONetRaw.ackInterrupt T)

def canRecv (used : UsedRing) (n : VirtIONet QUEUE_SIZE) : Bool :=
  (n.inner.pollReceive used).isSome

section
variable (used : UsedRing)

/-- `receive()`: the buffer of the token the device completed, taken out of its slot,
with the packet's length set. -/
def receive : EStateM Fault (VirtIONet QUEUE_SIZE) RxBuffer := do
  let n ← getThe (VirtIONet QUEUE_SIZE)
  let some token := n.inner.pollReceive used | throw (.err .notReady)
  let slot ← MonadExcept.ofExcept (getIdx n.rxBuffers QUEUE_SIZE token)
  -- `take()` leaves the slot empty whatever it held
  set { n with rxBuffers := Function.update n.rxBuffers token none }
  let some rxBuf := slot | throw (.err .wrongToken)
  if token != rxBuf.idx.toNat then throw (.err .wrongToken)
  let (_, pktLen) ← onInner (VirtIONetRaw.receiveComplete H used token rxBuf.asBytes)
  pure { rxBuf with packetLen := pktLen }

/-- `recycle_rx_buffer(rx_buf)`: the buffer goes back in the queue under a new token,
whose slot must be empty. -/
def recycleRxBuffer (rxBuf : RxBuffer) : EStateM Fault (VirtIONet QUEUE_SIZE) Unit := do
  let newToken ← onInner (VirtIONetRaw.receiveBegin H used rxBuf.asBytes)
  let n ← getThe (VirtIONet QUEUE_SIZE)
  let slot ← MonadExcept.ofExcept (getIdx n.rxBuffers QUEUE_SIZE newToken)
  if slot.isSome then throw (.err .wrongToken)
  set { n with rxBuffers :=
    Function.update n.rxBuffers newToken (some { rxBuf with idx := UInt16.ofNat newToken }) }

end

def send (used : UsedRing) (views : List UsedRing) (stack : Nat) (txBuf : Buf) :
    EStateM Fault (VirtIONet QUEUE_SIZE) Unit :=
  onInner (VirtIONetRaw.send H used views stack txBuf)

end VirtIONet
end VirtioDrivers
