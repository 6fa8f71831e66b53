import VirtioDrivers.Queue.New
import VirtioDrivers.Queue.DeviceView
import VirtioDrivers.Lib.LittleEndian
import VirtioDrivers.Lib.Memory

/-! The sound driver (`device/sound.rs`): the control requests that set the driver up and
set a stream's parameters, and `pcm_xfer`, which plays a slice of frames through the
transmit queue. The frames go out a period at a time, each chunk behind the stream id and
ahead of the status the device writes back; up to `QUEUE_SIZE` requests are in flight at
once, kept in a ring of slots over three arrays on the stack (`tokens`, `buffers`,
`statuses`) with a `head` and a `tail` index. The event and receive queues, the jack and
channel-map requests, the contents of the info structures and the stream states are not
modeled. -/
namespace VirtioDrivers
open Transport

namespace Sound

def CONTROL_QUEUE_IDX : UInt16 := 0
def TX_QUEUE_IDX : UInt16 := 2
def QUEUE_SIZE : Nat := 32

/-- `VIRTIO_SND_S_OK`: `RequestStatusCode::Ok`, which is also `CommandCode::SOk`. -/
def S_OK : UInt32 := 0x8000

/-- `size_of` of `VirtIOSndHdr`, `VirtIOSndQueryInfo` and `VirtIOSndPcmSetParams`, and of
the three info structures `set_up` asks for. -/
def HDR_SIZE : Nat := 4
def QUERY_INFO_SIZE : Nat := 16
def PCM_SET_PARAMS_SIZE : Nat := 24
def JACK_INFO_SIZE : Nat := 24
def PCM_INFO_SIZE : Nat := 32
def CHMAP_INFO_SIZE : Nat := 24

theorem sizeOk_QUEUE_SIZE : SizeOk QUEUE_SIZE := ⟨⟨5, rfl⟩, by decide⟩

end Sound

open Sound

/-- `PcmParameters`: whether `pcm_set_params` has set the stream up, and the sizes it was
given. The features, channels, format and rate are read by no modeled method. -/
structure PcmParameters where
  setup : Bool
  bufferBytes : UInt32
  periodBytes : UInt32
deriving DecidableEq, Repr

def PcmParameters.default : PcmParameters := ⟨false, 0, 0⟩

/-- `VirtIOSound`: the transport's calls so far, the control and transmit queues, the
counts from the configuration space, the parameters of each stream, where the page of
`queue_buf_recv` is, and the flag `set_up`, which says whether the method `set_up` has run. -/
structure VirtIOSound where
  transport : List TransportCall
  controlQueue : VirtQueue QUEUE_SIZE
  txQueue : VirtQueue QUEUE_SIZE
  jacks : UInt32
  streams : UInt32
  chmaps : UInt32
  pcmParameters : List PcmParameters
  queueBufRecv : Nat
  isSetUp : Bool

/-- What the device does with one control request: the device area as `should_notify` reads
it and as each test of the spin reads it, and the header it writes at the front of
`queue_buf_recv`. -/
structure Reply where
  used : UsedRing
  views : List UsedRing
  hdr : UInt32

/-- The device's answers to the three queries of `set_up`. -/
structure SetUpReplies where
  jack : Reply
  pcm : Reply
  chmap : Reply

/-- The device on the other side of the transmit queue, as the loop of `pcm_xfer` sees it:
its state, the step it takes before each pass from what the driver has written into the
queue and into its memory, the used ring it has written, and the status it has written into
the output buffer of the chain it returned with each id. -/
structure TxDevice (δ : Type) where
  step : δ → VirtQueue QUEUE_SIZE → (Nat → UInt8) → δ
  used : δ → UsedRing
  status : δ → Nat → UInt32

/-- The locals of the loop of `pcm_xfer`: the chunks not sent yet, the `buffers` and `tokens`
arrays, the slot the next chunk takes and the slot the next pop reads. -/
structure XferLoop where
  remaining : List Buf
  buffers : Fin QUEUE_SIZE → Option Buf
  tokens : Fin QUEUE_SIZE → Nat
  head : Fin QUEUE_SIZE
  tail : Fin QUEUE_SIZE

namespace XferLoop

/-- `i += 1; if i >= QUEUE_SIZE { i = 0 }`. -/
def advance (i : Fin QUEUE_SIZE) : Fin QUEUE_SIZE :=
  if h : i.val + 1 ≥ QUEUE_SIZE then ⟨0, by decide⟩ else ⟨i.val + 1, by omega⟩

/-- The locals after `buffer` goes out in slot `head` with token `token`, `rest` being the
chunks after it. -/
def push (x : XferLoop) (buffer : Buf) (rest : List Buf) (token : Nat) : XferLoop :=
  { x with
    remaining := rest
    tokens := Function.update x.tokens x.head token
    buffers := Function.update x.buffers x.head (some buffer)
    head := advance x.head }

/-- The locals before the first pass: no slot filled, both indices at `0`. -/
def start (chunks : List Buf) : XferLoop :=
  ⟨chunks, fun _ => none, fun _ => 0, ⟨0, by decide⟩, ⟨0, by decide⟩⟩

end XferLoop

/-- `frames.chunks(size)`: the slices of `size` bytes from the front, the last one shorter. -/
def chunks (frames : Buf) (size : Nat) : List Buf :=
  (List.range ((frames.len + size - 1) / size)).map fun i =>
    ⟨frames.addr + i * size, min size (frames.len - i * size)⟩

/-- `if let Ok(..) = m { .. } else { .. }`: an `Err` is dropped, a panic is not. -/
def dropErr {σ : Type} (m : EStateM Fault σ Unit) : EStateM Fault σ Unit :=
  tryCatch m fun
    | .err _ => pure ()
    | f => throw f

namespace VirtIOSound
variable (H : Hal) (stack : Nat)

/-- Runs a computation on the control queue and the transport. -/
def onControl {α : Type} (m : EStateM Fault (VirtQueue QUEUE_SIZE × List TransportCall) α) :
    EStateM Fault VirtIOSound α :=
  EStateM.zoom (fun s => (s.controlQueue, s.transport))
    (fun s p => { s with controlQueue := p.1, transport := p.2 }) m

/-- Runs a computation on the transmit queue and the transport. -/
def onTx {α : Type} (m : EStateM Fault (VirtQueue QUEUE_SIZE × List TransportCall) α) :
    EStateM Fault VirtIOSound α :=
  EStateM.zoom (fun s => (s.txQueue, s.transport))
    (fun s p => { s with txQueue := p.1, transport := p.2 }) m

/-- `request`: the request's bytes are a temporary of `size` bytes on the stack at `stack`,
and the answer goes to `queue_buf_recv`, whose header is returned. -/
def request (size : Nat) (r : Reply) : EStateM Fault VirtIOSound UInt32 := do
  let s ← get
  let _ ← onControl (VirtQueue.addNotifyWaitPop H [⟨stack, size⟩] [⟨s.queueBufRecv, PAGE_SIZE⟩]
    r.used r.views)
  pure r.hdr

/-- The checks of a query from id `0` for `count` items of `size` bytes, out of `total`:
the items must exist, the device must answer `S_OK`, and each item is sliced out of
`queue_buf_recv` after the header, which panics past the end of the page. The items
themselves are not modeled. -/
def queryInfo (total count : UInt32) (size : Nat) (r : Reply) : EStateM Fault VirtIOSound Unit := do
  if count > total then throw (.err .ioError)
  let hdr ← request H stack QUERY_INFO_SIZE r
  if hdr != S_OK then throw (.err .ioError)
  if PAGE_SIZE < HDR_SIZE + count.toNat * size then throw .panic

def jackInfo (count : UInt32) (r : Reply) : EStateM Fault VirtIOSound Unit := do
  let s ← get
  queryInfo H stack s.jacks count JACK_INFO_SIZE r

def pcmInfo (count : UInt32) (r : Reply) : EStateM Fault VirtIOSound Unit := do
  let s ← get
  queryInfo H stack s.streams count PCM_INFO_SIZE r

def chmapInfo (count : UInt32) (r : Reply) : EStateM Fault VirtIOSound Unit := do
  let s ← get
  queryInfo H stack s.chmaps count CHMAP_INFO_SIZE r

/-- `set_up`: the jack and channel-map queries may fail, the stream query may not. -/
def setUp (replies : SetUpReplies) : EStateM Fault VirtIOSound Unit := do
  let s ← get
  dropErr (jackInfo H stack s.jacks replies.jack)
  pcmInfo H stack s.streams replies.pcm
  dropErr (chmapInfo H stack s.chmaps replies.chmap)

/-- The start of the public methods: `set_up` runs once. -/
def ensureSetUp (replies : SetUpReplies) : EStateM Fault VirtIOSound Unit := do
  let s ← get
  if !s.isSetUp then
    setUp H stack replies
    modify fun s => { s with isSetUp := true }

/-- `pcm_set_params`: the period must be a non-zero divisor of the buffer, and the stream's
parameters are kept once the device accepts them. -/
def pcmSetParams (replies : SetUpReplies) (r : Reply) (streamId bufferBytes periodBytes : UInt32) :
    EStateM Fault VirtIOSound Unit := do
  ensureSetUp H stack replies
  if periodBytes == 0 || periodBytes > bufferBytes || bufferBytes % periodBytes != 0 then
    throw (.err .invalidParam)
  let rsp ← request H stack PCM_SET_PARAMS_SIZE r
  if rsp == S_OK then
    let s ← get
    -- `self.pcm_parameters[stream_id as usize] = ..` panics past the end
    if streamId.toNat < s.pcmParameters.length then
      set { s with pcmParameters := s.pcmParameters.set streamId.toNat ⟨true, bufferBytes, periodBytes⟩ }
    else throw .panic
  else throw (.err .ioError)

/-! ### `pcm_xfer`

The frame of `pcm_xfer` holds `stream_id_bytes` at `stack` and `statuses`, eight bytes a
slot, after it. -/

/-- `stream_id_bytes`, the little-endian stream id every chunk goes out behind. -/
def idBuf : Buf := ⟨stack, 4⟩

/-- `stream_id.to_le_bytes()`. -/
def streamIdBytes (streamId : UInt32) : List UInt8 := LittleEndian.encode 4 streamId.toNat

/-- `statuses[i]`, a `VirtIOSndPcmStatus`. -/
def statusBuf (i : Fin QUEUE_SIZE) : Buf := ⟨stack + 4 + 8 * i.val, 8⟩

/-- The first half of a pass: with three descriptors free, the next chunk goes out in the
slot `head`, behind the stream id and ahead of the slot's status; with no chunk left and
no request in flight the loop ends, which is `none`. -/
def xferAdd (used : UsedRing) (x : XferLoop) :
    EStateM Fault (VirtQueue QUEUE_SIZE × List TransportCall) (Option XferLoop) := do
  let (q, _) ← get
  if 3 ≤ q.availableDesc then
    match x.remaining with
    | buffer :: rest =>
      let token ← EStateM.onPart Prod.fst (fun s q => (q, s.2))
        (fun q => q.add H [idBuf stack, buffer] [statusBuf stack x.head])
      let (q, _) ← get
      if q.shouldNotify used then
        EStateM.zoom Prod.snd (fun s log => (s.1, log)) (notify TX_QUEUE_IDX)
      pure (some (x.push buffer rest token))
    | [] => pure (if x.head = x.tail then none else some x)
  else pure (some x)

/-- The second half: when the device has returned a chain, the request in slot `tail` is
popped with the buffers it went out with, and its status must be `S_OK`. -/
def xferPop (used : UsedRing) (status : Nat → UInt32) (x : XferLoop) :
    EStateM Fault (VirtQueue QUEUE_SIZE × List TransportCall) XferLoop := do
  let (q, _) ← get
  if q.canPop used then
    -- `buffers[tail].unwrap()`
    let some buffer := x.buffers x.tail | throw .panic
    let _ ← EStateM.onPart Prod.fst (fun s q => (q, s.2))
      (fun q => q.popUsed H used (x.tokens x.tail) [idBuf stack, buffer] [statusBuf stack x.tail])
    if status (x.tokens x.tail) != S_OK then throw (.err .ioError)
    pure { x with tail := XferLoop.advance x.tail }
  else pure x

/-- One pass of the loop, the device having written `used` and `status`. -/
def xferPass (used : UsedRing) (status : Nat → UInt32) (x : XferLoop) :
    EStateM Fault (VirtQueue QUEUE_SIZE × List TransportCall) (Option XferLoop) := do
  match ← xferAdd H stack used x with
  | none => pure none
  | some x => some <$> xferPop H stack used status x

/-- The loop of `pcm_xfer` against a device, for at most `fuel` passes, with the driver's
memory `mem`: before each pass the device takes a step. It returns the device's state when
the loop ends. -/
def xferLoop {δ : Type} (dev : TxDevice δ) (mem : Nat → UInt8) :
    Nat → δ → XferLoop → EStateM Fault (VirtQueue QUEUE_SIZE × List TransportCall) δ
  | 0, _, _ => throw .stuck
  | fuel + 1, d, x => do
    let (q, _) ← get
    let d := dev.step d q mem
    match ← xferPass H stack (dev.used d) (dev.status d) x with
    | none => pure d
    | some x => xferLoop dev mem fuel d x

/-- `pcm_xfer`, called with the driver's memory `mem`: the stream must be set up, the stream
id goes into `stream_id_bytes`, and the frames go out a period at a time. -/
def pcmXfer {δ : Type} (replies : SetUpReplies) (dev : TxDevice δ) (fuel : Nat) (d : δ)
    (mem : Nat → UInt8) (streamId : UInt32) (frames : Buf) : EStateM Fault VirtIOSound δ := do
  ensureSetUp H stack replies
  let s ← get
  -- `self.pcm_parameters[stream_id as usize]` panics past the end
  let some params := s.pcmParameters[streamId.toNat]? | throw .panic
  if !params.setup then throw (.err .ioError)
  let mem := Memory.write mem stack (streamIdBytes streamId)
  let periodSize := params.periodBytes.toNat
  -- `chunks` panics on a size of zero
  if periodSize = 0 then throw .panic
  onTx (xferLoop H stack dev mem fuel d (XferLoop.start (chunks frames periodSize)))

end VirtIOSound
end VirtioDrivers
