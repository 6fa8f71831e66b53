import VirtioDrivers.Queue.New
import VirtioDrivers.Lib.Memory

/-! The block driver (`device/blk.rs`). Each blocking call puts a request header on the
stack, lends it to the device with the data and a response byte, waits for the chain to
come back, and returns the status the device wrote into the response. `read_blocks` and
`write_blocks` assert first that the buffer is a whole, non-zero number of sectors;
neither checks the sector against the capacity, nor `write_blocks` the device's `RO`
feature. The non-blocking calls add the chain and return its token, which the caller
completes later with the same buffers. The interrupt switches are not modeled. -/
namespace VirtioDrivers
open Transport

namespace Blk

def QUEUE : UInt16 := 0
def QUEUE_SIZE : Nat := 16
def SECTOR_SIZE : Nat := 512

theorem sizeOk_QUEUE_SIZE : SizeOk QUEUE_SIZE := ⟨⟨4, rfl⟩, by decide⟩

/-- The `BlkFeature` bits the driver reads. -/
def RO : UInt64 := 1 <<< (5 : UInt64)
def FLUSH : UInt64 := 1 <<< (9 : UInt64)

def SUPPORTED_FEATURES : UInt64 :=
  RO ||| FLUSH ||| Features.RING_INDIRECT_DESC ||| Features.RING_EVENT_IDX

end Blk
open Blk

/-- `ReqType`, the kinds of request the driver makes. -/
inductive ReqType where
  | «in»
  | out
  | flush
  | getId
deriving DecidableEq, Repr

structure BlkReq where
  type_ : ReqType
  reserved : UInt32
  sector : UInt64
deriving DecidableEq, Repr

def BlkReq.default : BlkReq := ⟨.«in», 0, 0⟩

/-- The bytes of a `BlkReq`: `type_`, `reserved` and `sector`. -/
def BlkReq.SIZE : Nat := 16

/-- `RespStatus`, the byte the device writes back. -/
structure RespStatus where
  val : UInt8
deriving DecidableEq, Repr

namespace RespStatus

def OK : RespStatus := ⟨0⟩
def IO_ERR : RespStatus := ⟨1⟩
def UNSUPPORTED : RespStatus := ⟨2⟩
def NOT_READY : RespStatus := ⟨3⟩

/-- `From<RespStatus> for Result`. -/
def toResult (status : RespStatus) : Except Error Unit :=
  if status = OK then pure ()
  else if status = IO_ERR then throw .ioError
  else if status = UNSUPPORTED then throw .unsupported
  else if status = NOT_READY then throw .notReady
  else throw .ioError

end RespStatus

/-- Where `request` keeps the header and the response on the stack. -/
def reqBuf (stack : Nat) : Buf := ⟨stack, BlkReq.SIZE⟩
def respBuf (stack : Nat) : Buf := ⟨stack + BlkReq.SIZE, 1⟩

/-- `VirtIOBlk`: the transport's calls so far, the queue, the capacity and the features
negotiated at `new`, and the request headers the driver has written, each read by the
device once its chain is in the queue. -/
structure VirtIOBlk where
  transport : List TransportCall
  queue : VirtQueue QUEUE_SIZE
  capacity : UInt64
  negotiatedFeatures : UInt64
  sent : List BlkReq

/-- What the device does with one request: the device area as `should_notify` reads it
and as each test of the spin reads it, and the response byte once the chain is back. The
response starts as `NOT_READY`, so a device that writes none leaves that. -/
structure BlkReply where
  used : UsedRing
  views : List UsedRing
  status : RespStatus

namespace VirtIOBlk
variable (H : Hal) (T : TransportBehaviour) (stack : Nat)

/-- The part of `new` that talks to the transport. The capacity, `capacity_low` at offset
0 and `capacity_high` at offset 4, is read between two equal config generations within
`fuel` tries. -/
def initDevice (fuel : Nat) :
    EStateM Fault (List TransportCall) (UInt64 × UInt64 × VirtQueue QUEUE_SIZE) := do
  let negotiatedFeatures ← beginInit T SUPPORTED_FEATURES
  let capacity ← readConsistent T (do
      let low ← readConfigSpace T 0 4
      let high ← readConfigSpace T 4 4
      pure (UInt64.ofNat low ||| (UInt64.ofNat high <<< 32))) fuel
  let queue ← VirtQueue.new H T QUEUE
    (Features.contains negotiatedFeatures Features.RING_INDIRECT_DESC)
    (Features.contains negotiatedFeatures Features.RING_EVENT_IDX)
  finishInit
  pure (negotiatedFeatures, capacity, queue)

def new (fuel : Nat) (transport : List TransportCall) : Except Fault VirtIOBlk :=
  match (initDevice H T fuel).run transport with
  | .error e _ => .error e
  | .ok (negotiatedFeatures, capacity, queue) log =>
    .ok ⟨log, queue, capacity, negotiatedFeatures, []⟩

def readonly (b : VirtIOBlk) : Bool := Features.contains b.negotiatedFeatures RO

/-- Runs a computation on the queue and the transport. -/
def onQueue {α : Type} (m : EStateM Fault (VirtQueue QUEUE_SIZE × List TransportCall) α) :
    EStateM Fault VirtIOBlk α :=
  EStateM.zoom (fun s => (s.queue, s.transport))
    (fun s p => { s with queue := p.1, transport := p.2 }) m

/-- The three request functions: the header and then `inputs` go to the device, `outputs`
and then the response come back, and the status the device wrote is the result. -/
def requestWith (inputs outputs : List Buf) (req : BlkReq) (r : BlkReply) :
    EStateM Fault VirtIOBlk Unit := do
  modify fun s => { s with sent := s.sent ++ [req] }
  let _ ← onQueue (VirtQueue.addNotifyWaitPop H (reqBuf stack :: inputs)
    (outputs ++ [respBuf stack]) r.used r.views)
  ofResult r.status.toResult

def request (req : BlkReq) (r : BlkReply) : EStateM Fault VirtIOBlk Unit :=
  requestWith H stack [] [] req r

/-- `request_read`: the device writes `data`. -/
def requestRead (req : BlkReq) (data : Buf) (r : BlkReply) : EStateM Fault VirtIOBlk Unit :=
  requestWith H stack [] [data] req r

/-- `request_write`: the device reads `data`. -/
def requestWrite (req : BlkReq) (data : Buf) (r : BlkReply) : EStateM Fault VirtIOBlk Unit :=
  requestWith H stack [data] [] req r

/-- `flush`: a request only if the device offers `FLUSH`. -/
def flush (r : BlkReply) : EStateM Fault VirtIOBlk Unit := do
  let s ← get
  if Features.contains s.negotiatedFeatures FLUSH then
    request H stack { BlkReq.default with type_ := .flush } r
  else
    pure ()

/-- `device_id`: the device writes the id into the 20 bytes at `id`, read back from
`mem`, and its length is up to the first zero byte. -/
def deviceId (id : Nat) (mem : Nat → UInt8) (r : BlkReply) : EStateM Fault VirtIOBlk Nat := do
  requestRead H stack { BlkReq.default with type_ := .getId } ⟨id, 20⟩ r
  let length := ((Memory.read mem id 20).findIdx? (· == 0)).getD 20
  pure length

/-- The asserts of `read_blocks` and `write_blocks` before their request. -/
def checkedBlocks (buf : Buf) (m : EStateM Fault VirtIOBlk Unit) : EStateM Fault VirtIOBlk Unit := do
  MonadExcept.ofExcept (assert (buf.len != 0))
  MonadExcept.ofExcept (assert (buf.len % SECTOR_SIZE == 0))
  m

def readBlocks (blockId : Nat) (buf : Buf) (r : BlkReply) : EStateM Fault VirtIOBlk Unit :=
  checkedBlocks buf (requestRead H stack ⟨.«in», 0, UInt64.ofNat blockId⟩ buf r)

def writeBlocks (blockId : Nat) (buf : Buf) (r : BlkReply) : EStateM Fault VirtIOBlk Unit :=
  checkedBlocks buf
    (requestWrite H stack { BlkReq.default with type_ := .out, sector := UInt64.ofNat blockId } buf r)

/-- `read_blocks_nb` and `write_blocks_nb`: after the asserts, the header goes to the
caller's `req` and the chain into the queue, the device is notified if it asks to be, and
the token is returned. -/
def blocksNb (req : BlkReq) (buf : Buf) (inputs outputs : List Buf) (used : UsedRing) :
    EStateM Fault VirtIOBlk Nat := do
  MonadExcept.ofExcept (assert (buf.len != 0))
  MonadExcept.ofExcept (assert (buf.len % SECTOR_SIZE == 0))
  modify fun s => { s with sent := s.sent ++ [req] }
  let token ← onQueue (EStateM.onPart Prod.fst (fun s q => (q, s.2)) (fun q => q.add H inputs outputs))
  let s ← get
  if s.queue.shouldNotify used then
    onQueue (EStateM.zoom Prod.snd (fun s log => (s.1, log)) (notify QUEUE))
  pure token

/-- `read_blocks_nb`: the device writes `buf` and the response at `resp`. -/
def readBlocksNb (blockId req : Nat) (buf : Buf) (resp : Nat) (used : UsedRing) :
    EStateM Fault VirtIOBlk Nat :=
  blocksNb H ⟨.«in», 0, UInt64.ofNat blockId⟩ buf [⟨req, BlkReq.SIZE⟩] [buf, ⟨resp, 1⟩] used

/-- `write_blocks_nb`: the device reads `buf` and writes the response at `resp`. -/
def writeBlocksNb (blockId req : Nat) (buf : Buf) (resp : Nat) (used : UsedRing) :
    EStateM Fault VirtIOBlk Nat :=
  blocksNb H ⟨.out, 0, UInt64.ofNat blockId⟩ buf [⟨req, BlkReq.SIZE⟩, buf] [⟨resp, 1⟩] used

/-- `complete_read_blocks` and `complete_write_blocks`: the chain of `token` comes out
of the queue with the buffers given, and the status in the response is the result. -/
def completeBlocks (token : Nat) (inputs outputs : List Buf) (used : UsedRing) (status : RespStatus) :
    EStateM Fault VirtIOBlk Unit := do
  let _ ← onQueue (EStateM.onPart Prod.fst (fun s q => (q, s.2))
    (fun q => q.popUsed H used token inputs outputs))
  ofResult status.toResult

def completeReadBlocks (token req : Nat) (buf : Buf) (resp : Nat) (used : UsedRing)
    (status : RespStatus) : EStateM Fault VirtIOBlk Unit :=
  completeBlocks H token [⟨req, BlkReq.SIZE⟩] [buf, ⟨resp, 1⟩] used status

def completeWriteBlocks (token req : Nat) (buf : Buf) (resp : Nat) (used : UsedRing)
    (status : RespStatus) : EStateM Fault VirtIOBlk Unit :=
  completeBlocks H token [⟨req, BlkReq.SIZE⟩, buf] [⟨resp, 1⟩] used status

def peekUsed (used : UsedRing) (s : VirtIOBlk) : Option Nat := s.queue.peekUsed used

end VirtIOBlk
end VirtioDrivers
