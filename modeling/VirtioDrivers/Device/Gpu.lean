import VirtioDrivers.Queue.New
import VirtioDrivers.Lib.Overflow

/-! The GPU driver (`device/gpu.rs`): its control requests and `setup_framebuffer`, which
asks the device for its display, creates a 2D resource of the display's size, allocates
the pages for it, attaches them to the resource and shows the resource on the scanout.
A request is written to the front of `queue_buf_send`, which goes to the device whole,
and the answer is read from the front of `queue_buf_recv`. The size of the frame buffer
is `width * height * 4` on `u32`, which panics in a debug build and wraps in a release
build; the build is a parameter. The cursor queue and the cursor, flush and transfer
requests are not modeled. -/
namespace VirtioDrivers
open Transport

namespace Gpu

def QUEUE_SIZE : Nat := 2
def QUEUE_TRANSMIT : UInt16 := 0

/-- The `Command` codes of the modeled requests and of the answers they expect. -/
def GET_DISPLAY_INFO : UInt32 := 0x100
def RESOURCE_CREATE_2D : UInt32 := 0x101
def SET_SCANOUT : UInt32 := 0x103
def RESOURCE_ATTACH_BACKING : UInt32 := 0x106
def OK_NODATA : UInt32 := 0x1100
def OK_DISPLAY_INFO : UInt32 := 0x1101

def SCANOUT_ID : UInt32 := 0
def RESOURCE_ID_FB : UInt32 := 0xbabe

end Gpu
open Gpu

/-- `CtrlHeader`, its padding left out. -/
structure CtrlHeader where
  hdrType : UInt32
  flags : UInt32
  fenceId : UInt64
  ctxId : UInt32
deriving DecidableEq, Repr

namespace CtrlHeader

def withType (hdrType : UInt32) : CtrlHeader := ⟨hdrType, 0, 0, 0⟩

def checkType (h : CtrlHeader) (expected : UInt32) : Except Error Unit :=
  if h.hdrType = expected then pure () else throw .ioError

end CtrlHeader

structure Rect where
  x : UInt32
  y : UInt32
  width : UInt32
  height : UInt32
deriving DecidableEq, Repr

structure RespDisplayInfo where
  header : CtrlHeader
  rect : Rect
  enabled : UInt32
  flags : UInt32
deriving DecidableEq, Repr

inductive Format where
  | b8g8r8a8unorm
deriving DecidableEq, Repr

structure ResourceCreate2D where
  header : CtrlHeader
  resourceId : UInt32
  format : Format
  width : UInt32
  height : UInt32
deriving DecidableEq, Repr

structure ResourceAttachBacking where
  header : CtrlHeader
  resourceId : UInt32
  nrEntries : UInt32
  addr : UInt64
  length : UInt32
deriving DecidableEq, Repr

structure SetScanout where
  header : CtrlHeader
  rect : Rect
  scanoutId : UInt32
  resourceId : UInt32
deriving DecidableEq, Repr

/-- The requests the modeled methods write to `queue_buf_send`, the `Req` of `request`. -/
inductive CtrlRequest where
  | header (h : CtrlHeader)
  | resourceCreate2D (r : ResourceCreate2D)
  | resourceAttachBacking (r : ResourceAttachBacking)
  | setScanout (r : SetScanout)
deriving DecidableEq, Repr

/-- `VirtIOGpu`: the transport's calls so far, the display rectangle and the frame buffer
once `setup_framebuffer` has set them, the control queue, where the pages of
`queue_buf_send` and `queue_buf_recv` are, and the requests written to `queue_buf_send`
so far, each of which the device read when it was notified. -/
structure VirtIOGpu where
  transport : List TransportCall
  rect : Option Rect
  frameBufferDma : Option Dma
  controlQueue : VirtQueue QUEUE_SIZE
  queueBufSend : Nat
  queueBufRecv : Nat
  sent : List CtrlRequest

/-- What the device does with one control request: the device area as `should_notify`
reads it and as each test of the spin reads it, and what it writes at the front of
`queue_buf_recv`, read as a `RespDisplayInfo`; a `CtrlHeader` read of it is its header. -/
structure GpuReply where
  used : UsedRing
  views : List UsedRing
  resp : RespDisplayInfo

/-- The device's answers to the four requests of `setup_framebuffer`. -/
structure FramebufferReplies where
  displayInfo : GpuReply
  create : GpuReply
  attach : GpuReply
  scanout : GpuReply

/-- `Dma::raw_slice`: the whole region from `vaddr(0)`, which asserts it is not empty. -/
def Dma.rawSlice (dma : Dma) : Except Fault Buf := do
  let vaddr ← dma.vaddrAt 0
  pure ⟨vaddr, dma.pages * PAGE_SIZE⟩

namespace VirtIOGpu
variable (H : Hal)

/-- Runs a computation on the control queue and the transport. -/
def onControl {α : Type} (m : EStateM Fault (VirtQueue QUEUE_SIZE × List TransportCall) α) :
    EStateM Fault VirtIOGpu α :=
  EStateM.zoom (fun s => (s.controlQueue, s.transport))
    (fun s p => { s with controlQueue := p.1, transport := p.2 }) m

/-- `request`: the request goes to the front of `queue_buf_send`, both pages go to the
device, and the answer is read from the front of `queue_buf_recv`. -/
def request (req : CtrlRequest) (r : GpuReply) : EStateM Fault VirtIOGpu RespDisplayInfo := do
  modify fun s => { s with sent := s.sent ++ [req] }
  let s ← get
  let _ ← onControl (VirtQueue.addNotifyWaitPop H [⟨s.queueBufSend, PAGE_SIZE⟩]
    [⟨s.queueBufRecv, PAGE_SIZE⟩] r.used r.views)
  pure r.resp

def getDisplayInfo (r : GpuReply) : EStateM Fault VirtIOGpu RespDisplayInfo := do
  let info ← request H (.header (CtrlHeader.withType GET_DISPLAY_INFO)) r
  ofResult (info.header.checkType OK_DISPLAY_INFO)
  pure info

/-- The requests answered by a bare header: the answer must be `OK_NODATA`. -/
def nodataRequest (req : CtrlRequest) (r : GpuReply) : EStateM Fault VirtIOGpu Unit := do
  let rsp ← request H req r
  ofResult (rsp.header.checkType OK_NODATA)

def resourceCreate2D (r : GpuReply) (resourceId width height : UInt32) : EStateM Fault VirtIOGpu Unit :=
  nodataRequest H (.resourceCreate2D
    ⟨CtrlHeader.withType RESOURCE_CREATE_2D, resourceId, .b8g8r8a8unorm, width, height⟩) r

def setScanout (r : GpuReply) (rect : Rect) (scanoutId resourceId : UInt32) : EStateM Fault VirtIOGpu Unit :=
  nodataRequest H (.setScanout ⟨CtrlHeader.withType SET_SCANOUT, rect, scanoutId, resourceId⟩) r

/-- `resource_attach_backing`: one entry, at `paddr`, of `length` bytes. -/
def resourceAttachBacking (r : GpuReply) (resourceId : UInt32) (paddr : UInt64) (length : UInt32) :
    EStateM Fault VirtIOGpu Unit :=
  nodataRequest H (.resourceAttachBacking
    ⟨CtrlHeader.withType RESOURCE_ATTACH_BACKING, resourceId, 1, paddr, length⟩) r

/-- `setup_framebuffer`: the frame buffer is `width * height * 4` bytes, computed on `u32`,
in pages from the HAL, and the slice returned is the whole of them. -/
def setupFramebuffer (o : Overflow) (replies : FramebufferReplies) : EStateM Fault VirtIOGpu Buf := do
  let displayInfo ← getDisplayInfo H replies.displayInfo
  modify fun s => { s with rect := some displayInfo.rect }
  resourceCreate2D H replies.create RESOURCE_ID_FB displayInfo.rect.width displayInfo.rect.height
  let some area := o.mul displayInfo.rect.width displayInfo.rect.height | throw .panic
  let some size := o.mul area 4 | throw .panic
  let frameBufferDma ← MonadExcept.ofExcept (Dma.new H (pages size.toNat) .driverToDevice)
  resourceAttachBacking H replies.attach RESOURCE_ID_FB (UInt64.ofNat frameBufferDma.paddr) size
  setScanout H replies.scanout displayInfo.rect SCANOUT_ID RESOURCE_ID_FB
  let buf ← MonadExcept.ofExcept frameBufferDma.rawSlice
  modify fun s => { s with frameBufferDma := some frameBufferDma }
  pure buf

end VirtIOGpu
end VirtioDrivers
