import VirtioDrivers.Queue.Ops
import VirtioDrivers.Transport.Basic

/-! The methods of `VirtQueue` that call the transport. `new` checks the queue index with
the transport, allocates the DMA regions of one of the two layouts and gives their
addresses to the device with `queue_set`; the regions only reach the device through that
call, so the queue the model returns does not keep them. `add_notify_wait_pop` adds a
chain, notifies, spins until the device has used a chain and pops it. -/
namespace VirtioDrivers
open Transport

/-- `align_up`: clearing the low bits of `size + PAGE_SIZE` rounds it down to a page. -/
def alignUp (size : Nat) : Nat := (size + PAGE_SIZE) / PAGE_SIZE * PAGE_SIZE

/-- `pages`: the number of pages `size` bytes take, rounded up. -/
def pages (size : Nat) : Nat := (size + PAGE_SIZE - 1) / PAGE_SIZE

/-- `queue_part_sizes`: the bytes of the descriptor table, the available ring and the
used ring of a queue of `queueSize` entries. -/
def queuePartSizes (queueSize : Nat) : Except Fault (Nat × Nat × Nat) := do
  assert (decide queueSize.isPowerOfTwo)
  pure (16 * queueSize, 2 * (3 + queueSize), 2 * 3 + 8 * queueSize)

/-- `Dma`: pages the HAL has allocated for sharing with the device. -/
structure Dma where
  paddr : Nat
  vaddr : Nat
  pages : Nat
deriving DecidableEq, Repr

/-- `Dma::new`: a physical address of zero means the HAL could not allocate. -/
def Dma.new (H : Hal) (pages : Nat) (direction : BufferDirection) : Except Fault Dma := do
  let (paddr, vaddr) := H.dmaAlloc pages direction
  if paddr = 0 then throw (.err .dmaError)
  pure ⟨paddr, vaddr, pages⟩

theorem Dma.paddr_ne_zero {H : Hal} {pages : Nat} {direction : BufferDirection} {dma : Dma}
    (h : Dma.new H pages direction = .ok dma) : dma.paddr ≠ 0 := by
  cases halloc : H.dmaAlloc pages direction with
  | mk paddr vaddr =>
    by_cases hz : paddr = 0
    · simp [Dma.new, halloc, hz] at h
    · simp [Dma.new, halloc, hz] at h
      subst h
      exact hz

/-- `Dma::vaddr`: the offset must lie in the region. -/
def Dma.vaddrAt (dma : Dma) (offset : Nat) : Except Fault Nat := do
  assert (decide (offset < dma.pages * PAGE_SIZE))
  pure (dma.vaddr + offset)

inductive VirtQueueLayout where
  | legacy (dma : Dma) (availOffset usedOffset : Nat)
  | modern (driverToDeviceDma deviceToDriverDma : Dma) (availOffset : Nat)
deriving DecidableEq, Repr

namespace VirtQueueLayout

/-- `allocate_legacy`: one region, with the used ring on a page boundary. -/
def allocateLegacy (H : Hal) (queueSize : Nat) : Except Fault VirtQueueLayout := do
  let (desc, avail, used) ← queuePartSizes queueSize
  let size := alignUp (desc + avail) + alignUp used
  let dma ← Dma.new H (size / PAGE_SIZE) .both
  pure (.legacy dma desc (alignUp (desc + avail)))

/-- `allocate_flexible`: one region for the driver's parts and one for the device's. -/
def allocateFlexible (H : Hal) (queueSize : Nat) : Except Fault VirtQueueLayout := do
  let (desc, avail, used) ← queuePartSizes queueSize
  let driverToDeviceDma ← Dma.new H (pages (desc + avail)) .driverToDevice
  let deviceToDriverDma ← Dma.new H (pages used) .deviceToDriver
  pure (.modern driverToDeviceDma deviceToDriverDma desc)

def descriptorsPaddr : VirtQueueLayout → Nat
  | .legacy dma _ _ => dma.paddr
  | .modern d _ _ => d.paddr

def driverAreaPaddr : VirtQueueLayout → Nat
  | .legacy dma availOffset _ => dma.paddr + availOffset
  | .modern d _ availOffset => d.paddr + availOffset

def deviceAreaPaddr : VirtQueueLayout → Nat
  | .legacy dma _ usedOffset => dma.paddr + usedOffset
  | .modern _ d _ => d.paddr

theorem descriptorsPaddr_ne_zero {H : Hal} {queueSize : Nat} {layout : VirtQueueLayout}
    (h : allocateLegacy H queueSize = .ok layout ∨ allocateFlexible H queueSize = .ok layout) :
    layout.descriptorsPaddr ≠ 0 := by
  rcases h with h | h
  · simp only [allocateLegacy, Except.bind_eq_ok, Except.pure_eq_ok, Except.ok.injEq] at h
    obtain ⟨_, -, dma, hdma, rfl⟩ := h
    exact Dma.paddr_ne_zero hdma
  · simp only [allocateFlexible, Except.bind_eq_ok, Except.pure_eq_ok, Except.ok.injEq] at h
    obtain ⟨_, -, d, hd, _, -, rfl⟩ := h
    exact Dma.paddr_ne_zero hd

/-- The three pointers `new` takes into the regions: descriptors, available ring and
used ring. -/
def vaddrs : VirtQueueLayout → Except Fault (Nat × Nat × Nat)
  | .legacy dma availOffset usedOffset => do
    pure (← dma.vaddrAt 0, ← dma.vaddrAt availOffset, ← dma.vaddrAt usedOffset)
  | .modern d u availOffset => do
    pure (← d.vaddrAt 0, ← d.vaddrAt availOffset, ← u.vaddrAt 0)

end VirtQueueLayout

namespace VirtQueue
variable {SIZE : Nat}

/-- `VirtQueue::new`: refuses a queue the device already uses or one too large for it,
allocates the layout the transport asks for, and gives its addresses to the device. -/
def new (H : Hal) (T : TransportBehaviour) (idx : UInt16) (indirect eventIdx : Bool) :
    EStateM Fault (List TransportCall) (VirtQueue SIZE) := do
  if ← queueUsed T idx then throw (.err .alreadyUsed)
  if (← maxQueueSize T idx) < UInt32.ofNat SIZE then throw (.err .invalidParam)
  let layout ← if ← requiresLegacyLayout T then
      MonadExcept.ofExcept (VirtQueueLayout.allocateLegacy H SIZE)
    else MonadExcept.ofExcept (VirtQueueLayout.allocateFlexible H SIZE)
  queueSet idx (UInt32.ofNat SIZE) layout.descriptorsPaddr layout.driverAreaPaddr
    layout.deviceAreaPaddr
  let _ ← MonadExcept.ofExcept layout.vaddrs
  pure (init idx indirect eventIdx)

/-- What a successful `new` did: it returned the initial queue, after asking whether the
queue is in use, its maximum size and the layout, and setting up the layout it allocated. -/
theorem new_ok_layout {H : Hal} {T : TransportBehaviour} {idx : UInt16} {indirect eventIdx : Bool}
    {log log' : List TransportCall} {q : VirtQueue SIZE}
    (h : (new H T idx indirect eventIdx).run log = .ok q log') :
    q = init idx indirect eventIdx ∧ ∃ layout : VirtQueueLayout,
      (VirtQueueLayout.allocateLegacy H SIZE = .ok layout ∨
        VirtQueueLayout.allocateFlexible H SIZE = .ok layout) ∧
      log' = log ++ [.queueUsed idx, .maxQueueSize idx, .requiresLegacyLayout,
        .queueSet idx (UInt32.ofNat SIZE) layout.descriptorsPaddr layout.driverAreaPaddr
          layout.deviceAreaPaddr] := by
  unfold new at h
  simp only at h
  obtain ⟨used, log₁, h₁, h⟩ := EStateM.run_bind_eq_ok.mp h
  obtain ⟨-, rfl⟩ := run_query_eq_ok.mp h₁
  split at h
  · obtain ⟨_, _, ⟨⟩, _⟩ := EStateM.run_bind_eq_ok.mp h
  obtain ⟨m, log₂, h₂, h⟩ := EStateM.run_bind_eq_ok.mp h
  obtain ⟨-, rfl⟩ := run_query_eq_ok.mp h₂
  split at h
  · obtain ⟨_, _, ⟨⟩, _⟩ := EStateM.run_bind_eq_ok.mp h
  obtain ⟨legacy, log₃, h₃, h⟩ := EStateM.run_bind_eq_ok.mp h
  obtain ⟨-, rfl⟩ := run_query_eq_ok.mp h₃
  split at h <;>
  ( obtain ⟨layout, log₄, h₄, h⟩ := EStateM.run_bind_eq_ok.mp h
    obtain ⟨hlayout, rfl⟩ := EStateM.run_ofExcept_eq_ok.mp h₄
    obtain ⟨u, log₅, h₅, h⟩ := EStateM.run_bind_eq_ok.mp h
    obtain rfl := run_command_eq_ok.mp h₅
    obtain ⟨v, log₆, h₆, h⟩ := EStateM.run_bind_eq_ok.mp h
    obtain ⟨-, rfl⟩ := EStateM.run_ofExcept_eq_ok.mp h₆
    obtain ⟨rfl, rfl⟩ := EStateM.run_pure_eq_ok.mp h
    refine ⟨rfl, layout, ?_, by simp⟩ )
  · exact .inl hlayout
  · exact .inr hlayout

theorem new_ok_spec {H : Hal} {T : TransportBehaviour} {idx : UInt16} {indirect eventIdx : Bool}
    {log log' : List TransportCall} {q : VirtQueue SIZE}
    (h : (new H T idx indirect eventIdx).run log = .ok q log') :
    q = init idx indirect eventIdx ∧ ∃ d a u, log' = log ++
      [.queueUsed idx, .maxQueueSize idx, .requiresLegacyLayout, .queueSet idx (UInt32.ofNat SIZE) d a u] := by
  obtain ⟨hq, layout, -, hlog⟩ := new_ok_layout h
  exact ⟨hq, _, _, _, hlog⟩

/-- The spin of `add_notify_wait_pop`: the device area as each test of `can_pop` reads
it. A device that never returns the chain keeps the driver spinning. -/
def waitUsed (q : VirtQueue SIZE) : List UsedRing → Except Fault UsedRing
  | [] => throw .stuck
  | u :: views => if q.canPop u then pure u else waitUsed q views

/-- `add_notify_wait_pop` on a queue and its transport: `used` is the device area when
`should_notify` reads it, `views` as the spin reads it. -/
def addNotifyWaitPop (H : Hal) (inputs outputs : List Buf) (used : UsedRing) (views : List UsedRing) :
    EStateM Fault (VirtQueue SIZE × List TransportCall) UInt32 := do
  let token ← EStateM.onPart Prod.fst (fun s q => (q, s.2)) (fun q => q.add H inputs outputs)
  let (q, _) ← getThe (VirtQueue SIZE × List TransportCall)
  if q.shouldNotify used then
    EStateM.zoom Prod.snd (fun s log => (s.1, log)) (notify q.queueIdx)
  let u ← MonadExcept.ofExcept (q.waitUsed views)
  let (len, _) ← EStateM.onPart Prod.fst (fun s q => (q, s.2))
    (fun q => q.popUsed H u token inputs outputs)
  pure len

end VirtQueue
end VirtioDrivers
