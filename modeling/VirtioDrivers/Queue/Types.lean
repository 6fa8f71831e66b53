import Mathlib.Logic.Function.Basic
import Mathlib.Data.List.Basic
import Mathlib.Algebra.Group.Nat.Defs

/-! Data model of `queue.rs`: the crate's errors, the buffers a driver lends to the
device, split-virtqueue descriptors and their flags, the available and used rings, and
the driver's `VirtQueue` record. Rust's fixed-size arrays are functions on `Nat` read
and written through a bounds check that panics, as indexing does in Rust. -/
namespace VirtioDrivers

/-- `SocketError` (`device/socket/error.rs`). -/
inductive SocketError where
  | connectionExists
  | notConnected
  | peerSocketShutdown
  | bufferTooShort
  | outputBufferTooShort (needed : Nat)
  | bufferTooLong (len max : Nat)
  | unknownOperation (op : UInt16)
  | invalidOperation
  | invalidNumber
  | unexpectedDataInPacket
  | insufficientBufferSpaceInPeer
  | recycledWrongBuffer
deriving DecidableEq, Repr

/-- `Error` (`lib.rs`), the error of every driver method. -/
inductive Error where
  | queueFull
  | notReady
  | wrongToken
  | alreadyUsed
  | invalidParam
  | dmaError
  | ioError
  | unsupported
  | configSpaceTooSmall
  | configSpaceMissing
  | socketDeviceError (e : SocketError)
deriving DecidableEq, Repr

/-- How a call ends when it does not return normally: an `Err` of the crate's `Result`,
a panic (a failed `assert!`, `unwrap` or `expect`, or an index out of bounds), or a
loop that waits on the device and is still waiting when the model's fuel runs out. -/
inductive Fault where
  | err (e : Error)
  | panic
  | stuck
deriving DecidableEq, Repr

/-- `result.ok()`: an error the code returns becomes `None`; a panic stays a panic. -/
def Fault.ok {α : Type} : Except Fault α → Except Fault (Option α)
  | .ok a => .ok (some a)
  | .error (.err _) => .ok none
  | .error f => .error f

def assert (c : Bool) : Except Fault Unit := if c then pure () else throw .panic

/-- Rust's `a[i]` on an array of `n` entries. -/
def getIdx {α : Type} (a : Nat → α) (n i : Nat) : Except Fault α :=
  if i < n then pure (a i) else throw .panic

/-- `BufferDirection` (`hal.rs`). -/
inductive BufferDirection where
  | driverToDevice
  | deviceToDriver
  | both
deriving DecidableEq, Repr

/-- A `NonNull<[u8]>`: where a buffer starts in the driver's memory, and its length. -/
structure Buf where
  addr : Nat
  len : Nat
deriving DecidableEq, Repr

/-- The parts of the `Hal` trait that the queue calls. `dmaAlloc` returns the physical
and virtual address of the pages, `share` the physical address under which the device
sees a buffer; `boxAddr n` is where the global allocator puts a new box of `n` bytes.
`tableAddr head n` is where it puts the box of `n` bytes that `add_indirect` leaks for the
chain at `head`: a table lives until its chain is recycled, so the head names the
allocation among those alive. -/
structure Hal where
  dmaAlloc : Nat → BufferDirection → Nat × Nat
  share : Buf → BufferDirection → Nat
  boxAddr : Nat → Nat
  tableAddr : Nat → Nat → Nat

/-- An `H::unshare(paddr, buffer, direction)` call. -/
structure Unshare where
  paddr : Nat
  buffer : Buf
  direction : BufferDirection
deriving DecidableEq, Repr

/-- `DescFlags`: the bitflags `NEXT = 1`, `WRITE = 2` and `INDIRECT = 4`, one field
for each flag. -/
structure DescFlags where
  next : Bool
  write : Bool
  indirect : Bool
deriving DecidableEq, Repr

namespace DescFlags

def empty : DescFlags := ⟨false, false, false⟩
def NEXT : DescFlags := ⟨true, false, false⟩
def WRITE : DescFlags := ⟨false, true, false⟩
def INDIRECT : DescFlags := ⟨false, false, true⟩

/-- `a | b`. -/
def union (a b : DescFlags) : DescFlags :=
  ⟨a.next || b.next, a.write || b.write, a.indirect || b.indirect⟩

/-- `a.remove(b)`. -/
def remove (a b : DescFlags) : DescFlags :=
  ⟨a.next && !b.next, a.write && !b.write, a.indirect && !b.indirect⟩

/-- `a.contains(b)`. -/
def contains (a b : DescFlags) : Bool :=
  (!b.next || a.next) && (!b.write || a.write) && (!b.indirect || a.indirect)

/-- The `u16` the device reads. -/
def bits (a : DescFlags) : UInt16 :=
  (if a.next then 1 else 0) + (if a.write then 2 else 0) + (if a.indirect then 4 else 0)

@[simp] theorem contains_NEXT (a : DescFlags) : a.contains NEXT = a.next := by
  cases a; simp [contains, NEXT]

@[simp] theorem contains_INDIRECT (a : DescFlags) : a.contains INDIRECT = a.indirect := by
  cases a; simp [contains, INDIRECT]

@[simp] theorem remove_NEXT (a : DescFlags) :
    a.remove NEXT = ⟨false, a.write, a.indirect⟩ := by
  cases a; simp [remove, NEXT]

end DescFlags

/-- `Descriptor`: a buffer's physical address and length, its flags, and the index of
the next descriptor of its chain (a `u16`; every value the driver stores is below
`SIZE`, so a `Nat` holds it without change). -/
structure Descriptor where
  addr : UInt64
  len : UInt32
  flags : DescFlags
  next : Nat
deriving DecidableEq, Repr

/-- A zeroed descriptor, as `FromZeros::new_zeroed` makes it. -/
def Descriptor.zero : Descriptor := ⟨0, 0, DescFlags.empty, 0⟩

/-- `AvailRing`, the driver area: only the driver writes it. -/
structure AvailRing where
  flags : UInt16
  idx : UInt16
  ring : Nat → Nat
  usedEvent : UInt16

/-- A zeroed driver area, as `dma_alloc` returns it. -/
def AvailRing.zero : AvailRing := ⟨0, 0, fun _ => 0, 0⟩

/-- `UsedElem`: the head of a chain the device has finished with, and how many bytes
it wrote. -/
structure UsedElem where
  id : UInt32
  len : UInt32
deriving DecidableEq, Repr

/-- `UsedRing`, the device area: only the device writes it, so every value in it is
the device's choice. -/
structure UsedRing where
  flags : UInt16
  idx : UInt16
  ring : Nat → UsedElem
  availEvent : UInt16

/-- A zeroed device area, as `dma_alloc` returns it. -/
def UsedRing.zero : UsedRing := ⟨0, 0, fun _ => ⟨0, 0⟩, 0⟩

/-- `VirtQueue<H, SIZE>` with the `alloc` feature. `desc` and `avail` are the parts of
the shared memory that the driver writes; the device area is not part of the driver's
state and is passed to the methods that read it. -/
structure VirtQueue (SIZE : Nat) where
  desc : Nat → Descriptor
  avail : AvailRing
  queueIdx : UInt16
  numUsed : Nat
  freeHead : Nat
  descShadow : Nat → Descriptor
  availIdx : UInt16
  lastUsedIdx : UInt16
  eventIdx : Bool
  indirect : Bool
  indirectLists : Nat → Option (List Descriptor)

/-- `SIZE_OK`: the queue size is a power of two that fits in a `u16`. The assertion is
evaluated at compile time, so no queue of another size exists. -/
def SizeOk (SIZE : Nat) : Prop := SIZE.isPowerOfTwo ∧ SIZE ≤ 65535

instance (SIZE : Nat) : Decidable (SizeOk SIZE) :=
  inferInstanceAs (Decidable (SIZE.isPowerOfTwo ∧ SIZE ≤ 65535))

theorem SizeOk.pos {SIZE : Nat} (h : SizeOk SIZE) : 0 < SIZE := by
  obtain ⟨⟨k, rfl⟩, -⟩ := h
  exact Nat.two_pow_pos k

end VirtioDrivers
