import VirtioDrivers.Queue.Types
import VirtioDrivers.Lib.ExceptBind

/-! The methods of `VirtQueue` in `queue.rs`: adding a chain of buffers (directly, or
through an indirect table), recycling a chain the device has used, and the reads of
the device area (`can_pop`, `peek_used`, `should_notify`). Every method takes the
queue and returns the new one; the ones that read the device area take it as an
argument, since the device writes it at any time. -/
namespace VirtioDrivers
variable {SIZE : Nat}

/-- `InputOutputIter`: every input (read by the device) and then every output (written
by the device), each with its direction. -/
def inputOutputIter (inputs outputs : List Buf) : List (Buf × BufferDirection) :=
  inputs.map (fun b => (b, .driverToDevice)) ++ outputs.map (fun b => (b, .deviceToDriver))

@[simp] theorem length_inputOutputIter (inputs outputs : List Buf) :
    (inputOutputIter inputs outputs).length = inputs.length + outputs.length := by
  simp [inputOutputIter]

namespace Descriptor

/-- `Descriptor::set_buf`: shares the buffer with the device and records its address,
length and flags. The length must fit in a `u32` (`try_into().unwrap()`). -/
def setBuf (H : Hal) (d : Descriptor) (buf : Buf) (direction : BufferDirection)
    (extraFlags : DescFlags) : Except Fault Descriptor := do
  let addr := UInt64.ofNat (H.share buf direction)
  if 2^32 ≤ buf.len then throw .panic
  let dirFlags ← match direction with
    | .deviceToDriver => pure DescFlags.WRITE
    | .driverToDevice => pure DescFlags.empty
    | .both => throw .panic
  pure { d with addr := addr, len := UInt32.ofNat buf.len, flags := extraFlags.union dirFlags }

def unsetBuf (d : Descriptor) : Descriptor := { d with addr := 0, len := 0 }

/-- `Descriptor::next`: the next descriptor of the chain, if `NEXT` is set. -/
def nextInChain (d : Descriptor) : Option Nat :=
  if d.flags.contains DescFlags.NEXT then some d.next else none

end Descriptor

/-- The descriptor table that `new` builds: zeroed, then `next = i + 1` for every
`i < SIZE - 1`. -/
def linkedDescriptors (SIZE : Nat) : Nat → Descriptor :=
  (List.range (SIZE - 1)).foldl (fun d i => Function.update d i { d i with next := i + 1 })
    (fun _ => Descriptor.zero)

/-- `DescFlags::NEXT` and the flags of the direction, as `set_buf` writes them. -/
def dirFlags : BufferDirection → DescFlags
  | .deviceToDriver => DescFlags.WRITE
  | _ => DescFlags.empty

/-- The bytes of the table of `n` descriptors that `add_indirect` leaks and shares for the
chain at `head`. -/
def indirectTable (H : Hal) (head n : Nat) : Buf := ⟨H.tableAddr head (16 * n), 16 * n⟩

/-- The loop of `add_indirect` that fills the zeroed indirect table: entry `i` describes
the `i`-th buffer and links to entry `i + 1`. -/
def fillIndirect (H : Hal) : Nat → List (Buf × BufferDirection) → Except Fault (List Descriptor)
  | _, [] => pure []
  | i, (buffer, direction) :: rest => do
    let desc ← Descriptor.zero.setBuf H buffer direction DescFlags.NEXT
    let rest ← fillIndirect H (i+1) rest
    pure ({ desc with next := (i+1) % 65536 } :: rest)

/-- `indirect_list.last_mut().unwrap().flags.remove(NEXT)`. -/
def removeNextOfLast (l : List Descriptor) : Except Fault (List Descriptor) :=
  match l.getLast? with
  | none => throw .panic
  | some d => pure (l.set (l.length - 1) { d with flags := d.flags.remove DescFlags.NEXT })

/-- The unsharing loop of the indirect branch of `recycle_descriptors`: buffer `i` is
unshared at the address of entry `i` of the table. -/
def indirectUnshares (table : List Descriptor) :
    Nat → List (Buf × BufferDirection) → Except Fault (List Unshare)
  | _, [] => pure []
  | i, (buffer, direction) :: rest => do
    assert (buffer.len != 0)
    let d ← getIdx (fun j => table.getD j Descriptor.zero) table.length i
    let rest ← indirectUnshares table (i+1) rest
    pure (⟨d.addr.toNat, buffer, direction⟩ :: rest)

namespace VirtQueue

/-- The queue that `VirtQueue::new` returns once the transport has accepted it. -/
def init (idx : UInt16) (indirect eventIdx : Bool) : VirtQueue SIZE where
  desc := linkedDescriptors SIZE
  avail := AvailRing.zero
  queueIdx := idx
  numUsed := 0
  freeHead := 0
  descShadow := linkedDescriptors SIZE
  availIdx := 0
  lastUsedIdx := 0
  eventIdx := eventIdx
  indirect := indirect
  indirectLists := fun _ => none

/-- `write_desc`: copies `desc_shadow[index]` to the table the device reads. -/
def writeDesc (q : VirtQueue SIZE) (index : Nat) : Except Fault (VirtQueue SIZE) := do
  let d ← getIdx q.descShadow SIZE index
  pure { q with desc := Function.update q.desc index d }

/-- The loop of `add_direct`: each buffer takes the descriptor at `free_head`, which
moves on along the free list. Returns the queue and the last descriptor written. -/
def addDirectLoop (H : Hal) :
    VirtQueue SIZE → Nat → List (Buf × BufferDirection) → Except Fault (VirtQueue SIZE × Nat)
  | q, last, [] => pure (q, last)
  | q, _, (buffer, direction) :: rest => do
    assert (buffer.len != 0)
    let desc ← getIdx q.descShadow SIZE q.freeHead
    let desc ← desc.setBuf H buffer direction DescFlags.NEXT
    let last := q.freeHead
    let q : VirtQueue SIZE := { q with descShadow := Function.update q.descShadow last desc, freeHead := desc.next }
    let q ← q.writeDesc last
    addDirectLoop H q last rest

/-- `add_direct`: a chain of one descriptor for each buffer, taken from the front of the
free list, with `NEXT` cleared on the last one. -/
def addDirect (H : Hal) (q : VirtQueue SIZE) (inputs outputs : List Buf) :
    Except Fault (VirtQueue SIZE × Nat) := do
  let head := q.freeHead
  let (q, last) ← q.addDirectLoop H q.freeHead (inputOutputIter inputs outputs)
  let d ← getIdx q.descShadow SIZE last
  let q : VirtQueue SIZE := { q with
    descShadow := Function.update q.descShadow last { d with flags := d.flags.remove DescFlags.NEXT } }
  let q ← q.writeDesc last
  pure ({ q with numUsed := q.numUsed + (inputs.length + outputs.length) }, head)

/-- `add_indirect`: one descriptor from the free list, pointing at a new table that
describes the buffers. -/
def addIndirect (H : Hal) (q : VirtQueue SIZE) (inputs outputs : List Buf) :
    Except Fault (VirtQueue SIZE × Nat) := do
  let head := q.freeHead
  let indirectList ← fillIndirect H 0 (inputOutputIter inputs outputs)
  let indirectList ← removeNextOfLast indirectList
  let old ← getIdx q.indirectLists SIZE head
  assert old.isNone
  let q : VirtQueue SIZE := { q with indirectLists := Function.update q.indirectLists head (some indirectList) }
  let directDesc ← getIdx q.descShadow SIZE head
  let freeHead := directDesc.next
  let directDesc ← directDesc.setBuf H (indirectTable H head indirectList.length) .driverToDevice
    DescFlags.INDIRECT
  let q : VirtQueue SIZE := { q with descShadow := Function.update q.descShadow head directDesc, freeHead := freeHead }
  let q ← q.writeDesc head
  pure ({ q with numUsed := q.numUsed + 1 }, head)

/-- The slot of the available ring that the next `add` fills (`avail_idx & (SIZE - 1)`). -/
def availSlot (q : VirtQueue SIZE) : Nat := (q.availIdx &&& (UInt16.ofNat SIZE - 1)).toNat

/-- `VirtQueue::add`: checks the request, builds the chain (indirect only for more than
one buffer), and publishes its head in the available ring. Returns the token. -/
def add (H : Hal) (q : VirtQueue SIZE) (inputs outputs : List Buf) :
    Except Fault (VirtQueue SIZE × Nat) := do
  if inputs.isEmpty && outputs.isEmpty then throw (.err .invalidParam)
  let descriptorsNeeded := inputs.length + outputs.length
  if q.numUsed + 1 > SIZE || descriptorsNeeded > SIZE ||
      (!q.indirect && q.numUsed + descriptorsNeeded > SIZE) then
    throw (.err .queueFull)
  let (q, head) ← if q.indirect && descriptorsNeeded > 1 then q.addIndirect H inputs outputs
    else q.addDirect H inputs outputs
  let q : VirtQueue SIZE := { q with avail := { q.avail with ring := Function.update q.avail.ring q.availSlot head } }
  let q : VirtQueue SIZE := { q with availIdx := q.availIdx + 1 }
  pure ({ q with avail := { q.avail with idx := q.availIdx } }, head)

/-- `VirtQueue::add` built without the `alloc` feature: a single capacity check, and
always `add_direct`. -/
def addWithoutAlloc (H : Hal) (q : VirtQueue SIZE) (inputs outputs : List Buf) :
    Except Fault (VirtQueue SIZE × Nat) := do
  if inputs.isEmpty && outputs.isEmpty then throw (.err .invalidParam)
  let descriptorsNeeded := inputs.length + outputs.length
  if q.numUsed + descriptorsNeeded > SIZE then throw (.err .queueFull)
  let (q, head) ← q.addDirect H inputs outputs
  let q : VirtQueue SIZE := { q with avail := { q.avail with ring := Function.update q.avail.ring q.availSlot head } }
  let q : VirtQueue SIZE := { q with availIdx := q.availIdx + 1 }
  pure ({ q with avail := { q.avail with idx := q.availIdx } }, head)

/-- The loop of the direct branch of `recycle_descriptors`: each buffer frees the
descriptor `next` points at and follows its `NEXT` flag; the last one is linked to the
old head of the free list. -/
def recycleLoop (originalFreeHead : Nat) :
    VirtQueue SIZE → Option Nat → List (Buf × BufferDirection) →
      Except Fault (VirtQueue SIZE × Option Nat × List Unshare)
  | q, next, [] => pure (q, next, [])
  | q, next, (buffer, direction) :: rest => do
    assert (buffer.len != 0)
    -- `next.expect("Descriptor chain was shorter than expected.")`
    let descIndex ← match next with
      | some i => pure i
      | none => throw .panic
    let desc ← getIdx q.descShadow SIZE descIndex
    let paddr := desc.addr
    let desc := desc.unsetBuf
    let next := desc.nextInChain
    let desc := if next.isNone then { desc with next := originalFreeHead } else desc
    let q : VirtQueue SIZE := { q with
      descShadow := Function.update q.descShadow descIndex desc
      numUsed := q.numUsed - 1 }
    let q ← q.writeDesc descIndex
    let (q, next, unshares) ← recycleLoop originalFreeHead q next rest
    pure (q, next, ⟨paddr.toNat, buffer, direction⟩ :: unshares)

/-- `recycle_descriptors`: frees the chain at `head` and pushes its descriptors on the
front of the free list. Returns the `H::unshare` calls it makes, in order. -/
def recycleDescriptors (H : Hal) (q : VirtQueue SIZE) (head : Nat) (inputs outputs : List Buf) :
    Except Fault (VirtQueue SIZE × List Unshare) := do
  let originalFreeHead := q.freeHead
  let q : VirtQueue SIZE := { q with freeHead := head }
  let headDesc ← getIdx q.descShadow SIZE head
  if headDesc.flags.contains DescFlags.INDIRECT then
    -- `self.indirect_lists[head].take().unwrap()`
    let indirectList ← getIdx q.indirectLists SIZE head
    let indirectList ← match indirectList with
      | some l => pure l
      | none => throw .panic
    let q : VirtQueue SIZE := { q with indirectLists := Function.update q.indirectLists head none }
    let paddr := headDesc.addr
    let headDesc := { headDesc.unsetBuf with next := originalFreeHead }
    let q : VirtQueue SIZE := { q with
      descShadow := Function.update q.descShadow head headDesc
      numUsed := q.numUsed - 1 }
    let table : Unshare := ⟨paddr.toNat, indirectTable H head indirectList.length, .driverToDevice⟩
    assert (indirectList.length == inputs.length + outputs.length)
    let unshares ← indirectUnshares indirectList 0 (inputOutputIter inputs outputs)
    pure (q, table :: unshares)
  else
    let (q, next, unshares) ← recycleLoop originalFreeHead q (some head)
      (inputOutputIter inputs outputs)
    -- `panic!("Descriptor chain was longer than expected.")`
    if next.isSome then throw .panic
    pure (q, unshares)

/-- `can_pop`: the device has used a chain the driver has not popped yet. -/
def canPop (q : VirtQueue SIZE) (used : UsedRing) : Bool := q.lastUsedIdx != used.idx

/-- The slot of the used ring that the next pop reads (`last_used_idx & (SIZE - 1)`). -/
def lastUsedSlot (q : VirtQueue SIZE) : Nat := (q.lastUsedIdx &&& (UInt16.ofNat SIZE - 1)).toNat

/-- `peek_used`: the token of the next used element, truncated to a `u16` as the
source does. -/
def peekUsed (q : VirtQueue SIZE) (used : UsedRing) : Option Nat :=
  if q.canPop used then some (used.ring q.lastUsedSlot).id.toUInt16.toNat else none

/-- `pop_used`: if the next used element is `token`, recycles its chain and returns the
length the device wrote, with the `H::unshare` calls made. -/
def popUsed (H : Hal) (q : VirtQueue SIZE) (used : UsedRing) (token : Nat) (inputs outputs : List Buf) :
    Except Fault (VirtQueue SIZE × UInt32 × List Unshare) := do
  if !q.canPop used then throw (.err .notReady)
  let e := used.ring q.lastUsedSlot
  let index := e.id.toUInt16.toNat
  if index != token then throw (.err .wrongToken)
  let (q, unshares) ← q.recycleDescriptors H index inputs outputs
  let q : VirtQueue SIZE := { q with lastUsedIdx := q.lastUsedIdx + 1 }
  let q : VirtQueue SIZE := if q.eventIdx then { q with avail := { q.avail with usedEvent := q.lastUsedIdx } } else q
  pure (q, e.len, unshares)

/-- `available_desc`: with indirect descriptors one free descriptor takes any request. -/
def availableDesc (q : VirtQueue SIZE) : Nat :=
  if q.indirect then (if q.numUsed = SIZE then 0 else SIZE) else SIZE - q.numUsed

/-- `available_desc` built without the `alloc` feature. -/
def availableDescWithoutAlloc (q : VirtQueue SIZE) : Nat := SIZE - q.numUsed

def shouldNotify (q : VirtQueue SIZE) (used : UsedRing) : Bool :=
  if q.eventIdx then decide (used.availEvent + 1 ≤ q.availIdx) else used.flags &&& 1 == 0

def setDevNotify (q : VirtQueue SIZE) (enable : Bool) : VirtQueue SIZE :=
  let availRingFlags : UInt16 := if enable then 0 else 1
  if !q.eventIdx then { q with avail := { q.avail with flags := availRingFlags } } else q

end VirtQueue
end VirtioDrivers
