import VirtioDrivers.Transport.Pci.Refines

/-! The calls of `impl Transport for HypPciTransport` (`transport/x86_64.rs`). The pKVM
transport reaches each structure of the device by IO hypercalls: `configread!` and
`configwrite!` access the field of `CommonCfg` at its `offset_of!`, for as many bytes as the
type the access is made at, and each access asserts that it lies within its region and is at
most `HYP_IO_MAX` bytes. The type of a `configread!` is the type its caller expects; in
`read_config_generation` that is the `u32` it returns, so the one-byte generation is read
four bytes wide. -/
namespace VirtioDrivers
open Pci

/-- `offset_of!(CommonCfg, field)`. -/
def CommonField.offset : CommonField → Nat
  | .deviceFeatureSelect => 0
  | .deviceFeature => 4
  | .driverFeatureSelect => 8
  | .driverFeature => 12
  | .deviceStatus => 20
  | .configGeneration => 21
  | .queueSelect => 22
  | .queueSize => 24
  | .queueEnable => 28
  | .queueNotifyOff => 30
  | .queueDesc => 32
  | .queueDriver => 40
  | .queueDevice => 48

/-- The size of each field of `CommonCfg`. -/
def CommonField.size : CommonField → Nat
  | .deviceFeatureSelect | .deviceFeature | .driverFeatureSelect | .driverFeature => 4
  | .deviceStatus | .configGeneration => 1
  | .queueSelect | .queueSize | .queueEnable | .queueNotifyOff => 2
  | .queueDesc | .queueDriver | .queueDevice => 8

/-- An IO hypercall: a `hyp_io_read` of `size` bytes at a physical address, or a
`hyp_io_write`. -/
inductive HypIoAccess where
  | read (address size : Nat)
  | write (access : HypIoWrite)
deriving DecidableEq, Repr

namespace HypIoRegion
variable (o : Overflow) (w : Nat)

/-- `read::<T>(offset)` of a `T` of `sizeOfT` bytes: the access must lie in the region; the
address and size of the `hyp_io_read` it makes. -/
def read (r : HypIoRegion) (offset sizeOfT : Nat) : Except Fault (Nat × Nat) := do
  let accessEnd ← overflowed (o.fit w (offset + sizeOfT))
  assert (decide (accessEnd ≤ r.size))
  assert (decide (sizeOfT ≤ HYP_IO_MAX))
  pure (← overflowed (o.fit w (r.paddr + offset)), sizeOfT)

theorem read_of_le {r : HypIoRegion} {offset sizeOfT : Nat} (hend : offset + sizeOfT ≤ r.size)
    (hmax : sizeOfT ≤ HYP_IO_MAX) (hfit : offset + sizeOfT < 2 ^ w)
    (haddr : r.paddr + offset < 2 ^ w) :
    r.read o w offset sizeOfT = .ok (r.paddr + offset, sizeOfT) := by
  simp [read, o.fit_of_lt hfit, o.fit_of_lt haddr, overflowed_some, assert, hend, hmax]

theorem write_of_le {r : HypIoRegion} {offset sizeOfT data : Nat} (hend : offset + sizeOfT ≤ r.size)
    (hmax : sizeOfT ≤ HYP_IO_MAX) (hfit : offset + sizeOfT < 2 ^ w)
    (haddr : r.paddr + offset < 2 ^ w) :
    r.write o w offset sizeOfT data = .ok ⟨r.paddr + offset, sizeOfT, data⟩ := by
  simp [write, o.fit_of_lt hfit, o.fit_of_lt haddr, overflowed_some, assert, hend, hmax]

end HypIoRegion

namespace PciRoot
variable (o : Overflow) (cs : ConfigSpace) (df : DeviceFunction) (w : Nat)

theorem checkBarRegion_covers (sizeOfT : Nat) (structInfo : VirtioCapabilityInfo) :
    EStateM.Ensures (fun r => ∀ a, r = .ok a → sizeOfT ≤ structInfo.length.toNat)
      (checkBarRegion o cs df sizeOfT structInfo) := by
  unfold checkBarRegion
  refine .bind (.trivial _) fun bar _ => ?_
  rcases bar with e | barInfo
  · exact .pure (by simp)
  · dsimp only
    split
    · split
      · exact .pure (by simp)
      · refine .ofExcept_bind fun regionEnd _ => ?_
        split
        · exact .pure (by simp)
        · exact .pure (by rintro a -; omega)
    · exact .pure (by simp)

theorem hypGetBarRegion_covers (sizeOfT alignOfT : Nat) (structInfo : VirtioCapabilityInfo) :
    EStateM.Ensures (fun r => ∀ region, r = .ok region → sizeOfT ≤ region.size)
      (hypGetBarRegion o cs df w sizeOfT alignOfT structInfo) := by
  unfold hypGetBarRegion
  refine .bind (checkBarRegion_covers o cs df sizeOfT structInfo) fun bar hbar => ?_
  rcases bar with e | barAddress
  · exact .pure (by simp)
  · refine .ofExcept_bind fun paddr _ => ?_
    split
    · exact .pure (by simp)
    · exact .pure (by rintro region ⟨⟩; exact hbar barAddress rfl)

end PciRoot

/-- The sizes `HypPciTransport::new` checks of its regions: each covers the type it is accessed
as, `CommonCfg`, the `u16` entries of the notify region, the `u8` of the ISR status and the
`u32` words of the config space. -/
structure HypPciTransport.Sized (t : HypPciTransport) : Prop where
  commonCfg : COMMON_CFG_SIZE ≤ t.commonCfg.size
  notifyRegion : 2 ≤ t.notifyRegion.size
  isrStatus : 1 ≤ t.isrStatus.size
  configSpace : ∀ r ∈ t.configSpace, 4 ≤ r.size

theorem HypPciTransport.new_sized (o : Overflow) (w : Nat) (cs : ConfigSpace) (fuel : Nat)
    (df : DeviceFunction) :
    EStateM.Ensures (fun r => ∀ t, r = .ok t → t.Sized) (HypPciTransport.new o w cs fuel df) := by
  unfold HypPciTransport.new
  refine .bind (.trivial _) fun found _ => ?_
  rcases found with e | ⟨deviceId, found⟩
  · exact .pure (by simp)
  dsimp only
  split
  swap
  · exact .pure (by simp)
  rename_i commonInfo _
  refine .bind (PciRoot.hypGetBarRegion_covers o cs df w _ _ commonInfo) fun common hcommon => ?_
  rcases common with e | commonCfg
  · exact .pure (by simp)
  dsimp only
  split
  swap
  · exact .pure (by simp)
  rename_i notifyCfg _
  split
  · exact .pure (by simp)
  refine .bind (PciRoot.hypGetBarRegion_covers o cs df w _ _ notifyCfg) fun notify hnotify => ?_
  rcases notify with e | notifyRegion
  · exact .pure (by simp)
  dsimp only
  split
  swap
  · exact .pure (by simp)
  rename_i isrInfo _
  refine .bind (PciRoot.hypGetBarRegion_covers o cs df w _ _ isrInfo) fun isr hisr => ?_
  rcases isr with e | isrStatus
  · exact .pure (by simp)
  dsimp only
  split
  · exact .pure (by
      rintro t ⟨⟩
      exact ⟨hcommon _ rfl, hnotify _ rfl, hisr _ rfl, by simp⟩)
  rename_i deviceCfg _
  refine .bind (PciRoot.hypGetBarRegion_covers o cs df w _ _ deviceCfg) fun config hconfig => ?_
  rcases config with e | configSpace
  · exact .pure (by simp)
  · exact .pure (by
      rintro t ⟨⟩
      exact ⟨hcommon _ rfl, hnotify _ rfl, hisr _ rfl, by simpa using hconfig _ rfl⟩)

namespace HypPciTransport.Impl
variable (dev : List HypIoAccess → Nat → Nat → UInt64) (o : Overflow) (w : Nat)

/-- A read through a region: the hypervisor answers from the hypercalls made before. -/
def ioRead (r : HypIoRegion) (offset sizeOfT : Nat) : EStateM Fault (List HypIoAccess) UInt64 := do
  let (address, size) ← MonadExcept.ofExcept (r.read o w offset sizeOfT)
  fun log => .ok (dev log address size) (log ++ [.read address size])

/-- A write through a region. -/
def ioWrite (r : HypIoRegion) (offset sizeOfT data : Nat) : EStateM Fault (List HypIoAccess) Unit := do
  let access ← MonadExcept.ofExcept (r.write o w offset sizeOfT data)
  modify (· ++ [.write access])

/-- `configread!(common_cfg, field)` at a type of `sizeOfT` bytes. -/
def configread (t : HypPciTransport) (f : CommonField) (sizeOfT : Nat) :
    EStateM Fault (List HypIoAccess) UInt64 :=
  ioRead dev o w t.commonCfg f.offset sizeOfT

/-- `configwrite!(common_cfg, field, value)` of a value of `sizeOfT` bytes. -/
def configwrite (t : HypPciTransport) (f : CommonField) (sizeOfT value : Nat) :
    EStateM Fault (List HypIoAccess) Unit :=
  ioWrite o w t.commonCfg f.offset sizeOfT value

variable (t : HypPciTransport)

def readDeviceFeatures : EStateM Fault (List HypIoAccess) UInt64 := do
  configwrite o w t .deviceFeatureSelect 4 0
  let deviceFeaturesLow := (← configread dev o w t .deviceFeature 4).toUInt32
  configwrite o w t .deviceFeatureSelect 4 1
  let deviceFeaturesHigh := (← configread dev o w t .deviceFeature 4).toUInt32
  pure (deviceFeaturesHigh.toUInt64 <<< 32 ||| deviceFeaturesLow.toUInt64)

def writeDriverFeatures (driverFeatures : UInt64) : EStateM Fault (List HypIoAccess) Unit := do
  configwrite o w t .driverFeatureSelect 4 0
  configwrite o w t .driverFeature 4 driverFeatures.toUInt32.toNat
  configwrite o w t .driverFeatureSelect 4 1
  configwrite o w t .driverFeature 4 (driverFeatures >>> 32).toUInt32.toNat

def maxQueueSize (queue : UInt16) : EStateM Fault (List HypIoAccess) UInt32 := do
  configwrite o w t .queueSelect 2 queue.toNat
  let queueSize := (← configread dev o w t .queueSize 2).toUInt16
  pure queueSize.toUInt32

/-- `notify`: the queue is selected, its notify offset read, and the queue written to the
notify region at that offset times the multiplier. -/
def notify (queue : UInt16) : EStateM Fault (List HypIoAccess) Unit := do
  configwrite o w t .queueSelect 2 queue.toNat
  let queueNotifyOff := (← configread dev o w t .queueNotifyOff 2).toUInt16
  let access ← MonadExcept.ofExcept (HypPciTransport.notify o w t queueNotifyOff queue)
  modify (· ++ [.write access])

def getStatus : EStateM Fault (List HypIoAccess) DeviceStatus := do
  let status := (← configread dev o w t .deviceStatus 1).toUInt8
  pure (DeviceStatus.fromBitsTruncate status.toUInt32)

def setStatus (status : DeviceStatus) : EStateM Fault (List HypIoAccess) Unit :=
  configwrite o w t .deviceStatus 1 status.bits.toUInt8.toNat

/-- `queue_set`: the size is written as a `u16`, each address as a `u64`. -/
def queueSet (queue : UInt16) (size : UInt32) (descriptors driverArea deviceArea : Nat) :
    EStateM Fault (List HypIoAccess) Unit := do
  configwrite o w t .queueSelect 2 queue.toNat
  configwrite o w t .queueSize 2 size.toUInt16.toNat
  configwrite o w t .queueDesc 8 (UInt64.ofNat descriptors).toNat
  configwrite o w t .queueDriver 8 (UInt64.ofNat driverArea).toNat
  configwrite o w t .queueDevice 8 (UInt64.ofNat deviceArea).toNat
  configwrite o w t .queueEnable 2 1

def queueUsed (queue : UInt16) : EStateM Fault (List HypIoAccess) Bool := do
  configwrite o w t .queueSelect 2 queue.toNat
  let queueEnable := (← configread dev o w t .queueEnable 2).toUInt16
  pure (queueEnable == 1)

def ackInterrupt : EStateM Fault (List HypIoAccess) Bool := do
  let isrStatus := (← ioRead dev o w t.isrStatus 0 1).toUInt8
  pure (isrStatus &&& 0x3 != 0)

/-- `read_config_generation`: `configread!` at the `u32` the method returns, four bytes from
the offset of the one-byte `config_generation`. -/
def readConfigGeneration : EStateM Fault (List HypIoAccess) UInt32 := do
  pure (← configread dev o w t .configGeneration 4).toUInt32

/-- The checks of `read_config_space::<T>` and `write_config_space::<T>` for a `T` of
`sizeOfT` bytes aligned to `alignOfT`: the alignment asserts, a config space at all, and the
field within it. Returns the config space. -/
def checkConfigAccess (sizeOfT alignOfT offset : Nat) : Except Fault (Except Error HypIoRegion) := do
  assert (decide (alignOfT ≤ 4))
  assert (offset % alignOfT == 0)
  match t.configSpace with
  | none => pure (.error .configSpaceMissing)
  | some configSpace =>
    if configSpace.size < (← overflowed (o.fit w (offset + sizeOfT))) then
      return .error .configSpaceTooSmall
    pure (.ok configSpace)

/-- `read_config_space::<T>(offset)`: the value is the first `sizeOfT` bytes of what the
hypercall returns. -/
def readConfigSpace (sizeOfT alignOfT offset : Nat) :
    EStateM Fault (List HypIoAccess) (Except Error Nat) := do
  match ← MonadExcept.ofExcept (checkConfigAccess o w t sizeOfT alignOfT offset) with
  | .error e => pure (.error e)
  | .ok configSpace =>
    pure (.ok ((← ioRead dev o w configSpace offset sizeOfT).toNat % 2 ^ (8 * sizeOfT)))

def writeConfigSpace (sizeOfT alignOfT offset value : Nat) :
    EStateM Fault (List HypIoAccess) (Except Error Unit) := do
  match ← MonadExcept.ofExcept (checkConfigAccess o w t sizeOfT alignOfT offset) with
  | .error e => pure (.error e)
  | .ok configSpace =>
    ioWrite o w configSpace offset sizeOfT value
    pure (.ok ())

/-- The calls of the `Transport` trait, each as `impl Transport for HypPciTransport` makes it,
with its answer dropped. A config-space access of `size` bytes is of a type aligned to
`alignOf size`. -/
def perform (alignOf : Nat → Nat) : TransportCall → EStateM Fault (List HypIoAccess) Unit
  | .readDeviceFeatures => do let _ ← readDeviceFeatures dev o w t
  | .writeDriverFeatures driverFeatures => writeDriverFeatures o w t driverFeatures
  | .maxQueueSize queue => do let _ ← maxQueueSize dev o w t queue
  | .notify queue => notify dev o w t queue
  | .setStatus status => setStatus o w t status
  -- the PCI transport takes no page size and cannot unset a queue
  | .setGuestPageSize _ => pure ()
  | .requiresLegacyLayout => pure ()
  | .queueSet queue size descriptors driverArea deviceArea =>
    queueSet o w t queue size descriptors driverArea deviceArea
  | .queueUnset _ => pure ()
  | .queueUsed queue => do let _ ← queueUsed dev o w t queue
  | .ackInterrupt => do let _ ← ackInterrupt dev o w t
  | .readConfigGeneration => do let _ ← readConfigGeneration dev o w t
  | .readConfigSpace offset size => do
    let _ ← readConfigSpace dev o w t size (alignOf size) offset
  | .writeConfigSpace offset size value => do
    let _ ← writeConfigSpace o w t size (alignOf size) offset value

end HypPciTransport.Impl

namespace HypPciTransport.Impl
variable {dev : List HypIoAccess → Nat → Nat → UInt64} {o : Overflow} {w : Nat}
  {t : HypPciTransport}

/-- The calls whose hypercalls the sizes `new` checked keep within their regions: all but
`notify`, whose entry is at an offset the device reports, and of the config space only fields
of at most `HYP_IO_MAX` bytes, aligned to at most 4, whose end fits a `usize`. -/
def regionCall (w : Nat) (alignOf : Nat → Nat) : TransportCall → Bool
  | .readConfigSpace offset size | .writeConfigSpace offset size _ =>
    decide (size ≤ HYP_IO_MAX ∧ alignOf size ≤ 4 ∧ offset % alignOf size = 0 ∧ offset + size < 2 ^ w)
  | .notify _ => false
  | .readDeviceFeatures | .writeDriverFeatures _ | .maxQueueSize _ | .setStatus _
  | .setGuestPageSize _ | .requiresLegacyLayout | .queueSet _ _ _ _ _ | .queueUnset _
  | .queueUsed _ | .ackInterrupt | .readConfigGeneration => true

section Returns
variable {r : HypIoRegion} {offset sizeOfT : Nat}

theorem ioRead_of_read {address size : Nat} (h : r.read o w offset sizeOfT = .ok (address, size))
    (log : List HypIoAccess) :
    (ioRead dev o w r offset sizeOfT).run log = .ok (dev log address size) (log ++ [.read address size]) := by
  unfold ioRead
  rw [h]
  rfl

theorem ioWrite_of_write {data : Nat} {access : HypIoWrite}
    (h : r.write o w offset sizeOfT data = .ok access) (log : List HypIoAccess) :
    (ioWrite o w r offset sizeOfT data).run log = .ok () (log ++ [.write access]) := by
  unfold ioWrite
  rw [h]
  rfl

theorem ioRead_run (hend : offset + sizeOfT ≤ r.size) (hmax : sizeOfT ≤ HYP_IO_MAX)
    (hfit : offset + sizeOfT < 2 ^ w) (haddr : r.paddr + offset < 2 ^ w) (log : List HypIoAccess) :
    (ioRead dev o w r offset sizeOfT).run log =
      .ok (dev log (r.paddr + offset) sizeOfT) (log ++ [.read (r.paddr + offset) sizeOfT]) :=
  ioRead_of_read (HypIoRegion.read_of_le o w hend hmax hfit haddr) log

theorem ioWrite_run {data : Nat} (hend : offset + sizeOfT ≤ r.size) (hmax : sizeOfT ≤ HYP_IO_MAX)
    (hfit : offset + sizeOfT < 2 ^ w) (haddr : r.paddr + offset < 2 ^ w) (log : List HypIoAccess) :
    (ioWrite o w r offset sizeOfT data).run log =
      .ok () (log ++ [.write ⟨r.paddr + offset, sizeOfT, data⟩]) :=
  ioWrite_of_write (HypIoRegion.write_of_le o w hend hmax hfit haddr) log

variable (ht : t.Sized) (hcommon : t.commonCfg.paddr + COMMON_CFG_SIZE < 2 ^ w)
include ht hcommon

theorem configread_run {f : CommonField} (hf : f.offset + sizeOfT ≤ COMMON_CFG_SIZE)
    (hmax : sizeOfT ≤ HYP_IO_MAX) (log : List HypIoAccess) :
    (configread dev o w t f sizeOfT).run log =
      .ok (dev log (t.commonCfg.paddr + f.offset) sizeOfT)
        (log ++ [.read (t.commonCfg.paddr + f.offset) sizeOfT]) :=
  ioRead_run (le_trans hf ht.commonCfg) hmax (by omega) (by omega) log

theorem configwrite_run {f : CommonField} {value : Nat} (hf : f.offset + sizeOfT ≤ COMMON_CFG_SIZE)
    (hmax : sizeOfT ≤ HYP_IO_MAX) (log : List HypIoAccess) :
    (configwrite o w t f sizeOfT value).run log =
      .ok () (log ++ [.write ⟨t.commonCfg.paddr + f.offset, sizeOfT, value⟩]) :=
  ioWrite_run (le_trans hf ht.commonCfg) hmax (by omega) (by omega) log

theorem configread_returns {f : CommonField} (hf : f.offset + sizeOfT ≤ COMMON_CFG_SIZE)
    (hmax : sizeOfT ≤ HYP_IO_MAX) : EStateM.Returns (configread dev o w t f sizeOfT) :=
  fun log => ⟨_, _, configread_run ht hcommon hf hmax log⟩

theorem configwrite_returns {f : CommonField} {value : Nat} (hf : f.offset + sizeOfT ≤ COMMON_CFG_SIZE)
    (hmax : sizeOfT ≤ HYP_IO_MAX) : EStateM.Returns (configwrite o w t f sizeOfT value) :=
  fun log => ⟨_, _, configwrite_run ht hcommon hf hmax log⟩

-- each access below is of a field at a type that ends within `CommonCfg`, and at most 8 bytes
theorem readDeviceFeatures_returns : EStateM.Returns (readDeviceFeatures dev o w t) :=
  .bind (configwrite_returns ht hcommon (by decide) (by decide)) fun _ =>
    .bind (configread_returns ht hcommon (by decide) (by decide)) fun _ =>
      .bind (configwrite_returns ht hcommon (by decide) (by decide)) fun _ =>
        .bind (configread_returns ht hcommon (by decide) (by decide)) fun _ => .pure _

theorem writeDriverFeatures_returns (driverFeatures : UInt64) :
    EStateM.Returns (writeDriverFeatures o w t driverFeatures) :=
  .bind (configwrite_returns ht hcommon (by decide) (by decide)) fun _ =>
    .bind (configwrite_returns ht hcommon (by decide) (by decide)) fun _ =>
      .bind (configwrite_returns ht hcommon (by decide) (by decide)) fun _ =>
        configwrite_returns ht hcommon (by decide) (by decide)

theorem maxQueueSize_run (queue : UInt16) (log : List HypIoAccess) :
    (maxQueueSize dev o w t queue).run log =
      .ok (dev (log ++ [.write ⟨t.commonCfg.paddr + 22, 2, queue.toNat⟩]) (t.commonCfg.paddr + 24) 2).toUInt16.toUInt32
        (log ++ [.write ⟨t.commonCfg.paddr + 22, 2, queue.toNat⟩, .read (t.commonCfg.paddr + 24) 2]) := by
  rw [maxQueueSize]
  refine (EStateM.run_bind_of_ok (configwrite_run ht hcommon (by decide) (by decide) log)).trans ?_
  refine (EStateM.run_bind_of_ok (configread_run ht hcommon (by decide) (by decide) _)).trans ?_
  simp [CommonField.offset]

theorem maxQueueSize_returns (queue : UInt16) : EStateM.Returns (maxQueueSize dev o w t queue) :=
  fun log => ⟨_, _, maxQueueSize_run ht hcommon queue log⟩

theorem setStatus_returns (status : DeviceStatus) : EStateM.Returns (setStatus o w t status) :=
  configwrite_returns ht hcommon (by decide) (by decide)

/-- `queue_set` selects the queue, then writes its size, its three addresses and its enable,
each at the field's own width. -/
theorem queueSet_run (queue : UInt16) (size : UInt32) (descriptors driverArea deviceArea : Nat)
    (log : List HypIoAccess) :
    (queueSet o w t queue size descriptors driverArea deviceArea).run log =
      .ok () (log ++ [.write ⟨t.commonCfg.paddr + 22, 2, queue.toNat⟩,
        .write ⟨t.commonCfg.paddr + 24, 2, size.toUInt16.toNat⟩,
        .write ⟨t.commonCfg.paddr + 32, 8, (UInt64.ofNat descriptors).toNat⟩,
        .write ⟨t.commonCfg.paddr + 40, 8, (UInt64.ofNat driverArea).toNat⟩,
        .write ⟨t.commonCfg.paddr + 48, 8, (UInt64.ofNat deviceArea).toNat⟩,
        .write ⟨t.commonCfg.paddr + 28, 2, 1⟩]) := by
  rw [queueSet]
  refine (EStateM.run_bind_of_ok (configwrite_run ht hcommon (by decide) (by decide) log)).trans ?_
  refine (EStateM.run_bind_of_ok (configwrite_run ht hcommon (by decide) (by decide) _)).trans ?_
  refine (EStateM.run_bind_of_ok (configwrite_run ht hcommon (by decide) (by decide) _)).trans ?_
  refine (EStateM.run_bind_of_ok (configwrite_run ht hcommon (by decide) (by decide) _)).trans ?_
  refine (EStateM.run_bind_of_ok (configwrite_run ht hcommon (by decide) (by decide) _)).trans ?_
  refine (configwrite_run ht hcommon (by decide) (by decide) _).trans ?_
  simp [CommonField.offset]

theorem queueSet_returns (queue : UInt16) (size : UInt32) (descriptors driverArea deviceArea : Nat) :
    EStateM.Returns (queueSet o w t queue size descriptors driverArea deviceArea) :=
  fun log => ⟨_, _, queueSet_run ht hcommon queue size descriptors driverArea deviceArea log⟩

theorem queueUsed_run (queue : UInt16) (log : List HypIoAccess) :
    (queueUsed dev o w t queue).run log =
      .ok ((dev (log ++ [.write ⟨t.commonCfg.paddr + 22, 2, queue.toNat⟩]) (t.commonCfg.paddr + 28) 2).toUInt16 == 1)
        (log ++ [.write ⟨t.commonCfg.paddr + 22, 2, queue.toNat⟩, .read (t.commonCfg.paddr + 28) 2]) := by
  rw [queueUsed]
  refine (EStateM.run_bind_of_ok (configwrite_run ht hcommon (by decide) (by decide) log)).trans ?_
  refine (EStateM.run_bind_of_ok (configread_run ht hcommon (by decide) (by decide) _)).trans ?_
  simp [CommonField.offset]

theorem queueUsed_returns (queue : UInt16) : EStateM.Returns (queueUsed dev o w t queue) :=
  fun log => ⟨_, _, queueUsed_run ht hcommon queue log⟩

theorem readConfigGeneration_returns : EStateM.Returns (readConfigGeneration dev o w t) :=
  .bind (configread_returns ht hcommon (by decide) (by decide)) fun _ => .pure _

omit hcommon in
theorem ackInterrupt_returns (hisr : t.isrStatus.paddr + 1 < 2 ^ w) :
    EStateM.Returns (ackInterrupt dev o w t) :=
  .bind (fun log => ⟨_, _, ioRead_run ht.isrStatus (by decide) (by omega) (by omega) log⟩) fun _ =>
    .pure _

omit ht hcommon in
/-- The checks of an aligned config field whose end fits a `usize`: a config space at all, and
the field within it. -/
theorem checkConfigAccess_of_fit {alignOfT : Nat} (halign : alignOfT ≤ 4)
    (hoff : offset % alignOfT = 0) (hfit : offset + sizeOfT < 2 ^ w) :
    checkConfigAccess o w t sizeOfT alignOfT offset =
      .ok (match t.configSpace with
        | none => .error .configSpaceMissing
        | some r => if r.size < offset + sizeOfT then .error .configSpaceTooSmall else .ok r) := by
  unfold checkConfigAccess
  cases t.configSpace with
  | none => simp [assert, halign, hoff]
  | some r =>
    simp only [assert, halign, hoff, o.fit_of_lt hfit, overflowed_some]
    by_cases hlt : r.size < offset + sizeOfT <;> simp [hlt]

omit ht hcommon in
theorem readConfigSpace_returns {alignOfT : Nat}
    (hconfig : ∀ r ∈ t.configSpace, r.paddr + r.size < 2 ^ w) (hmax : sizeOfT ≤ HYP_IO_MAX)
    (halign : alignOfT ≤ 4) (hoff : offset % alignOfT = 0) (hfit : offset + sizeOfT < 2 ^ w) :
    EStateM.Returns (readConfigSpace dev o w t sizeOfT alignOfT offset) := by
  unfold readConfigSpace
  refine .ofExcept_bind (checkConfigAccess_of_fit halign hoff hfit) ?_
  cases hc : t.configSpace with
  | none => exact .pure _
  | some r =>
    have hr := hconfig r (by simp [hc])
    by_cases hlt : r.size < offset + sizeOfT
    · simp only [hlt, if_true]
      exact .pure _
    · simp only [hlt, if_false]
      exact .bind (fun log => ⟨_, _, ioRead_run (by omega) hmax hfit (by omega) log⟩) fun _ => .pure _

omit ht hcommon in
theorem writeConfigSpace_returns {alignOfT value : Nat}
    (hconfig : ∀ r ∈ t.configSpace, r.paddr + r.size < 2 ^ w) (hmax : sizeOfT ≤ HYP_IO_MAX)
    (halign : alignOfT ≤ 4) (hoff : offset % alignOfT = 0) (hfit : offset + sizeOfT < 2 ^ w) :
    EStateM.Returns (writeConfigSpace o w t sizeOfT alignOfT offset value) := by
  unfold writeConfigSpace
  refine .ofExcept_bind (checkConfigAccess_of_fit halign hoff hfit) ?_
  cases hc : t.configSpace with
  | none => exact .pure _
  | some r =>
    have hr := hconfig r (by simp [hc])
    by_cases hlt : r.size < offset + sizeOfT
    · simp only [hlt, if_true]
      exact .pure _
    · simp only [hlt, if_false]
      exact .bind (fun log => ⟨_, _, ioWrite_run (by omega) hmax hfit (by omega) log⟩) fun _ => .pure _

end Returns

/-- On a sized transport whose regions end below the top of a `usize`, every call whose
hypercalls the checked sizes bound returns, in any build, whatever the device answers. -/
theorem perform_returns (ht : t.Sized) (hcommon : t.commonCfg.paddr + COMMON_CFG_SIZE < 2 ^ w)
    (hisr : t.isrStatus.paddr + 1 < 2 ^ w) (hconfig : ∀ r ∈ t.configSpace, r.paddr + r.size < 2 ^ w)
    {alignOf : Nat → Nat} {c : TransportCall} (hc : regionCall w alignOf c = true) :
    EStateM.Returns (perform dev o w t alignOf c) := by
  cases c with
  | readDeviceFeatures => exact .bind (readDeviceFeatures_returns ht hcommon) fun _ => .pure _
  | writeDriverFeatures driverFeatures => exact writeDriverFeatures_returns ht hcommon driverFeatures
  | maxQueueSize queue => exact .bind (maxQueueSize_returns ht hcommon queue) fun _ => .pure _
  | notify queue => simp [regionCall] at hc
  | setStatus status => exact setStatus_returns ht hcommon status
  | setGuestPageSize _ | requiresLegacyLayout | queueUnset _ => exact .pure _
  | queueSet queue size descriptors driverArea deviceArea =>
    exact queueSet_returns ht hcommon queue size descriptors driverArea deviceArea
  | queueUsed queue => exact .bind (queueUsed_returns ht hcommon queue) fun _ => .pure _
  | ackInterrupt => exact .bind (ackInterrupt_returns ht hisr) fun _ => .pure _
  | readConfigGeneration => exact .bind (readConfigGeneration_returns ht hcommon) fun _ => .pure _
  | readConfigSpace offset size =>
    simp only [regionCall, decide_eq_true_eq] at hc
    obtain ⟨hmax, halign, hoff, hfit⟩ := hc
    exact .bind (readConfigSpace_returns hconfig hmax halign hoff hfit) fun _ => .pure _
  | writeConfigSpace offset size value =>
    simp only [regionCall, decide_eq_true_eq] at hc
    obtain ⟨hmax, halign, hoff, hfit⟩ := hc
    exact .bind (writeConfigSpace_returns hconfig hmax halign hoff hfit) fun _ => .pure _

/-- On a transport `HypPciTransport::new` built, whose regions end below the top of a `usize`,
every run of calls whose hypercalls the checked sizes bound goes through, in any build and
whatever the device answers: no assert of a region fires and no address overflows. -/
theorem calls_return_after_new {cs : ConfigSpace} {fuel : Nat} {df : DeviceFunction}
    {s s' : List ConfigWrite} (hnew : (HypPciTransport.new o w cs fuel df).run s = .ok (.ok t) s')
    (hcommon : t.commonCfg.paddr + COMMON_CFG_SIZE < 2 ^ w) (hisr : t.isrStatus.paddr + 1 < 2 ^ w)
    (hconfig : ∀ r ∈ t.configSpace, r.paddr + r.size < 2 ^ w) {alignOf : Nat → Nat}
    {calls : List TransportCall} (hcalls : ∀ c ∈ calls, regionCall w alignOf c = true)
    (log : List HypIoAccess) : ∃ log', EStateM.Runs (perform dev o w t alignOf) log calls log' := by
  have ht : t.Sized := HypPciTransport.new_sized o w cs fuel df s _ s' hnew t rfl
  refine EStateM.Runs.of_returns (fun c hc log₁ => ?_) log
  obtain ⟨⟨⟩, log₂, hrun⟩ := perform_returns ht hcommon hisr hconfig (hcalls c hc) log₁
  exact ⟨log₂, hrun⟩

/-- A device with common, notify and ISR capabilities in a 4 KiB memory BAR at `0x10000000`:
`new` builds its transport, and a run of calls on it goes through. -/
theorem calls_return_after_new_on_device :
    let cs : ConfigSpace := ⟨fun log _ register =>
      if register = 0x00 then 0x10411af4
      else if register = 0x04 then 0x00100000
      else if register = 0x10 then
        (if log.getLast? = some ⟨⟨0, 1, 0⟩, 0x10, 0xffffffff⟩ then 0xfffff000 else 0x10000000)
      else if register = 0x34 then 0x40
      else if register = 0x40 then 0x01105009
      else if register = 0x4c then 56
      else if register = 0x50 then 0x02146809
      else if register = 0x58 then 0x100
      else if register = 0x5c then 4
      else if register = 0x68 then 0x03100009
      else if register = 0x70 then 0x200
      else if register = 0x74 then 1
      else 0⟩
    let t : HypPciTransport :=
      ⟨0x1041, ⟨0, 1, 0⟩, ⟨0x10000000, 56⟩, ⟨0x10000100, 4⟩, 0, ⟨0x10000200, 1⟩, none⟩
    (∃ s', (HypPciTransport.new .panics 64 cs 4 ⟨0, 1, 0⟩).run [] = .ok (.ok t) s') ∧
    ∃ log', EStateM.Runs (perform (fun _ _ _ => 0) .panics 64 t (fun _ => 1)) []
      [.readDeviceFeatures, .setStatus ⟨1⟩, .queueSet 0 16 0x4000 0x5000 0x6000, .queueUsed 0,
        .readConfigGeneration, .readConfigSpace 0 4, .ackInterrupt] log' := by
  intro cs t
  have hnew : (HypPciTransport.new .panics 64 cs 4 ⟨0, 1, 0⟩).run [] =
      .ok (.ok t) [⟨⟨0, 1, 0⟩, 0x10, 0xffffffff⟩, ⟨⟨0, 1, 0⟩, 0x10, 0x10000000⟩,
        ⟨⟨0, 1, 0⟩, 0x10, 0xffffffff⟩, ⟨⟨0, 1, 0⟩, 0x10, 0x10000000⟩,
        ⟨⟨0, 1, 0⟩, 0x10, 0xffffffff⟩, ⟨⟨0, 1, 0⟩, 0x10, 0x10000000⟩] := by
    unfold cs
    rfl
  exact ⟨⟨_, hnew⟩, calls_return_after_new hnew (by decide) (by decide) (by simp [t])
    (by decide) []⟩

/-- In a release build, `read_config_space` and `write_config_space` of a byte array of `n`
bytes, at most `HYP_IO_MAX`, at the offset `usize::MAX + 1 - n` pass the check of the config
space, since the end of the field wraps to zero, and so does the region's own assert: the
hypercall is made at the `n` bytes just before the config space. -/
theorem configSpace_access_wraps_before (dev : List HypIoAccess → Nat → Nat → UInt64)
    {t : HypPciTransport} {r : HypIoRegion} (hc : t.configSpace = some r) {n : Nat} (hpos : 0 < n)
    (hmax : n ≤ HYP_IO_MAX) (hbefore : n ≤ r.paddr) (hp : r.paddr < 2 ^ w) (value : Nat)
    (log : List HypIoAccess) :
    (readConfigSpace dev .wraps w t n 1 (2 ^ w - n)).run log =
      .ok (.ok ((dev log (r.paddr - n) n).toNat % 2 ^ (8 * n))) (log ++ [.read (r.paddr - n) n]) ∧
    (writeConfigSpace .wraps w t n 1 (2 ^ w - n) value).run log =
      .ok (.ok ()) (log ++ [.write ⟨r.paddr - n, n, value⟩]) := by
  -- the end of the field wraps to zero, and the address to the bytes before the region
  have hend : (2 ^ w - n + n) % 2 ^ w = 0 := by
    rw [Nat.sub_add_cancel (by omega), Nat.mod_self]
  have haddr : (r.paddr + (2 ^ w - n)) % 2 ^ w = r.paddr - n := by
    have hsplit : r.paddr + (2 ^ w - n) = r.paddr - n + 2 ^ w := by omega
    rw [hsplit, Nat.add_mod_right, Nat.mod_eq_of_lt (by omega)]
  have hcheck : checkConfigAccess .wraps w t n 1 (2 ^ w - n) = .ok (.ok r) := by
    simp [checkConfigAccess, hc, assert, Overflow.fit_wraps, hend, overflowed_some, Nat.mod_one]
  have hread : r.read .wraps w (2 ^ w - n) n = .ok (r.paddr - n, n) := by
    simp [HypIoRegion.read, Overflow.fit_wraps, hend, haddr, overflowed_some, assert, hmax]
  have hwrite : r.write .wraps w (2 ^ w - n) n value = .ok ⟨r.paddr - n, n, value⟩ := by
    simp [HypIoRegion.write, Overflow.fit_wraps, hend, haddr, overflowed_some, assert, hmax]
  constructor
  · rw [readConfigSpace, hcheck, EStateM.run_bind_of_ok (EStateM.run_ofExcept_ok _ log)]
    exact EStateM.run_bind_of_ok (ioRead_of_read hread log)
  · rw [writeConfigSpace, hcheck, EStateM.run_bind_of_ok (EStateM.run_ofExcept_ok _ log)]
    exact EStateM.run_bind_of_ok (ioWrite_of_write hwrite log)

/-- A four-byte field at `usize::MAX - 3` of a 64-bit release build, on a config space at
`0x10000300`: both accesses are made at `0x100002fc`, the four bytes before it. -/
theorem configSpace_access_wraps_before_u32 :
    let t : HypPciTransport :=
      ⟨0x1041, ⟨0, 1, 0⟩, ⟨0x10000000, 56⟩, ⟨0x10000100, 4⟩, 0, ⟨0x10000200, 1⟩,
        some ⟨0x10000300, 16⟩⟩
    (readConfigSpace (fun _ _ _ => 0) .wraps 64 t 4 1 (2 ^ 64 - 4)).run [] =
      .ok (.ok 0) [.read 0x100002fc 4] ∧
    (writeConfigSpace .wraps 64 t 4 1 (2 ^ 64 - 4) 7).run [] =
      .ok (.ok ()) [.write ⟨0x100002fc, 4, 7⟩] := by
  intro t
  exact configSpace_access_wraps_before (w := 64) (t := t) (r := ⟨0x10000300, 16⟩) (n := 4)
    (fun _ _ _ => 0) rfl (by decide)
    (by decide) (by decide) (by decide) 7 []

end HypPciTransport.Impl
end VirtioDrivers
