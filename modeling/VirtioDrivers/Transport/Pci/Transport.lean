import VirtioDrivers.Transport.Pci.Bus

/-! The VirtIO PCI transports (`transport/pci.rs`, and the x86-64 pKVM one of
`transport/x86_64.rs`). `new` reads the device's vendor-specific capabilities from its
configuration space and finds, for each structure it needs, the BAR region the
capability names; both transports run the same capability loop and differ in how a
region is kept: a mapped pointer, or a physical range reached by hypercalls. A region is
checked against the BAR's size with `u32` arithmetic and located with `usize`
arithmetic; `usize` is `w` bits wide. `notify` writes at an offset computed from a value
the device reports on each call. -/
namespace VirtioDrivers
open Pci

namespace Pci

def VIRTIO_VENDOR_ID : UInt16 := 0x1af4

/-- The offsets of the fields of `virtio_pci_cap` and of `notify_off_multiplier`. -/
def CAP_BAR_OFFSET : UInt8 := 4
def CAP_BAR_OFFSET_OFFSET : UInt8 := 8
def CAP_LENGTH_OFFSET : UInt8 := 12
def CAP_NOTIFY_OFF_MULTIPLIER_OFFSET : UInt8 := 16

def VIRTIO_PCI_CAP_COMMON_CFG : UInt8 := 1
def VIRTIO_PCI_CAP_NOTIFY_CFG : UInt8 := 2
def VIRTIO_PCI_CAP_ISR_CFG : UInt8 := 3
def VIRTIO_PCI_CAP_DEVICE_CFG : UInt8 := 4

/-- `size_of` and `align_of` of `CommonCfg`: four `u32`s, nine `u16` and `u8` fields
ending at byte 32, and three `u64`s. -/
def COMMON_CFG_SIZE : Nat := 56
def COMMON_CFG_ALIGN : Nat := 8

/-- `HYP_IO_MAX`: the widest access a hypercall makes. -/
def HYP_IO_MAX : Nat := 8

end Pci

inductive VirtioPciError where
  | invalidVendorId (vendorId : UInt16)
  | missingCommonConfig
  | missingNotifyConfig
  | invalidNotifyOffMultiplier (multiplier : UInt32)
  | missingIsrConfig
  | unexpectedIoBar
  | barNotAllocated (bar : UInt8)
  | barOffsetOutOfRange
  | misaligned (address alignment : Nat)
  | pci (e : PciError)
deriving DecidableEq, Repr

/-- `VirtioCapabilityInfo`: where a structure lies, as its capability says. -/
structure VirtioCapabilityInfo where
  bar : UInt8
  offset : UInt32
  length : UInt32
deriving DecidableEq, Repr

/-- The capabilities the loop of `new` keeps: the first usable one of each type, and the
notify multiplier read with the notify capability. -/
structure FoundCapabilities where
  commonCfg : Option VirtioCapabilityInfo
  notifyCfg : Option VirtioCapabilityInfo
  notifyOffMultiplier : UInt32
  isrCfg : Option VirtioCapabilityInfo
  deviceCfg : Option VirtioCapabilityInfo
deriving DecidableEq, Repr

/-- Before the loop. -/
def FoundCapabilities.none : FoundCapabilities := ⟨.none, .none, 0, .none, .none⟩

namespace PciRoot
variable (o : Overflow) (cs : ConfigSpace) (df : DeviceFunction)

/-- The body of the capability loop of `new` for one capability: a vendor capability of
at least 16 bytes has its `bar`, `offset` and `length` read, and is kept if it is the
first of its type. A notify capability must also be 20 bytes long. -/
def visitCapability (found : FoundCapabilities) (capability : CapabilityInfo) :
    EStateM Fault (List ConfigWrite) FoundCapabilities := do
  if capability.id ≠ PCI_CAP_ID_VNDR then return found
  let capLen := capability.privateHeader.toUInt8
  let cfgType := (capability.privateHeader >>> 8).toUInt8
  if capLen < 16 then return found
  let bar := (← readWord cs df (← MonadExcept.ofExcept (addU8 o capability.offset CAP_BAR_OFFSET))).toUInt8
  let offset ← readWord cs df (← MonadExcept.ofExcept (addU8 o capability.offset CAP_BAR_OFFSET_OFFSET))
  let length ← readWord cs df (← MonadExcept.ofExcept (addU8 o capability.offset CAP_LENGTH_OFFSET))
  let structInfo : VirtioCapabilityInfo := ⟨bar, offset, length⟩
  if cfgType = VIRTIO_PCI_CAP_COMMON_CFG ∧ found.commonCfg.isNone then
    pure { found with commonCfg := some structInfo }
  else if cfgType = VIRTIO_PCI_CAP_NOTIFY_CFG ∧ 20 ≤ capLen ∧ found.notifyCfg.isNone then
    let notifyOffMultiplier ←
      readWord cs df (← MonadExcept.ofExcept (addU8 o capability.offset CAP_NOTIFY_OFF_MULTIPLIER_OFFSET))
    pure { found with notifyCfg := some structInfo, notifyOffMultiplier := notifyOffMultiplier }
  else if cfgType = VIRTIO_PCI_CAP_ISR_CFG ∧ found.isrCfg.isNone then
    pure { found with isrCfg := some structInfo }
  else if cfgType = VIRTIO_PCI_CAP_DEVICE_CFG ∧ found.deviceCfg.isNone then
    pure { found with deviceCfg := some structInfo }
  else pure found

/-- The loop `for capability in root.capabilities(device_function)` of `new`, from the
iterator's next offset. It ends only when the device's list does, so it runs on `fuel`. -/
def scanCapabilities : Nat → Option UInt8 → FoundCapabilities →
    EStateM Fault (List ConfigWrite) FoundCapabilities
  | 0, _, _ => throw .stuck
  | fuel + 1, next, found => do
    match ← capabilityNext cs df next with
    | none => pure found
    | some (capability, next) =>
      scanCapabilities fuel next (← visitCapability o cs df found capability)

/-- The part of `new` both PCI transports run: the vendor check, and the capability loop.
Returns the PCI device id, from which the device type is read. -/
def findCapabilities (fuel : Nat) :
    EStateM Fault (List ConfigWrite) (Except VirtioPciError (UInt16 × FoundCapabilities)) := do
  let deviceVendor ← readWord cs df 0
  let deviceId := (deviceVendor >>> 16).toUInt16
  let vendorId := deviceVendor.toUInt16
  if vendorId ≠ VIRTIO_VENDOR_ID then return .error (.invalidVendorId vendorId)
  let found ← scanCapabilities o cs df fuel (← capabilities cs df) FoundCapabilities.none
  pure (.ok (deviceId, found))

/-- The checks both `get_bar_region`s make on a structure of `sizeOfT` bytes: its BAR is
an allocated memory BAR, and `offset + length`, added in `u32`, is within the BAR and
covers the structure. Returns the BAR's address. -/
def checkBarRegion (sizeOfT : Nat) (structInfo : VirtioCapabilityInfo) :
    EStateM Fault (List ConfigWrite) (Except VirtioPciError UInt64) := do
  match ← barInfo cs df o structInfo.bar with
  | .error e => pure (.error (.pci e))
  | .ok barInfo =>
    let some (barAddress, barSize) := barInfo.memoryAddressSize
      | pure (.error .unexpectedIoBar)
    if barAddress = 0 then return .error (.barNotAllocated structInfo.bar)
    let regionEnd ← MonadExcept.ofExcept (overflowed (o.add structInfo.offset structInfo.length))
    if barSize < regionEnd ∨ structInfo.length.toNat < sizeOfT then
      return .error .barOffsetOutOfRange
    pure (.ok barAddress)

variable (w : Nat) (mmioPhysToVirt : Nat → Nat → Nat)

/-- `get_bar_region::<H, T, _>` (`pci.rs`) for a `T` of `sizeOfT` bytes aligned to
`alignOfT`: the address `H::mmio_phys_to_virt` maps the region to. -/
def getBarRegion (sizeOfT alignOfT : Nat) (structInfo : VirtioCapabilityInfo) :
    EStateM Fault (List ConfigWrite) (Except VirtioPciError Nat) := do
  match ← checkBarRegion o cs df sizeOfT structInfo with
  | .error e => pure (.error e)
  | .ok barAddress =>
    -- `bar_address as PhysAddr` keeps the low `w` bits of the `u64`
    let paddr ← MonadExcept.ofExcept
      (overflowed (o.fit w (barAddress.toNat % 2 ^ w + structInfo.offset.toNat)))
    let vaddr := mmioPhysToVirt paddr structInfo.length.toNat
    if vaddr % alignOfT ≠ 0 then return .error (.misaligned vaddr alignOfT)
    pure (.ok vaddr)

/-- `get_bar_region_slice::<H, T, _>`: the region as a slice of `length / size_of::<T>()`
entries. -/
def getBarRegionSlice (sizeOfT alignOfT : Nat) (structInfo : VirtioCapabilityInfo) :
    EStateM Fault (List ConfigWrite) (Except VirtioPciError (Nat × Nat)) := do
  match ← getBarRegion o cs df w mmioPhysToVirt sizeOfT alignOfT structInfo with
  | .error e => pure (.error e)
  | .ok ptr => pure (.ok (ptr, structInfo.length.toNat / sizeOfT))

end PciRoot

/-- `PciTransport`: the device id for `device_type`, and the structures of the device as
the driver reaches them, a slice as its start and number of entries. -/
structure PciTransport where
  deviceType : UInt16
  deviceFunction : DeviceFunction
  commonCfg : Nat
  notifyRegion : Nat × Nat
  notifyOffMultiplier : UInt32
  isrStatus : Nat
  configSpace : Option (Nat × Nat)
deriving DecidableEq, Repr

namespace PciTransport
open PciRoot
variable (o : Overflow) (w : Nat) (mmioPhysToVirt : Nat → Nat → Nat) (cs : ConfigSpace)

def new (fuel : Nat) (df : DeviceFunction) :
    EStateM Fault (List ConfigWrite) (Except VirtioPciError PciTransport) := do
  match ← findCapabilities o cs df fuel with
  | .error e => pure (.error e)
  | .ok (deviceId, found) =>
  let some commonInfo := found.commonCfg | pure (.error .missingCommonConfig)
  match ← getBarRegion o cs df w mmioPhysToVirt COMMON_CFG_SIZE COMMON_CFG_ALIGN commonInfo with
  | .error e => pure (.error e)
  | .ok commonCfg =>
  let some notifyCfg := found.notifyCfg | pure (.error .missingNotifyConfig)
  if found.notifyOffMultiplier % 2 ≠ 0 then
    return .error (.invalidNotifyOffMultiplier found.notifyOffMultiplier)
  match ← getBarRegionSlice o cs df w mmioPhysToVirt 2 2 notifyCfg with
  | .error e => pure (.error e)
  | .ok notifyRegion =>
  let some isrInfo := found.isrCfg | pure (.error .missingIsrConfig)
  match ← getBarRegion o cs df w mmioPhysToVirt 1 1 isrInfo with
  | .error e => pure (.error e)
  | .ok isrStatus =>
  match found.deviceCfg with
  | none => pure (.ok ⟨deviceId, df, commonCfg, notifyRegion, found.notifyOffMultiplier, isrStatus, none⟩)
  | some deviceCfg =>
    match ← getBarRegionSlice o cs df w mmioPhysToVirt 4 4 deviceCfg with
    | .error e => pure (.error e)
    | .ok configSpace =>
      pure (.ok ⟨deviceId, df, commonCfg, notifyRegion, found.notifyOffMultiplier, isrStatus,
        some configSpace⟩)

/-- `notify(queue)`, the device reporting `queueNotifyOff` for the queue: the entry of the
notify region written, as its address, and the value written. The index into the region's
slice is bounds-checked. -/
def notify (t : PciTransport) (queueNotifyOff queue : UInt16) : Except Fault (Nat × UInt16) := do
  let offsetBytes ← overflowed (o.fit w (queueNotifyOff.toNat * t.notifyOffMultiplier.toNat))
  let index := offsetBytes / 2
  if index < t.notifyRegion.2 then pure (t.notifyRegion.1 + 2 * index, queue) else throw .panic

end PciTransport

/-- `HypIoRegion`: a physical range reached by IO hypercalls. -/
structure HypIoRegion where
  paddr : Nat
  size : Nat
deriving DecidableEq, Repr

/-- A `hyp_io_write(address, size, data)` hypercall. -/
structure HypIoWrite where
  address : Nat
  size : Nat
  data : Nat
deriving DecidableEq, Repr

namespace HypIoRegion
variable (o : Overflow) (w : Nat)

/-- `write(offset, value)` of a `T` of `sizeOfT` bytes: the access must lie in the region. -/
def write (r : HypIoRegion) (offset sizeOfT data : Nat) : Except Fault HypIoWrite := do
  let accessEnd ← overflowed (o.fit w (offset + sizeOfT))
  assert (decide (accessEnd ≤ r.size))
  assert (decide (sizeOfT ≤ HYP_IO_MAX))
  pure ⟨← overflowed (o.fit w (r.paddr + offset)), sizeOfT, data⟩

end HypIoRegion

namespace PciRoot
variable (o : Overflow) (cs : ConfigSpace) (df : DeviceFunction) (w : Nat)

/-- `get_bar_region::<T, _>` (`x86_64.rs`) for a `T` of `sizeOfT` bytes aligned to
`alignOfT`: the physical range of the region. -/
def hypGetBarRegion (sizeOfT alignOfT : Nat) (structInfo : VirtioCapabilityInfo) :
    EStateM Fault (List ConfigWrite) (Except VirtioPciError HypIoRegion) := do
  match ← checkBarRegion o cs df sizeOfT structInfo with
  | .error e => pure (.error e)
  | .ok barAddress =>
    -- `bar_address as PhysAddr` keeps the low `w` bits of the `u64`
    let paddr ← MonadExcept.ofExcept
      (overflowed (o.fit w (barAddress.toNat % 2 ^ w + structInfo.offset.toNat)))
    if paddr % alignOfT ≠ 0 then return .error (.misaligned paddr alignOfT)
    pure (.ok ⟨paddr, structInfo.length.toNat⟩)

end PciRoot

structure HypPciTransport where
  deviceType : UInt16
  deviceFunction : DeviceFunction
  commonCfg : HypIoRegion
  notifyRegion : HypIoRegion
  notifyOffMultiplier : UInt32
  isrStatus : HypIoRegion
  configSpace : Option HypIoRegion
deriving DecidableEq, Repr

namespace HypPciTransport
open PciRoot
variable (o : Overflow) (w : Nat) (cs : ConfigSpace)

def new (fuel : Nat) (df : DeviceFunction) :
    EStateM Fault (List ConfigWrite) (Except VirtioPciError HypPciTransport) := do
  match ← findCapabilities o cs df fuel with
  | .error e => pure (.error e)
  | .ok (deviceId, found) =>
  let some commonInfo := found.commonCfg | pure (.error .missingCommonConfig)
  match ← hypGetBarRegion o cs df w COMMON_CFG_SIZE COMMON_CFG_ALIGN commonInfo with
  | .error e => pure (.error e)
  | .ok commonCfg =>
  let some notifyCfg := found.notifyCfg | pure (.error .missingNotifyConfig)
  if found.notifyOffMultiplier % 2 ≠ 0 then
    return .error (.invalidNotifyOffMultiplier found.notifyOffMultiplier)
  match ← hypGetBarRegion o cs df w 2 2 notifyCfg with
  | .error e => pure (.error e)
  | .ok notifyRegion =>
  let some isrInfo := found.isrCfg | pure (.error .missingIsrConfig)
  match ← hypGetBarRegion o cs df w 1 1 isrInfo with
  | .error e => pure (.error e)
  | .ok isrStatus =>
  match found.deviceCfg with
  | none => pure (.ok ⟨deviceId, df, commonCfg, notifyRegion, found.notifyOffMultiplier, isrStatus, none⟩)
  | some deviceCfg =>
    match ← hypGetBarRegion o cs df w 4 4 deviceCfg with
    | .error e => pure (.error e)
    | .ok configSpace =>
      pure (.ok ⟨deviceId, df, commonCfg, notifyRegion, found.notifyOffMultiplier, isrStatus,
        some configSpace⟩)

/-- `notify(queue)`, the device reporting `queueNotifyOff` for the queue: the hypercall
that writes the queue's index into the notify region. -/
def notify (t : HypPciTransport) (queueNotifyOff queue : UInt16) : Except Fault HypIoWrite := do
  let offsetBytes ← overflowed (o.fit w (queueNotifyOff.toNat * t.notifyOffMultiplier.toNat))
  t.notifyRegion.write o w offsetBytes 2 queue.toNat

end HypPciTransport

end VirtioDrivers
