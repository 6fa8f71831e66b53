import VirtioDrivers.Queue.New
import VirtioDrivers.Transport.Pci.Bus

/-! The MMIO transport (`transport/mmio.rs`). The transport reaches its device through the
registers of a `VirtIOHeader` and the config space behind them, and nothing else; the
model keeps the volatile accesses the transport makes, in order, and a device answers
each read from the accesses made before it, which is as general as any device. A legacy
device takes a queue by the page number of its one region, whose layout `queue_set`
checks with `usize` arithmetic, `w` bits wide; a modern one takes each address as two
halves (the shifts by 32 compile only where `usize` is 64 bits wide). -/
namespace VirtioDrivers

namespace Mmio

def MAGIC_VALUE : UInt32 := 0x74726976
def LEGACY_VERSION : UInt32 := 1
def MODERN_VERSION : UInt32 := 2
def CONFIG_SPACE_OFFSET : Nat := 0x100

end Mmio
open Mmio

inductive MmioVersion where
  | legacy
  | modern
deriving DecidableEq, Repr

inductive MmioError where
  | badMagic (magic : UInt32)
  | unsupportedVersion (version : UInt32)
  | zeroDeviceId
  | mmioRegionTooSmall
deriving DecidableEq, Repr

/-- `TryFrom<u32> for MmioVersion`. -/
def MmioVersion.tryFrom (version : UInt32) : Except MmioError MmioVersion :=
  if version = LEGACY_VERSION then .ok .legacy
  else if version = MODERN_VERSION then .ok .modern
  else .error (.unsupportedVersion version)

/-- The registers of `VirtIOHeader` the transport reads or writes; the reserved words are
left out. -/
inductive Reg where
  | magic
  | version
  | deviceId
  | vendorId
  | deviceFeatures
  | deviceFeaturesSel
  | driverFeatures
  | driverFeaturesSel
  | legacyGuestPageSize
  | queueSel
  | queueNumMax
  | queueNum
  | legacyQueueAlign
  | legacyQueuePfn
  | queueReady
  | queueNotify
  | interruptStatus
  | interruptAck
  | status
  | queueDescLow
  | queueDescHigh
  | queueDriverLow
  | queueDriverHigh
  | queueDeviceLow
  | queueDeviceHigh
  | configGeneration
deriving DecidableEq, Repr

/-- A volatile access of the transport: to a register, or to the `size` bytes of the
config space at `offset`. -/
inductive Access where
  | read (r : Reg)
  | write (r : Reg) (value : UInt32)
  | readConfig (offset size : Nat)
  | writeConfig (offset size value : Nat)
deriving DecidableEq, Repr

/-- The device behind a header: what a read of a register or of the config space
returns, given the accesses made before it. -/
structure MmioDevice where
  read : List Access → Reg → UInt32
  readConfig : List Access → Nat → Nat → Nat

namespace MmioDevice
variable (dev : MmioDevice)

def volread (r : Reg) : EStateM Fault (List Access) UInt32 := fun log =>
  .ok (dev.read log r) (log ++ [.read r])

/-- `read_volatile` of `size` bytes of the config space. -/
def volreadConfig (offset size : Nat) : EStateM Fault (List Access) Nat := fun log =>
  .ok (dev.readConfig log offset size) (log ++ [.readConfig offset size])

@[simp] theorem volread_apply (r : Reg) (log : List Access) :
    dev.volread r log = .ok (dev.read log r) (log ++ [.read r]) := rfl

@[simp] theorem volreadConfig_apply (offset size : Nat) (log : List Access) :
    dev.volreadConfig offset size log =
      .ok (dev.readConfig log offset size) (log ++ [.readConfig offset size]) := rfl

end MmioDevice

def volwrite (r : Reg) (value : UInt32) : EStateM Fault (List Access) Unit :=
  modify (· ++ [.write r value])

@[simp] theorem volwrite_apply (r : Reg) (value : UInt32) (log : List Access) :
    volwrite r value log = .ok () (log ++ [.write r value]) := rfl

/-- `MmioTransport`: the header is the device, and the config space is what the region
holds past the registers. -/
structure MmioTransport where
  version : MmioVersion
  configSpaceSize : Nat
deriving DecidableEq, Repr

/-- The first asserts of `queue_set` on a legacy device: the driver and device areas lie
where `allocate_legacy` puts them. -/
def checkLegacyLayout (o : Overflow) (w : Nat) (size : UInt32)
    (descriptors driverArea deviceArea : Nat) : Except Fault Unit := do
  let driverOffset ← overflowed (o.fitSub w driverArea descriptors)
  assert (driverOffset == (← overflowed (o.fit w (16 * size.toNat))))
  let deviceOffset ← overflowed (o.fitSub w deviceArea descriptors)
  let descSize ← overflowed (o.fit w (16 * size.toNat))
  let availSize ← overflowed (o.fit w (2 * (← overflowed (o.fit w (size.toNat + 3)))))
  let parts ← overflowed (o.fit w (descSize + availSize))
  -- `align_up`: `(parts + PAGE_SIZE) & !(PAGE_SIZE - 1)`
  let usedOffset := (← overflowed (o.fit w (parts + PAGE_SIZE))) / PAGE_SIZE * PAGE_SIZE
  assert (deviceOffset == usedOffset)

/-- When the sizes of the parts fit a `usize`, the layout checks are the two asserts that
the areas lie where the legacy layout puts them. -/
theorem checkLegacyLayout_of_lt {o : Overflow} {w : Nat} {size : UInt32}
    {descriptors driverArea deviceArea : Nat} (hd : descriptors ≤ driverArea)
    (hu : descriptors ≤ deviceArea) (hw : 16 * size.toNat + 2 * (size.toNat + 3) + PAGE_SIZE < 2 ^ w) :
    checkLegacyLayout o w size descriptors driverArea deviceArea =
      (do assert (driverArea - descriptors == 16 * size.toNat)
          assert (deviceArea - descriptors == alignUp (16 * size.toNat + 2 * (size.toNat + 3)))) := by
  have h1 : o.fit w (16 * size.toNat) = some (16 * size.toNat) := o.fit_of_lt (by omega)
  have h2 : o.fit w (size.toNat + 3) = some (size.toNat + 3) := o.fit_of_lt (by omega)
  have h3 : o.fit w (2 * (size.toNat + 3)) = some (2 * (size.toNat + 3)) := o.fit_of_lt (by omega)
  have h4 : o.fit w (16 * size.toNat + 2 * (size.toNat + 3)) =
      some (16 * size.toNat + 2 * (size.toNat + 3)) := o.fit_of_lt (by omega)
  simp only [checkLegacyLayout, o.fitSub_of_le hd, o.fitSub_of_le hu, h1, h2, h3, h4,
    o.fit_of_lt hw, overflowed_some, Except.ok_bind, alignUp]

/-- The page number `queue_set` gives a legacy device, asserted to be the descriptors'
address: the address must be on a page, and its page number must fit a `u32`. -/
def legacyPfn (descriptors : Nat) : Except Fault UInt32 := do
  let pfn := UInt32.ofNat (descriptors / PAGE_SIZE)
  assert (pfn.toNat * PAGE_SIZE == descriptors)
  pure pfn

theorem legacyPfn_eq (descriptors : Nat) :
    legacyPfn descriptors =
      if descriptors % PAGE_SIZE = 0 ∧ descriptors < 2 ^ 44 then
        .ok (UInt32.ofNat (descriptors / PAGE_SIZE))
      else .error .panic := by
  -- the page number survives the cast to `u32` exactly below `2 ^ 44`
  have hiff : (UInt32.ofNat (descriptors / PAGE_SIZE)).toNat * PAGE_SIZE = descriptors ↔
      descriptors % PAGE_SIZE = 0 ∧ descriptors < 2 ^ 44 := by
    rw [UInt32.toNat_ofNat']
    unfold PAGE_SIZE
    omega
  unfold legacyPfn
  by_cases h : descriptors % PAGE_SIZE = 0 ∧ descriptors < 2 ^ 44
  · have hb := beq_iff_eq.mpr (hiff.mpr h)
    simp only [hb, if_pos h]
    rfl
  · have hb := beq_eq_false_iff_ne.mpr (mt hiff.mp h)
    simp only [hb, if_neg h]
    rfl

theorem mul_of_legacyPfn {descriptors : Nat} {pfn : UInt32} (h : legacyPfn descriptors = .ok pfn) :
    pfn.toNat * PAGE_SIZE = descriptors := by
  rw [legacyPfn_eq] at h
  split at h
  · obtain rfl := Except.ok.inj h
    rw [UInt32.toNat_ofNat']
    unfold PAGE_SIZE at *
    omega
  · cases h

namespace MmioTransport
variable (dev : MmioDevice)

def new (mmioSize : Nat) : EStateM Fault (List Access) (Except MmioError MmioTransport) := do
  let magic ← dev.volread .magic
  if magic ≠ MAGIC_VALUE then return .error (.badMagic magic)
  if (← dev.volread .deviceId) = 0 then return .error .zeroDeviceId
  -- `mmio_size.checked_sub(CONFIG_SPACE_OFFSET)`
  if mmioSize < CONFIG_SPACE_OFFSET then return .error .mmioRegionTooSmall
  let configSpaceSize := mmioSize - CONFIG_SPACE_OFFSET
  match MmioVersion.tryFrom (← dev.volread .version) with
  | .error e => pure (.error e)
  | .ok version => pure (.ok ⟨version, configSpaceSize⟩)

theorem new_configSpaceSize {mmioSize : Nat} {t : MmioTransport} {log log' : List Access}
    (h : (new dev mmioSize).run log = .ok (.ok t) log') :
    CONFIG_SPACE_OFFSET ≤ mmioSize ∧ t.configSpaceSize = mmioSize - CONFIG_SPACE_OFFSET := by
  by_cases hm : dev.read log .magic = MAGIC_VALUE
  · by_cases hd : dev.read (log ++ [.read .magic]) .deviceId = 0
    · simp [new, hm, hd, EStateM.run, EStateM.bind_apply] at h
    · by_cases hs : mmioSize < CONFIG_SPACE_OFFSET
      · simp [new, hm, hd, hs, EStateM.run, EStateM.bind_apply] at h
      · cases hv : MmioVersion.tryFrom (dev.read (log ++ [.read .magic, .read .deviceId]) .version)
        · simp [new, hm, hd, hs, hv, EStateM.run, EStateM.bind_apply] at h
        · simp [new, hm, hd, hs, hv, EStateM.run, EStateM.bind_apply] at h
          obtain ⟨rfl, -⟩ := h
          exact ⟨by omega, rfl⟩
  · simp [new, hm, EStateM.run, EStateM.bind_apply] at h

def vendorId : EStateM Fault (List Access) UInt32 := dev.volread .vendorId

/-- `device_type`: the device id, as `DeviceType::from` reads it. -/
def deviceType : EStateM Fault (List Access) UInt32 := dev.volread .deviceId

/-- `read_device_features`: the low half, then the high half, each selected first. The
`+=` cannot overflow, as the halves have no bit in common. -/
def readDeviceFeatures : EStateM Fault (List Access) UInt64 := do
  volwrite .deviceFeaturesSel 0
  let deviceFeaturesBits := (← dev.volread .deviceFeatures).toUInt64
  volwrite .deviceFeaturesSel 1
  pure (deviceFeaturesBits + ((← dev.volread .deviceFeatures).toUInt64 <<< 32))

def writeDriverFeatures (driverFeatures : UInt64) : EStateM Fault (List Access) Unit := do
  volwrite .driverFeaturesSel 0
  volwrite .driverFeatures driverFeatures.toUInt32
  volwrite .driverFeaturesSel 1
  volwrite .driverFeatures (driverFeatures >>> 32).toUInt32

def maxQueueSize (queue : UInt16) : EStateM Fault (List Access) UInt32 := do
  volwrite .queueSel queue.toUInt32
  dev.volread .queueNumMax

def notify (queue : UInt16) : EStateM Fault (List Access) Unit :=
  volwrite .queueNotify queue.toUInt32

def getStatus : EStateM Fault (List Access) DeviceStatus := do
  pure ⟨← dev.volread .status⟩

def setStatus (status : DeviceStatus) : EStateM Fault (List Access) Unit :=
  volwrite .status status.bits

/-- `set_guest_page_size`: modern devices do not take one. -/
def setGuestPageSize (t : MmioTransport) (guestPageSize : UInt32) :
    EStateM Fault (List Access) Unit :=
  match t.version with
  | .legacy => volwrite .legacyGuestPageSize guestPageSize
  | .modern => pure ()

def requiresLegacyLayout (t : MmioTransport) : Bool :=
  match t.version with
  | .legacy => true
  | .modern => false

def queueSet (o : Overflow) (w : Nat) (t : MmioTransport) (queue : UInt16) (size : UInt32)
    (descriptors driverArea deviceArea : Nat) : EStateM Fault (List Access) Unit :=
  match t.version with
  | .legacy => do
    MonadExcept.ofExcept (checkLegacyLayout o w size descriptors driverArea deviceArea)
    let pfn ← MonadExcept.ofExcept (legacyPfn descriptors)
    volwrite .queueSel queue.toUInt32
    volwrite .queueNum size
    volwrite .legacyQueueAlign (UInt32.ofNat PAGE_SIZE)
    volwrite .legacyQueuePfn pfn
  | .modern => do
    volwrite .queueSel queue.toUInt32
    volwrite .queueNum size
    volwrite .queueDescLow (UInt32.ofNat descriptors)
    volwrite .queueDescHigh (UInt32.ofNat (descriptors >>> 32))
    volwrite .queueDriverLow (UInt32.ofNat driverArea)
    volwrite .queueDriverHigh (UInt32.ofNat (driverArea >>> 32))
    volwrite .queueDeviceLow (UInt32.ofNat deviceArea)
    volwrite .queueDeviceHigh (UInt32.ofNat (deviceArea >>> 32))
    volwrite .queueReady 1

/-- `while volread!(self.header, queue_ready) != 0 {}`: the device may take a while to
see the queue as not ready; the loop runs on `fuel`. -/
def waitNotReady : Nat → EStateM Fault (List Access) Unit
  | 0 => throw .stuck
  | fuel + 1 => do
    if (← dev.volread .queueReady) ≠ 0 then waitNotReady fuel

theorem waitNotReady_reads {fuel : Nat} {log log' : List Access}
    (h : (waitNotReady dev fuel).run log = .ok () log') :
    ∃ n, log' = log ++ List.replicate n (.read .queueReady) := by
  induction fuel generalizing log with
  | zero => simp [waitNotReady, EStateM.run] at h
  | succ fuel ih =>
    simp only [waitNotReady, EStateM.run, EStateM.bind_apply, MmioDevice.volread_apply] at h
    split at h
    · obtain ⟨n, rfl⟩ := ih h
      exact ⟨n + 1, by simp [List.replicate_succ]⟩
    · simp at h
      exact ⟨1, by simp [h]⟩

def queueUnset (t : MmioTransport) (fuel : Nat) (queue : UInt16) :
    EStateM Fault (List Access) Unit :=
  match t.version with
  | .legacy => do
    volwrite .queueSel queue.toUInt32
    volwrite .queueNum 0
    volwrite .legacyQueueAlign 0
    volwrite .legacyQueuePfn 0
  | .modern => do
    volwrite .queueSel queue.toUInt32
    volwrite .queueReady 0
    waitNotReady dev fuel
    volwrite .queueNum 0
    volwrite .queueDescLow 0
    volwrite .queueDescHigh 0
    volwrite .queueDriverLow 0
    volwrite .queueDriverHigh 0
    volwrite .queueDeviceLow 0
    volwrite .queueDeviceHigh 0

/-- A modern `queue_unset` that returns has taken the queue out of use, read it not ready
after some reads, and cleared its size and addresses. -/
theorem queueUnset_modern_accesses {t : MmioTransport} (hv : t.version = .modern) {fuel : Nat}
    {queue : UInt16} {log log' : List Access}
    (h : (queueUnset dev t fuel queue).run log = .ok () log') :
    ∃ n, log' = log ++ [.write .queueSel queue.toUInt32, .write .queueReady 0] ++
      List.replicate n (.read .queueReady) ++
      [.write .queueNum 0, .write .queueDescLow 0, .write .queueDescHigh 0,
        .write .queueDriverLow 0, .write .queueDriverHigh 0, .write .queueDeviceLow 0,
        .write .queueDeviceHigh 0] := by
  simp only [queueUnset, hv, EStateM.run, EStateM.bind_apply, volwrite_apply] at h
  split at h
  · rename_i log₁ hwait
    obtain ⟨n, rfl⟩ := waitNotReady_reads dev hwait
    simp only [EStateM.Result.ok.injEq, true_and] at h
    exact ⟨n, by rw [← h]; simp⟩
  · cases h

def queueUsed (t : MmioTransport) (queue : UInt16) : EStateM Fault (List Access) Bool := do
  volwrite .queueSel queue.toUInt32
  match t.version with
  | .legacy => pure ((← dev.volread .legacyQueuePfn) != 0)
  | .modern => pure ((← dev.volread .queueReady) != 0)

def ackInterrupt : EStateM Fault (List Access) Bool := do
  let interrupt ← dev.volread .interruptStatus
  if interrupt ≠ 0 then
    volwrite .interruptAck interrupt
    pure true
  else
    pure false

def readConfigGeneration : EStateM Fault (List Access) UInt32 := dev.volread .configGeneration

variable (o : Overflow) (w : Nat)

/-- The checks of `read_config_space::<T>` and `write_config_space::<T>` for a `T` of
`sizeOfT` bytes aligned to `alignOfT`: the alignment asserts, and the field within the
config space. -/
def checkConfigAccess (t : MmioTransport) (sizeOfT alignOfT offset : Nat) :
    Except Fault (Except Error Unit) := do
  assert (decide (alignOfT ≤ 4))
  assert (offset % alignOfT == 0)
  if t.configSpaceSize < (← overflowed (o.fit w (offset + sizeOfT))) then
    return .error .configSpaceTooSmall
  pure (.ok ())

theorem checkConfigAccess_of_fit {t : MmioTransport} {sizeOfT alignOfT offset fieldEnd : Nat}
    (halign : alignOfT ≤ 4) (hoff : offset % alignOfT = 0)
    (hfit : o.fit w (offset + sizeOfT) = some fieldEnd) :
    checkConfigAccess o w t sizeOfT alignOfT offset =
      .ok (if t.configSpaceSize < fieldEnd then .error .configSpaceTooSmall else .ok ()) := by
  simp only [checkConfigAccess, hfit, overflowed_some, decide_eq_true halign, hoff,
    beq_self_eq_true, assert, if_true, pure_bind, Except.ok_bind]
  split <;> rfl

/-- In a debug build, a check that returns has compared the config space with the exact end
of the field. -/
theorem checkConfigAccess_panics_eq_ok {t : MmioTransport} {sizeOfT alignOfT offset : Nat}
    {r : Except Error Unit} (h : checkConfigAccess .panics w t sizeOfT alignOfT offset = .ok r) :
    r = if t.configSpaceSize < offset + sizeOfT then .error .configSpaceTooSmall else .ok () := by
  by_cases ha : alignOfT ≤ 4
  · by_cases ho : offset % alignOfT = 0
    · cases hf : Overflow.panics.fit w (offset + sizeOfT) with
      | none => simp [checkConfigAccess, hf, overflowed, assert, ha, ho] at h
      | some fieldEnd =>
        obtain rfl := Overflow.eq_of_fit_panics hf
        rw [checkConfigAccess_of_fit _ _ ha ho hf] at h
        exact (Except.ok.inj h).symm
    · simp [checkConfigAccess, assert, ha, ho] at h
  · simp [checkConfigAccess, assert, ha] at h

theorem le_of_checkConfigAccess_panics {t : MmioTransport} {sizeOfT alignOfT offset : Nat}
    (h : checkConfigAccess .panics w t sizeOfT alignOfT offset = .ok (.ok ())) :
    offset + sizeOfT ≤ t.configSpaceSize := by
  have h' := checkConfigAccess_panics_eq_ok w h
  split at h'
  · cases h'
  · omega

def readConfigSpace (t : MmioTransport) (sizeOfT alignOfT offset : Nat) :
    EStateM Fault (List Access) (Except Error Nat) := do
  match ← MonadExcept.ofExcept (checkConfigAccess o w t sizeOfT alignOfT offset) with
  | .error e => pure (.error e)
  | .ok () => pure (.ok (← dev.volreadConfig offset sizeOfT))

def writeConfigSpace (t : MmioTransport) (sizeOfT alignOfT offset value : Nat) :
    EStateM Fault (List Access) (Except Error Unit) := do
  match ← MonadExcept.ofExcept (checkConfigAccess o w t sizeOfT alignOfT offset) with
  | .error e => pure (.error e)
  | .ok () =>
    modify (· ++ [.writeConfig offset sizeOfT value])
    pure (.ok ())

/-- `Drop`: the device is reset. -/
def drop : EStateM Fault (List Access) Unit := setStatus DeviceStatus.empty

/-- The calls of the `Transport` trait, each as `impl Transport for MmioTransport` makes
it, with its answer dropped. A config-space access of `size` bytes is of a type aligned to
`alignOf size`, and a wait in `queue_unset` runs on `fuel`. -/
def perform (t : MmioTransport) (alignOf : Nat → Nat) (fuel : Nat) :
    TransportCall → EStateM Fault (List Access) Unit
  | .readDeviceFeatures => do let _ ← readDeviceFeatures dev
  | .writeDriverFeatures driverFeatures => writeDriverFeatures driverFeatures
  | .maxQueueSize queue => do let _ ← maxQueueSize dev queue
  | .notify queue => notify queue
  | .setStatus status => setStatus status
  | .setGuestPageSize guestPageSize => setGuestPageSize t guestPageSize
  | .requiresLegacyLayout => pure ()
  | .queueSet queue size descriptors driverArea deviceArea =>
    queueSet o w t queue size descriptors driverArea deviceArea
  | .queueUnset queue => queueUnset dev t fuel queue
  | .queueUsed queue => do let _ ← queueUsed dev t queue
  | .ackInterrupt => do let _ ← ackInterrupt dev
  | .readConfigGeneration => do let _ ← readConfigGeneration dev
  | .readConfigSpace offset size => do
    let _ ← readConfigSpace dev o w t size (alignOf size) offset
  | .writeConfigSpace offset size value => do
    let _ ← writeConfigSpace o w t size (alignOf size) offset value

/-- What one call that returns appends to the accesses, when the accesses before it are
`log`: each case is one way through the call, with what decides it. -/
inductive Appends (t : MmioTransport) (alignOf : Nat → Nat) (log : List Access) :
    TransportCall → List Access → Prop
  | readDeviceFeatures : Appends t alignOf log .readDeviceFeatures
      [.write .deviceFeaturesSel 0, .read .deviceFeatures, .write .deviceFeaturesSel 1,
        .read .deviceFeatures]
  | writeDriverFeatures (driverFeatures : UInt64) :
      Appends t alignOf log (.writeDriverFeatures driverFeatures)
        [.write .driverFeaturesSel 0, .write .driverFeatures driverFeatures.toUInt32,
          .write .driverFeaturesSel 1, .write .driverFeatures (driverFeatures >>> 32).toUInt32]
  | maxQueueSize (queue : UInt16) : Appends t alignOf log (.maxQueueSize queue)
      [.write .queueSel queue.toUInt32, .read .queueNumMax]
  | notify (queue : UInt16) : Appends t alignOf log (.notify queue)
      [.write .queueNotify queue.toUInt32]
  | setStatus (status : DeviceStatus) : Appends t alignOf log (.setStatus status)
      [.write .status status.bits]
  | setGuestPageSize (guestPageSize : UInt32) :
      Appends t alignOf log (.setGuestPageSize guestPageSize)
        (match t.version with
          | .legacy => [.write .legacyGuestPageSize guestPageSize]
          | .modern => [])
  | requiresLegacyLayout : Appends t alignOf log .requiresLegacyLayout []
  | queueSetLegacy {queue : UInt16} {size pfn : UInt32} {descriptors driverArea deviceArea : Nat}
      (hv : t.version = .legacy)
      (hc : checkLegacyLayout o w size descriptors driverArea deviceArea = .ok ())
      (hp : legacyPfn descriptors = .ok pfn) :
      Appends t alignOf log (.queueSet queue size descriptors driverArea deviceArea)
        [.write .queueSel queue.toUInt32, .write .queueNum size,
          .write .legacyQueueAlign (UInt32.ofNat PAGE_SIZE), .write .legacyQueuePfn pfn]
  | queueSetModern {queue : UInt16} {size : UInt32} {descriptors driverArea deviceArea : Nat}
      (hv : t.version = .modern) :
      Appends t alignOf log (.queueSet queue size descriptors driverArea deviceArea)
        [.write .queueSel queue.toUInt32, .write .queueNum size,
          .write .queueDescLow (UInt32.ofNat descriptors),
          .write .queueDescHigh (UInt32.ofNat (descriptors >>> 32)),
          .write .queueDriverLow (UInt32.ofNat driverArea),
          .write .queueDriverHigh (UInt32.ofNat (driverArea >>> 32)),
          .write .queueDeviceLow (UInt32.ofNat deviceArea),
          .write .queueDeviceHigh (UInt32.ofNat (deviceArea >>> 32)), .write .queueReady 1]
  | queueUnsetLegacy {queue : UInt16} (hv : t.version = .legacy) :
      Appends t alignOf log (.queueUnset queue)
        [.write .queueSel queue.toUInt32, .write .queueNum 0, .write .legacyQueueAlign 0,
          .write .legacyQueuePfn 0]
  | queueUnsetModern {queue : UInt16} (hv : t.version = .modern) (n : Nat) :
      Appends t alignOf log (.queueUnset queue)
        ([.write .queueSel queue.toUInt32, .write .queueReady 0] ++
          List.replicate n (.read .queueReady) ++
          [.write .queueNum 0, .write .queueDescLow 0, .write .queueDescHigh 0,
            .write .queueDriverLow 0, .write .queueDriverHigh 0, .write .queueDeviceLow 0,
            .write .queueDeviceHigh 0])
  | queueUsed (queue : UInt16) : Appends t alignOf log (.queueUsed queue)
      [.write .queueSel queue.toUInt32,
        .read (match t.version with
          | .legacy => .legacyQueuePfn
          | .modern => .queueReady)]
  | ackInterruptNone (h : dev.read log .interruptStatus = 0) :
      Appends t alignOf log .ackInterrupt [.read .interruptStatus]
  | ackInterrupt (h : dev.read log .interruptStatus ≠ 0) :
      Appends t alignOf log .ackInterrupt
        [.read .interruptStatus, .write .interruptAck (dev.read log .interruptStatus)]
  | readConfigGeneration : Appends t alignOf log .readConfigGeneration [.read .configGeneration]
  | readConfigRefused {offset size : Nat} {e : Error}
      (hc : checkConfigAccess o w t size (alignOf size) offset = .ok (.error e)) :
      Appends t alignOf log (.readConfigSpace offset size) []
  | readConfig {offset size : Nat}
      (hc : checkConfigAccess o w t size (alignOf size) offset = .ok (.ok ())) :
      Appends t alignOf log (.readConfigSpace offset size) [.readConfig offset size]
  | writeConfigRefused {offset size value : Nat} {e : Error}
      (hc : checkConfigAccess o w t size (alignOf size) offset = .ok (.error e)) :
      Appends t alignOf log (.writeConfigSpace offset size value) []
  | writeConfig {offset size value : Nat}
      (hc : checkConfigAccess o w t size (alignOf size) offset = .ok (.ok ())) :
      Appends t alignOf log (.writeConfigSpace offset size value) [.writeConfig offset size value]

theorem perform_appends {t : MmioTransport} {alignOf : Nat → Nat} {fuel : Nat}
    {c : TransportCall} {log log' : List Access}
    (h : (perform dev o w t alignOf fuel c).run log = .ok () log') :
    ∃ new, log' = log ++ new ∧ Appends dev o w t alignOf log c new := by
  cases c
  case queueSet queue size descriptors driverArea deviceArea =>
    cases hv : t.version with
    | legacy =>
      cases hc : checkLegacyLayout o w size descriptors driverArea deviceArea with
      | error e => simp [perform, queueSet, hv, hc, EStateM.run, EStateM.bind_apply] at h
      | ok u =>
        cases hp : legacyPfn descriptors with
        | error e => simp [perform, queueSet, hv, hc, hp, EStateM.run, EStateM.bind_apply] at h
        | ok pfn =>
          refine ⟨_, ?_, .queueSetLegacy hv hc hp⟩
          simp [perform, queueSet, hv, hc, hp, EStateM.run, EStateM.bind_apply] at h
          subst h
          simp
    | modern =>
      refine ⟨_, ?_, .queueSetModern hv⟩
      simp [perform, queueSet, hv, EStateM.run, EStateM.bind_apply] at h
      subst h
      simp
  case queueUnset queue =>
    cases hv : t.version with
    | legacy =>
      refine ⟨_, ?_, .queueUnsetLegacy hv⟩
      simp [perform, queueUnset, hv, EStateM.run, EStateM.bind_apply] at h
      subst h
      simp
    | modern =>
      obtain ⟨n, rfl⟩ := queueUnset_modern_accesses dev hv h
      exact ⟨_, by simp, .queueUnsetModern hv n⟩
  case ackInterrupt =>
    by_cases hi : dev.read log .interruptStatus = 0
    · refine ⟨_, ?_, .ackInterruptNone hi⟩
      simp [perform, ackInterrupt, hi, EStateM.run, EStateM.bind_apply] at h
      subst h
      simp
    · refine ⟨_, ?_, .ackInterrupt hi⟩
      simp [perform, ackInterrupt, hi, EStateM.run, EStateM.bind_apply, EStateM.map_apply] at h
      subst h
      simp
  case readConfigSpace offset size =>
    cases hc : checkConfigAccess o w t size (alignOf size) offset with
    | error e => simp [perform, readConfigSpace, hc, EStateM.run, EStateM.bind_apply] at h
    | ok r =>
      cases r with
      | error e =>
        refine ⟨_, ?_, .readConfigRefused hc⟩
        simp [perform, readConfigSpace, hc, EStateM.run, EStateM.bind_apply] at h
        simp [h]
      | ok u =>
        refine ⟨_, ?_, .readConfig hc⟩
        simp [perform, readConfigSpace, hc, EStateM.run, EStateM.bind_apply] at h
        subst h
        simp
  case writeConfigSpace offset size value =>
    cases hc : checkConfigAccess o w t size (alignOf size) offset with
    | error e => simp [perform, writeConfigSpace, hc, EStateM.run, EStateM.bind_apply] at h
    | ok r =>
      cases r with
      | error e =>
        refine ⟨_, ?_, .writeConfigRefused hc⟩
        simp [perform, writeConfigSpace, hc, EStateM.run, EStateM.bind_apply] at h
        simp [h]
      | ok u =>
        refine ⟨_, ?_, .writeConfig hc⟩
        simp [perform, writeConfigSpace, hc, EStateM.run, EStateM.bind_apply] at h
        subst h
        simp
  all_goals
    refine ⟨_, ?_, by constructor⟩
    cases hv : t.version <;>
      simp [perform, readDeviceFeatures, writeDriverFeatures, maxQueueSize, notify, setStatus,
        setGuestPageSize, queueUsed, readConfigGeneration, hv, EStateM.run, EStateM.bind_apply] at h ⊢ <;>
      subst h <;> simp

end MmioTransport
end VirtioDrivers
