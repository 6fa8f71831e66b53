import VirtioDrivers.Transport.Pci.Transport
import VirtioDrivers.Transport.State

/-! The calls of `impl Transport for PciTransport` (`transport/pci.rs`). The transport
reaches its device through the fields of `CommonCfg`, the ISR status byte, the notify
region and the config space, each by a volatile access; as for the MMIO transport, the
model keeps these accesses in order, and a device answers each read from the accesses made
before it. A field is read at its own width, so the value a device gives is truncated to
it. The PCI transport takes no guest page size, never needs the legacy layout, and cannot
unset a queue: `queue_unset` does nothing. A config-space field is checked against the
config space with `usize` arithmetic, `w` bits wide. -/
namespace VirtioDrivers

/-- `DeviceStatus::from_bits_truncate`: the bits of the known flags. -/
def DeviceStatus.fromBitsTruncate (bits : UInt32) : DeviceStatus :=
  ⟨bits &&& (ACKNOWLEDGE.bits ||| DRIVER.bits ||| FAILED.bits ||| FEATURES_OK.bits |||
    DRIVER_OK.bits ||| DEVICE_NEEDS_RESET.bits)⟩

/-- The fields of `CommonCfg` the transport reads or writes. -/
inductive CommonField where
  | deviceFeatureSelect
  | deviceFeature
  | driverFeatureSelect
  | driverFeature
  | deviceStatus
  | configGeneration
  | queueSelect
  | queueSize
  | queueEnable
  | queueNotifyOff
  | queueDesc
  | queueDriver
  | queueDevice
deriving DecidableEq, Repr

/-- A volatile access of the PCI transport: to a field of `CommonCfg`, to the ISR status,
to the notify region at an address, or to the `size` bytes of the config space at
`offset`. -/
inductive PciAccess where
  | read (f : CommonField)
  | write (f : CommonField) (value : UInt64)
  | readIsr
  | writeNotify (address : Nat) (queue : UInt16)
  | readConfig (offset size : Nat)
  | writeConfig (offset size value : Nat)
deriving DecidableEq, Repr

/-- The device behind the structures: what a read of a field, of the ISR status or of the
config space returns, given the accesses made before it. -/
structure PciDevice where
  read : List PciAccess → CommonField → UInt64
  isr : List PciAccess → UInt8
  readConfig : List PciAccess → Nat → Nat → Nat

namespace PciDevice
variable (dev : PciDevice)

/-- `volread!` of a field of `CommonCfg`. -/
def volread (f : CommonField) : EStateM Fault (List PciAccess) UInt64 := fun log =>
  .ok (dev.read log f) (log ++ [.read f])

/-- `isr_status.vread()`. -/
def vreadIsr : EStateM Fault (List PciAccess) UInt8 := fun log =>
  .ok (dev.isr log) (log ++ [.readIsr])

/-- `read_volatile` of `size` bytes of the config space. -/
def volreadConfig (offset size : Nat) : EStateM Fault (List PciAccess) Nat := fun log =>
  .ok (dev.readConfig log offset size) (log ++ [.readConfig offset size])

@[simp] theorem volread_apply (f : CommonField) (log : List PciAccess) :
    dev.volread f log = .ok (dev.read log f) (log ++ [.read f]) := rfl

@[simp] theorem vreadIsr_apply (log : List PciAccess) :
    dev.vreadIsr log = .ok (dev.isr log) (log ++ [.readIsr]) := rfl

@[simp] theorem volreadConfig_apply (offset size : Nat) (log : List PciAccess) :
    dev.volreadConfig offset size log =
      .ok (dev.readConfig log offset size) (log ++ [.readConfig offset size]) := rfl

end PciDevice

/-- `volwrite!` of a field of `CommonCfg`. -/
def pciVolwrite (f : CommonField) (value : UInt64) : EStateM Fault (List PciAccess) Unit :=
  modify (· ++ [.write f value])

@[simp] theorem pciVolwrite_apply (f : CommonField) (value : UInt64) (log : List PciAccess) :
    pciVolwrite f value log = .ok () (log ++ [.write f value]) := rfl

/-- What the meaning of the calls depends on, on the PCI transport: a queue flag the driver
cannot clear, a status of one byte, and the config space of `len()` entries of four bytes,
if the device has one. -/
def PciTransport.kind (t : PciTransport) : TransportKind :=
  ⟨.enable, fun bits => bits % 256, t.configSpace.map fun r => r.2 * 4⟩

@[simp] theorem PciTransport.kind_queueFlag (t : PciTransport) : t.kind.queueFlag = .enable := rfl

theorem PciTransport.notify_eq_ok {o : Overflow} {w : Nat} {t : PciTransport}
    {queueNotifyOff queue value : UInt16} {address : Nat}
    (h : PciTransport.notify o w t queueNotifyOff queue = .ok (address, value)) :
    value = queue ∧ ∃ index, index < t.notifyRegion.2 ∧ address = t.notifyRegion.1 + 2 * index := by
  unfold PciTransport.notify at h
  cases hf : o.fit w (queueNotifyOff.toNat * t.notifyOffMultiplier.toNat) with
  | none => simp [hf, overflowed] at h
  | some offsetBytes =>
    simp only [hf, overflowed_some, Except.ok_bind] at h
    split at h
    · rename_i hlt
      cases h
      exact ⟨rfl, offsetBytes / 2, hlt, rfl⟩
    · cases h

namespace PciTransport.Impl
variable (dev : PciDevice)

/-- `read_device_features`: the low half, then the high half, each selected first. -/
def readDeviceFeatures : EStateM Fault (List PciAccess) UInt64 := do
  pciVolwrite .deviceFeatureSelect 0
  let deviceFeaturesBits := (← dev.volread .deviceFeature).toUInt32.toUInt64
  pciVolwrite .deviceFeatureSelect 1
  pure (deviceFeaturesBits ||| ((← dev.volread .deviceFeature).toUInt32.toUInt64 <<< 32))

def writeDriverFeatures (driverFeatures : UInt64) : EStateM Fault (List PciAccess) Unit := do
  pciVolwrite .driverFeatureSelect 0
  pciVolwrite .driverFeature driverFeatures.toUInt32.toUInt64
  pciVolwrite .driverFeatureSelect 1
  pciVolwrite .driverFeature (driverFeatures >>> 32).toUInt32.toUInt64

def maxQueueSize (queue : UInt16) : EStateM Fault (List PciAccess) UInt32 := do
  pciVolwrite .queueSelect queue.toUInt64
  pure (← dev.volread .queueSize).toUInt16.toUInt32

def getStatus : EStateM Fault (List PciAccess) DeviceStatus := do
  pure (DeviceStatus.fromBitsTruncate (← dev.volread .deviceStatus).toUInt8.toUInt32)

/-- `set_status`: the status register is one byte wide. -/
def setStatus (status : DeviceStatus) : EStateM Fault (List PciAccess) Unit :=
  pciVolwrite .deviceStatus status.bits.toUInt8.toUInt64

/-- `queue_set`: the size is written as a `u16`, each address as a `u64`. -/
def queueSet (queue : UInt16) (size : UInt32) (descriptors driverArea deviceArea : Nat) :
    EStateM Fault (List PciAccess) Unit := do
  pciVolwrite .queueSelect queue.toUInt64
  pciVolwrite .queueSize size.toUInt16.toUInt64
  pciVolwrite .queueDesc (UInt64.ofNat descriptors)
  pciVolwrite .queueDriver (UInt64.ofNat driverArea)
  pciVolwrite .queueDevice (UInt64.ofNat deviceArea)
  pciVolwrite .queueEnable 1

def queueUsed (queue : UInt16) : EStateM Fault (List PciAccess) Bool := do
  pciVolwrite .queueSelect queue.toUInt64
  pure ((← dev.volread .queueEnable).toUInt16 == 1)

/-- `ack_interrupt`: reading the ISR status clears it on the device. -/
def ackInterrupt : EStateM Fault (List PciAccess) Bool := do
  let isrStatus ← dev.vreadIsr
  pure (isrStatus &&& 0x3 != 0)

def readConfigGeneration : EStateM Fault (List PciAccess) UInt32 := do
  pure (← dev.volread .configGeneration).toUInt8.toUInt32

variable (o : Overflow) (w : Nat)

/-- `notify`: the queue is selected, its notify offset read, and the queue written to the
entry of the notify region that offset names. -/
def notify (t : PciTransport) (queue : UInt16) : EStateM Fault (List PciAccess) Unit := do
  pciVolwrite .queueSelect queue.toUInt64
  let queueNotifyOff := (← dev.volread .queueNotifyOff).toUInt16
  let (address, value) ← MonadExcept.ofExcept (PciTransport.notify o w t queueNotifyOff queue)
  modify (· ++ [.writeNotify address value])

/-- The checks of `read_config_space::<T>` and `write_config_space::<T>` for a `T` of
`sizeOfT` bytes aligned to `alignOfT`: the alignment asserts, a config space at all, and
the field within it, its `len()` entries of four bytes. -/
def checkConfigAccess (t : PciTransport) (sizeOfT alignOfT offset : Nat) :
    Except Fault (Except Error Unit) := do
  assert (decide (alignOfT ≤ 4))
  assert (offset % alignOfT == 0)
  match t.configSpace with
  | none => pure (.error .configSpaceMissing)
  | some (_, len) =>
    let configBytes ← overflowed (o.fit w (len * 4))
    if configBytes < (← overflowed (o.fit w (offset + sizeOfT))) then
      return .error .configSpaceTooSmall
    pure (.ok ())

theorem checkConfigAccess_missing {t : PciTransport} {sizeOfT alignOfT offset : Nat}
    (halign : alignOfT ≤ 4) (hoff : offset % alignOfT = 0) (hc : t.configSpace = none) :
    checkConfigAccess o w t sizeOfT alignOfT offset = .ok (.error .configSpaceMissing) := by
  simp [checkConfigAccess, hc, assert, halign, hoff]

theorem checkConfigAccess_of_fit {t : PciTransport}
    {sizeOfT alignOfT offset start len configBytes fieldEnd : Nat} (halign : alignOfT ≤ 4)
    (hoff : offset % alignOfT = 0) (hc : t.configSpace = some (start, len))
    (hbytes : o.fit w (len * 4) = some configBytes) (hfit : o.fit w (offset + sizeOfT) = some fieldEnd) :
    checkConfigAccess o w t sizeOfT alignOfT offset =
      .ok (if configBytes < fieldEnd then .error .configSpaceTooSmall else .ok ()) := by
  simp only [checkConfigAccess, hc, hbytes, hfit, overflowed_some, decide_eq_true halign, hoff,
    beq_self_eq_true, assert, if_true, pure_bind, Except.ok_bind]
  split <;> rfl

/-- In a debug build, a check that returns has decided as the check of the transport's kind:
neither sum overflowed. -/
theorem checkConfigAccess_panics_eq_ok {t : PciTransport} {sizeOfT alignOfT offset : Nat}
    {r : Except Error Unit} (h : checkConfigAccess .panics w t sizeOfT alignOfT offset = .ok r) :
    r = t.kind.checkField offset sizeOfT := by
  have ha : alignOfT ≤ 4 := by
    by_contra ha
    simp [checkConfigAccess, assert, ha] at h
  have ho : offset % alignOfT = 0 := by
    by_contra ho
    simp [checkConfigAccess, assert, ha, ho] at h
  cases hc : t.configSpace with
  | none =>
    rw [checkConfigAccess_missing .panics w ha ho hc] at h
    simp [← Except.ok.inj h, PciTransport.kind, TransportKind.checkField, hc]
  | some r =>
    obtain ⟨start, len⟩ := r
    cases hb : Overflow.panics.fit w (len * 4) with
    | none => simp [checkConfigAccess, assert, ha, ho, hc, hb, overflowed] at h
    | some configBytes =>
      cases hf : Overflow.panics.fit w (offset + sizeOfT) with
      | none => simp [checkConfigAccess, assert, ha, ho, hc, hb, hf, overflowed] at h
      | some fieldEnd =>
        rw [checkConfigAccess_of_fit .panics w ha ho hc hb hf] at h
        obtain rfl := Overflow.eq_of_fit_panics hb
        obtain rfl := Overflow.eq_of_fit_panics hf
        simp [← Except.ok.inj h, PciTransport.kind, TransportKind.checkField, hc]

def readConfigSpace (t : PciTransport) (sizeOfT alignOfT offset : Nat) :
    EStateM Fault (List PciAccess) (Except Error Nat) := do
  match ← MonadExcept.ofExcept (checkConfigAccess o w t sizeOfT alignOfT offset) with
  | .error e => pure (.error e)
  | .ok () => pure (.ok (← dev.volreadConfig offset sizeOfT))

def writeConfigSpace (t : PciTransport) (sizeOfT alignOfT offset value : Nat) :
    EStateM Fault (List PciAccess) (Except Error Unit) := do
  match ← MonadExcept.ofExcept (checkConfigAccess o w t sizeOfT alignOfT offset) with
  | .error e => pure (.error e)
  | .ok () =>
    modify (· ++ [.writeConfig offset sizeOfT value])
    pure (.ok ())

/-- The calls of the `Transport` trait, each as `impl Transport for PciTransport` makes
it, with its answer dropped. A config-space access of `size` bytes is of a type aligned to
`alignOf size`. -/
def perform (t : PciTransport) (alignOf : Nat → Nat) :
    TransportCall → EStateM Fault (List PciAccess) Unit
  | .readDeviceFeatures => do let _ ← readDeviceFeatures dev
  | .writeDriverFeatures driverFeatures => writeDriverFeatures driverFeatures
  | .maxQueueSize queue => do let _ ← maxQueueSize dev queue
  | .notify queue => notify dev o w t queue
  | .setStatus status => setStatus status
  -- the PCI transport takes no page size and cannot unset a queue
  | .setGuestPageSize _ => pure ()
  | .requiresLegacyLayout => pure ()
  | .queueSet queue size descriptors driverArea deviceArea =>
    queueSet queue size descriptors driverArea deviceArea
  | .queueUnset _ => pure ()
  | .queueUsed queue => do let _ ← queueUsed dev queue
  | .ackInterrupt => do let _ ← ackInterrupt dev
  | .readConfigGeneration => do let _ ← readConfigGeneration dev
  | .readConfigSpace offset size => do
    let _ ← readConfigSpace dev o w t size (alignOf size) offset
  | .writeConfigSpace offset size value => do
    let _ ← writeConfigSpace o w t size (alignOf size) offset value

/-- What one call that returns appends to the accesses, when the accesses before it are
`log`: each case is one way through the call, with what decides it. -/
inductive Appends (t : PciTransport) (alignOf : Nat → Nat) (log : List PciAccess) :
    TransportCall → List PciAccess → Prop
  | readDeviceFeatures : Appends t alignOf log .readDeviceFeatures
      [.write .deviceFeatureSelect 0, .read .deviceFeature, .write .deviceFeatureSelect 1,
        .read .deviceFeature]
  | writeDriverFeatures (driverFeatures : UInt64) :
      Appends t alignOf log (.writeDriverFeatures driverFeatures)
        [.write .driverFeatureSelect 0, .write .driverFeature driverFeatures.toUInt32.toUInt64,
          .write .driverFeatureSelect 1,
          .write .driverFeature (driverFeatures >>> 32).toUInt32.toUInt64]
  | maxQueueSize (queue : UInt16) : Appends t alignOf log (.maxQueueSize queue)
      [.write .queueSelect queue.toUInt64, .read .queueSize]
  | notify {queue : UInt16} {address : Nat} {value : UInt16}
      (h : PciTransport.notify o w t
        (dev.read (log ++ [.write .queueSelect queue.toUInt64]) .queueNotifyOff).toUInt16 queue =
          .ok (address, value)) :
      Appends t alignOf log (.notify queue)
        [.write .queueSelect queue.toUInt64, .read .queueNotifyOff, .writeNotify address value]
  | setStatus (status : DeviceStatus) : Appends t alignOf log (.setStatus status)
      [.write .deviceStatus status.bits.toUInt8.toUInt64]
  | setGuestPageSize (guestPageSize : UInt32) :
      Appends t alignOf log (.setGuestPageSize guestPageSize) []
  | requiresLegacyLayout : Appends t alignOf log .requiresLegacyLayout []
  | queueSet (queue : UInt16) (size : UInt32) (descriptors driverArea deviceArea : Nat) :
      Appends t alignOf log (.queueSet queue size descriptors driverArea deviceArea)
        [.write .queueSelect queue.toUInt64, .write .queueSize size.toUInt16.toUInt64,
          .write .queueDesc (UInt64.ofNat descriptors), .write .queueDriver (UInt64.ofNat driverArea),
          .write .queueDevice (UInt64.ofNat deviceArea), .write .queueEnable 1]
  | queueUnset (queue : UInt16) : Appends t alignOf log (.queueUnset queue) []
  | queueUsed (queue : UInt16) : Appends t alignOf log (.queueUsed queue)
      [.write .queueSelect queue.toUInt64, .read .queueEnable]
  | ackInterrupt : Appends t alignOf log .ackInterrupt [.readIsr]
  | readConfigGeneration : Appends t alignOf log .readConfigGeneration [.read .configGeneration]
  | readConfigRefused {offset size : Nat} {e : Error}
      (hc : checkConfigAccess o w t size (alignOf size) offset = .ok (.error e)) :
      Appends t alignOf log (.readConfigSpace offset size) []
  | readConfig {offset size : Nat}
      (hc : checkConfigAccess o w t size (alignOf size) offset = .ok (.ok ())) :
      Appends t alignOf log (.readConfigSpace offset size) [.readConfig offset size]
  | writeConfigRefused {offset size value : Nat} {e : Error}
      (hc : checkConfigAccess o w t size (alignOf size) offset = .ok (.error e)) :
      Appends t alignOf log (.writeConfigSpace offset size value) []
  | writeConfig {offset size value : Nat}
      (hc : checkConfigAccess o w t size (alignOf size) offset = .ok (.ok ())) :
      Appends t alignOf log (.writeConfigSpace offset size value) [.writeConfig offset size value]

theorem perform_appends {t : PciTransport} {alignOf : Nat → Nat} {c : TransportCall}
    {log log' : List PciAccess} (h : (perform dev o w t alignOf c).run log = .ok () log') :
    ∃ new, log' = log ++ new ∧ Appends dev o w t alignOf log c new := by
  cases c
  case notify queue =>
    cases hn : PciTransport.notify o w t
        (dev.read (log ++ [.write .queueSelect queue.toUInt64]) .queueNotifyOff).toUInt16 queue with
    | error e => simp [perform, notify, hn, EStateM.run, EStateM.bind_apply] at h
    | ok r =>
      refine ⟨_, ?_, .notify hn⟩
      simp [perform, notify, hn, EStateM.run, EStateM.bind_apply] at h
      subst h
      simp
  case readConfigSpace offset size =>
    cases hc : checkConfigAccess o w t size (alignOf size) offset with
    | error e => simp [perform, readConfigSpace, hc, EStateM.run, EStateM.bind_apply] at h
    | ok r =>
      cases r with
      | error e =>
        refine ⟨_, ?_, .readConfigRefused hc⟩
        simp [perform, readConfigSpace, hc, EStateM.run, EStateM.bind_apply] at h
        simp [h]
      | ok u =>
        refine ⟨_, ?_, .readConfig hc⟩
        simp [perform, readConfigSpace, hc, EStateM.run, EStateM.bind_apply] at h
        subst h
        simp
  case writeConfigSpace offset size value =>
    cases hc : checkConfigAccess o w t size (alignOf size) offset with
    | error e => simp [perform, writeConfigSpace, hc, EStateM.run, EStateM.bind_apply] at h
    | ok r =>
      cases r with
      | error e =>
        refine ⟨_, ?_, .writeConfigRefused hc⟩
        simp [perform, writeConfigSpace, hc, EStateM.run, EStateM.bind_apply] at h
        simp [h]
      | ok u =>
        refine ⟨_, ?_, .writeConfig hc⟩
        simp [perform, writeConfigSpace, hc, EStateM.run, EStateM.bind_apply] at h
        subst h
        simp
  all_goals
    refine ⟨_, ?_, by constructor⟩
    simp [perform, readDeviceFeatures, writeDriverFeatures, maxQueueSize, setStatus, queueSet,
      queueUsed, ackInterrupt, readConfigGeneration, EStateM.run, EStateM.bind_apply] at h ⊢
    subst h
    simp

end PciTransport.Impl
end VirtioDrivers
