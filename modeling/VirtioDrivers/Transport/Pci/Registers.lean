import VirtioDrivers.Transport.Pci.Calls
import VirtioDrivers.Transport.State
import VirtioDrivers.Lib.StepRun
import VirtioDrivers.Lib.Halves

/-! A virtio-pci device as the fields of `virtio_pci_common_cfg` describe it. The device
keeps what the driver writes, at each field's width: the feature selectors and the driver's
feature words, the status, the queue selected and, for each queue, its size, its enable flag
and its three addresses. A status of zero resets the device: its ISR status is cleared and
every queue is given back at the largest size the device takes. Reading the ISR status
clears it. Such a device answers each access from the accesses made before it, by
replaying them, so it is one `PciDevice`; what its registers show of the calls follows the
abstract state of a transport whose queue flag the driver cannot clear and whose status is
one byte. -/
namespace VirtioDrivers

/-- The registers of one queue. -/
structure PciQueueRegs where
  size : UInt16
  enable : UInt16
  desc : UInt64
  driver : UInt64
  device : UInt64
deriving DecidableEq, Repr

/-- A queue as the device gives it back on reset, of the largest size it takes. -/
def PciQueueRegs.reset (size : UInt16) : PciQueueRegs := ⟨size, 0, 0, 0, 0⟩

/-- What a device says of itself: its features, the largest size and the notify offset of
each queue, and its config generation. -/
structure PciIdentity where
  deviceFeatures : UInt64
  queueSizeMax : UInt16 → UInt16
  queueNotifyOff : UInt16 → UInt16
  configGeneration : UInt8

/-- The registers a device keeps, the queues it has been notified of, and its config space
by offset and size. -/
structure PciRegs where
  deviceFeatureSelect : UInt32
  driverFeatureSelect : UInt32
  driverFeatures : UInt32 → UInt32
  deviceStatus : UInt8
  queueSelect : UInt16
  queues : UInt16 → PciQueueRegs
  isr : UInt8
  notified : List UInt16
  config : Nat → Nat → Nat

namespace PciRegs
variable (id : PciIdentity)

/-- A write to a field of the selected queue. -/
def setQueue (d : PciRegs) (f : PciQueueRegs → PciQueueRegs) : PciRegs :=
  { d with queues := Function.update d.queues d.queueSelect (f (d.queues d.queueSelect)) }

/-- A write to the status: zero resets the device. -/
def writeStatus (d : PciRegs) (v : UInt8) : PciRegs :=
  if v = 0 then
    { d with deviceStatus := 0, isr := 0, queues := fun q => PciQueueRegs.reset (id.queueSizeMax q) }
  else { d with deviceStatus := v }

/-- The effect of a write of a field, at the field's width; a write to a field the device
only reads out does nothing. -/
def write (d : PciRegs) : CommonField → UInt64 → PciRegs
  | .deviceFeatureSelect, v => { d with deviceFeatureSelect := v.toUInt32 }
  | .driverFeatureSelect, v => { d with driverFeatureSelect := v.toUInt32 }
  | .driverFeature, v =>
    { d with driverFeatures := Function.update d.driverFeatures d.driverFeatureSelect v.toUInt32 }
  | .deviceStatus, v => d.writeStatus id v.toUInt8
  | .queueSelect, v => { d with queueSelect := v.toUInt16 }
  | .queueSize, v => d.setQueue fun q => { q with size := v.toUInt16 }
  | .queueEnable, v => d.setQueue fun q => { q with enable := v.toUInt16 }
  | .queueDesc, v => d.setQueue fun q => { q with desc := v }
  | .queueDriver, v => d.setQueue fun q => { q with driver := v }
  | .queueDevice, v => d.setQueue fun q => { q with device := v }
  | .deviceFeature, _ | .configGeneration, _ | .queueNotifyOff, _ => d

/-- What a read of a field returns. The feature word is the half the selector names; the
queue fields are those of the selected queue. -/
def answer (d : PciRegs) : CommonField → UInt64
  | .deviceFeatureSelect => d.deviceFeatureSelect.toUInt64
  | .deviceFeature =>
    if d.deviceFeatureSelect = 0 then id.deviceFeatures.toUInt32.toUInt64
    else if d.deviceFeatureSelect = 1 then (id.deviceFeatures >>> 32).toUInt32.toUInt64
    else 0
  | .driverFeatureSelect => d.driverFeatureSelect.toUInt64
  | .driverFeature => (d.driverFeatures d.driverFeatureSelect).toUInt64
  | .deviceStatus => d.deviceStatus.toUInt64
  | .configGeneration => id.configGeneration.toUInt64
  | .queueSelect => d.queueSelect.toUInt64
  | .queueSize => (d.queues d.queueSelect).size.toUInt64
  | .queueEnable => (d.queues d.queueSelect).enable.toUInt64
  | .queueNotifyOff => (id.queueNotifyOff d.queueSelect).toUInt64
  | .queueDesc => (d.queues d.queueSelect).desc
  | .queueDriver => (d.queues d.queueSelect).driver
  | .queueDevice => (d.queues d.queueSelect).device

/-- The effect of an access: a read of the ISR status clears it, other reads change nothing. -/
def apply (d : PciRegs) : PciAccess → PciRegs
  | .read _ => d
  | .write f v => d.write id f v
  | .readIsr => { d with isr := 0 }
  | .writeNotify _ queue => { d with notified := d.notified ++ [queue] }
  | .readConfig _ _ => d
  | .writeConfig offset size value =>
    { d with config := fun o s => if o = offset ∧ s = size then value else d.config o s }

/-- The registers after the accesses of `log`. -/
def replay (d : PciRegs) (log : List PciAccess) : PciRegs := log.foldl (apply id) d

@[simp] theorem replay_nil (d : PciRegs) : d.replay id [] = d := rfl

@[simp] theorem replay_append (d : PciRegs) (l₁ l₂ : List PciAccess) :
    d.replay id (l₁ ++ l₂) = (d.replay id l₁).replay id l₂ := List.foldl_append

@[simp] theorem replay_cons (d : PciRegs) (a : PciAccess) (log : List PciAccess) :
    d.replay id (a :: log) = (d.apply id a).replay id log := rfl

@[simp] theorem apply_read (d : PciRegs) (f : CommonField) : d.apply id (.read f) = d := rfl

@[simp] theorem apply_readConfig (d : PciRegs) (offset size : Nat) :
    d.apply id (.readConfig offset size) = d := rfl

@[simp] theorem apply_write (d : PciRegs) (f : CommonField) (v : UInt64) :
    d.apply id (.write f v) = d.write id f v := rfl

@[simp] theorem apply_readIsr (d : PciRegs) : d.apply id .readIsr = { d with isr := 0 } := rfl

/-- The driver's features, its two words put together. -/
def driverFeatures64 (d : PciRegs) : UInt64 :=
  (d.driverFeatures 0).toUInt64 ||| ((d.driverFeatures 1).toUInt64 <<< 32)

/-- Whether `queue_used` finds a queue in use: its `queue_enable` is one. -/
def inUse (d : PciRegs) (queue : UInt16) : Bool := (d.queues queue).enable == 1

@[simp] theorem inUse_write (d : PciRegs) (f : CommonField) (v : UInt64) :
    (d.write id f v).inUse =
      if f = .deviceStatus ∧ v.toUInt8 = 0 then fun _ => false
      else if f = .queueEnable then Function.update d.inUse d.queueSelect (v.toUInt16 == 1)
      else d.inUse := by
  funext p
  cases f
  case deviceStatus =>
    by_cases hv : v.toUInt8 = 0 <;> simp [write, writeStatus, inUse, PciQueueRegs.reset, hv]
  all_goals by_cases hp : p = d.queueSelect <;> simp [write, setQueue, inUse, hp]

@[simp] theorem queueSelect_write (d : PciRegs) (f : CommonField) (v : UInt64) :
    (d.write id f v).queueSelect = if f = .queueSelect then v.toUInt16 else d.queueSelect := by
  cases f <;> simp [write, setQueue]
  case deviceStatus => unfold writeStatus; split <;> rfl

/-- What the registers show of the state the calls set: the status byte, the driver's
features, the queues enabled, the queues notified, whether the ISR status has a queue or
config bit set, and the config space. -/
def observe (d : PciRegs) : TransportState :=
  ⟨d.deviceStatus.toUInt32, d.driverFeatures64, d.inUse, d.notified.map UInt16.toUInt32,
    d.isr &&& 3 != 0, d.config⟩

theorem driverFeatures64_replay (d : PciRegs) (driverFeatures : UInt64) :
    (d.replay id [.write .driverFeatureSelect 0, .write .driverFeature driverFeatures.toUInt32.toUInt64,
      .write .driverFeatureSelect 1,
      .write .driverFeature (driverFeatures >>> 32).toUInt32.toUInt64]).driverFeatures64 =
      driverFeatures := by
  simp only [replay_cons, apply_write, write, replay_nil, driverFeatures64, Function.update_apply,
    UInt32.toUInt32_toUInt64]
  exact Halves.or_shiftLeft_toUInt32 driverFeatures

end PciRegs

/-- The device of a register file that starts as `d`. -/
def PciDevice.ofRegs (id : PciIdentity) (d : PciRegs) : PciDevice where
  read log f := (d.replay id log).answer id f
  isr log := (d.replay id log).isr
  readConfig log offset size := (d.replay id log).config offset size

@[simp] theorem PciDevice.ofRegs_read (id : PciIdentity) (d : PciRegs) (log : List PciAccess)
    (f : CommonField) : (PciDevice.ofRegs id d).read log f = (d.replay id log).answer id f := rfl

@[simp] theorem PciDevice.ofRegs_isr (id : PciIdentity) (d : PciRegs) (log : List PciAccess) :
    (PciDevice.ofRegs id d).isr log = (d.replay id log).isr := rfl

@[simp] theorem PciDevice.ofRegs_readConfig (id : PciIdentity) (d : PciRegs) (log : List PciAccess)
    (offset size : Nat) :
    (PciDevice.ofRegs id d).readConfig log offset size = (d.replay id log).config offset size := rfl

namespace PciRegs

theorem toUInt8_eq_zero_iff (bits : UInt32) : bits.toUInt8 = 0 ↔ bits % 256 = 0 := by
  rw [← UInt8.toUInt32_inj]
  simp

end PciRegs

namespace PciTransport.Impl
variable {o : Overflow} {w : Nat} (id : PciIdentity) (d₀ : PciRegs)

/-- One call that returns changes the queues enabled as `useAfter` says: only `queue_set`
and a reset touch a `queue_enable`. -/
theorem perform_inUse {t : PciTransport} {alignOf : Nat → Nat} {c : TransportCall}
    {log log' : List PciAccess}
    (h : (perform (PciDevice.ofRegs id d₀) o w t alignOf c).run log = .ok () log') :
    (d₀.replay id log').inUse = useAfter t.kind ((d₀.replay id log).inUse) c := by
  obtain ⟨new, rfl, ha⟩ := perform_appends _ _ _ h
  funext p
  cases ha
  case setStatus status =>
    -- a status byte of zero resets the device
    simp only [PciRegs.replay_append, PciRegs.replay_cons, PciRegs.apply_write, PciRegs.replay_nil,
      PciRegs.inUse_write, UInt8.toUInt8_toUInt64, true_and, PciRegs.toUInt8_eq_zero_iff]
    by_cases hs : status.bits % 256 = 0 <;> simp [useAfter, PciTransport.kind, hs]
  case queueSet queue size descriptors driverArea deviceArea =>
    by_cases hq : p = queue <;> simp [useAfter, PciTransport.kind, hq]
  all_goals simp [useAfter, PciTransport.kind, PciRegs.apply, PciRegs.write, PciRegs.inUse]

/-- One call that returns in a debug build changes what the registers show as the abstract
state's step says. -/
theorem perform_observe {t : PciTransport} {alignOf : Nat → Nat} {c : TransportCall}
    {log log' : List PciAccess}
    (h : (perform (PciDevice.ofRegs id d₀) .panics w t alignOf c).run log = .ok () log') :
    (d₀.replay id log').observe = ((d₀.replay id log).observe).after t.kind c := by
  have hinUse := perform_inUse id d₀ h
  obtain ⟨new, rfl, ha⟩ := perform_appends _ _ _ h
  rw [PciRegs.observe, PciRegs.observe, hinUse]
  cases ha
  case writeDriverFeatures driverFeatures =>
    rw [PciRegs.replay_append, PciRegs.driverFeatures64_replay]
    simp [TransportState.after, PciRegs.write]
  case notify queue address value hn =>
    obtain ⟨rfl, -⟩ := PciTransport.notify_eq_ok hn
    simp [TransportState.after, PciRegs.apply, PciRegs.write, PciRegs.driverFeatures64]
  case setStatus status =>
    -- a status byte of zero resets the device, and with it the ISR status
    simp only [PciRegs.replay_append, PciRegs.replay_cons, PciRegs.apply_write, PciRegs.replay_nil,
      PciRegs.write, UInt8.toUInt8_toUInt64]
    by_cases hs : status.bits % 256 = 0
    · have hz : status.bits.toUInt8 = 0 := (PciRegs.toUInt8_eq_zero_iff _).mpr hs
      simp [TransportState.after, PciTransport.kind, PciRegs.writeStatus, PciRegs.driverFeatures64,
        hs, hz]
    · have hz : status.bits.toUInt8 ≠ 0 := fun h' => hs ((PciRegs.toUInt8_eq_zero_iff _).mp h')
      simp [TransportState.after, PciTransport.kind, PciRegs.writeStatus, PciRegs.driverFeatures64,
        hs, hz]
  case ackInterrupt =>
    -- reading the ISR status cleared it
    simp [TransportState.after, PciRegs.driverFeatures64]
  case writeConfigRefused offset size value e hc =>
    have hk := checkConfigAccess_panics_eq_ok w hc
    simp [TransportState.after, ← hk, PciRegs.driverFeatures64]
  case writeConfig offset size value hc =>
    have hk := checkConfigAccess_panics_eq_ok w hc
    simp [TransportState.after, ← hk, PciRegs.apply, PciRegs.driverFeatures64]
  all_goals simp [TransportState.after, PciRegs.apply, PciRegs.write, PciRegs.setQueue,
    PciRegs.driverFeatures64]

theorem runs_inUse {t : PciTransport} {alignOf : Nat → Nat} {log log' : List PciAccess}
    {calls : List TransportCall}
    (hr : EStateM.Runs (perform (PciDevice.ofRegs id d₀) o w t alignOf) log calls log') :
    (d₀.replay id log').inUse = calls.foldl (useAfter t.kind) (d₀.replay id log).inUse :=
  hr.simulates (fun log => (d₀.replay id log).inUse) (perform_inUse id d₀)

theorem runs_observe {t : PciTransport} {alignOf : Nat → Nat} {log log' : List PciAccess}
    {calls : List TransportCall}
    (hr : EStateM.Runs (perform (PciDevice.ofRegs id d₀) .panics w t alignOf) log calls log') :
    (d₀.replay id log').observe = calls.foldl (TransportState.after t.kind) (d₀.replay id log).observe :=
  hr.simulates (fun log => (d₀.replay id log).observe) (perform_observe id d₀)

end PciTransport.Impl

end VirtioDrivers
