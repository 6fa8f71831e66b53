import VirtioDrivers.Transport.Mmio

/-! A virtio-mmio device as the register descriptions of `VirtIOHeader` have it. The
device keeps what the driver writes: the feature selectors and the driver's feature
words, the queue the driver selects and, for each queue, the registers written while it
was selected, and the status, whose zero resets the device and takes every queue out of
use. A read answers from these, or with what the device says of itself. Such a device
answers each read from the accesses made before it, by replaying them, so it is one
`MmioDevice`. -/
namespace VirtioDrivers

/-- The registers of one queue. -/
structure QueueRegs where
  num : UInt32
  align : UInt32
  pfn : UInt32
  ready : UInt32
  descLow : UInt32
  descHigh : UInt32
  driverLow : UInt32
  driverHigh : UInt32
  deviceLow : UInt32
  deviceHigh : UInt32
deriving DecidableEq, Repr

/-- A queue the driver has not set up. -/
def QueueRegs.zero : QueueRegs := ⟨0, 0, 0, 0, 0, 0, 0, 0, 0, 0⟩

/-- What a device says of itself: its identity, its features, the largest size of each
queue, and its config generation. -/
structure MmioIdentity where
  magic : UInt32
  version : UInt32
  deviceId : UInt32
  vendorId : UInt32
  deviceFeatures : UInt64
  queueNumMax : UInt32 → UInt32
  configGeneration : UInt32

/-- The registers a device keeps, and its config space by offset and size. -/
structure RegFile where
  deviceFeaturesSel : UInt32
  driverFeaturesSel : UInt32
  driverFeatures : UInt32 → UInt32
  guestPageSize : UInt32
  queueSel : UInt32
  queues : UInt32 → QueueRegs
  interruptStatus : UInt32
  status : UInt32
  notified : List UInt32
  config : Nat → Nat → Nat

namespace RegFile

/-- A write to a register of the selected queue. -/
def setQueue (d : RegFile) (f : QueueRegs → QueueRegs) : RegFile :=
  { d with queues := Function.update d.queues d.queueSel (f (d.queues d.queueSel)) }

/-- A write to the status register: zero resets the device, which clears its interrupt
and every queue. -/
def writeStatus (d : RegFile) (v : UInt32) : RegFile :=
  if v = 0 then { d with status := 0, interruptStatus := 0, queues := fun _ => QueueRegs.zero }
  else { d with status := v }

/-- The effect of a write; a write to a register the device only reads out does nothing. -/
def write (d : RegFile) : Reg → UInt32 → RegFile
  | .deviceFeaturesSel, v => { d with deviceFeaturesSel := v }
  | .driverFeatures, v =>
    { d with driverFeatures := Function.update d.driverFeatures d.driverFeaturesSel v }
  | .driverFeaturesSel, v => { d with driverFeaturesSel := v }
  | .legacyGuestPageSize, v => { d with guestPageSize := v }
  | .queueSel, v => { d with queueSel := v }
  | .queueNum, v => d.setQueue fun q => { q with num := v }
  | .legacyQueueAlign, v => d.setQueue fun q => { q with align := v }
  | .legacyQueuePfn, v => d.setQueue fun q => { q with pfn := v }
  | .queueReady, v => d.setQueue fun q => { q with ready := v }
  | .queueNotify, v => { d with notified := d.notified ++ [v] }
  | .interruptAck, v => { d with interruptStatus := d.interruptStatus &&& ~~~v }
  | .status, v => d.writeStatus v
  | .queueDescLow, v => d.setQueue fun q => { q with descLow := v }
  | .queueDescHigh, v => d.setQueue fun q => { q with descHigh := v }
  | .queueDriverLow, v => d.setQueue fun q => { q with driverLow := v }
  | .queueDriverHigh, v => d.setQueue fun q => { q with driverHigh := v }
  | .queueDeviceLow, v => d.setQueue fun q => { q with deviceLow := v }
  | .queueDeviceHigh, v => d.setQueue fun q => { q with deviceHigh := v }
  | _, _ => d

/-- What a read of a register returns. The feature word is the half the selector names;
the queue registers are those of the selected queue. -/
def answer (id : MmioIdentity) (d : RegFile) : Reg → UInt32
  | .magic => id.magic
  | .version => id.version
  | .deviceId => id.deviceId
  | .vendorId => id.vendorId
  | .deviceFeatures =>
    if d.deviceFeaturesSel = 0 then id.deviceFeatures.toUInt32
    else if d.deviceFeaturesSel = 1 then (id.deviceFeatures >>> 32).toUInt32
    else 0
  | .queueNumMax => id.queueNumMax d.queueSel
  | .legacyQueuePfn => (d.queues d.queueSel).pfn
  | .queueReady => (d.queues d.queueSel).ready
  | .interruptStatus => d.interruptStatus
  | .status => d.status
  | .configGeneration => id.configGeneration
  | _ => 0

/-- The effect of an access: reads change nothing. -/
def apply (d : RegFile) : Access → RegFile
  | .read _ => d
  | .write r v => d.write r v
  | .readConfig _ _ => d
  | .writeConfig offset size value =>
    { d with config := fun o s => if o = offset ∧ s = size then value else d.config o s }

/-- The registers after the accesses of `log`. -/
def replay (d : RegFile) (log : List Access) : RegFile := log.foldl apply d

@[simp] theorem replay_nil (d : RegFile) : d.replay [] = d := rfl

@[simp] theorem replay_append (d : RegFile) (l₁ l₂ : List Access) :
    d.replay (l₁ ++ l₂) = (d.replay l₁).replay l₂ := List.foldl_append

@[simp] theorem replay_cons (d : RegFile) (a : Access) (log : List Access) :
    d.replay (a :: log) = (d.apply a).replay log := rfl

@[simp] theorem apply_read (d : RegFile) (r : Reg) : d.apply (.read r) = d := rfl

@[simp] theorem apply_readConfig (d : RegFile) (offset size : Nat) :
    d.apply (.readConfig offset size) = d := rfl

@[simp] theorem apply_write (d : RegFile) (r : Reg) (v : UInt32) :
    d.apply (.write r v) = d.write r v := rfl

@[simp] theorem replay_replicate_read (d : RegFile) (n : Nat) (r : Reg) :
    d.replay (List.replicate n (.read r)) = d := by
  induction n with
  | zero => rfl
  | succ n ih => simpa [List.replicate_succ] using ih

/-- The driver's features, its two words put together. -/
def driverFeatures64 (d : RegFile) : UInt64 :=
  (d.driverFeatures 0).toUInt64 ||| ((d.driverFeatures 1).toUInt64 <<< 32)

/-- Whether `queue_used` finds a queue in use: its page number on a legacy device, its
ready bit on a modern one. -/
def inUse (version : MmioVersion) (d : RegFile) (queue : UInt16) : Bool :=
  match version with
  | .legacy => (d.queues queue.toUInt32).pfn != 0
  | .modern => (d.queues queue.toUInt32).ready != 0

/-- The register that says a queue is in use. -/
def flagReg : MmioVersion → Reg
  | .legacy => .legacyQueuePfn
  | .modern => .queueReady

@[simp] theorem eq_flagReg_iff (r : Reg) (version : MmioVersion) :
    r = flagReg version ↔
      r = .legacyQueuePfn ∧ version = .legacy ∨ r = .queueReady ∧ version = .modern := by
  cases version <;> cases r <;> simp [flagReg]

@[simp] theorem queueSel_write (d : RegFile) (r : Reg) (v : UInt32) :
    (d.write r v).queueSel = if r = .queueSel then v else d.queueSel := by
  cases r <;> simp [write, setQueue]
  case status => unfold writeStatus; split <;> rfl

/-- A write takes every queue out of use if it resets the device, and otherwise changes
at most the selected queue, through its flag register. -/
@[simp] theorem inUse_write (version : MmioVersion) (d : RegFile) (r : Reg) (v : UInt32)
    (p : UInt16) :
    (d.write r v).inUse version p =
      if r = .status ∧ v = 0 then false
      else if r = flagReg version ∧ p.toUInt32 = d.queueSel then v != 0
      else d.inUse version p := by
  cases r
  case status =>
    by_cases hv : v = 0 <;> cases version <;>
      simp [write, writeStatus, inUse, flagReg, hv, QueueRegs.zero]
  all_goals
    by_cases hp : p.toUInt32 = d.queueSel <;> cases version <;>
      simp [write, setQueue, inUse, flagReg, hp]

@[simp] theorem inUse_apply_writeConfig (version : MmioVersion) (d : RegFile)
    (offset size value : Nat) :
    (d.apply (.writeConfig offset size value)).inUse version = d.inUse version := rfl

end RegFile

/-- The device of a register file that starts as `d`. -/
def MmioDevice.ofRegFile (id : MmioIdentity) (d : RegFile) : MmioDevice where
  read log r := (d.replay log).answer id r
  readConfig log offset size := (d.replay log).config offset size

@[simp] theorem MmioDevice.ofRegFile_read (id : MmioIdentity) (d : RegFile) (log : List Access)
    (r : Reg) : (MmioDevice.ofRegFile id d).read log r = (d.replay log).answer id r := rfl

@[simp] theorem MmioDevice.ofRegFile_readConfig (id : MmioIdentity) (d : RegFile)
    (log : List Access) (offset size : Nat) :
    (MmioDevice.ofRegFile id d).readConfig log offset size = (d.replay log).config offset size :=
  rfl

end VirtioDrivers
