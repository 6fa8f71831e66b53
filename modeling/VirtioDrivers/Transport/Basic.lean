import VirtioDrivers.Queue.Types
import VirtioDrivers.Lib.ExceptBind

/-! The `Transport` trait of `transport/mod.rs` as a driver uses it. A transport is the
device behind it: each of its answers may depend on every call the driver has made
before, which is as general as any device, since within one run no two calls have the
same history. A transport's state, as the driver sees it, is that history; a driver's
`transport` field holds it, and every call appends itself to it. -/
namespace VirtioDrivers

/-- `DeviceStatus`, the bitflags of the device status field. -/
structure DeviceStatus where
  bits : UInt32
deriving DecidableEq, Repr

namespace DeviceStatus

def empty : DeviceStatus := ⟨0⟩
def ACKNOWLEDGE : DeviceStatus := ⟨1⟩
def DRIVER : DeviceStatus := ⟨2⟩
def FAILED : DeviceStatus := ⟨128⟩
def FEATURES_OK : DeviceStatus := ⟨8⟩
def DRIVER_OK : DeviceStatus := ⟨4⟩
def DEVICE_NEEDS_RESET : DeviceStatus := ⟨64⟩

/-- `a | b`. -/
def union (a b : DeviceStatus) : DeviceStatus := ⟨a.bits ||| b.bits⟩

@[simp] theorem acknowledge_union_driver : ACKNOWLEDGE.union DRIVER = ⟨3⟩ := by decide

@[simp] theorem union_featuresOk : (⟨3⟩ : DeviceStatus).union FEATURES_OK = ⟨11⟩ := by decide

@[simp] theorem union_driverOk : (⟨11⟩ : DeviceStatus).union DRIVER_OK = ⟨15⟩ := by decide

end DeviceStatus

/-- The calls a driver makes on its transport. -/
inductive TransportCall where
  | readDeviceFeatures
  | writeDriverFeatures (driverFeatures : UInt64)
  | maxQueueSize (queue : UInt16)
  | notify (queue : UInt16)
  | setStatus (status : DeviceStatus)
  | setGuestPageSize (guestPageSize : UInt32)
  | requiresLegacyLayout
  | queueSet (queue : UInt16) (size : UInt32) (descriptors driverArea deviceArea : Nat)
  | queueUnset (queue : UInt16)
  | queueUsed (queue : UInt16)
  | ackInterrupt
  | readConfigGeneration
  | readConfigSpace (offset size : Nat)
  | writeConfigSpace (offset size value : Nat)
deriving DecidableEq, Repr

/-- The answers of a transport to the calls that return something, given the calls
made before. A config-space access names the field's offset and size in bytes; a read
returns the field's value. -/
structure TransportBehaviour where
  deviceFeatures : List TransportCall → UInt64
  maxQueueSize : List TransportCall → UInt16 → UInt32
  requiresLegacyLayout : List TransportCall → Bool
  queueUsed : List TransportCall → UInt16 → Bool
  ackInterrupt : List TransportCall → Bool
  configGeneration : List TransportCall → UInt32
  readConfigSpace : List TransportCall → Nat → Nat → Except Error Nat
  writeConfigSpace : List TransportCall → Nat → Nat → Nat → Except Error Unit

def PAGE_SIZE : Nat := 4096

/-- What the device has written to shared memory when a driver reads it: the device area
of each queue, by queue index, and the bytes of memory. -/
structure DeviceMemory where
  used : UInt16 → UsedRing
  mem : Nat → UInt8

/-- Shared memory before the device has written anything. -/
def DeviceMemory.idle : DeviceMemory := ⟨fun _ => UsedRing.zero, fun _ => 0⟩

/-- A device that offers no features, takes queues of up to `maxSize` entries on the
modern layout, signals an interrupt whenever asked, and whose configuration space reads
as zeros. -/
def TransportBehaviour.plain (maxSize : UInt32) : TransportBehaviour where
  deviceFeatures := fun _ => 0
  maxQueueSize := fun _ _ => maxSize
  requiresLegacyLayout := fun _ => false
  queueUsed := fun _ _ => false
  ackInterrupt := fun _ => true
  configGeneration := fun _ => 0
  readConfigSpace := fun _ _ _ => .ok 0
  writeConfigSpace := fun _ _ _ _ => .ok ()

namespace Features

/-- The device-independent feature bits, the same in every driver's `Features`. -/
def RING_INDIRECT_DESC : UInt64 := 1 <<< (28 : UInt64)
def RING_EVENT_IDX : UInt64 := 1 <<< (29 : UInt64)

/-- `features.contains(flag)`. -/
def contains (features flag : UInt64) : Bool := features &&& flag == flag

end Features

/-- The `?` operator applied to a `Result` in a method that may also panic. -/
def ofResult {σ α : Type} (r : Except Error α) : EStateM Fault σ α :=
  match r with
  | .ok a => pure a
  | .error e => throw (.err e)

@[simp] theorem run_ofResult_ok {σ α : Type} (a : α) (s : σ) :
    (ofResult (.ok a : Except Error α)).run s = .ok a s := rfl

@[simp] theorem run_ofResult_error {σ α : Type} (e : Error) (s : σ) :
    (ofResult (.error e : Except Error α)).run s = .error (.err e) s := rfl

namespace Transport
variable {α : Type} (T : TransportBehaviour)

/-- A call that returns nothing. -/
def command (c : TransportCall) : EStateM Fault (List TransportCall) Unit :=
  fun log => .ok () (log ++ [c])

/-- A call whose answer the transport gives from the calls before it. -/
def query (c : TransportCall) (answer : List TransportCall → α) :
    EStateM Fault (List TransportCall) α :=
  fun log => .ok (answer log) (log ++ [c])

def readDeviceFeatures := query .readDeviceFeatures T.deviceFeatures
def writeDriverFeatures (driverFeatures : UInt64) := command (.writeDriverFeatures driverFeatures)
def maxQueueSize (queue : UInt16) := query (.maxQueueSize queue) (T.maxQueueSize · queue)
def notify (queue : UInt16) := command (.notify queue)
def setStatus (status : DeviceStatus) := command (.setStatus status)
def setGuestPageSize (guestPageSize : UInt32) := command (.setGuestPageSize guestPageSize)
def requiresLegacyLayout := query .requiresLegacyLayout T.requiresLegacyLayout
def queueSet (queue : UInt16) (size : UInt32) (descriptors driverArea deviceArea : Nat) :=
  command (.queueSet queue size descriptors driverArea deviceArea)
def queueUnset (queue : UInt16) := command (.queueUnset queue)
def queueUsed (queue : UInt16) := query (.queueUsed queue) (T.queueUsed · queue)
def ackInterrupt := query .ackInterrupt T.ackInterrupt
def readConfigGeneration := query .readConfigGeneration T.configGeneration

/-- `read_config_space::<V>(offset)` for a field of `size` bytes. -/
def readConfigSpace (offset size : Nat) : ExceptT Error (EStateM Fault (List TransportCall)) Nat :=
  ExceptT.mk (query (.readConfigSpace offset size) (T.readConfigSpace · offset size))

/-- `write_config_space(offset, value)` for a field of `size` bytes. -/
def writeConfigSpace (offset size value : Nat) :
    ExceptT Error (EStateM Fault (List TransportCall)) Unit :=
  ExceptT.mk (query (.writeConfigSpace offset size value) (T.writeConfigSpace · offset size value))

/-- `begin_init`: reset, acknowledge, negotiate features and set the page size. The
negotiated features are `from_bits_truncate(device) & supported`, that is the device's
bits that `supported` has, since every flag of `supported` is a known one. -/
def beginInit (supported : UInt64) : EStateM Fault (List TransportCall) UInt64 := do
  setStatus DeviceStatus.empty
  setStatus (DeviceStatus.ACKNOWLEDGE.union DeviceStatus.DRIVER)
  let deviceFeatures ← readDeviceFeatures T
  let negotiatedFeatures := deviceFeatures &&& supported
  writeDriverFeatures negotiatedFeatures
  setStatus ((DeviceStatus.ACKNOWLEDGE.union DeviceStatus.DRIVER).union DeviceStatus.FEATURES_OK)
  setGuestPageSize (UInt32.ofNat PAGE_SIZE)
  pure negotiatedFeatures

def finishInit : EStateM Fault (List TransportCall) Unit :=
  setStatus (((DeviceStatus.ACKNOWLEDGE.union DeviceStatus.DRIVER).union
    DeviceStatus.FEATURES_OK).union DeviceStatus.DRIVER_OK)

/-- `read_consistent(f)`: runs `f` between two reads of the config generation until
both reads agree. The loop ends only when the device lets it, so it runs on `fuel`. -/
def readConsistent (f : ExceptT Error (EStateM Fault (List TransportCall)) α) :
    Nat → EStateM Fault (List TransportCall) α
  | 0 => throw .stuck
  | fuel + 1 => do
    let before ← readConfigGeneration T
    let result ← f.run
    let after ← readConfigGeneration T
    if before == after then ofResult result else readConsistent f fuel

/-- The calls of `begin_init`, in order, for a device that offers `deviceFeatures`. -/
def beginInitCalls (deviceFeatures supported : UInt64) : List TransportCall :=
  [.setStatus DeviceStatus.empty, .setStatus ⟨3⟩, .readDeviceFeatures,
    .writeDriverFeatures (deviceFeatures &&& supported), .setStatus ⟨11⟩,
    .setGuestPageSize 4096]

theorem run_command_eq_ok {c : TransportCall} {log log' : List TransportCall} {u : Unit} :
    (command c).run log = .ok u log' ↔ log' = log ++ [c] := by
  constructor
  · rintro ⟨⟩
    rfl
  · rintro rfl
    rfl

theorem run_query_eq_ok {c : TransportCall} {answer : List TransportCall → α} {a : α}
    {log log' : List TransportCall} :
    (query c answer).run log = .ok a log' ↔ a = answer log ∧ log' = log ++ [c] := by
  constructor
  · rintro ⟨⟩
    exact ⟨rfl, rfl⟩
  · rintro ⟨rfl, rfl⟩
    rfl

theorem run_beginInit (supported : UInt64) (log : List TransportCall) :
    (beginInit T supported).run log =
      .ok (T.deviceFeatures (log ++ [.setStatus DeviceStatus.empty, .setStatus ⟨3⟩]) &&& supported)
        (log ++ beginInitCalls
          (T.deviceFeatures (log ++ [.setStatus DeviceStatus.empty, .setStatus ⟨3⟩])) supported) := by
  simp [beginInit, beginInitCalls, setStatus, readDeviceFeatures, writeDriverFeatures,
    setGuestPageSize, command, query, bind, EStateM.bind, pure, EStateM.pure, EStateM.run, PAGE_SIZE]

theorem run_finishInit (log : List TransportCall) :
    finishInit.run log = .ok () (log ++ [.setStatus ⟨15⟩]) := by
  simp [finishInit, setStatus, command, EStateM.run]

end Transport
end VirtioDrivers
