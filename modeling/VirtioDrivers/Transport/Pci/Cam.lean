import VirtioDrivers.Transport.Pci.Bus
import VirtioDrivers.Lib.StepRun

/-! The memory-mapped configuration access mechanisms (`Cam`, `MmioCam` in
`transport/pci/bus.rs`). `cam_offset` packs the bus, device and function of a device
function above its register offset, with 8 bits of register space a function for the PCI
mechanism and 12 for PCIe's, and asserts that the function is valid and the offset a word.
`MmioCam` reads and writes the `u32` at that offset from its base. Each offset the asserts
let through is a word of its own, so the region is a register file: a write sets the
register it names and no other. -/
namespace VirtioDrivers

def DeviceFunction.valid (df : DeviceFunction) : Bool := df.device < 32 && df.function < 8

inductive Cam where
  | mmioCam
  | ecam
deriving DecidableEq, Repr

namespace Cam

def size : Cam → UInt32
  | .mmioCam => 0x1000000
  | .ecam => 0x10000000

def camOffset (cam : Cam) (deviceFunction : DeviceFunction) (registerOffset : UInt8) :
    Except Fault UInt32 := do
  assert deviceFunction.valid
  let bdf := deviceFunction.bus.toUInt32 <<< 8 ||| deviceFunction.device.toUInt32 <<< 3
    ||| deviceFunction.function.toUInt32
  let address := bdf <<< (match cam with | .mmioCam => 8 | .ecam => 12) ||| registerOffset.toUInt32
  assert (address < cam.size)
  assert (address &&& 0x3 == 0)
  pure address

/-- The bits of register space of a function. -/
def registerBits : Cam → Nat
  | .mmioCam => 8
  | .ecam => 12

/-- Where a register of a device function is, as a number: the bus, device and function
above the function's register space. -/
def index (cam : Cam) (df : DeviceFunction) (registerOffset : UInt8) : Nat :=
  (df.bus.toNat * 2 ^ 8 + df.device.toNat * 2 ^ 3 + df.function.toNat) * 2 ^ cam.registerBits +
    registerOffset.toNat

theorem mul_two_pow_or {a b k : Nat} (hb : b < 2 ^ k) : a * 2 ^ k ||| b = a * 2 ^ k + b := by
  rw [← Nat.shiftLeft_eq, Nat.shiftLeft_add_eq_or_of_lt hb]

theorem bdf_toNat {df : DeviceFunction} (hv : df.valid) :
    (df.bus.toUInt32 <<< 8 ||| df.device.toUInt32 <<< 3 ||| df.function.toUInt32).toNat =
      df.bus.toNat * 2 ^ 8 + df.device.toNat * 2 ^ 3 + df.function.toNat := by
  simp [DeviceFunction.valid, UInt8.lt_iff_toNat_lt] at hv
  obtain ⟨hdevice, hfunction⟩ := hv
  have hbus := df.bus.toNat_lt
  simp only [UInt32.toNat_or, UInt32.toNat_shiftLeft, UInt8.toNat_toUInt32, Nat.shiftLeft_eq,
    UInt32.reduceToNat, Nat.reduceMod]
  rw [Nat.mod_eq_of_lt (by omega), Nat.mod_eq_of_lt (by omega), mul_two_pow_or (k := 8) (by omega),
    show df.bus.toNat * 2 ^ 8 + df.device.toNat * 2 ^ 3 = (df.bus.toNat * 2 ^ 5 + df.device.toNat) * 2 ^ 3 by ring,
    mul_two_pow_or (by simp; omega)]

theorem address_toNat {cam : Cam} {df : DeviceFunction} (hv : df.valid) (registerOffset : UInt8)
    {shift : UInt32} (hshift : shift.toNat = cam.registerBits) :
    ((df.bus.toUInt32 <<< 8 ||| df.device.toUInt32 <<< 3 ||| df.function.toUInt32) <<< shift |||
      registerOffset.toUInt32).toNat = cam.index df registerOffset := by
  have hbdf := bdf_toNat hv
  simp [DeviceFunction.valid, UInt8.lt_iff_toNat_lt] at hv
  have hbus := df.bus.toNat_lt
  have hreg := registerOffset.toNat_lt
  simp only [UInt32.toNat_or, UInt32.toNat_shiftLeft, UInt8.toNat_toUInt32, Nat.shiftLeft_eq, hbdf, hshift]
  cases cam <;>
  · simp only [registerBits, Nat.reduceMod]
    rw [Nat.mod_eq_of_lt (by omega), mul_two_pow_or (by omega)]
    rfl

theorem index_lt_size {cam : Cam} {df : DeviceFunction} (hv : df.valid) (registerOffset : UInt8) :
    cam.index df registerOffset < cam.size.toNat := by
  simp [DeviceFunction.valid, UInt8.lt_iff_toNat_lt] at hv
  have hbus := df.bus.toNat_lt
  have hreg := registerOffset.toNat_lt
  cases cam <;> simp [index, registerBits, size] <;> omega

theorem index_mod_four (cam : Cam) (df : DeviceFunction) (registerOffset : UInt8) :
    cam.index df registerOffset % 4 = registerOffset.toNat % 4 := by
  cases cam <;> simp [index, registerBits] <;> omega

/-- The two asserts on the index of a register: it is always within the region, and a word
exactly when the register offset is one. -/
theorem checks_of_toNat {cam : Cam} {df : DeviceFunction} (hv : df.valid) {registerOffset : UInt8}
    {address : UInt32} (h : address.toNat = cam.index df registerOffset) :
    (do
      assert (address < cam.size)
      assert (address &&& 0x3 == 0)
      pure address : Except Fault UInt32) =
      if registerOffset.toNat % 4 = 0 then .ok (UInt32.ofNat (cam.index df registerOffset))
      else .error .panic := by
  have hlt : address < cam.size := by
    rw [UInt32.lt_iff_toNat_lt, h]
    exact index_lt_size hv registerOffset
  have hword : address &&& 0x3 = 0 ↔ registerOffset.toNat % 4 = 0 := by
    have hand : (address &&& 0x3).toNat = cam.index df registerOffset % 4 := by
      rw [UInt32.toNat_and, h, show (0x3 : UInt32).toNat = 2 ^ 2 - 1 from rfl, Nat.and_two_pow_sub_one_eq_mod]
    rw [← UInt32.toNat_inj, hand, index_mod_four]
    rfl
  rw [← h, UInt32.ofNat_toNat]
  by_cases ha : registerOffset.toNat % 4 = 0 <;> simp [assert, hlt, hword, ha]

theorem camOffset_spec (cam : Cam) (df : DeviceFunction) (registerOffset : UInt8) :
    cam.camOffset df registerOffset =
      if df.valid ∧ registerOffset.toNat % 4 = 0 then .ok (UInt32.ofNat (cam.index df registerOffset))
      else .error .panic := by
  by_cases hv : df.valid
  swap
  · simp [camOffset, assert, hv]
  simp only [hv, true_and]
  cases cam <;> simp only [camOffset, hv]
  · exact checks_of_toNat hv (address_toNat hv registerOffset rfl)
  · exact checks_of_toNat hv (address_toNat hv registerOffset rfl)

theorem index_injective {cam : Cam} {df df' : DeviceFunction} (hv : df.valid) (hv' : df'.valid)
    {registerOffset registerOffset' : UInt8} (h : cam.index df registerOffset = cam.index df' registerOffset') :
    df = df' ∧ registerOffset = registerOffset' := by
  simp [DeviceFunction.valid, UInt8.lt_iff_toNat_lt] at hv hv'
  have hbus := df.bus.toNat_lt
  have hbus' := df'.bus.toNat_lt
  have hreg := registerOffset.toNat_lt
  have hreg' := registerOffset'.toNat_lt
  have hfields : df.bus.toNat = df'.bus.toNat ∧ df.device.toNat = df'.device.toNat ∧
      df.function.toNat = df'.function.toNat ∧ registerOffset.toNat = registerOffset'.toNat := by
    cases cam <;> simp only [index, registerBits] at h <;> omega
  obtain ⟨hb, hd, hf, hr⟩ := hfields
  obtain ⟨bus, device, function⟩ := df
  obtain ⟨bus', device', function'⟩ := df'
  exact ⟨by simp_all [UInt8.toNat_inj], UInt8.toNat_inj.mp hr⟩

end Cam

/-- A register `cam_offset` lets through: of a valid device function, at a word. -/
structure CamRegister where
  deviceFunction : DeviceFunction
  registerOffset : UInt8
  valid : deviceFunction.valid = true
  aligned : registerOffset.toNat % 4 = 0
deriving DecidableEq

theorem CamRegister.camOffset_eq (cam : Cam) (r : CamRegister) :
    cam.camOffset r.deviceFunction r.registerOffset =
      .ok (UInt32.ofNat (cam.index r.deviceFunction r.registerOffset)) := by
  rw [Cam.camOffset_spec, if_pos ⟨r.valid, r.aligned⟩]

/-- What a write does to a register file: it sets the register it names, and no other. -/
def ConfigWrite.sets (registers : CamRegister → UInt32) (w : ConfigWrite) : CamRegister → UInt32 :=
  fun r => if r.deviceFunction = w.deviceFunction ∧ r.registerOffset = w.registerOffset then w.data
    else registers r

/-- `MmioCam`: the base of the region, as a byte address, and its mechanism. -/
structure MmioCam where
  mmioBase : Nat
  cam : Cam

namespace MmioCam

/-- `MmioCam::new`: the base must be word-aligned. -/
def new (mmioBase : Nat) (cam : Cam) : Except Fault MmioCam := do
  assert (mmioBase &&& 0x3 == 0)
  pure ⟨mmioBase, cam⟩

/-- `mmio_base.add((address >> 2) as usize)`, as the byte address of the `u32`. -/
def wordAddress (c : MmioCam) (address : UInt32) : Nat := c.mmioBase + 4 * (address >>> 2).toNat

/-- `read_word`. The region is its `u32` words, by address. -/
def readWord (c : MmioCam) (deviceFunction : DeviceFunction) (registerOffset : UInt8) :
    EStateM Fault (Nat → UInt32) UInt32 := do
  let address ← MonadExcept.ofExcept (c.cam.camOffset deviceFunction registerOffset)
  pure ((← get) (c.wordAddress address))

def writeWord (c : MmioCam) (deviceFunction : DeviceFunction) (registerOffset : UInt8) (data : UInt32) :
    EStateM Fault (Nat → UInt32) Unit := do
  let address ← MonadExcept.ofExcept (c.cam.camOffset deviceFunction registerOffset)
  modify fun mem => Function.update mem (c.wordAddress address) data

/-- The registers of the region: each at its index from the base. -/
def registers (c : MmioCam) (mem : Nat → UInt32) : CamRegister → UInt32 :=
  fun r => mem (c.mmioBase + c.cam.index r.deviceFunction r.registerOffset)

variable {c : MmioCam}

theorem wordAddress_index {df : DeviceFunction} (hv : df.valid) {registerOffset : UInt8}
    (ha : registerOffset.toNat % 4 = 0) :
    c.wordAddress (UInt32.ofNat (c.cam.index df registerOffset)) = c.mmioBase + c.cam.index df registerOffset := by
  have hlt : c.cam.index df registerOffset < c.cam.size.toNat := Cam.index_lt_size hv registerOffset
  have hmod := Cam.index_mod_four c.cam df registerOffset
  have hsize : c.cam.size.toNat ≤ 2 ^ 32 := by cases c.cam <;> decide
  simp only [wordAddress, UInt32.toNat_shiftRight, UInt32.toNat_ofNat', Nat.shiftRight_eq_div_pow]
  rw [Nat.mod_eq_of_lt (by omega)]
  -- the index is a word, so dropping its low two bits loses nothing
  simp only [UInt32.reduceToNat, Nat.reduceMod]
  omega

theorem readWord_run (r : CamRegister) (mem : Nat → UInt32) :
    (c.readWord r.deviceFunction r.registerOffset).run mem = .ok (c.registers mem r) mem := by
  unfold readWord
  rw [r.camOffset_eq]
  exact congrArg (fun v => EStateM.Result.ok v mem) (congrArg mem (wordAddress_index r.valid r.aligned))

theorem writeWord_run (r : CamRegister) (data : UInt32) (mem : Nat → UInt32) :
    (c.writeWord r.deviceFunction r.registerOffset data).run mem =
      .ok () (Function.update mem (c.mmioBase + c.cam.index r.deviceFunction r.registerOffset) data) := by
  unfold writeWord
  rw [r.camOffset_eq]
  exact congrArg (fun m => EStateM.Result.ok () m)
    (congrArg (fun a => Function.update mem a data) (wordAddress_index r.valid r.aligned))

theorem writeWord_registers {w : ConfigWrite} {mem mem' : Nat → UInt32}
    (h : (c.writeWord w.deviceFunction w.registerOffset w.data).run mem = .ok () mem') :
    c.registers mem' = ConfigWrite.sets (c.registers mem) w := by
  obtain ⟨address, mem₁, hoffset, hmodify⟩ := EStateM.run_bind_eq_ok.mp h
  obtain ⟨hoffset, rfl⟩ := EStateM.run_ofExcept_eq_ok.mp hoffset
  rw [Cam.camOffset_spec] at hoffset
  split at hoffset
  swap
  · cases hoffset
  rename_i hw
  cases hoffset
  cases hmodify
  funext r
  have hsame : c.mmioBase + c.cam.index r.deviceFunction r.registerOffset =
      c.mmioBase + c.cam.index w.deviceFunction w.registerOffset ↔
      r.deviceFunction = w.deviceFunction ∧ r.registerOffset = w.registerOffset := by
    constructor
    · intro h
      exact Cam.index_injective r.valid hw.1 (Nat.add_left_cancel h)
    · rintro ⟨hdf, hreg⟩
      rw [hdf, hreg]
  simp only [registers, ConfigWrite.sets, Function.update_apply, wordAddress_index hw.1 hw.2, hsame]

/-- Over any run of `write_word` calls that returns, the region is the register file the
writes make: a `read_word` of a register `cam_offset` lets through returns what the last write
to that register wrote, or what it held before the run. -/
theorem readWord_after_writes {mem₀ mem : Nat → UInt32} {ws : List ConfigWrite}
    (hr : EStateM.Runs (fun w => c.writeWord w.deviceFunction w.registerOffset w.data) mem₀ ws mem)
    (r : CamRegister) :
    (c.readWord r.deviceFunction r.registerOffset).run mem =
      .ok (ws.foldl ConfigWrite.sets (c.registers mem₀) r) mem := by
  have hsim : c.registers mem = ws.foldl ConfigWrite.sets (c.registers mem₀) :=
    hr.simulates c.registers fun h => writeWord_registers h
  rw [readWord_run, hsim]

/-- Two writes to the same register of two functions on a PCIe region: each function reads
back its own. -/
theorem readWord_after_writes_two_functions :
    (readWord ⟨0x30000000, .ecam⟩ ⟨0, 1, 0⟩ 0x10).run
        (Function.update (Function.update (fun _ => 0) 0x30008010 7) 0x30010010 9) =
      .ok 7 (Function.update (Function.update (fun _ => 0) 0x30008010 7) 0x30010010 9) ∧
    (readWord ⟨0x30000000, .ecam⟩ ⟨0, 2, 0⟩ 0x10).run
        (Function.update (Function.update (fun _ => 0) 0x30008010 7) 0x30010010 9) =
      .ok 9 (Function.update (Function.update (fun _ => 0) 0x30008010 7) 0x30010010 9) := by
  have hr : EStateM.Runs
      (fun w : ConfigWrite => writeWord ⟨0x30000000, .ecam⟩ w.deviceFunction w.registerOffset w.data)
      (fun _ => 0) ([] ++ [⟨⟨0, 1, 0⟩, 0x10, 7⟩] ++ [⟨⟨0, 2, 0⟩, 0x10, 9⟩])
      (Function.update (Function.update (fun _ => 0) 0x30008010 7) 0x30010010 9) :=
    .snoc (.snoc .nil (writeWord_run ⟨⟨0, 1, 0⟩, 0x10, rfl, rfl⟩ 7 _))
      (writeWord_run ⟨⟨0, 2, 0⟩, 0x10, rfl, rfl⟩ 9 _)
  exact ⟨(readWord_after_writes hr ⟨⟨0, 1, 0⟩, 0x10, rfl, rfl⟩).trans rfl,
    (readWord_after_writes hr ⟨⟨0, 2, 0⟩, 0x10, rfl, rfl⟩).trans rfl⟩

end MmioCam
end VirtioDrivers
