import VirtioDrivers.Transport.Pci.Cam
import VirtioDrivers.Transport.Pci.HypDevice

/-! `HypCam` (`transport/x86_64/cam.rs`): the configuration access mechanism under pKVM,
which reaches the word at `cam_offset` from the root complex's physical base by a four-byte
IO hypercall. On a device whose registers keep the bytes written, it is the same register
file as `MmioCam`'s, provided the region fits the address space. -/
namespace VirtioDrivers
open Pci

/-- `HypCam`: the physical base of the root complex and its mechanism. -/
structure HypCam where
  physBase : Nat
  cam : Cam

namespace HypCam
variable (dev : List HypIoAccess → Nat → Nat → UInt64) (o : Overflow) (w : Nat)

/-- `self.phys_base + (address as usize)`. -/
def ioAddress (c : HypCam) (deviceFunction : DeviceFunction) (registerOffset : UInt8) :
    Except Fault Nat := do
  let address ← c.cam.camOffset deviceFunction registerOffset
  overflowed (o.fit w (c.physBase + address.toNat))

/-- `read_word`: `hyp_io_read(address, 4) as u32`. -/
def readWord (c : HypCam) (deviceFunction : DeviceFunction) (registerOffset : UInt8) :
    EStateM Fault (List HypIoAccess) UInt32 := do
  let address ← MonadExcept.ofExcept (c.ioAddress o w deviceFunction registerOffset)
  fun log => .ok (dev log address 4).toUInt32 (log ++ [.read address 4])

/-- `write_word`: `hyp_io_write(address, 4, data.into())`. -/
def writeWord (c : HypCam) (deviceFunction : DeviceFunction) (registerOffset : UInt8) (data : UInt32) :
    EStateM Fault (List HypIoAccess) Unit := do
  let address ← MonadExcept.ofExcept (c.ioAddress o w deviceFunction registerOffset)
  modify (· ++ [.write ⟨address, 4, data.toNat⟩])

/-- The registers of the root complex on a device that keeps the bytes written from `mem₀`:
each the word at its index from the base, after the hypercalls so far. -/
def registers (c : HypCam) (mem₀ : Nat → UInt8) (log : List HypIoAccess) : CamRegister → UInt32 :=
  fun r => UInt32.ofNat (LittleEndian.decode
    (Memory.read (log.foldl HypIoAccess.store mem₀) (c.physBase + c.cam.index r.deviceFunction r.registerOffset) 4))

theorem writeWord_register {cw : ConfigWrite} {o : Overflow} {w : Nat} {c : HypCam} {log log' : List HypIoAccess}
    (h : (c.writeWord o w cw.deviceFunction cw.registerOffset cw.data).run log = .ok () log') :
    ∃ r : CamRegister, r.deviceFunction = cw.deviceFunction ∧ r.registerOffset = cw.registerOffset := by
  obtain ⟨address, log₁, haddress, -⟩ := EStateM.run_bind_eq_ok.mp h
  obtain ⟨haddress, -⟩ := EStateM.run_ofExcept_eq_ok.mp haddress
  obtain ⟨offset, hoffset, -⟩ := Except.bind_eq_ok.mp haddress
  rw [Cam.camOffset_spec] at hoffset
  split at hoffset
  · rename_i hreg
    exact ⟨⟨cw.deviceFunction, cw.registerOffset, hreg.1, hreg.2⟩, rfl, rfl⟩
  · cases hoffset

section Fits
variable {o w} {c : HypCam} (hfits : c.physBase + c.cam.size.toNat ≤ 2 ^ w)
include hfits

theorem ioAddress_eq_ok (r : CamRegister) :
    c.ioAddress o w r.deviceFunction r.registerOffset =
      .ok (c.physBase + c.cam.index r.deviceFunction r.registerOffset) := by
  have hlt : c.cam.index r.deviceFunction r.registerOffset < c.cam.size.toNat :=
    Cam.index_lt_size r.valid r.registerOffset
  have hsize : c.cam.size.toNat ≤ 2 ^ 32 := by cases c.cam <;> decide
  have hmod : c.cam.index r.deviceFunction r.registerOffset % 4294967296 =
      c.cam.index r.deviceFunction r.registerOffset := Nat.mod_eq_of_lt (by omega)
  have hfit : c.physBase + c.cam.index r.deviceFunction r.registerOffset < 2 ^ w := by omega
  unfold ioAddress
  rw [r.camOffset_eq]
  show overflowed (o.fit w (c.physBase + (UInt32.ofNat (c.cam.index r.deviceFunction r.registerOffset)).toNat)) = _
  rw [UInt32.toNat_ofNat', hmod, o.fit_of_lt hfit, overflowed_some]

theorem readWord_run (mem₀ : Nat → UInt8) (r : CamRegister) (log : List HypIoAccess) :
    (c.readWord (memoryDevice mem₀) o w r.deviceFunction r.registerOffset).run log =
      .ok (c.registers mem₀ log r)
        (log ++ [.read (c.physBase + c.cam.index r.deviceFunction r.registerOffset) 4]) := by
  unfold readWord
  rw [ioAddress_eq_ok hfits r]
  simp only [memoryDevice, UInt64.toUInt32_ofNat']
  rfl

theorem writeWord_run (r : CamRegister) (data : UInt32) (log : List HypIoAccess) :
    (c.writeWord o w r.deviceFunction r.registerOffset data).run log =
      .ok () (log ++ [.write ⟨c.physBase + c.cam.index r.deviceFunction r.registerOffset, 4, data.toNat⟩]) := by
  unfold writeWord
  rw [ioAddress_eq_ok hfits r]
  rfl

/-- A write that returns sets the register it names in the register file, and no other: the
four bytes it stores miss every other register's. -/
theorem writeWord_registers (mem₀ : Nat → UInt8) {cw : ConfigWrite} {log log' : List HypIoAccess}
    (h : (c.writeWord o w cw.deviceFunction cw.registerOffset cw.data).run log = .ok () log') :
    c.registers mem₀ log' = ConfigWrite.sets (c.registers mem₀ log) cw := by
  obtain ⟨r, hdf, hreg⟩ := writeWord_register h
  obtain ⟨deviceFunction, registerOffset, data⟩ := cw
  dsimp only at hdf hreg h
  subst hdf hreg
  rw [writeWord_run hfits r data log] at h
  cases h
  funext r'
  simp only [registers, ConfigWrite.sets, List.foldl_append, List.foldl_cons, List.foldl_nil,
    HypIoAccess.store]
  by_cases hsame : r'.deviceFunction = r.deviceFunction ∧ r'.registerOffset = r.registerOffset
  · rw [if_pos hsame, hsame.1, hsame.2, Memory.read_write_self _ _ _ (by simp),
      List.take_of_length_le (by simp), LittleEndian.decode_encode_of_lt (by simpa using data.toNat_lt)]
    exact UInt32.ofNat_toNat
  · rw [if_neg hsame, Memory.read_write_of_disjoint]
    have hne : c.cam.index r'.deviceFunction r'.registerOffset ≠ c.cam.index r.deviceFunction r.registerOffset :=
      fun heq => hsame (Cam.index_injective r'.valid r.valid heq)
    have h' := Cam.index_mod_four c.cam r'.deviceFunction r'.registerOffset
    have h'' := Cam.index_mod_four c.cam r.deviceFunction r.registerOffset
    have := r'.aligned
    have := r.aligned
    simp only [LittleEndian.length_encode]
    omega

/-- Over any run of `write_word` calls that returns, on a device whose registers keep the bytes
written, the root complex is the register file the writes make: a `read_word` of a register
`cam_offset` lets through returns what the last write to that register wrote, or what the
device held there before the run. -/
theorem readWord_after_io_writes (mem₀ : Nat → UInt8) {log₀ log : List HypIoAccess}
    {ws : List ConfigWrite}
    (hr : EStateM.Runs (fun cw => c.writeWord o w cw.deviceFunction cw.registerOffset cw.data) log₀ ws log)
    (r : CamRegister) :
    (c.readWord (memoryDevice mem₀) o w r.deviceFunction r.registerOffset).run log =
      .ok (ws.foldl ConfigWrite.sets (c.registers mem₀ log₀) r)
        (log ++ [.read (c.physBase + c.cam.index r.deviceFunction r.registerOffset) 4]) := by
  have hsim : c.registers mem₀ log = ws.foldl ConfigWrite.sets (c.registers mem₀ log₀) :=
    hr.simulates (c.registers mem₀) fun h => writeWord_registers hfits mem₀ h
  rw [readWord_run hfits, hsim]

end Fits

/-- A PCIe root complex at 3 GiB on a 64-bit machine, its device's registers all zero: two
functions write the same register and each reads back its own. -/
theorem readWord_after_io_writes_two_functions :
    (readWord (memoryDevice fun _ => 0) .panics 64 ⟨0xc0000000, .ecam⟩ ⟨0, 1, 0⟩ 0x10).run
        [.write ⟨0xc0008010, 4, 7⟩, .write ⟨0xc0010010, 4, 9⟩] =
      .ok 7 [.write ⟨0xc0008010, 4, 7⟩, .write ⟨0xc0010010, 4, 9⟩, .read 0xc0008010 4] := by
  have hfits : (⟨0xc0000000, .ecam⟩ : HypCam).physBase + Cam.ecam.size.toNat ≤ 2 ^ 64 := by decide
  have hr : EStateM.Runs
      (fun cw : ConfigWrite => writeWord .panics 64 ⟨0xc0000000, .ecam⟩ cw.deviceFunction cw.registerOffset cw.data)
      [] ([] ++ [⟨⟨0, 1, 0⟩, 0x10, 7⟩] ++ [⟨⟨0, 2, 0⟩, 0x10, 9⟩])
      [.write ⟨0xc0008010, 4, 7⟩, .write ⟨0xc0010010, 4, 9⟩] :=
    .snoc (.snoc .nil (writeWord_run hfits ⟨⟨0, 1, 0⟩, 0x10, rfl, rfl⟩ 7 []))
      (writeWord_run hfits ⟨⟨0, 2, 0⟩, 0x10, rfl, rfl⟩ 9 _)
  exact (readWord_after_io_writes hfits (fun _ => 0) hr ⟨⟨0, 1, 0⟩, 0x10, rfl, rfl⟩).trans rfl

end HypCam
end VirtioDrivers
