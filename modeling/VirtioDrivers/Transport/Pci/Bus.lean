import VirtioDrivers.Queue.Types
import VirtioDrivers.Lib.ExceptBind
import VirtioDrivers.Lib.Overflow

/-! A PCI bus as a driver reaches it (`transport/pci/bus.rs`). The configuration space of
a device function is reached through `ConfigurationAccess::read_word` and `write_word`.
The device answers each read from the writes made before it, which is as general as
any device; the state of a run is that list of writes. Register offsets are `u8`s, and
their arithmetic is Rust's on `u8`: a debug build panics past 255, a release build
wraps. A function's `Result` is an `Except` value; a panic is the run's `Fault`. -/
namespace VirtioDrivers

inductive PciError where
  | invalidBarType
deriving DecidableEq, Repr

/-- `DeviceFunction`: where a PCI function sits. -/
structure DeviceFunction where
  bus : UInt8
  device : UInt8
  function : UInt8
deriving DecidableEq, Repr

/-- A `write_word(device_function, register_offset, data)` the driver has made. -/
structure ConfigWrite where
  deviceFunction : DeviceFunction
  registerOffset : UInt8
  data : UInt32
deriving DecidableEq, Repr

/-- The configuration space behind a `ConfigurationAccess`: the word `read_word` returns
at a register of a function, given the writes made before. -/
structure ConfigSpace where
  readWord : List ConfigWrite → DeviceFunction → UInt8 → UInt32

/-- A value of the build's fixed-width arithmetic: an overflow that panics is a panic. -/
def overflowed {α : Type} : Option α → Except Fault α
  | some v => pure v
  | none => throw .panic

theorem overflowed_some {α : Type} (v : α) : overflowed (some v) = .ok v := rfl

/-- `a + b` on `u8`. -/
def addU8 (o : Overflow) (a b : UInt8) : Except Fault UInt8 := do
  pure (UInt8.ofNat (← overflowed (o.fit 8 (a.toNat + b.toNat))))

/-- `a * b` on `u8`. -/
def mulU8 (o : Overflow) (a b : UInt8) : Except Fault UInt8 := do
  pure (UInt8.ofNat (← overflowed (o.fit 8 (a.toNat * b.toNat))))

section
variable (o : Overflow) {a b : UInt8}

theorem addU8_of_lt (h : a.toNat + b.toNat < 2 ^ 8) : addU8 o a b = .ok (a + b) := by
  simp only [addU8, Overflow.fit_of_lt o h, overflowed, Except.pure_eq_ok, Except.ok_bind]
  -- `UInt8` addition is the residue of the sum by definition
  rfl

theorem mulU8_of_lt (h : a.toNat * b.toNat < 2 ^ 8) : mulU8 o a b = .ok (a * b) := by
  simp only [mulU8, Overflow.fit_of_lt o h, overflowed, Except.pure_eq_ok, Except.ok_bind]
  rfl

theorem addU8_panics_of_le (h : 2 ^ 8 ≤ a.toNat + b.toNat) : addU8 .panics a b = .error .panic := by
  simp only [addU8, Overflow.fit_panics_of_le h, overflowed, Except.throw_eq_error, Except.error_bind]

theorem mulU8_panics_of_le (h : 2 ^ 8 ≤ a.toNat * b.toNat) : mulU8 .panics a b = .error .panic := by
  simp only [mulU8, Overflow.fit_panics_of_le h, overflowed, Except.throw_eq_error, Except.error_bind]

end

namespace Pci

/-- The offset of the status and command registers. -/
def STATUS_COMMAND_OFFSET : UInt8 := 0x04
/-- The offset of BAR0. -/
def BAR0_OFFSET : UInt8 := 0x10
/-- The id of vendor-specific capabilities. -/
def PCI_CAP_ID_VNDR : UInt8 := 0x09
def CAPABILITIES_LIST : UInt16 := 0x10
/-- The bits that name a flag of `Status`, all that `from_bits_truncate` keeps. -/
def STATUS_ALL : UInt16 := 0xF9B8
/-- The bits that name a flag of `Command`. -/
def COMMAND_ALL : UInt16 := 0x077F

end Pci

open Pci

structure CapabilityInfo where
  offset : UInt8
  id : UInt8
  privateHeader : UInt16
deriving DecidableEq, Repr

inductive MemoryBarType where
  | width32
  | below1MiB
  | width64
deriving DecidableEq, Repr

def MemoryBarType.tryFrom (value : UInt8) : Except PciError MemoryBarType :=
  if value = 0 then pure .width32
  else if value = 1 then pure .below1MiB
  else if value = 2 then pure .width64
  else throw .invalidBarType

inductive BarInfo where
  | memory (addressType : MemoryBarType) (prefetchable : Bool) (address : UInt64) (size : UInt32)
  | io (address size : UInt32)
deriving DecidableEq, Repr

namespace BarInfo

/-- `takes_two_entries`: a 64-bit memory BAR. -/
def takesTwoEntries : BarInfo → Bool
  | .memory .width64 _ _ _ => true
  | _ => false

def memoryAddressSize : BarInfo → Option (UInt64 × UInt32)
  | .memory _ _ address size => some (address, size)
  | .io _ _ => none

end BarInfo

namespace PciRoot
variable (cs : ConfigSpace) (df : DeviceFunction)

/-- `read_word`: the device answers from the writes made so far. -/
def readWord (registerOffset : UInt8) : EStateM Fault (List ConfigWrite) UInt32 :=
  fun log => .ok (cs.readWord log df registerOffset) log

def writeWord (registerOffset : UInt8) (data : UInt32) : EStateM Fault (List ConfigWrite) Unit :=
  fun log => .ok () (log ++ [⟨df, registerOffset, data⟩])

@[simp] theorem readWord_apply (registerOffset : UInt8) (log : List ConfigWrite) :
    readWord cs df registerOffset log = .ok (cs.readWord log df registerOffset) log := rfl

@[simp] theorem writeWord_apply (registerOffset : UInt8) (data : UInt32) (log : List ConfigWrite) :
    writeWord df registerOffset data log = .ok () (log ++ [⟨df, registerOffset, data⟩]) := rfl

/-- `get_status_command`: the two registers, unknown bits dropped. -/
def getStatusCommand : EStateM Fault (List ConfigWrite) (UInt16 × UInt16) := do
  let statusCommand ← readWord cs df STATUS_COMMAND_OFFSET
  let status := (statusCommand >>> 16).toUInt16 &&& STATUS_ALL
  let command := statusCommand.toUInt16 &&& COMMAND_ALL
  pure (status, command)

/-- `capabilities_offset`: the capabilities pointer at `0x34`, if the status register says
there is a list. -/
def capabilitiesOffset : EStateM Fault (List ConfigWrite) (Option UInt8) := do
  let (status, _) ← getStatusCommand cs df
  if status &&& CAPABILITIES_LIST == CAPABILITIES_LIST then
    pure (some ((← readWord cs df 0x34) &&& 0xFC).toUInt8)
  else pure none

/-- `capabilities`: the iterator starts at `capabilities_offset`. -/
def capabilities : EStateM Fault (List ConfigWrite) (Option UInt8) := capabilitiesOffset cs df

/-- `CapabilityIterator::next` on the iterator's `next_capability_offset`: the capability
there and the iterator's next offset. A next pointer below `64` or not 4-byte aligned ends
the list; no offset is remembered. -/
def capabilityNext (nextCapabilityOffset : Option UInt8) :
    EStateM Fault (List ConfigWrite) (Option (CapabilityInfo × Option UInt8)) := do
  let some offset := nextCapabilityOffset | pure none
  let capabilityHeader ← readWord cs df offset
  let id := capabilityHeader.toUInt8
  let nextOffset := (capabilityHeader >>> 8).toUInt8
  let privateHeader := (capabilityHeader >>> 16).toUInt16
  let next : Option UInt8 :=
    if nextOffset = 0 then none
    else if nextOffset < 64 ∨ nextOffset &&& 0x3 ≠ 0 then none
    else some nextOffset
  pure (some (⟨offset, id, privateHeader⟩, next))

variable (o : Overflow)

/-- The register of BAR `barIndex`, `BAR0_OFFSET + 4 * bar_index` on `u8`. -/
def barOffset (barIndex : UInt8) : Except Fault UInt8 := do
  addU8 o BAR0_OFFSET (← mulU8 o 4 barIndex)

theorem barOffset_of_lt {barIndex : UInt8} (h : barIndex.toNat < 60) :
    barOffset o barIndex = .ok (BAR0_OFFSET + 4 * barIndex) := by
  have h4 : (4 : UInt8).toNat = 4 := rfl
  have hprod : (4 * barIndex).toNat = 4 * barIndex.toNat := by
    rw [UInt8.toNat_mul, h4]
    omega
  have hsum : BAR0_OFFSET.toNat + (4 * barIndex).toNat < 2 ^ 8 := by
    rw [hprod, show BAR0_OFFSET.toNat = 16 from rfl]
    omega
  rw [barOffset, mulU8_of_lt o (by rw [h4]; omega), Except.ok_bind, addU8_of_lt o hsum]

theorem barOffset_panics_of_le {barIndex : UInt8} (h : 60 ≤ barIndex.toNat) :
    barOffset .panics barIndex = .error .panic := by
  have h4 : (4 : UInt8).toNat = 4 := rfl
  by_cases hmul : 4 * barIndex.toNat < 2 ^ 8
  · -- the product fits, the sum with `BAR0_OFFSET` does not
    have hsum : 2 ^ 8 ≤ BAR0_OFFSET.toNat + (4 * barIndex).toNat := by
      rw [UInt8.toNat_mul, h4, show BAR0_OFFSET.toNat = 16 from rfl, Nat.mod_eq_of_lt hmul]
      omega
    rw [barOffset, mulU8_of_lt .panics (by rw [h4]; exact hmul), Except.ok_bind,
      addU8_panics_of_le hsum]
  · rw [barOffset, mulU8_panics_of_le (by rw [h4]; omega), Except.error_bind]

/-- `bar_info(device_function, bar_index)`: the BAR's size is probed by writing all ones
and reading back the mask, and the original value is written back. The offset expression
that the source evaluates at each access is evaluated once, before the first; it panics,
if it does, before any access. -/
def barInfo (barIndex : UInt8) : EStateM Fault (List ConfigWrite) (Except PciError BarInfo) := do
  let register ← MonadExcept.ofExcept (barOffset o barIndex)
  let barOrig ← readWord cs df register
  writeWord df register 0xffffffff
  let sizeMask ← readWord cs df register
  -- a wrapping add: an unused BAR reads back as zero and has size zero
  let size := ~~~(sizeMask &&& 0xfffffff0) + 1
  writeWord df register barOrig
  if barOrig &&& 0x00000001 = 0x00000001 then
    pure (.ok (.io (barOrig &&& 0xfffffffc) size))
  else
    let address := (barOrig &&& 0xfffffff0).toUInt64
    let prefetchable := barOrig &&& 0x00000008 ≠ 0
    match MemoryBarType.tryFrom ((barOrig &&& 0x00000006) >>> 1).toUInt8 with
    | .error e => pure (.error e)
    | .ok addressType =>
      if addressType = .width64 then
        if 5 ≤ barIndex then pure (.error .invalidBarType)
        else
          let next ← MonadExcept.ofExcept (addU8 o barIndex 1)
          let addressTop ← readWord cs df (← MonadExcept.ofExcept (barOffset o next))
          pure (.ok (.memory addressType prefetchable (address ||| (addressTop.toUInt64 <<< 32)) size))
      else pure (.ok (.memory addressType prefetchable address size))

/-- The loop of `bars` from `bar_index` on: a 64-bit memory BAR takes two entries. -/
def barsFrom (barIndex : Nat) (table : List (Option BarInfo)) :
    EStateM Fault (List ConfigWrite) (Except PciError (List (Option BarInfo))) :=
  if barIndex < 6 then do
    match ← barInfo cs df o (UInt8.ofNat barIndex) with
    | .error e => pure (.error e)
    | .ok info =>
      barsFrom (barIndex + if info.takesTwoEntries then 2 else 1) (table.set barIndex (some info))
  else pure (.ok table)
termination_by 6 - barIndex
decreasing_by all_goals split <;> omega

/-- `bars(device_function)`: the six entries, `None` for the upper half of a 64-bit BAR. -/
def bars : EStateM Fault (List ConfigWrite) (Except PciError (List (Option BarInfo))) :=
  barsFrom cs df o 0 (List.replicate 6 none)

end PciRoot

end VirtioDrivers
