import VirtioDrivers.Transport.Pci.Transport

/-! The capability walk of the PCI transports (`CapabilityIterator::next`, and the loop of
`new` over it). The iterator checks that each next pointer is at least 64 and 4-byte
aligned, but it does not remember where it has been. A device whose next pointers lead
back to a capability already visited makes it yield capabilities without end, and the
loop of `new` never finishes. -/
namespace VirtioDrivers
open Pci

namespace PciRoot
variable (o : Overflow) (cs : ConfigSpace) (df : DeviceFunction) (log : List ConfigWrite)

/-- The iterator at an offset whose next pointer is valid: the capability there, and that
pointer as the next offset. -/
theorem capabilityNext_of_valid {offset : UInt8}
    (hnext : 64 ≤ (cs.readWord log df offset >>> 8).toUInt8.toNat)
    (halign : (cs.readWord log df offset >>> 8).toUInt8 &&& 0x3 = 0) :
    (capabilityNext cs df (some offset)).run log =
      .ok (some (⟨offset, (cs.readWord log df offset).toUInt8, (cs.readWord log df offset >>> 16).toUInt16⟩,
        some (cs.readWord log df offset >>> 8).toUInt8)) log := by
  have hne : (cs.readWord log df offset >>> 8).toUInt8 ≠ 0 := by
    intro h
    rw [h] at hnext
    exact absurd hnext (by decide)
  have hlt : ¬(cs.readWord log df offset >>> 8).toUInt8 < 64 := by
    rw [UInt8.lt_iff_toNat_lt]
    exact Nat.not_lt.mpr hnext
  simp only [capabilityNext, EStateM.run, EStateM.bind_apply, readWord_apply, hne, hlt, halign,
    if_false, false_or, ne_eq, not_true_eq_false]
  rfl

/-- The body of the capability loop at an offset where the fields' offsets fit a `u8`
returns, and reads only. -/
theorem visitCapability_run (capability : CapabilityInfo) (hfit : capability.offset.toNat + 16 < 2 ^ 8)
    (found : FoundCapabilities) :
    ∃ found', (visitCapability o cs df found capability).run log = .ok found' log := by
  have hadd : ∀ k : UInt8, k.toNat ≤ 16 → addU8 o capability.offset k = .ok (capability.offset + k) :=
    fun k hk => addU8_of_lt o (by omega)
  unfold visitCapability
  simp only [EStateM.run, hadd CAP_BAR_OFFSET (by decide), hadd CAP_BAR_OFFSET_OFFSET (by decide),
    hadd CAP_LENGTH_OFFSET (by decide), hadd CAP_NOTIFY_OFF_MULTIPLIER_OFFSET (by decide)]
  split
  · exact ⟨_, rfl⟩
  split
  · exact ⟨_, rfl⟩
  split
  · exact ⟨_, rfl⟩
  split
  · exact ⟨_, rfl⟩
  split
  · exact ⟨_, rfl⟩
  split <;> exact ⟨_, rfl⟩

/-- A set of offsets the capability list cycles through: each holds a capability whose
next pointer is valid and again in the set, and whose fields lie within the first 256
bytes. -/
structure CapabilityCycle (S : Set UInt8) : Prop where
  next_mem : ∀ p ∈ S, (cs.readWord log df p >>> 8).toUInt8 ∈ S
  next_ge : ∀ p ∈ S, 64 ≤ (cs.readWord log df p >>> 8).toUInt8.toNat
  next_aligned : ∀ p ∈ S, (cs.readWord log df p >>> 8).toUInt8 &&& 0x3 = 0
  fields_fit : ∀ p ∈ S, p.toNat + 16 < 2 ^ 8

variable {cs df log} {S : Set UInt8}

/-- The capability loop from an offset of a cycle runs out of every fuel: each round
visits a capability and moves on to an offset of the cycle. -/
theorem scanCapabilities_of_cycle (hS : CapabilityCycle cs df log S) (fuel : Nat) :
    ∀ p ∈ S, ∀ found, (scanCapabilities o cs df fuel (some p) found).run log = .error .stuck log := by
  induction fuel with
  | zero =>
    intro p _ found
    rfl
  | succ fuel ih =>
    intro p hp found
    rw [scanCapabilities, EStateM.run_bind_of_ok
      (capabilityNext_of_valid cs df log (hS.next_ge p hp) (hS.next_aligned p hp))]
    obtain ⟨found', hvisit⟩ := visitCapability_run o cs df log
      ⟨p, (cs.readWord log df p).toUInt8, (cs.readWord log df p >>> 16).toUInt16⟩ (hS.fields_fit p hp) found
    rw [EStateM.run_bind_of_ok hvisit]
    exact ih _ (hS.next_mem p hp) found'

theorem findCapabilities_of_cycle (hS : CapabilityCycle cs df log S)
    (hvendor : (cs.readWord log df 0).toUInt16 = VIRTIO_VENDOR_ID) {start : UInt8}
    (hstart : (capabilities cs df).run log = .ok (some start) log) (hs : start ∈ S) (fuel : Nat) :
    (findCapabilities o cs df fuel).run log = .error .stuck log := by
  unfold findCapabilities
  rw [EStateM.run_bind_of_ok (show (readWord cs df 0).run log = .ok (cs.readWord log df 0) log from rfl)]
  simp only [hvendor, ne_eq, not_true_eq_false, if_false]
  rw [EStateM.run_bind_of_ok hstart, EStateM.run_bind_of_error
    (scanCapabilities_of_cycle o hS fuel start hs _)]

end PciRoot
/-- A device whose capability list cycles, in either build. From any offset of the cycle
the iterator yields a capability and moves on within the cycle, so it never ends. Both
transports' `new` run out of every fuel in the capability loop. -/
theorem capability_walk_cycles (o : Overflow) (w : Nat) (mmioPhysToVirt : Nat → Nat → Nat)
    (cs : ConfigSpace) (df : DeviceFunction) (log : List ConfigWrite) {S : Set UInt8}
    (hS : PciRoot.CapabilityCycle cs df log S)
    (hvendor : (cs.readWord log df 0).toUInt16 = VIRTIO_VENDOR_ID) {start : UInt8}
    (hstart : (PciRoot.capabilities cs df).run log = .ok (some start) log) (hs : start ∈ S) :
    (∀ p ∈ S, ∃ capability, ∃ next ∈ S,
      (PciRoot.capabilityNext cs df (some p)).run log = .ok (some (capability, some next)) log) ∧
    ∀ fuel, (PciTransport.new o w mmioPhysToVirt cs fuel df).run log = .error .stuck log ∧
      (HypPciTransport.new o w cs fuel df).run log = .error .stuck log := by
  refine ⟨fun p hp => ⟨_, _, hS.next_mem p hp,
    PciRoot.capabilityNext_of_valid cs df log (hS.next_ge p hp) (hS.next_aligned p hp)⟩, fun fuel => ?_⟩
  have hfind := PciRoot.findCapabilities_of_cycle o hS hvendor hstart hs fuel
  exact ⟨EStateM.run_bind_of_error hfind, EStateM.run_bind_of_error hfind⟩

/-- A device whose one capability, at `0x40`, names itself as the next. -/
theorem capability_walk_cycles_self_loop :
    let cs : ConfigSpace := ⟨fun _ _ register =>
      if register = 0x00 then 0x10411af4
      else if register = 0x04 then 0x00100000
      else if register = 0x34 then 0x40
      else if register = 0x40 then 0x00004005
      else 0⟩
    ∀ fuel, (PciTransport.new .panics 64 (fun p _ => p) cs fuel ⟨0, 1, 0⟩).run [] = .error .stuck [] ∧
      (HypPciTransport.new .panics 64 cs fuel ⟨0, 1, 0⟩).run [] = .error .stuck [] := by
  intro cs
  have hnext : (cs.readWord [] ⟨0, 1, 0⟩ 0x40 >>> 8).toUInt8 = 0x40 := by
    unfold cs
    decide
  have hS : PciRoot.CapabilityCycle cs ⟨0, 1, 0⟩ [] {0x40} := by
    refine ⟨fun p hp => ?_, fun p hp => ?_, fun p hp => ?_, fun p hp => ?_⟩ <;>
      rw [Set.mem_singleton_iff.mp hp]
    · rw [hnext]
      exact Set.mem_singleton _
    · rw [hnext]
      decide
    · rw [hnext]
      decide
    · decide
  have hstart : (PciRoot.capabilities cs ⟨0, 1, 0⟩).run [] = .ok (some 0x40) [] := by
    unfold cs
    rfl
  exact (capability_walk_cycles .panics 64 (fun p _ => p) cs ⟨0, 1, 0⟩ [] hS (by unfold cs; decide)
    hstart rfl).2

end VirtioDrivers
