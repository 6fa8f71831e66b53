import VirtioDrivers.Transport.Pci.Probe

/-! The bounds of the regions the PCI transports use. `get_bar_region` checks a structure
against its BAR with `offset + length` computed in `u32`. In a debug build a sum past
`u32::MAX` panics. In a release build it wraps, and the wrapped end can fit the BAR though
the region does not. `notify` offsets the notify region by `queue_notify_off *
notify_off_multiplier`. The device reports `queue_notify_off` on every call, and no check
at construction bounds the product by the region's length. -/
namespace VirtioDrivers
open Pci

namespace PciRoot
variable (o : Overflow) (cs : ConfigSpace) (df : DeviceFunction) (sizeOfT : Nat)
  (structInfo : VirtioCapabilityInfo) {log log' : List ConfigWrite}

/-! ### The check of a region -/

section
variable {addressType : MemoryBarType} {prefetchable : Bool} {address : UInt64} {size : UInt32}

/-- `check_bar_region` on an allocated memory BAR, when the build has a value for
`offset + length`: that value is checked against the BAR's size. -/
theorem checkBarRegion_of_add
    (hbar : (barInfo cs df o structInfo.bar).run log =
      .ok (.ok (.memory addressType prefetchable address size)) log')
    (haddr : address ≠ 0) {regionEnd : UInt32}
    (hend : o.add structInfo.offset structInfo.length = some regionEnd) :
    (checkBarRegion o cs df sizeOfT structInfo).run log =
      .ok (if size < regionEnd ∨ structInfo.length.toNat < sizeOfT then .error .barOffsetOutOfRange
        else .ok address) log' := by
  unfold checkBarRegion
  rw [EStateM.run_bind_of_ok hbar]
  simp only [BarInfo.memoryAddressSize, haddr, if_false, hend, overflowed, Except.pure_eq_ok,
    EStateM.run, EStateM.bind_apply, EStateM.ofExcept_ok_apply]
  split_ifs <;> rfl

theorem checkBarRegion_of_add_none
    (hbar : (barInfo cs df o structInfo.bar).run log =
      .ok (.ok (.memory addressType prefetchable address size)) log')
    (haddr : address ≠ 0) (hend : o.add structInfo.offset structInfo.length = none) :
    (checkBarRegion o cs df sizeOfT structInfo).run log = .error .panic log' := by
  unfold checkBarRegion
  rw [EStateM.run_bind_of_ok hbar]
  simp only [BarInfo.memoryAddressSize, haddr, if_false, hend, overflowed]
  rfl

end

/-! ### The two lookups past the check -/

section
variable (w : Nat) (alignOfT : Nat) {address : UInt64}

theorem getBarRegion_of_check_error (mmioPhysToVirt : Nat → Nat → Nat) {e : Fault}
    (hcheck : (checkBarRegion o cs df sizeOfT structInfo).run log = .error e log') :
    (getBarRegion o cs df w mmioPhysToVirt sizeOfT alignOfT structInfo).run log = .error e log' :=
  EStateM.run_bind_of_error hcheck

theorem hypGetBarRegion_of_check_error {e : Fault}
    (hcheck : (checkBarRegion o cs df sizeOfT structInfo).run log = .error e log') :
    (hypGetBarRegion o cs df w sizeOfT alignOfT structInfo).run log = .error e log' :=
  EStateM.run_bind_of_error hcheck

/-- `get_bar_region` (`pci.rs`) past a passed check: the region's physical address, as
the build computes it, mapped and checked for alignment. -/
theorem getBarRegion_of_check (mmioPhysToVirt : Nat → Nat → Nat)
    (hcheck : (checkBarRegion o cs df sizeOfT structInfo).run log = .ok (.ok address) log')
    {paddr : Nat}
    (hpaddr : o.fit w (address.toNat % 2 ^ w + structInfo.offset.toNat) = some paddr) :
    (getBarRegion o cs df w mmioPhysToVirt sizeOfT alignOfT structInfo).run log =
      .ok (if mmioPhysToVirt paddr structInfo.length.toNat % alignOfT ≠ 0 then
          .error (.misaligned (mmioPhysToVirt paddr structInfo.length.toNat) alignOfT)
        else .ok (mmioPhysToVirt paddr structInfo.length.toNat)) log' := by
  unfold getBarRegion
  rw [EStateM.run_bind_of_ok hcheck]
  simp only [hpaddr, overflowed, Except.pure_eq_ok, EStateM.run, EStateM.bind_apply,
    EStateM.ofExcept_ok_apply]
  split_ifs <;> rfl

theorem hypGetBarRegion_of_check
    (hcheck : (checkBarRegion o cs df sizeOfT structInfo).run log = .ok (.ok address) log')
    {paddr : Nat}
    (hpaddr : o.fit w (address.toNat % 2 ^ w + structInfo.offset.toNat) = some paddr) :
    (hypGetBarRegion o cs df w sizeOfT alignOfT structInfo).run log =
      .ok (if paddr % alignOfT ≠ 0 then .error (.misaligned paddr alignOfT)
        else .ok ⟨paddr, structInfo.length.toNat⟩) log' := by
  unfold hypGetBarRegion
  rw [EStateM.run_bind_of_ok hcheck]
  simp only [hpaddr, overflowed, Except.pure_eq_ok, EStateM.run, EStateM.bind_apply,
    EStateM.ofExcept_ok_apply]
  split_ifs <;> rfl

end

end PciRoot

/-- A structure whose `offset + length` passes `u32::MAX`, on an allocated memory BAR that
`bar_info` reads the same in either build. In a debug build, both transports'
`get_bar_region` panic instead of refusing the region. A release build checks the wrapped
end instead. When that end fits the BAR and the structure fits the region, both accept a
region that ends past the BAR. -/
theorem bar_region_end_wraps (cs : ConfigSpace) (df : DeviceFunction) (w : Nat)
    (mmioPhysToVirt : Nat → Nat → Nat) (sizeOfT alignOfT : Nat) (structInfo : VirtioCapabilityInfo)
    {log log' : List ConfigWrite} {addressType : MemoryBarType} {prefetchable : Bool}
    {address : UInt64} {size : UInt32}
    (hbar : ∀ o, (PciRoot.barInfo cs df o structInfo.bar).run log =
      .ok (.ok (.memory addressType prefetchable address size)) log')
    (haddr : address ≠ 0) (hend : 2 ^ 32 ≤ structInfo.offset.toNat + structInfo.length.toNat) :
    (PciRoot.getBarRegion .panics cs df w mmioPhysToVirt sizeOfT alignOfT structInfo).run log =
        .error .panic log' ∧
      (PciRoot.hypGetBarRegion .panics cs df w sizeOfT alignOfT structInfo).run log =
        .error .panic log' ∧
      (structInfo.offset + structInfo.length ≤ size → sizeOfT ≤ structInfo.length.toNat →
        address.toNat + structInfo.offset.toNat < 2 ^ w →
        size.toNat < structInfo.offset.toNat + structInfo.length.toNat ∧
        (mmioPhysToVirt (address.toNat + structInfo.offset.toNat) structInfo.length.toNat % alignOfT = 0 →
          (PciRoot.getBarRegion .wraps cs df w mmioPhysToVirt sizeOfT alignOfT structInfo).run log =
            .ok (.ok (mmioPhysToVirt (address.toNat + structInfo.offset.toNat)
              structInfo.length.toNat)) log') ∧
        ((address.toNat + structInfo.offset.toNat) % alignOfT = 0 →
          (PciRoot.hypGetBarRegion .wraps cs df w sizeOfT alignOfT structInfo).run log =
            .ok (.ok ⟨address.toNat + structInfo.offset.toNat, structInfo.length.toNat⟩) log')) := by
  have hdebug := PciRoot.checkBarRegion_of_add_none .panics cs df sizeOfT structInfo (hbar .panics)
    haddr (Overflow.add_panics_of_le hend)
  refine ⟨PciRoot.getBarRegion_of_check_error .panics cs df sizeOfT structInfo w alignOfT
      mmioPhysToVirt hdebug,
    PciRoot.hypGetBarRegion_of_check_error .panics cs df sizeOfT structInfo w alignOfT hdebug, ?_⟩
  intro hfits hlen hpaddr
  obtain ⟨hwrap, -⟩ := Overflow.toNat_wraps_add_of_le hend
  have hpass : ¬(size < structInfo.offset + structInfo.length ∨ structInfo.length.toNat < sizeOfT) := by
    rw [not_or, UInt32.not_lt, Nat.not_lt]
    exact ⟨hfits, hlen⟩
  have hcheck : (PciRoot.checkBarRegion .wraps cs df sizeOfT structInfo).run log =
      .ok (.ok address) log' := by
    rw [PciRoot.checkBarRegion_of_add .wraps cs df sizeOfT structInfo (hbar .wraps) haddr hwrap,
      if_neg hpass]
  have hfit : Overflow.wraps.fit w (address.toNat % 2 ^ w + structInfo.offset.toNat) =
      some (address.toNat + structInfo.offset.toNat) := by
    rw [Nat.mod_eq_of_lt (by omega)]
    exact Overflow.fit_of_lt .wraps hpaddr
  refine ⟨by have := size.toNat_lt; omega, fun halign => ?_, fun halign => ?_⟩
  · rw [PciRoot.getBarRegion_of_check .wraps cs df sizeOfT structInfo w alignOfT mmioPhysToVirt
      hcheck hfit, if_neg (not_not.mpr halign)]
  · rw [PciRoot.hypGetBarRegion_of_check .wraps cs df sizeOfT structInfo w alignOfT hcheck hfit,
      if_neg (not_not.mpr halign)]

/-- A memory BAR 0 of 4 KiB at `0x10000000`, and a common configuration of 64 bytes at
offset `0xfffffff0` in it: the end of the region wraps to `0x30`. -/
theorem bar_region_end_wraps_common_cfg :
    let cs : ConfigSpace := ⟨fun log _ register =>
      if register = 0x10 then
        if log.getLast?.map (·.data) = some 0xffffffff then 0xfffff000 else 0x10000000
      else 0⟩
    let log' : List ConfigWrite := [⟨⟨0, 1, 0⟩, 0x10, 0xffffffff⟩, ⟨⟨0, 1, 0⟩, 0x10, 0x10000000⟩]
    (PciRoot.getBarRegion .panics cs ⟨0, 1, 0⟩ 64 (fun p _ => p) COMMON_CFG_SIZE COMMON_CFG_ALIGN
        ⟨0, 0xfffffff0, 0x40⟩).run [] = .error .panic log' ∧
      (PciRoot.getBarRegion .wraps cs ⟨0, 1, 0⟩ 64 (fun p _ => p) COMMON_CFG_SIZE COMMON_CFG_ALIGN
        ⟨0, 0xfffffff0, 0x40⟩).run [] = .ok (.ok 0x10ffffff0) log' ∧
      (PciRoot.hypGetBarRegion .wraps cs ⟨0, 1, 0⟩ 64 COMMON_CFG_SIZE COMMON_CFG_ALIGN
        ⟨0, 0xfffffff0, 0x40⟩).run [] = .ok (.ok ⟨0x10ffffff0, 0x40⟩) log' := by
  intro cs log'
  have hbar : ∀ o, (PciRoot.barInfo cs ⟨0, 1, 0⟩ o 0).run [] =
      .ok (.ok (.memory .width32 false 0x10000000 0x1000)) log' := by
    intro o
    cases o <;> (unfold cs log'; rfl)
  obtain ⟨hdebug, -, hrelease⟩ := bar_region_end_wraps cs ⟨0, 1, 0⟩ 64 (fun p _ => p) COMMON_CFG_SIZE
    COMMON_CFG_ALIGN ⟨0, 0xfffffff0, 0x40⟩ hbar (by decide) (by decide)
  obtain ⟨-, hpci, hhyp⟩ := hrelease (by decide) (by decide) (by decide)
  exact ⟨hdebug, hpci (by decide), hhyp (by decide)⟩

/-! ### Notification -/

/-- `notify` with a `queue_notify_off` whose offset into the notify region is at or past
its end, in either build. The index into the region's slice is out of bounds, or the
hypercall's bounds assertion fails. In a debug build, a product that overflows `usize`
panics as well. The statement covers every transport, so it covers every one that `new`
returns. -/
theorem notify_past_region_panics (o : Overflow) (w : Nat) (queueNotifyOff queue : UInt16) :
    (∀ t : PciTransport,
      (queueNotifyOff.toNat * t.notifyOffMultiplier.toNat < 2 ^ w →
        2 * t.notifyRegion.2 ≤ queueNotifyOff.toNat * t.notifyOffMultiplier.toNat →
        t.notify o w queueNotifyOff queue = .error .panic) ∧
      (2 ^ w ≤ queueNotifyOff.toNat * t.notifyOffMultiplier.toNat →
        t.notify .panics w queueNotifyOff queue = .error .panic)) ∧
    (∀ t : HypPciTransport,
      (queueNotifyOff.toNat * t.notifyOffMultiplier.toNat + 2 < 2 ^ w →
        t.notifyRegion.size < queueNotifyOff.toNat * t.notifyOffMultiplier.toNat + 2 →
        t.notify o w queueNotifyOff queue = .error .panic) ∧
      (2 ^ w ≤ queueNotifyOff.toNat * t.notifyOffMultiplier.toNat →
        t.notify .panics w queueNotifyOff queue = .error .panic)) := by
  refine ⟨fun t => ⟨fun hfit hpast => ?_, fun hover => ?_⟩, fun t => ⟨fun hfit hpast => ?_, fun hover => ?_⟩⟩
  · -- the index is half the offset, at or past the slice's length
    unfold PciTransport.notify
    simp only [Overflow.fit_of_lt o hfit, overflowed, Except.pure_eq_ok, Except.ok_bind]
    rw [if_neg (by omega)]
    rfl
  · unfold PciTransport.notify
    rw [Overflow.fit_panics_of_le hover]
    rfl
  · -- the two bytes written end past the region
    have hprod : queueNotifyOff.toNat * t.notifyOffMultiplier.toNat < 2 ^ w := by omega
    unfold HypPciTransport.notify HypIoRegion.write
    simp only [Overflow.fit_of_lt o hprod, Overflow.fit_of_lt o hfit, overflowed, Except.pure_eq_ok,
      Except.ok_bind, decide_eq_false (Nat.not_le.mpr hpast)]
    rfl
  · unfold HypPciTransport.notify
    rw [Overflow.fit_panics_of_le hover]
    rfl

/-- A device whose notify region is 4 bytes with a multiplier of 4, which both
transports' `new` accept: `notify` panics for a queue whose `queue_notify_off` is 1. -/
theorem notify_past_region_panics_after_new :
    let cs : ConfigSpace := ⟨fun log _ register =>
      if register = 0x00 then 0x10411af4
      else if register = 0x04 then 0x00100000
      else if register = 0x10 then
        if log.getLast?.map (·.data) = some 0xffffffff then 0xffffc000 else 0x10000000
      else if register = 0x34 then 0x40
      else if register = 0x40 then 0x01105009
      else if register = 0x4c then 0x38
      else if register = 0x50 then 0x02146409
      else if register = 0x58 then 0x1000
      else if register = 0x5c then 4
      else if register = 0x60 then 4
      else if register = 0x64 then 0x03100009
      else if register = 0x6c then 0x2000
      else if register = 0x70 then 1
      else 0⟩
    let t : PciTransport := ⟨0x1041, ⟨0, 1, 0⟩, 0x10000000, (0x10001000, 2), 4, 0x10002000, none⟩
    let t' : HypPciTransport :=
      ⟨0x1041, ⟨0, 1, 0⟩, ⟨0x10000000, 0x38⟩, ⟨0x10001000, 4⟩, 4, ⟨0x10002000, 1⟩, none⟩
    ((PciTransport.new .panics 64 (fun p _ => p) cs 4 ⟨0, 1, 0⟩).run []).value? = some (.ok t) ∧
      t.notify .panics 64 1 0 = .error .panic ∧
      ((HypPciTransport.new .panics 64 cs 4 ⟨0, 1, 0⟩).run []).value? = some (.ok t') ∧
      t'.notify .panics 64 1 0 = .error .panic := by
  intro cs t t'
  obtain ⟨hpci, hhyp⟩ := notify_past_region_panics .panics 64 1 0
  refine ⟨?_, (hpci t).1 (by decide) (by decide), ?_, (hhyp t').1 (by decide) (by decide)⟩
  · unfold cs t
    decide +kernel
  · unfold cs t'
    decide +kernel

end VirtioDrivers
