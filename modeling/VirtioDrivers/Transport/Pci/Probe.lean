import VirtioDrivers.Transport.Pci.Bars

/-! What the two transports' `new` write to the configuration space. The vendor check and
the capability loop only read. Every write is made by the `bar_info` of a region lookup:
it probes the BAR's register with all ones and then restores the value. That register is
`BAR0_OFFSET + 4 * bar`, where `bar` is the byte the capability holds, and `new` uses it
unchecked. A capability naming BAR 6 to 59 therefore has its probe land past the six BAR
registers, on the capabilities pointer at `0x34` among others. From 60 on, the offset does
not fit a `u8`. -/
namespace VirtioDrivers
open Pci

namespace PciRoot
variable (cs : ConfigSpace) (df : DeviceFunction) (o : Overflow)

/-! ### Reads -/

section
variable {P : List ConfigWrite → Prop}

theorem readWord_preserves (registerOffset : UInt8) :
    EStateM.Preserves P (readWord cs df registerOffset) :=
  fun _ h => h

theorem capabilityNext_preserves (next : Option UInt8) :
    EStateM.Preserves P (capabilityNext cs df next) := by
  unfold capabilityNext
  split
  · exact .bind (readWord_preserves cs df _) fun _ => .pure _
  · exact .pure _

theorem capabilities_preserves : EStateM.Preserves P (capabilities cs df) := by
  unfold capabilities capabilitiesOffset getStatusCommand
  refine .bind (.bind (readWord_preserves cs df _) fun _ => .pure _) fun _ => ?_
  split
  split
  · exact .bind (readWord_preserves cs df _) fun _ => .pure _
  · exact .pure _

theorem visitCapability_preserves (found : FoundCapabilities) (capability : CapabilityInfo) :
    EStateM.Preserves P (visitCapability o cs df found capability) := by
  unfold visitCapability
  split
  · exact .pure _
  simp only
  split
  · exact .pure _
  refine .ofExcept_bind fun _ _ => .bind (readWord_preserves cs df _) fun _ => ?_
  refine .ofExcept_bind fun _ _ => .bind (readWord_preserves cs df _) fun _ => ?_
  refine .ofExcept_bind fun _ _ => .bind (readWord_preserves cs df _) fun _ => ?_
  split
  · exact .pure _
  split
  · exact .ofExcept_bind fun _ _ => .bind (readWord_preserves cs df _) fun _ => .pure _
  split
  · exact .pure _
  split <;> exact .pure _

theorem scanCapabilities_preserves (fuel : Nat) (next : Option UInt8) (found : FoundCapabilities) :
    EStateM.Preserves P (scanCapabilities o cs df fuel next found) := by
  induction fuel generalizing next found with
  | zero => exact .throw _
  | succ fuel ih =>
    refine .bind (capabilityNext_preserves cs df next) fun r => ?_
    rcases r with _ | ⟨capability, next⟩
    · exact .pure _
    · exact .bind (visitCapability_preserves cs df o found capability) fun _ => ih _ _

theorem findCapabilities_preserves (fuel : Nat) :
    EStateM.Preserves P (findCapabilities o cs df fuel) := by
  unfold findCapabilities
  refine .bind (readWord_preserves cs df _) fun _ => ?_
  simp only
  split
  · exact .pure _
  · exact .bind (capabilities_preserves cs df) fun _ =>
      .bind (scanCapabilities_preserves cs df o _ _ _) fun _ => .pure _

end

theorem findCapabilities_state (fuel : Nat) (log : List ConfigWrite) :
    ((findCapabilities o cs df fuel).run log).state = log :=
  findCapabilities_preserves cs df o (P := (· = log)) fuel log rfl

/-! ### The writes of a region lookup -/

theorem checkBarRegion_state (sizeOfT : Nat) (structInfo : VirtioCapabilityInfo)
    (log : List ConfigWrite) :
    ((checkBarRegion o cs df sizeOfT structInfo).run log).state =
      ((barInfo cs df o structInfo.bar).run log).state := by
  unfold checkBarRegion
  refine EStateM.Preserves.run_bind (P := (· = _)) ?_ rfl
  rintro (e | info)
  · exact .pure _
  · simp only
    split
    · split
      · exact .pure _
      · refine .ofExcept_bind fun _ _ => ?_
        split <;> exact .pure _
    · exact .pure _

section
variable (w : Nat) (sizeOfT alignOfT : Nat) (structInfo : VirtioCapabilityInfo)

theorem getBarRegion_state (mmioPhysToVirt : Nat → Nat → Nat) (log : List ConfigWrite) :
    ((getBarRegion o cs df w mmioPhysToVirt sizeOfT alignOfT structInfo).run log).state =
      ((barInfo cs df o structInfo.bar).run log).state := by
  unfold getBarRegion
  refine EStateM.Preserves.run_bind (P := (· = _)) ?_ (checkBarRegion_state cs df o _ _ log)
  rintro (e | barAddress)
  · exact .pure _
  · refine .ofExcept_bind fun _ _ => ?_
    simp only
    split <;> exact .pure _

theorem getBarRegionSlice_state (mmioPhysToVirt : Nat → Nat → Nat) (log : List ConfigWrite) :
    ((getBarRegionSlice o cs df w mmioPhysToVirt sizeOfT alignOfT structInfo).run log).state =
      ((barInfo cs df o structInfo.bar).run log).state := by
  unfold getBarRegionSlice
  refine EStateM.Preserves.run_bind (P := (· = _)) ?_ (getBarRegion_state cs df o w _ _ _ _ log)
  rintro (e | ptr) <;> exact .pure _

theorem hypGetBarRegion_state (log : List ConfigWrite) :
    ((hypGetBarRegion o cs df w sizeOfT alignOfT structInfo).run log).state =
      ((barInfo cs df o structInfo.bar).run log).state := by
  unfold hypGetBarRegion
  refine EStateM.Preserves.run_bind (P := (· = _)) ?_ (checkBarRegion_state cs df o _ _ log)
  rintro (e | barAddress)
  · exact .pure _
  · refine .ofExcept_bind fun _ _ => ?_
    split <;> exact .pure _

variable {pre : List ConfigWrite}

theorem barInfo_grows (barIndex : UInt8) :
    EStateM.Preserves (pre <+: ·) (barInfo cs df o barIndex) := by
  intro log hlog
  cases hreg : barOffset o barIndex with
  | error e =>
    rw [barInfo_of_barOffset_error cs df o hreg]
    exact hlog
  | ok register =>
    rw [barInfo_state cs df o hreg]
    exact hlog.trans (by simp)

theorem grows_of_state {α : Type} {x : EStateM Fault (List ConfigWrite) α} {barIndex : UInt8}
    (h : ∀ log, (x.run log).state = ((barInfo cs df o barIndex).run log).state) :
    EStateM.Preserves (pre <+: ·) x := by
  intro log hlog
  rw [h]
  exact barInfo_grows cs df o barIndex log hlog

theorem getBarRegion_grows (mmioPhysToVirt : Nat → Nat → Nat) :
    EStateM.Preserves (pre <+: ·) (getBarRegion o cs df w mmioPhysToVirt sizeOfT alignOfT structInfo) :=
  grows_of_state cs df o (getBarRegion_state cs df o w sizeOfT alignOfT structInfo mmioPhysToVirt)

theorem getBarRegionSlice_grows (mmioPhysToVirt : Nat → Nat → Nat) :
    EStateM.Preserves (pre <+: ·)
      (getBarRegionSlice o cs df w mmioPhysToVirt sizeOfT alignOfT structInfo) :=
  grows_of_state cs df o (getBarRegionSlice_state cs df o w sizeOfT alignOfT structInfo mmioPhysToVirt)

theorem hypGetBarRegion_grows :
    EStateM.Preserves (pre <+: ·) (hypGetBarRegion o cs df w sizeOfT alignOfT structInfo) :=
  grows_of_state cs df o (hypGetBarRegion_state cs df o w sizeOfT alignOfT structInfo)

/-! A failure of `bar_info` is the lookup's. -/

variable {log log' : List ConfigWrite} {e : Fault}

theorem checkBarRegion_of_barInfo_error (h : (barInfo cs df o structInfo.bar).run log = .error e log') :
    (checkBarRegion o cs df sizeOfT structInfo).run log = .error e log' :=
  EStateM.run_bind_of_error h

theorem getBarRegion_of_barInfo_error (mmioPhysToVirt : Nat → Nat → Nat)
    (h : (barInfo cs df o structInfo.bar).run log = .error e log') :
    (getBarRegion o cs df w mmioPhysToVirt sizeOfT alignOfT structInfo).run log = .error e log' :=
  EStateM.run_bind_of_error (checkBarRegion_of_barInfo_error cs df o _ _ h)

theorem hypGetBarRegion_of_barInfo_error (h : (barInfo cs df o structInfo.bar).run log = .error e log') :
    (hypGetBarRegion o cs df w sizeOfT alignOfT structInfo).run log = .error e log' :=
  EStateM.run_bind_of_error (checkBarRegion_of_barInfo_error cs df o _ _ h)

end

end PciRoot

/-! ### The first lookup of `new`

Both transports look up the common configuration first; what its `bar_info` writes stays at
the front of everything after the capability loop, since each later lookup only adds
writes, and a failure of it is the failure of `new`. -/

section
open PciRoot
variable (o : Overflow) (w : Nat) (cs : ConfigSpace) {fuel : Nat} {df : DeviceFunction}
  {log log₁ : List ConfigWrite} {deviceId : UInt16} {found : FoundCapabilities}
  {info : VirtioCapabilityInfo}

theorem PciTransport.barInfo_prefix_new (mmioPhysToVirt : Nat → Nat → Nat)
    (hfind : (findCapabilities o cs df fuel).run log = .ok (.ok (deviceId, found)) log₁)
    (hcommon : found.commonCfg = some info) :
    ((barInfo cs df o info.bar).run log₁).state <+:
      ((PciTransport.new o w mmioPhysToVirt cs fuel df).run log).state := by
  unfold PciTransport.new
  rw [EStateM.run_bind_of_ok hfind]
  simp only [hcommon]
  refine EStateM.Preserves.run_bind ?_ (getBarRegion_state cs df o _ _ _ _ _ _ ▸ List.prefix_refl _)
  rintro (e | commonCfg)
  · exact .pure _
  · -- every later lookup only adds writes
    simp only
    split
    · split
      · exact .pure _
      · refine .bind (getBarRegionSlice_grows cs df o _ _ _ _ _) ?_
        rintro (e | notifyRegion)
        · exact .pure _
        · simp only
          split
          · refine .bind (getBarRegion_grows cs df o _ _ _ _ _) ?_
            rintro (e | isrStatus)
            · exact .pure _
            · simp only
              split
              · exact .pure _
              · refine .bind (getBarRegionSlice_grows cs df o _ _ _ _ _) ?_
                rintro (e | configSpace) <;> exact .pure _
          · exact .pure _
    · exact .pure _

theorem HypPciTransport.barInfo_prefix_new
    (hfind : (findCapabilities o cs df fuel).run log = .ok (.ok (deviceId, found)) log₁)
    (hcommon : found.commonCfg = some info) :
    ((barInfo cs df o info.bar).run log₁).state <+:
      ((HypPciTransport.new o w cs fuel df).run log).state := by
  unfold HypPciTransport.new
  rw [EStateM.run_bind_of_ok hfind]
  simp only [hcommon]
  refine EStateM.Preserves.run_bind ?_ (hypGetBarRegion_state cs df o _ _ _ _ _ ▸ List.prefix_refl _)
  rintro (e | commonCfg)
  · exact .pure _
  · -- every later lookup only adds writes
    simp only
    split
    · split
      · exact .pure _
      · refine .bind (hypGetBarRegion_grows cs df o _ _ _ _) ?_
        rintro (e | notifyRegion)
        · exact .pure _
        · simp only
          split
          · refine .bind (hypGetBarRegion_grows cs df o _ _ _ _) ?_
            rintro (e | isrStatus)
            · exact .pure _
            · simp only
              split
              · exact .pure _
              · refine .bind (hypGetBarRegion_grows cs df o _ _ _ _) ?_
                rintro (e | configSpace) <;> exact .pure _
          · exact .pure _
    · exact .pure _

variable {e : Fault} {log₂ : List ConfigWrite}

theorem PciTransport.new_of_barInfo_error (mmioPhysToVirt : Nat → Nat → Nat)
    (hfind : (findCapabilities o cs df fuel).run log = .ok (.ok (deviceId, found)) log₁)
    (hcommon : found.commonCfg = some info)
    (hbar : (barInfo cs df o info.bar).run log₁ = .error e log₂) :
    (PciTransport.new o w mmioPhysToVirt cs fuel df).run log = .error e log₂ := by
  unfold PciTransport.new
  rw [EStateM.run_bind_of_ok hfind]
  simp only [hcommon]
  exact EStateM.run_bind_of_error (getBarRegion_of_barInfo_error cs df o _ _ _ _ _ hbar)

theorem HypPciTransport.new_of_barInfo_error
    (hfind : (findCapabilities o cs df fuel).run log = .ok (.ok (deviceId, found)) log₁)
    (hcommon : found.commonCfg = some info)
    (hbar : (barInfo cs df o info.bar).run log₁ = .error e log₂) :
    (HypPciTransport.new o w cs fuel df).run log = .error e log₂ := by
  unfold HypPciTransport.new
  rw [EStateM.run_bind_of_ok hfind]
  simp only [hcommon]
  exact EStateM.run_bind_of_error (hypGetBarRegion_of_barInfo_error cs df o _ _ _ _ hbar)

end

/-- A common configuration capability naming BAR 6 to 59, in either build: both
transports' `new` first write all ones to its register, which lies past the six BAR
registers (`0x10` to `0x24`). From BAR 60 on, a debug build panics computing the register. -/
theorem new_probes_register_past_bars (o : Overflow) (w : Nat) (mmioPhysToVirt : Nat → Nat → Nat)
    (cs : ConfigSpace) (fuel : Nat) (df : DeviceFunction) {log log₁ : List ConfigWrite}
    {deviceId : UInt16} {found : FoundCapabilities} {info : VirtioCapabilityInfo}
    (hfind : (PciRoot.findCapabilities o cs df fuel).run log = .ok (.ok (deviceId, found)) log₁)
    (hcommon : found.commonCfg = some info) :
    (6 ≤ info.bar.toNat → info.bar.toNat < 60 →
      0x24 < (BAR0_OFFSET + 4 * info.bar).toNat ∧
      log ++ [⟨df, BAR0_OFFSET + 4 * info.bar, 0xffffffff⟩] <+:
        ((PciTransport.new o w mmioPhysToVirt cs fuel df).run log).state ∧
      log ++ [⟨df, BAR0_OFFSET + 4 * info.bar, 0xffffffff⟩] <+:
        ((HypPciTransport.new o w cs fuel df).run log).state) ∧
    (60 ≤ info.bar.toNat → o = .panics →
      (PciTransport.new o w mmioPhysToVirt cs fuel df).run log = .error .panic log ∧
      (HypPciTransport.new o w cs fuel df).run log = .error .panic log) := by
  have hlog : log₁ = log := by
    simpa [hfind, EStateM.Result.state] using PciRoot.findCapabilities_state cs df o fuel log
  subst hlog
  constructor
  · intro hlo hhi
    have hreg := @PciRoot.barOffset_of_lt o info.bar (by omega)
    have hprobe : log₁ ++ [⟨df, BAR0_OFFSET + 4 * info.bar, 0xffffffff⟩] <+:
        ((PciRoot.barInfo cs df o info.bar).run log₁).state := by
      rw [PciRoot.barInfo_state cs df o hreg]
      exact List.prefix_append _ _
    refine ⟨?_, hprobe.trans (PciTransport.barInfo_prefix_new o w cs mmioPhysToVirt hfind hcommon),
      hprobe.trans (HypPciTransport.barInfo_prefix_new o w cs hfind hcommon)⟩
    have h4 : (4 : UInt8).toNat = 4 := rfl
    rw [UInt8.toNat_add, UInt8.toNat_mul, h4, show BAR0_OFFSET.toNat = 16 from rfl]
    omega
  · rintro hbar rfl
    have hpanic := PciRoot.barInfo_of_barOffset_error cs df .panics
      (PciRoot.barOffset_panics_of_le hbar) log₁
    exact ⟨PciTransport.new_of_barInfo_error .panics w cs mmioPhysToVirt hfind hcommon hpanic,
      HypPciTransport.new_of_barInfo_error .panics w cs hfind hcommon hpanic⟩

/-- A device whose one capability, for the common configuration, names BAR 9: both
transports' `new` first write all ones to the capabilities pointer at `0x34`. -/
theorem new_probes_capabilities_pointer :
    let cs : ConfigSpace := ⟨fun _ _ register =>
      if register = 0x00 then 0x10411af4
      else if register = 0x04 then 0x00100000
      else if register = 0x34 then 0x40
      else if register = 0x40 then 0x01100009
      else if register = 0x44 then 9
      else if register = 0x4c then 0x38
      else 0⟩
    [⟨⟨0, 1, 0⟩, 0x34, 0xffffffff⟩] <+:
        ((PciTransport.new .panics 64 (fun p _ => p) cs 2 ⟨0, 1, 0⟩).run []).state ∧
      [⟨⟨0, 1, 0⟩, 0x34, 0xffffffff⟩] <+: ((HypPciTransport.new .panics 64 cs 2 ⟨0, 1, 0⟩).run []).state := by
  intro cs
  have hfind : (PciRoot.findCapabilities .panics cs ⟨0, 1, 0⟩ 2).run [] =
      .ok (.ok (0x1041, ⟨some ⟨9, 0, 0x38⟩, none, 0, none, none⟩)) [] := by
    unfold cs
    rfl
  obtain ⟨hprobe, -⟩ := new_probes_register_past_bars .panics 64 (fun p _ => p) cs 2 ⟨0, 1, 0⟩ hfind rfl
  obtain ⟨-, hpci, hhyp⟩ := hprobe (by decide) (by decide)
  exact ⟨hpci, hhyp⟩

end VirtioDrivers
