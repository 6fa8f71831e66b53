import VirtioDrivers.Transport.MmioRegisters
import VirtioDrivers.Transport.State
import VirtioDrivers.Lib.StepRun
import VirtioDrivers.Queue.Spec
import VirtioDrivers.Lib.Halves

/-! Runs of the MMIO transport against a device that keeps its registers. Each call of the
`Transport` trait takes a queue into use, out of use, or leaves the queues as they are;
over any run, `queue_used` answers what the calls left. A legacy queue is set up by the
page number of the layout `allocate_legacy` gives, which panics off a page or above
`2 ^ 44`. -/

namespace VirtioDrivers

/-- The register that marks a queue in use on a device of each version. -/
@[simp] def MmioVersion.queueFlag : MmioVersion → QueueFlag
  | .legacy => .pfn
  | .modern => .ready

/-- What the meaning of the calls depends on, on the MMIO transport: the version of its
device, which keeps the whole status, and its config space. -/
def MmioTransport.kind (t : MmioTransport) : TransportKind :=
  ⟨t.version.queueFlag, id, some t.configSpaceSize⟩

@[simp] theorem MmioTransport.kind_queueFlag (t : MmioTransport) :
    t.kind.queueFlag = t.version.queueFlag := rfl

@[simp] theorem MmioTransport.kind_statusBits (t : MmioTransport) (bits : UInt32) :
    t.kind.statusBits bits = bits := rfl

@[simp] theorem MmioTransport.kind_configSpaceSize (t : MmioTransport) :
    t.kind.configSpaceSize = some t.configSpaceSize := rfl

namespace MmioTransport
variable {o : Overflow} {w : Nat} (id : MmioIdentity) (d₀ : RegFile)

theorem perform_inUse {t : MmioTransport} {alignOf : Nat → Nat} {fuel : Nat} {c : TransportCall}
    {log log' : List Access}
    (h : (perform (MmioDevice.ofRegFile id d₀) o w t alignOf fuel c).run log = .ok () log') :
    (d₀.replay log').inUse t.version = useAfter t.kind ((d₀.replay log).inUse t.version) c := by
  obtain ⟨new, rfl, ha⟩ := perform_appends _ _ _ h
  funext p
  cases ha
  case setStatus status =>
    -- a status of zero resets the device
    by_cases hs : status.bits = 0 <;> simp [useAfter, hs]
  case queueSetLegacy queue size pfn descriptors driverArea deviceArea hv hc hp =>
    -- the page number written is zero exactly when the address is
    have hz : (pfn != 0) = (descriptors != 0) := by
      rw [← mul_of_legacyPfn hp, Bool.eq_iff_iff, bne_iff_ne, bne_iff_ne, ne_eq, ne_eq,
        ← UInt32.toNat_inj, UInt32.toNat_zero]
      unfold PAGE_SIZE
      omega
    by_cases hq : p = queue <;> simp [useAfter, hv, hq, hz, UInt16.toUInt32_inj]
  case queueSetModern queue size descriptors driverArea deviceArea hv =>
    by_cases hq : p = queue <;> simp [useAfter, hv, hq, UInt16.toUInt32_inj]
  case queueUnsetLegacy queue hv =>
    by_cases hq : p = queue <;> simp [useAfter, hv, hq, UInt16.toUInt32_inj]
  case queueUnsetModern queue hv n =>
    by_cases hq : p = queue <;> simp [useAfter, hv, hq, UInt16.toUInt32_inj]
  case setGuestPageSize guestPageSize =>
    cases t.version <;> simp [useAfter]
  all_goals simp [useAfter]

theorem runs_inUse {t : MmioTransport} {alignOf : Nat → Nat} {fuel : Nat}
    {log log' : List Access} {calls : List TransportCall}
    (hr : EStateM.Runs (perform (MmioDevice.ofRegFile id d₀) o w t alignOf fuel) log calls log') :
    (d₀.replay log').inUse t.version =
      calls.foldl (useAfter t.kind) ((d₀.replay log).inUse t.version) :=
  hr.simulates (fun log => (d₀.replay log).inUse t.version) (perform_inUse id d₀)

theorem queueUsed_run (t : MmioTransport) (queue : UInt16) (log : List Access) :
    ∃ r, (queueUsed (MmioDevice.ofRegFile id d₀) t queue).run log =
      .ok ((d₀.replay log).inUse t.version queue) (log ++ [.write .queueSel queue.toUInt32, .read r]) := by
  cases hv : t.version with
  | legacy =>
    exact ⟨.legacyQueuePfn, by simp [queueUsed, hv, EStateM.run, EStateM.bind_apply,
      RegFile.answer, RegFile.write, RegFile.inUse]⟩
  | modern =>
    exact ⟨.queueReady, by simp [queueUsed, hv, EStateM.run, EStateM.bind_apply,
      RegFile.answer, RegFile.write, RegFile.inUse]⟩

/-- After any run of calls, `queue_used` answers for each queue what the calls left it:
set up (on a legacy device, at a nonzero address), and not since unset or reset. -/
theorem queueUsed_after_run {t : MmioTransport} {alignOf : Nat → Nat} {fuel : Nat}
    {log log' : List Access} {calls : List TransportCall}
    (hr : EStateM.Runs (perform (MmioDevice.ofRegFile id d₀) o w t alignOf fuel) log calls log')
    (queue : UInt16) :
    ∃ r, (queueUsed (MmioDevice.ofRegFile id d₀) t queue).run log' =
      .ok (calls.foldl (useAfter t.kind) ((d₀.replay log).inUse t.version) queue)
        (log' ++ [.write .queueSel queue.toUInt32, .read r]) := by
  rw [← runs_inUse id d₀ hr]
  exact queueUsed_run id d₀ t queue log'

theorem queueUsed_after_run_set :
    ∃ log', EStateM.Runs (perform (MmioDevice.ofRegFile ⟨Mmio.MAGIC_VALUE, Mmio.MODERN_VERSION, 3, 0, 0, fun _ => 16, 0⟩
        ⟨0, 0, fun _ => 0, 0, 0, fun _ => .zero, 0, 0, [], fun _ _ => 0⟩) .panics 64 ⟨.modern, 8⟩
        (fun size => size) 0) [] [.queueSet 0 16 0x8000 0x9000 0xa000] log' ∧
      ∃ r, (queueUsed (MmioDevice.ofRegFile ⟨Mmio.MAGIC_VALUE, Mmio.MODERN_VERSION, 3, 0, 0, fun _ => 16, 0⟩
        ⟨0, 0, fun _ => 0, 0, 0, fun _ => .zero, 0, 0, [], fun _ _ => 0⟩) ⟨.modern, 8⟩ 0).run log' =
        .ok true (log' ++ [.write .queueSel 0, .read r]) := by
  obtain ⟨log', hr⟩ : ∃ log', EStateM.Runs (perform (MmioDevice.ofRegFile
      ⟨Mmio.MAGIC_VALUE, Mmio.MODERN_VERSION, 3, 0, 0, fun _ => 16, 0⟩
      ⟨0, 0, fun _ => 0, 0, 0, fun _ => .zero, 0, 0, [], fun _ _ => 0⟩) .panics 64 ⟨.modern, 8⟩
      (fun size => size) 0) [] ([] ++ [.queueSet 0 16 0x8000 0x9000 0xa000]) log' := ⟨_, .snoc .nil rfl⟩
  exact ⟨log', hr, queueUsed_after_run _ _ hr 0⟩

theorem driverFeatures64_replay (d : RegFile) (driverFeatures : UInt64) :
    (d.replay [.write .driverFeaturesSel 0, .write .driverFeatures driverFeatures.toUInt32,
      .write .driverFeaturesSel 1, .write .driverFeatures (driverFeatures >>> 32).toUInt32]
      ).driverFeatures64 = driverFeatures := by
  simp only [RegFile.replay_cons, RegFile.apply_write, RegFile.write, RegFile.replay_nil,
    RegFile.driverFeatures64, Function.update_apply, ↓reduceIte]
  exact Halves.or_shiftLeft_toUInt32 driverFeatures

theorem ackInterrupt_run (log : List Access) :
    ∃ log', (ackInterrupt (MmioDevice.ofRegFile id d₀)).run log =
        .ok ((d₀.replay log).interruptStatus != 0) log' ∧
      (d₀.replay log').interruptStatus = 0 := by
  by_cases hi : (d₀.replay log).interruptStatus = 0
  · refine ⟨log ++ [.read .interruptStatus], ?_, by simp [hi]⟩
    simp [ackInterrupt, EStateM.run, EStateM.bind_apply, RegFile.answer, hi]
  · refine ⟨log ++ [.read .interruptStatus, .write .interruptAck (d₀.replay log).interruptStatus],
      ?_, by simp [RegFile.write]⟩
    simp [ackInterrupt, EStateM.run, EStateM.bind_apply, RegFile.answer, hi]

/-- A legacy `queue_set` whose layout checks pass writes the queue's size, the page size
and the page number; it panics before any write when the descriptors are off a page or
their page number does not fit a `u32`. -/
theorem queueSet_legacy_run {t : MmioTransport} (hv : t.version = .legacy) {queue : UInt16}
    {size : UInt32} {descriptors driverArea deviceArea : Nat}
    (hc : checkLegacyLayout o w size descriptors driverArea deviceArea = .ok ()) (log : List Access) :
    (queueSet o w t queue size descriptors driverArea deviceArea).run log =
      if descriptors % PAGE_SIZE = 0 ∧ descriptors < 2 ^ 44 then
        .ok () (log ++ [.write .queueSel queue.toUInt32, .write .queueNum size,
          .write .legacyQueueAlign (UInt32.ofNat PAGE_SIZE),
          .write .legacyQueuePfn (UInt32.ofNat (descriptors / PAGE_SIZE))])
      else .error .panic log := by
  have hpfn := legacyPfn_eq descriptors
  by_cases hp : descriptors % PAGE_SIZE = 0 ∧ descriptors < 2 ^ 44
  · rw [if_pos hp] at hpfn ⊢
    simp [queueSet, hv, hc, hpfn, EStateM.run, EStateM.bind_apply]
  · rw [if_neg hp] at hpfn ⊢
    simp [queueSet, hv, hc, hpfn, EStateM.run, EStateM.bind_apply]

end MmioTransport

theorem VirtQueueLayout.allocateLegacy_eq_ok {H : Hal} {queueSize : Nat} {layout : VirtQueueLayout}
    (h : VirtQueueLayout.allocateLegacy H queueSize = .ok layout) :
    ∃ dma, layout = .legacy dma (16 * queueSize) (alignUp (16 * queueSize + 2 * (3 + queueSize))) := by
  simp only [VirtQueueLayout.allocateLegacy, queuePartSizes, Except.bind_eq_ok,
    Except.pure_eq_ok, Except.ok.injEq] at h
  obtain ⟨_, ⟨_, -, rfl⟩, dma, -, rfl⟩ := h
  exact ⟨dma, rfl⟩

theorem checkLegacyLayout_of_allocateLegacy {o : Overflow} {w : Nat} {H : Hal} {queueSize : Nat}
    {layout : VirtQueueLayout} (h : VirtQueueLayout.allocateLegacy H queueSize = .ok layout)
    (hsize : queueSize < 2 ^ 32) (hw : 16 * queueSize + 2 * (queueSize + 3) + PAGE_SIZE < 2 ^ w) :
    checkLegacyLayout o w (UInt32.ofNat queueSize) layout.descriptorsPaddr layout.driverAreaPaddr
      layout.deviceAreaPaddr = .ok () := by
  obtain ⟨dma, rfl⟩ := VirtQueueLayout.allocateLegacy_eq_ok h
  have hn : (UInt32.ofNat queueSize).toNat = queueSize := UInt32.toNat_ofNat_of_lt' hsize
  simp only [VirtQueueLayout.descriptorsPaddr, VirtQueueLayout.driverAreaPaddr,
    VirtQueueLayout.deviceAreaPaddr]
  rw [checkLegacyLayout_of_lt (Nat.le_add_right _ _) (Nat.le_add_right _ _) (by rwa [hn])]
  simp [hn, Nat.add_comm 3 queueSize]

/-- A legacy `queue_set` of the layout `allocate_legacy` gives returns exactly when the
region is on a page below `2 ^ 44`: its layout checks pass, and only the page number is
left to check. -/
theorem queueSet_allocateLegacy {o : Overflow} {w : Nat} {H : Hal} {queueSize : Nat}
    {layout : VirtQueueLayout} {t : MmioTransport} (hv : t.version = .legacy)
    (h : VirtQueueLayout.allocateLegacy H queueSize = .ok layout) (hsize : queueSize < 2 ^ 32)
    (hw : 16 * queueSize + 2 * (queueSize + 3) + PAGE_SIZE < 2 ^ w) (queue : UInt16)
    (log : List Access) :
    (∃ log', (MmioTransport.queueSet o w t queue (UInt32.ofNat queueSize) layout.descriptorsPaddr
        layout.driverAreaPaddr layout.deviceAreaPaddr).run log = .ok () log') ↔
      layout.descriptorsPaddr % PAGE_SIZE = 0 ∧ layout.descriptorsPaddr < 2 ^ 44 := by
  rw [MmioTransport.queueSet_legacy_run hv (checkLegacyLayout_of_allocateLegacy h hsize hw)]
  split
  · rename_i hp
    exact ⟨fun _ => hp, fun _ => ⟨_, rfl⟩⟩
  · rename_i hp
    exact ⟨fun ⟨_, he⟩ => (nomatch he), fun h' => absurd h' hp⟩

theorem queueSet_allocateLegacy_past_44_bits :
    ∃ layout, VirtQueueLayout.allocateLegacy ⟨fun _ _ => (2 ^ 44, 2 ^ 44), fun b _ => b.addr, id, fun _ n => n⟩ 16 =
        .ok layout ∧
      ¬ ∃ log', (MmioTransport.queueSet .panics 64 ⟨.legacy, 8⟩ 0 (UInt32.ofNat 16) layout.descriptorsPaddr
        layout.driverAreaPaddr layout.deviceAreaPaddr).run [] = .ok () log' := by
  refine ⟨_, rfl, fun hq => ?_⟩
  have hp := ((queueSet_allocateLegacy (H := ⟨fun _ _ => (2 ^ 44, 2 ^ 44), fun b _ => b.addr, id, fun _ n => n⟩) rfl rfl
    (by decide) (by decide) 0 []).mp hq).2
  exact absurd hp (by decide)

end VirtioDrivers
