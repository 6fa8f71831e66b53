import VirtioDrivers.Transport.Pci.Registers

/-! The PCI transport refines the meaning of the calls of the `Transport` trait. On a device
that keeps its registers, over any run of calls in a debug build, what the registers show is
the state the calls leave, and `queue_used`, `ack_interrupt`, `get_status` and
`read_config_space` answer from that state. The transport cannot unset a queue: once
`queue_set` has enabled one, `queue_used` finds it in use until the device is reset, in any
build. -/
namespace VirtioDrivers

namespace PciTransport.Impl
variable {o : Overflow} {w : Nat} (id : PciIdentity) (d₀ : PciRegs)

theorem queueUsed_run (queue : UInt16) (log : List PciAccess) :
    (queueUsed (PciDevice.ofRegs id d₀) queue).run log =
      .ok ((d₀.replay id log).inUse queue)
        (log ++ [.write .queueSelect queue.toUInt64, .read .queueEnable]) := by
  simp [queueUsed, PciRegs.write, PciRegs.answer, PciRegs.inUse, EStateM.run, EStateM.bind_apply]

theorem ackInterrupt_run (log : List PciAccess) :
    (ackInterrupt (PciDevice.ofRegs id d₀)).run log =
      .ok ((d₀.replay id log).isr &&& 3 != 0) (log ++ [.readIsr]) := by
  simp [ackInterrupt, EStateM.run, EStateM.bind_apply]

theorem getStatus_run (log : List PciAccess) :
    (getStatus (PciDevice.ofRegs id d₀)).run log =
      .ok (DeviceStatus.fromBitsTruncate (d₀.replay id log).deviceStatus.toUInt32)
        (log ++ [.read .deviceStatus]) := by
  simp [getStatus, PciRegs.answer, EStateM.run, EStateM.bind_apply]

/-- In a debug build, the check of an aligned field whose end and config space fit a `usize`
decides as the check of the transport's kind. -/
theorem checkConfigAccess_panics_of_fit {t : PciTransport} {sizeOfT alignOfT offset : Nat}
    (halign : alignOfT ≤ 4) (hoff : offset % alignOfT = 0) (hfit : offset + sizeOfT < 2 ^ w)
    (hlen : ∀ r ∈ t.configSpace, r.2 * 4 < 2 ^ w) :
    checkConfigAccess .panics w t sizeOfT alignOfT offset = .ok (t.kind.checkField offset sizeOfT) := by
  cases hc : t.configSpace with
  | none =>
    rw [checkConfigAccess_missing .panics w halign hoff hc]
    simp [PciTransport.kind, TransportKind.checkField, hc]
  | some r =>
    obtain ⟨start, len⟩ := r
    have hbytes : len * 4 < 2 ^ w := hlen (start, len) (by simp [hc])
    rw [checkConfigAccess_of_fit .panics w halign hoff hc (Overflow.panics.fit_of_lt hbytes)
      (Overflow.panics.fit_of_lt hfit)]
    simp [PciTransport.kind, TransportKind.checkField, hc]

/-- In a debug build, `read_config_space` of an aligned field whose end and config space fit a
`usize` answers the config space the device shows, or refuses the field as the check of the
transport's kind does. -/
theorem readConfigSpace_observe {t : PciTransport} {sizeOfT alignOfT offset : Nat}
    (halign : alignOfT ≤ 4) (hoff : offset % alignOfT = 0) (hfit : offset + sizeOfT < 2 ^ w)
    (hlen : ∀ r ∈ t.configSpace, r.2 * 4 < 2 ^ w) (log : List PciAccess) :
    ∃ log', (readConfigSpace (PciDevice.ofRegs id d₀) .panics w t sizeOfT alignOfT offset).run log =
      .ok (do t.kind.checkField offset sizeOfT; pure ((d₀.replay id log).observe.config offset sizeOfT))
        log' := by
  have hc := checkConfigAccess_panics_of_fit (t := t) halign hoff hfit hlen
  cases hk : t.kind.checkField offset sizeOfT with
  | error e =>
    rw [hk] at hc
    exact ⟨log, by simp [readConfigSpace, hc, EStateM.run, EStateM.bind_apply]⟩
  | ok u =>
    rw [hk] at hc
    exact ⟨log ++ [.readConfig offset sizeOfT],
      by simp [readConfigSpace, hc, PciRegs.observe, EStateM.run, EStateM.bind_apply]⟩

/-- Over any run of calls in a debug build, the PCI transport is the abstract one: the registers
show the state the calls leave, and `queue_used`, `ack_interrupt` and `read_config_space` (of an
aligned field whose end and config space fit a `usize`) answer as the transport of that state
does, whatever its other answers; `get_status` reads the known flags of its status. -/
theorem pci_refines_behaviour {t : PciTransport} {alignOf : Nat → Nat} {log log' : List PciAccess}
    {calls : List TransportCall} (T : TransportBehaviour)
    (hr : EStateM.Runs (perform (PciDevice.ofRegs id d₀) .panics w t alignOf) log calls log') :
    let s := (d₀.replay id log).observe
    (d₀.replay id log').observe = calls.foldl (TransportState.after t.kind) s ∧
    (∀ queue, ∃ log'', (queueUsed (PciDevice.ofRegs id d₀) queue).run log' =
      .ok ((TransportState.behaviour t.kind s T).queueUsed calls queue) log'') ∧
    (∃ log'', (ackInterrupt (PciDevice.ofRegs id d₀)).run log' =
      .ok ((TransportState.behaviour t.kind s T).ackInterrupt calls) log'') ∧
    (∃ log'', (getStatus (PciDevice.ofRegs id d₀)).run log' =
      .ok (DeviceStatus.fromBitsTruncate (calls.foldl (TransportState.after t.kind) s).status) log'') ∧
    (∀ offset size, alignOf size ≤ 4 → offset % alignOf size = 0 → offset + size < 2 ^ w →
      (∀ r ∈ t.configSpace, r.2 * 4 < 2 ^ w) →
      ∃ log'', (readConfigSpace (PciDevice.ofRegs id d₀) .panics w t size (alignOf size) offset).run
        log' = .ok ((TransportState.behaviour t.kind s T).readConfigSpace calls offset size) log'') := by
  intro s
  have hobs : (d₀.replay id log').observe = calls.foldl (TransportState.after t.kind) s :=
    runs_observe id d₀ hr
  refine ⟨hobs, fun queue => ⟨log' ++ [.write .queueSelect queue.toUInt64, .read .queueEnable], ?_⟩,
    ⟨log' ++ [.readIsr], ?_⟩, ⟨log' ++ [.read .deviceStatus], ?_⟩,
    fun offset size halign hoff hfit hlen => ?_⟩
  · rw [queueUsed_run]
    show _ = EStateM.Result.ok ((calls.foldl (TransportState.after t.kind) s).inUse queue) _
    rw [← hobs]
    rfl
  · rw [ackInterrupt_run]
    show _ = EStateM.Result.ok (calls.foldl (TransportState.after t.kind) s).interruptPending _
    rw [← hobs]
    rfl
  · rw [getStatus_run, ← hobs]
    rfl
  · obtain ⟨log'', hread⟩ := readConfigSpace_observe id d₀ halign hoff hfit hlen log'
    rw [hobs] at hread
    exact ⟨log'', hread⟩

theorem pci_refines_behaviour_queue_status_config :
    ∃ log', EStateM.Runs (perform (PciDevice.ofRegs ⟨0, fun _ => 16, fun _ => 0, 0⟩
        ⟨0, 0, fun _ => 0, 0, 0, fun _ => .reset 16, 0, [], fun _ _ => 0⟩) .panics 64
        ⟨1, ⟨0, 1, 0⟩, 0x1000, (0x2000, 4), 2, 0x3000, some (0x4000, 2)⟩ (fun size => size)) []
        [.queueSet 0 16 0x8000 0x9000 0xa000, .writeConfigSpace 4 4 7, .setStatus ⟨15⟩] log' ∧
      (∃ log'', (queueUsed (PciDevice.ofRegs ⟨0, fun _ => 16, fun _ => 0, 0⟩
        ⟨0, 0, fun _ => 0, 0, 0, fun _ => .reset 16, 0, [], fun _ _ => 0⟩) 0).run log' = .ok true log'') ∧
      (∃ log'', (getStatus (PciDevice.ofRegs ⟨0, fun _ => 16, fun _ => 0, 0⟩
        ⟨0, 0, fun _ => 0, 0, 0, fun _ => .reset 16, 0, [], fun _ _ => 0⟩)).run log' = .ok ⟨15⟩ log'') ∧
      ∃ log'', (readConfigSpace (PciDevice.ofRegs ⟨0, fun _ => 16, fun _ => 0, 0⟩
        ⟨0, 0, fun _ => 0, 0, 0, fun _ => .reset 16, 0, [], fun _ _ => 0⟩) .panics 64
        ⟨1, ⟨0, 1, 0⟩, 0x1000, (0x2000, 4), 2, 0x3000, some (0x4000, 2)⟩ 4 4 4).run log' =
        .ok (.ok 7) log'' := by
  obtain ⟨log', hr⟩ : ∃ log', EStateM.Runs (perform (PciDevice.ofRegs ⟨0, fun _ => 16, fun _ => 0, 0⟩
      ⟨0, 0, fun _ => 0, 0, 0, fun _ => .reset 16, 0, [], fun _ _ => 0⟩) .panics 64
      ⟨1, ⟨0, 1, 0⟩, 0x1000, (0x2000, 4), 2, 0x3000, some (0x4000, 2)⟩ (fun size => size)) []
      ([] ++ [.queueSet 0 16 0x8000 0x9000 0xa000] ++ [.writeConfigSpace 4 4 7] ++ [.setStatus ⟨15⟩])
      log' := ⟨_, .snoc (.snoc (.snoc .nil rfl) rfl) rfl⟩
  obtain ⟨-, hused, -, hstatus, hread⟩ := pci_refines_behaviour _ _ (.plain 16) hr
  exact ⟨log', hr, hused 0, hstatus, hread 4 4 (by decide) (by decide) (by decide) (by decide)⟩

/-- The PCI transport cannot take a queue out of use: once a run has set a queue up,
`queue_used` finds it in use after any later calls that do not reset the device, the
driver's own `queue_unset` among them, in any build. -/
theorem queueUsed_until_reset {t : PciTransport} {alignOf : Nat → Nat} {log log' : List PciAccess}
    {calls rest : List TransportCall} {queue : UInt16} {size : UInt32}
    {descriptors driverArea deviceArea : Nat}
    (hr : EStateM.Runs (perform (PciDevice.ofRegs id d₀) o w t alignOf) log
      (calls ++ .queueSet queue size descriptors driverArea deviceArea :: rest) log')
    (hrest : ∀ c ∈ rest, t.kind.resets c = false) :
    (queueUsed (PciDevice.ofRegs id d₀) queue).run log' =
      .ok true (log' ++ [.write .queueSelect queue.toUInt64, .read .queueEnable]) := by
  have hset : useAfter t.kind (calls.foldl (useAfter t.kind) (d₀.replay id log).inUse)
      (.queueSet queue size descriptors driverArea deviceArea) queue = true := by
    simp [useAfter, PciTransport.kind]
  rw [queueUsed_run, runs_inUse id d₀ hr, List.foldl_append, List.foldl_cons,
    useAfter_foldl_of_enable (PciTransport.kind_queueFlag t) hrest hset]

theorem queueUsed_until_reset_unset :
    ∃ log', EStateM.Runs (perform (PciDevice.ofRegs ⟨0, fun _ => 16, fun _ => 0, 0⟩
        ⟨0, 0, fun _ => 0, 0, 0, fun _ => .reset 16, 0, [], fun _ _ => 0⟩) .wraps 64
        ⟨1, ⟨0, 1, 0⟩, 0x1000, (0x2000, 4), 2, 0x3000, some (0x4000, 2)⟩ (fun size => size)) []
        [.queueSet 0 16 0x8000 0x9000 0xa000, .queueUnset 0, .notify 0] log' ∧
      (queueUsed (PciDevice.ofRegs ⟨0, fun _ => 16, fun _ => 0, 0⟩
        ⟨0, 0, fun _ => 0, 0, 0, fun _ => .reset 16, 0, [], fun _ _ => 0⟩) 0).run log' =
        .ok true (log' ++ [.write .queueSelect 0, .read .queueEnable]) := by
  obtain ⟨log', hr⟩ : ∃ log', EStateM.Runs (perform (PciDevice.ofRegs ⟨0, fun _ => 16, fun _ => 0, 0⟩
      ⟨0, 0, fun _ => 0, 0, 0, fun _ => .reset 16, 0, [], fun _ _ => 0⟩) .wraps 64
      ⟨1, ⟨0, 1, 0⟩, 0x1000, (0x2000, 4), 2, 0x3000, some (0x4000, 2)⟩ (fun size => size)) []
      ([] ++ [.queueSet 0 16 0x8000 0x9000 0xa000] ++ [.queueUnset 0] ++ [.notify 0]) log' :=
    ⟨_, .snoc (.snoc (.snoc .nil rfl) rfl) rfl⟩
  have hr' : EStateM.Runs _ [] (([] : List TransportCall) ++
      .queueSet 0 16 0x8000 0x9000 0xa000 :: [.queueUnset 0, .notify 0]) log' := hr
  exact ⟨log', hr, queueUsed_until_reset _ _ hr' (by decide)⟩

end PciTransport.Impl
end VirtioDrivers
