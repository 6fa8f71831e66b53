import VirtioDrivers.Transport.MmioConfig

/-! The MMIO transport refines the meaning of the calls of the `Transport` trait: on a device
that keeps its registers, over any run of calls in a debug build, what the registers show is
the state the calls leave, the answers are those of that state, and a field of the config
space reads back what was last written. -/

namespace VirtioDrivers

/-- What the registers of a device show of the state the calls set. -/
def RegFile.observe (version : MmioVersion) (d : RegFile) : TransportState :=
  ⟨d.status, d.driverFeatures64, d.inUse version, d.notified, d.interruptStatus != 0, d.config⟩

namespace MmioTransport
variable {w : Nat} (id : MmioIdentity) (d₀ : RegFile) {T : TransportBehaviour}

/-- One call that returns in a debug build changes what the registers show as the abstract
state's step says. -/
theorem perform_observe {t : MmioTransport} {alignOf : Nat → Nat} {fuel : Nat} {c : TransportCall}
    {log log' : List Access}
    (h : (perform (MmioDevice.ofRegFile id d₀) .panics w t alignOf fuel c).run log = .ok () log') :
    (d₀.replay log').observe t.version = ((d₀.replay log).observe t.version).after t.kind c := by
  have hinUse := perform_inUse id d₀ h
  obtain ⟨new, rfl, ha⟩ := perform_appends _ _ _ h
  rw [RegFile.observe, RegFile.observe, hinUse]
  cases ha
  case writeDriverFeatures driverFeatures =>
    rw [RegFile.replay_append, driverFeatures64_replay]
    simp [TransportState.after, RegFile.write]
  case setStatus status =>
    -- a status of zero resets the device, and with it the interrupt
    by_cases hs : status.bits = 0 <;>
      simp [TransportState.after, RegFile.write, RegFile.writeStatus, RegFile.driverFeatures64, hs]
  case setGuestPageSize guestPageSize =>
    cases t.version <;> simp [TransportState.after, RegFile.write, RegFile.driverFeatures64]
  case ackInterruptNone hi =>
    simp only [MmioDevice.ofRegFile_read, RegFile.answer] at hi
    simp [TransportState.after, RegFile.driverFeatures64, hi]
  case ackInterrupt hi =>
    -- the acknowledgement clears every bit the device raised
    simp [TransportState.after, RegFile.write, RegFile.driverFeatures64, RegFile.answer]
  case writeConfigRefused offset size value e hc =>
    have hlt : t.configSpaceSize < offset + size := by
      have := checkConfigAccess_panics_eq_ok _ hc
      split at this
      · assumption
      · cases this
    simp [TransportState.after, TransportKind.checkField, RegFile.driverFeatures64, hlt]
  case writeConfig offset size value hc =>
    have hle := le_of_checkConfigAccess_panics _ hc
    simp [TransportState.after, TransportKind.checkField, RegFile.apply, RegFile.driverFeatures64,
      Nat.not_lt.mpr hle]
  all_goals simp [TransportState.after, RegFile.write, RegFile.setQueue, RegFile.driverFeatures64]

theorem runs_observe {t : MmioTransport} {alignOf : Nat → Nat} {fuel : Nat}
    {log log' : List Access} {calls : List TransportCall}
    (hr : EStateM.Runs (perform (MmioDevice.ofRegFile id d₀) .panics w t alignOf fuel) log calls log') :
    (d₀.replay log').observe t.version =
      calls.foldl (TransportState.after t.kind) ((d₀.replay log).observe t.version) :=
  hr.simulates (fun log => (d₀.replay log).observe t.version) (perform_observe id d₀)

/-- `read_config_space` of an aligned field whose end fits a `usize` answers the config
space the device shows, or refuses a field past it. -/
theorem readConfigSpace_observe {o : Overflow} {t : MmioTransport} {sizeOfT alignOfT offset : Nat}
    (halign : alignOfT ≤ 4) (hoff : offset % alignOfT = 0) (hfit : offset + sizeOfT < 2 ^ w)
    (log : List Access) :
    (readConfigSpace (MmioDevice.ofRegFile id d₀) o w t sizeOfT alignOfT offset).run log =
      if t.configSpaceSize < offset + sizeOfT then .ok (.error .configSpaceTooSmall) log
      else .ok (.ok (((d₀.replay log).observe t.version).config offset sizeOfT))
        (log ++ [.readConfig offset sizeOfT]) := by
  have hc := checkConfigAccess_of_fit o w (t := t) halign hoff (o.fit_of_lt hfit)
  by_cases hlt : t.configSpaceSize < offset + sizeOfT
  · rw [if_pos hlt] at hc ⊢
    simp [readConfigSpace, hc, EStateM.run, EStateM.bind_apply]
  · rw [if_neg hlt] at hc ⊢
    simp [readConfigSpace, hc, EStateM.run, EStateM.bind_apply, RegFile.observe]

theorem ackInterrupt_refines {t : MmioTransport} {alignOf : Nat → Nat} {fuel : Nat}
    {log log' : List Access} {calls : List TransportCall}
    (hr : EStateM.Runs (perform (MmioDevice.ofRegFile id d₀) .panics w t alignOf fuel) log calls log') :
    ∃ log'', (ackInterrupt (MmioDevice.ofRegFile id d₀)).run log' =
      .ok ((TransportState.behaviour t.kind ((d₀.replay log).observe t.version) T).ackInterrupt calls)
        log'' := by
  have hobs := congrArg TransportState.interruptPending (runs_observe id d₀ hr)
  obtain ⟨log'', hrun, -⟩ := ackInterrupt_run id d₀ log'
  exact ⟨log'', by rw [hrun]; exact congrArg (EStateM.Result.ok · log'') hobs⟩

/-- After any run of calls in a debug build, `read_config_space` of an aligned field whose end
fits a `usize` answers as the abstract transport does. -/
theorem readConfigSpace_refines {t : MmioTransport} {alignOf : Nat → Nat} {fuel : Nat}
    {log log' : List Access} {calls : List TransportCall} {offset size : Nat}
    (hr : EStateM.Runs (perform (MmioDevice.ofRegFile id d₀) .panics w t alignOf fuel) log calls log')
    (halign : alignOf size ≤ 4) (hoff : offset % alignOf size = 0)
    (hfit : offset + size < 2 ^ w) :
    ∃ log'', (readConfigSpace (MmioDevice.ofRegFile id d₀) .panics w t size (alignOf size) offset).run
        log' =
      .ok ((TransportState.behaviour t.kind ((d₀.replay log).observe t.version) T).readConfigSpace
        calls offset size) log'' := by
  rw [readConfigSpace_observe id d₀ halign hoff hfit, runs_observe id d₀ hr]
  split
  next hlt => exact ⟨log', by simp [TransportState.behaviour, TransportKind.checkField, hlt]⟩
  next hlt =>
    exact ⟨log' ++ [.readConfig offset size],
      by simp [TransportState.behaviour, TransportKind.checkField, hlt]⟩

/-- Over any run of calls in a debug build, the MMIO transport is the abstract one: the
registers show the state the calls leave, and `queue_used`, `ack_interrupt` and
`read_config_space` (of an aligned field whose end fits a `usize`) answer as the transport of
that state does, whatever its other answers. -/
theorem mmio_refines_behaviour {t : MmioTransport} {alignOf : Nat → Nat} {fuel : Nat}
    {log log' : List Access} {calls : List TransportCall} (T : TransportBehaviour)
    (hr : EStateM.Runs (perform (MmioDevice.ofRegFile id d₀) .panics w t alignOf fuel) log calls log') :
    let s := (d₀.replay log).observe t.version
    (d₀.replay log').observe t.version = calls.foldl (TransportState.after t.kind) s ∧
    (∀ queue, ∃ log'', (queueUsed (MmioDevice.ofRegFile id d₀) t queue).run log' =
      .ok ((TransportState.behaviour t.kind s T).queueUsed calls queue) log'') ∧
    (∃ log'', (ackInterrupt (MmioDevice.ofRegFile id d₀)).run log' =
      .ok ((TransportState.behaviour t.kind s T).ackInterrupt calls) log'') ∧
    (∀ offset size, alignOf size ≤ 4 → offset % alignOf size = 0 → offset + size < 2 ^ w →
      ∃ log'', (readConfigSpace (MmioDevice.ofRegFile id d₀) .panics w t size (alignOf size) offset).run
        log' = .ok ((TransportState.behaviour t.kind s T).readConfigSpace calls offset size) log'') := by
  intro s
  have hobs : (d₀.replay log').observe t.version = calls.foldl (TransportState.after t.kind) s :=
    runs_observe id d₀ hr
  refine ⟨hobs, fun queue => ?_, ackInterrupt_refines id d₀ hr,
    fun offset size halign hoff hfit => readConfigSpace_refines id d₀ hr halign hoff hfit⟩
  obtain ⟨r, hrun⟩ := queueUsed_run id d₀ t queue log'
  refine ⟨log' ++ [.write .queueSel queue.toUInt32, .read r], hrun.trans ?_⟩
  show _ = EStateM.Result.ok ((calls.foldl (TransportState.after t.kind) s).inUse queue) _
  rw [← hobs]
  rfl

theorem mmio_refines_behaviour_queue_and_config :
    ∃ log', EStateM.Runs (perform (MmioDevice.ofRegFile ⟨Mmio.MAGIC_VALUE, Mmio.MODERN_VERSION, 3, 0, 0, fun _ => 16, 0⟩
        ⟨0, 0, fun _ => 0, 0, 0, fun _ => .zero, 0, 0, [], fun _ _ => 0⟩) .panics 64 ⟨.modern, 8⟩
        (fun size => size) 0) [] [.queueSet 0 16 0x8000 0x9000 0xa000, .writeConfigSpace 4 4 7] log' ∧
      (∃ log'', (queueUsed (MmioDevice.ofRegFile ⟨Mmio.MAGIC_VALUE, Mmio.MODERN_VERSION, 3, 0, 0, fun _ => 16, 0⟩
        ⟨0, 0, fun _ => 0, 0, 0, fun _ => .zero, 0, 0, [], fun _ _ => 0⟩) ⟨.modern, 8⟩ 0).run log' =
        .ok true log'') ∧
      ∃ log'', (readConfigSpace (MmioDevice.ofRegFile ⟨Mmio.MAGIC_VALUE, Mmio.MODERN_VERSION, 3, 0, 0, fun _ => 16, 0⟩
        ⟨0, 0, fun _ => 0, 0, 0, fun _ => .zero, 0, 0, [], fun _ _ => 0⟩) .panics 64
        ⟨.modern, 8⟩ 4 4 4).run log' = .ok (.ok 7) log'' := by
  obtain ⟨log', hr⟩ : ∃ log', EStateM.Runs (perform (MmioDevice.ofRegFile
      ⟨Mmio.MAGIC_VALUE, Mmio.MODERN_VERSION, 3, 0, 0, fun _ => 16, 0⟩
      ⟨0, 0, fun _ => 0, 0, 0, fun _ => .zero, 0, 0, [], fun _ _ => 0⟩) .panics 64 ⟨.modern, 8⟩
      (fun size => size) 0) [] ([] ++ [.queueSet 0 16 0x8000 0x9000 0xa000] ++ [.writeConfigSpace 4 4 7])
      log' := ⟨_, .snoc (.snoc .nil rfl) rfl⟩
  obtain ⟨-, hused, -, hread⟩ := mmio_refines_behaviour _ _ (.plain 16) hr
  exact ⟨log', hr, hused 0, hread 4 4 (by decide) (by decide) (by decide)⟩

end MmioTransport
end VirtioDrivers
