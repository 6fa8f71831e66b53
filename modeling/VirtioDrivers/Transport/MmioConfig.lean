import VirtioDrivers.Transport.MmioRun

/-! The config space of the MMIO transport. `read_config_space` and `write_config_space`
check that the field ends within the config space, with `offset + size_of::<T>()` in
`usize` arithmetic. In a debug build that sum panics rather than wrap, so every access of
the config space over any run of calls lies within it, and within the region `new` was
given. In a release build the sum wraps: a field that ends past `2 ^ w` passes the check
when its wrapped end is small, and the access is made far past the config space. -/

namespace VirtioDrivers

/-- Whether an access stays within the first `limit` bytes of the config space; an access
of a register is within the header. -/
def Access.within (limit : Nat) : Access → Bool
  | .readConfig offset size => decide (offset + size ≤ limit)
  | .writeConfig offset size _ => decide (offset + size ≤ limit)
  | _ => true

namespace MmioTransport
open Mmio
variable {dev : MmioDevice} {w : Nat}

theorem perform_within {t : MmioTransport} {alignOf : Nat → Nat} {fuel : Nat} {c : TransportCall}
    {log log' : List Access} (h : (perform dev .panics w t alignOf fuel c).run log = .ok () log') :
    ∃ new, log' = log ++ new ∧ ∀ a ∈ new, a.within t.configSpaceSize := by
  obtain ⟨new, rfl, ha⟩ := perform_appends _ _ _ h
  refine ⟨new, rfl, ?_⟩
  cases ha
  case readConfig offset size hc => simpa [Access.within] using le_of_checkConfigAccess_panics _ hc
  case writeConfig offset size value hc =>
    simpa [Access.within] using le_of_checkConfigAccess_panics _ hc
  case setGuestPageSize guestPageSize => cases t.version <;> simp [Access.within]
  all_goals simp [Access.within, or_imp, forall_and]

theorem runs_within {t : MmioTransport} {alignOf : Nat → Nat} {fuel : Nat}
    {log log' : List Access} {calls : List TransportCall}
    (hr : EStateM.Runs (perform dev .panics w t alignOf fuel) log calls log') :
    ∃ new, log' = log ++ new ∧ ∀ a ∈ new, a.within t.configSpaceSize :=
  hr.appends perform_within

/-- In a debug build, a transport `new` made for a region of `mmio_size` bytes makes every
access of its config space, over any run of calls, within that region. -/
theorem runs_within_region {mmioSize : Nat} {t : MmioTransport} {alignOf : Nat → Nat} {fuel : Nat}
    {log₀ log log' : List Access} {calls : List TransportCall}
    (hnew : (new dev mmioSize).run log₀ = .ok (.ok t) log)
    (hr : EStateM.Runs (perform dev .panics w t alignOf fuel) log calls log') :
    CONFIG_SPACE_OFFSET ≤ mmioSize ∧
      ∃ new, log' = log ++ new ∧ ∀ a ∈ new, a.within (mmioSize - CONFIG_SPACE_OFFSET) := by
  obtain ⟨hle, hsize⟩ := new_configSpaceSize _ hnew
  rw [← hsize]
  exact ⟨hle, runs_within hr⟩

theorem runs_within_region_console :
    ∃ log log', (new (MmioDevice.ofRegFile ⟨MAGIC_VALUE, MODERN_VERSION, 3, 0, 0, fun _ => 16, 0⟩
        ⟨0, 0, fun _ => 0, 0, 0, fun _ => .zero, 0, 0, [], fun _ _ => 0⟩) 0x108).run [] =
        .ok (.ok ⟨.modern, 8⟩) log ∧
      EStateM.Runs (perform (MmioDevice.ofRegFile ⟨MAGIC_VALUE, MODERN_VERSION, 3, 0, 0, fun _ => 16, 0⟩
        ⟨0, 0, fun _ => 0, 0, 0, fun _ => .zero, 0, 0, [], fun _ _ => 0⟩) .panics 64 ⟨.modern, 8⟩
        (fun size => size) 0) log [.writeConfigSpace 4 4 7, .readConfigSpace 4 4] log' ∧
      ∃ new, log' = log ++ new ∧ ∀ a ∈ new, a.within (0x108 - CONFIG_SPACE_OFFSET) := by
  obtain ⟨log, hnew⟩ : ∃ log, (new (MmioDevice.ofRegFile ⟨MAGIC_VALUE, MODERN_VERSION, 3, 0, 0, fun _ => 16, 0⟩
      ⟨0, 0, fun _ => 0, 0, 0, fun _ => .zero, 0, 0, [], fun _ _ => 0⟩) 0x108).run [] =
      .ok (.ok ⟨.modern, 8⟩) log := ⟨_, rfl⟩
  obtain ⟨log', hr⟩ : ∃ log', EStateM.Runs (perform (MmioDevice.ofRegFile
      ⟨MAGIC_VALUE, MODERN_VERSION, 3, 0, 0, fun _ => 16, 0⟩
      ⟨0, 0, fun _ => 0, 0, 0, fun _ => .zero, 0, 0, [], fun _ _ => 0⟩) .panics 64 ⟨.modern, 8⟩
      (fun size => size) 0) log ([] ++ [.writeConfigSpace 4 4 7] ++ [.readConfigSpace 4 4]) log' :=
    ⟨_, .snoc (.snoc .nil rfl) rfl⟩
  exact ⟨log, log', hnew, hr, (runs_within_region hnew hr).2⟩

theorem perform_readConfigSpace_wraps {t : MmioTransport} {alignOf : Nat → Nat} {fuel : Nat}
    {offset size : Nat} (halign : alignOf size ≤ 4) (hoff : offset % alignOf size = 0)
    (hin : (offset + size) % 2 ^ w ≤ t.configSpaceSize) (log : List Access) :
    (perform dev .wraps w t alignOf fuel (.readConfigSpace offset size)).run log =
      .ok () (log ++ [.readConfig offset size]) := by
  have hc := checkConfigAccess_of_fit (t := t) .wraps w halign hoff (Overflow.fit_wraps w (offset + size))
  rw [if_neg (Nat.not_lt.mpr hin)] at hc
  simp [perform, readConfigSpace, hc, EStateM.run, EStateM.bind_apply]

/-- So in a release build a run of one call reads past the config space of any transport:
the four bytes below `2 ^ w` end, wrapped, at zero. -/
theorem run_wraps_past_configSpace {t : MmioTransport} {alignOf : Nat → Nat} (halign : alignOf 4 = 4)
    (hw : 2 ≤ w) (hsmall : t.configSpaceSize < 2 ^ w) (fuel : Nat) (log : List Access) :
    EStateM.Runs (perform dev .wraps w t alignOf fuel) log [.readConfigSpace (2 ^ w - 4) 4]
        (log ++ [.readConfig (2 ^ w - 4) 4]) ∧
      (Access.readConfig (2 ^ w - 4) 4).within t.configSpaceSize = false := by
  obtain ⟨k, rfl⟩ : ∃ k, w = k + 2 := ⟨w - 2, by omega⟩
  have hk : 1 ≤ 2 ^ k := Nat.one_le_two_pow
  have hpow : 2 ^ (k + 2) = 2 ^ k * 4 := by rw [pow_add]; rfl
  have hstep : (perform dev .wraps (k + 2) t alignOf fuel
      (.readConfigSpace (2 ^ (k + 2) - 4) 4)).run log =
        .ok () (log ++ [.readConfig (2 ^ (k + 2) - 4) 4]) :=
    perform_readConfigSpace_wraps (by omega) (by rw [halign, hpow]; omega)
      (by rw [hpow, Nat.sub_add_cancel (by omega), Nat.mod_self]; omega) log
  refine ⟨.snoc (.nil : EStateM.Runs (perform dev .wraps (k + 2) t alignOf fuel) log [] log) hstep, ?_⟩
  simp only [Access.within, decide_eq_false_iff_not]
  omega

theorem run_wraps_past_configSpace_u64 :
    EStateM.Runs (perform (MmioDevice.ofRegFile ⟨MAGIC_VALUE, MODERN_VERSION, 3, 0, 0, fun _ => 16, 0⟩
        ⟨0, 0, fun _ => 0, 0, 0, fun _ => .zero, 0, 0, [], fun _ _ => 0⟩) .wraps 64 ⟨.modern, 8⟩
        (fun size => size) 0) [] [.readConfigSpace (2 ^ 64 - 4) 4] ([] ++ [.readConfig (2 ^ 64 - 4) 4]) ∧
      (Access.readConfig (2 ^ 64 - 4) 4).within 8 = false :=
  run_wraps_past_configSpace rfl (by decide) (by decide) 0 []

end MmioTransport
end VirtioDrivers
