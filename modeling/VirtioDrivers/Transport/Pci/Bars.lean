import VirtioDrivers.Transport.Pci.Transport

/-! What `bar_info` and `bars` make of the BAR registers. `bar_info` writes all ones to
the register, reads the size mask back and writes the original value back, so every
register it probes is restored. The size is the mask with its low four bits cleared,
inverted, plus one: right for a memory BAR, whose flags take four bits, but an I/O BAR
has two, and one of 4 or 8 bytes reads back as 16. -/
namespace VirtioDrivers
open Pci

/-- The size the PCI specification reads off the mask of an I/O BAR: its two flag bits
cleared. -/
def ioBarSize (sizeMask : UInt32) : UInt32 := ~~~(sizeMask &&& 0xfffffffc) + 1

namespace PciRoot
variable (cs : ConfigSpace) (df : DeviceFunction) (o : Overflow)

/-- An I/O BAR: `bar_info` probes the register, writes the original value back, and
reports the address with its two flag bits cleared and the size the mask gives with
four bits cleared. -/
theorem barInfo_of_io {barIndex register : UInt8} (hreg : barOffset o barIndex = .ok register)
    {log : List ConfigWrite} (hio : cs.readWord log df register &&& 1 = 1) :
    (barInfo cs df o barIndex).run log =
      .ok (.ok (.io (cs.readWord log df register &&& 0xfffffffc)
          (~~~(cs.readWord (log ++ [⟨df, register, 0xffffffff⟩]) df register &&& 0xfffffff0) + 1)))
        (log ++ [⟨df, register, 0xffffffff⟩] ++ [⟨df, register, cs.readWord log df register⟩]) := by
  simp only [barInfo, EStateM.run, EStateM.bind_apply, hreg, EStateM.ofExcept_ok_apply,
    readWord_apply, writeWord_apply, hio, if_true, EStateM.pure_apply]

/-- The writes of `bar_info` once its register is known, whatever the BAR turns out to be:
the probe and the restore. What follows them, the upper half of a 64-bit BAR included,
only reads. -/
theorem barInfo_state {barIndex register : UInt8} (hreg : barOffset o barIndex = .ok register)
    (log : List ConfigWrite) :
    ((barInfo cs df o barIndex).run log).state =
      log ++ [⟨df, register, 0xffffffff⟩] ++ [⟨df, register, cs.readWord log df register⟩] := by
  simp only [barInfo, EStateM.run, EStateM.bind_apply, hreg, EStateM.ofExcept_ok_apply,
    readWord_apply, writeWord_apply]
  by_cases hio : cs.readWord log df register &&& 1 = 1
  · simp only [hio, if_true]
    rfl
  simp only [hio, if_false]
  cases MemoryBarType.tryFrom ((cs.readWord log df register &&& 6) >>> 1).toUInt8 with
  | error e => rfl
  | ok addressType =>
    simp only
    by_cases h64 : addressType = .width64
    · by_cases h5 : 5 ≤ barIndex
      · simp only [h64, h5, if_true]
        rfl
      simp only [h64, h5, if_true, if_false, EStateM.bind_apply]
      cases addU8 o barIndex 1 with
      | error e => rfl
      | ok next =>
        simp only [EStateM.ofExcept_ok_apply]
        cases barOffset o next <;> rfl
    · simp only [h64, if_false]
      rfl

theorem barInfo_of_barOffset_error {barIndex : UInt8} {e : Fault} (hreg : barOffset o barIndex = .error e)
    (log : List ConfigWrite) : (barInfo cs df o barIndex).run log = .error e log := by
  simp only [barInfo, EStateM.run, EStateM.bind_apply, hreg, EStateM.ofExcept_error_apply]

theorem barsFrom_getElem?_of_lt {i j : Nat} (hj : j < i) {table table' : List (Option BarInfo)}
    {log log' : List ConfigWrite} (h : (barsFrom cs df o i table).run log = .ok (.ok table') log') :
    table'[j]? = table[j]? := by
  fun_induction barsFrom cs df o i table generalizing log with
  | case1 i table hi ih =>
    obtain ⟨r, log₁, -, hrest⟩ := EStateM.run_bind_eq_ok.mp h
    rcases r with e | info
    · cases hrest
    · have hnext : j < i + if _ : info.takesTwoEntries = true then 2 else 1 := by
        split <;> omega
      rw [ih info hnext (by simpa using hrest), List.getElem?_set_ne (by omega)]
  | case2 i table hi =>
    cases h
    rfl

theorem bars_getElem?_zero {info : BarInfo} {log log₁ log' : List ConfigWrite}
    {table : List (Option BarInfo)} (hbar : (barInfo cs df o 0).run log = .ok (.ok info) log₁)
    (h : (bars cs df o).run log = .ok (.ok table) log') : table[0]? = some (some info) := by
  unfold bars at h
  rw [barsFrom] at h
  simp only [show (0 : Nat) < 6 by decide, if_true] at h
  obtain ⟨r, log₂, hbar', hrest⟩ := EStateM.run_bind_eq_ok.mp h
  rw [show UInt8.ofNat 0 = 0 from rfl, hbar] at hbar'
  cases hbar'
  rw [barsFrom_getElem?_of_lt cs df o (by split <;> omega) hrest]
  rfl

/-- An I/O BAR of 4 or 8 bytes, any BAR of the six, in either build: its register answers
the all-ones probe with the mask of such a BAR, which `bar_info` reports as 16 bytes, not
the size the mask gives an I/O BAR; and when it is BAR 0, a table `bars` returns has it
so. -/
theorem small_io_bar_reads_sixteen_bytes (cs : ConfigSpace) (df : DeviceFunction) (o : Overflow)
    (log : List ConfigWrite) {barIndex : UInt8} (hidx : barIndex.toNat < 6)
    (hio : cs.readWord log df (BAR0_OFFSET + 4 * barIndex) &&& 1 = 1)
    (hmask : cs.readWord (log ++ [⟨df, BAR0_OFFSET + 4 * barIndex, 0xffffffff⟩]) df
        (BAR0_OFFSET + 4 * barIndex) = 0xfffffffd ∨
      cs.readWord (log ++ [⟨df, BAR0_OFFSET + 4 * barIndex, 0xffffffff⟩]) df
        (BAR0_OFFSET + 4 * barIndex) = 0xfffffff9) :
    (barInfo cs df o barIndex).run log =
      .ok (.ok (.io (cs.readWord log df (BAR0_OFFSET + 4 * barIndex) &&& 0xfffffffc) 16))
        (log ++ [⟨df, BAR0_OFFSET + 4 * barIndex, 0xffffffff⟩] ++
          [⟨df, BAR0_OFFSET + 4 * barIndex, cs.readWord log df (BAR0_OFFSET + 4 * barIndex)⟩]) ∧
      ioBarSize (cs.readWord (log ++ [⟨df, BAR0_OFFSET + 4 * barIndex, 0xffffffff⟩]) df
        (BAR0_OFFSET + 4 * barIndex)) ≠ 16 ∧
      (barIndex = 0 → ∀ table log', (bars cs df o).run log = .ok (.ok table) log' →
        table[0]? = some (some (.io (cs.readWord log df (BAR0_OFFSET + 4 * barIndex) &&& 0xfffffffc) 16))) := by
  have hinfo := barInfo_of_io cs df o (barOffset_of_lt o (by omega)) hio
  -- both masks clear to the same sixteen-byte size with four bits cleared
  have hsize : ~~~(cs.readWord (log ++ [⟨df, BAR0_OFFSET + 4 * barIndex, 0xffffffff⟩]) df
      (BAR0_OFFSET + 4 * barIndex) &&& 0xfffffff0) + 1 = 16 := by
    rcases hmask with h | h <;> rw [h] <;> decide
  rw [hsize] at hinfo
  refine ⟨hinfo, ?_, ?_⟩
  · rcases hmask with h | h <;> rw [h] <;> decide
  · rintro rfl table log' h
    exact bars_getElem?_zero cs df o hinfo h

end PciRoot

/-- A device whose BAR 0 is an I/O BAR of 4 bytes at `0xc000`, its other BARs unused. -/
theorem small_io_bar_reads_sixteen_bytes_bar0 :
    let cs : ConfigSpace := ⟨fun log _ register =>
      if register = 0x10 then
        if log.getLast?.map (·.data) = some 0xffffffff then 0xfffffffd else 0xc001
      else 0⟩
    (PciRoot.barInfo cs ⟨0, 1, 0⟩ .panics 0).run [] =
        .ok (.ok (.io 0xc000 16)) [⟨⟨0, 1, 0⟩, 0x10, 0xffffffff⟩, ⟨⟨0, 1, 0⟩, 0x10, 0xc001⟩] ∧
      ioBarSize 0xfffffffd = 4 ∧
      ∀ table log', (PciRoot.bars cs ⟨0, 1, 0⟩ .panics).run [] = .ok (.ok table) log' →
        table[0]? = some (some (.io 0xc000 16)) := by
  intro cs
  obtain ⟨hinfo, -, hbars⟩ := @PciRoot.small_io_bar_reads_sixteen_bytes cs ⟨0, 1, 0⟩ .panics [] 0
    (by decide) (by decide) (.inl (by decide))
  have horig : cs.readWord [] ⟨0, 1, 0⟩ (BAR0_OFFSET + 4 * 0) = 0xc001 := by decide
  rw [horig] at hinfo hbars
  exact ⟨hinfo, by decide, hbars rfl⟩

end VirtioDrivers
