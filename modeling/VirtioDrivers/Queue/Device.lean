import VirtioDrivers.Queue.Run
import VirtioDrivers.Lib.IndexRing
import VirtioDrivers.Lib.Memory
import VirtioDrivers.Transport.Basic

/-! The device side of a queue's used ring. A device returns a chain by writing a used
element into the slot of its next index and publishing the index; the driver reads
from `last_used_idx`. The elements returned and not popped yet are a list, read in the
order the device wrote them. -/
namespace VirtioDrivers
open IndexRing

theorem SizeOk.dvd {SIZE : Nat} (h : SizeOk SIZE) : SIZE ∣ 2^16 := by
  obtain ⟨⟨k, rfl⟩, hle⟩ := h
  have hk : k ≤ 16 := by
    by_contra hk
    have : 2^17 ≤ 2^k := Nat.pow_le_pow_right (by decide) (by omega)
    omega
  exact Nat.pow_dvd_pow 2 hk

theorem SizeOk.lt {SIZE : Nat} (h : SizeOk SIZE) : SIZE < 2^16 := by
  have := h.2
  omega

namespace UsedRing

/-- The device returns a chain: the element goes in the slot of `idx`, then `idx` moves on. -/
def push (SIZE : Nat) (u : UsedRing) (e : UsedElem) : UsedRing :=
  { u with
    ring := (IndexRing.push SIZE u.ring u.idx e).1
    idx := (IndexRing.push SIZE u.ring u.idx e).2 }

end UsedRing

/-- The device returns chain `token` of queue `idx`, a queue of `SIZE` entries, having
written `bytes` into the buffer at `addr`. -/
def DeviceMemory.complete (SIZE : Nat) (dm : DeviceMemory) (idx : UInt16) (token addr : Nat)
    (bytes : List UInt8) : DeviceMemory where
  used := Function.update dm.used idx
    ((dm.used idx).push SIZE ⟨UInt32.ofNat token, UInt32.ofNat bytes.length⟩)
  mem := Memory.write dm.mem addr bytes

namespace VirtQueue
variable {SIZE : Nat}

/-- The used elements the device has returned and the driver has not popped, in order. -/
def UsedPending (q : VirtQueue SIZE) (u : UsedRing) (pending : List UsedElem) : Prop :=
  Holds SIZE u.ring u.idx q.lastUsedIdx pending

theorem lastUsedSlot_eq (hsize : SizeOk SIZE) (q : VirtQueue SIZE) :
    q.lastUsedSlot = q.lastUsedIdx.toNat % SIZE :=
  toNat_and_sub_one _ hsize.1 hsize.lt

section
variable {q : VirtQueue SIZE} {u : UsedRing} {pending : List UsedElem}

theorem UsedPending.canPop_iff (hsize : SizeOk SIZE) (h : q.UsedPending u pending) :
    q.canPop u = true ↔ pending ≠ [] := by
  rw [← h.idx_ne_iff hsize.lt, canPop, bne_iff_ne, ne_eq, ne_eq]
  exact ⟨fun h1 h2 => h1 h2.symm, fun h1 h2 => h1 h2.symm⟩

theorem UsedPending.slot_eq {e : UsedElem} {rest : List UsedElem} (hsize : SizeOk SIZE)
    (h : q.UsedPending u (e :: rest)) : u.ring q.lastUsedSlot = e := by
  rw [lastUsedSlot_eq hsize]
  exact h.head

theorem UsedPending.peekUsed_cons {e : UsedElem} {rest : List UsedElem} (hsize : SizeOk SIZE)
    (h : q.UsedPending u (e :: rest)) : q.peekUsed u = some e.id.toUInt16.toNat := by
  have hpop : q.canPop u = true := (h.canPop_iff hsize).mpr (List.cons_ne_nil _ _)
  simp [peekUsed, hpop, h.slot_eq hsize]

theorem UsedPending.peekUsed_nil (hsize : SizeOk SIZE) (h : q.UsedPending u []) :
    q.peekUsed u = none := by
  have hpop : q.canPop u = false := by
    simpa using (h.canPop_iff hsize).not.mpr (by simp)
  simp [peekUsed, hpop]

theorem UsedPending.consumeUsed {e : UsedElem} {rest : List UsedElem} (hsize : SizeOk SIZE)
    (h : q.UsedPending u (e :: rest)) {q' : VirtQueue SIZE} (hq : q'.lastUsedIdx = q.lastUsedIdx) :
    q'.consumeUsed.UsedPending u rest := by
  have hlast : q'.consumeUsed.lastUsedIdx = q.lastUsedIdx + 1 := by
    by_cases he : q'.eventIdx <;> simp [VirtQueue.consumeUsed, he, hq]
  unfold UsedPending
  rw [hlast]
  exact Holds.pop h hsize.dvd

theorem UsedPending.push (hsize : SizeOk SIZE) (h : q.UsedPending u pending)
    (hroom : pending.length < SIZE) (e : UsedElem) :
    q.UsedPending (u.push SIZE e) (pending ++ [e]) :=
  Holds.push h hsize.dvd hroom e

theorem UsedPending.pushAll (hsize : SizeOk SIZE) (h : q.UsedPending u pending) (l : List UsedElem)
    (hroom : pending.length + l.length ≤ SIZE) :
    q.UsedPending (l.foldl (UsedRing.push SIZE) u) (pending ++ l) := by
  induction l generalizing u pending with
  | nil => simpa using h
  | cons e rest ih =>
    have hlen : pending.length + 1 + rest.length ≤ SIZE := by
      simp only [List.length_cons] at hroom
      omega
    rw [List.foldl_cons, List.append_cons]
    exact ih (h.push hsize (by omega) e) (by simpa using hlen)

theorem UsedPending.congr {q' : VirtQueue SIZE} (h : q.UsedPending u pending)
    (hq : q'.lastUsedIdx = q.lastUsedIdx) : q'.UsedPending u pending := by
  unfold UsedPending
  rw [hq]
  exact h

end

end VirtQueue
end VirtioDrivers
