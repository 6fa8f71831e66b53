import VirtioDrivers.Queue.Run
import Mathlib.Algebra.BigOperators.Group.List.Basic

/-! When `add` and `pop_used` return. A direct chain of buffers that fit is added
whenever the free list has room for it, and the chain the device has used next is
popped whenever the driver names it with its own buffers. The accounting does not
depend on the order in which the outstanding chains are listed. -/
namespace VirtioDrivers
open LinkWalk Ownership

namespace VirtQueue
variable {SIZE : Nat}

theorem Inv.perm {q : VirtQueue SIZE} {cs cs' : List Chain} (h : q.Inv cs) (hp : cs.Perm cs') :
    q.Inv cs' where
  numUsed_le := h.numUsed_le
  freeHead_lt := h.freeHead_lt
  next_lt := h.next_lt
  partitions := h.partitions.perm hp
  numUsed_eq := by rw [h.numUsed_eq, (hp.flatMap_right q.footprint).length_eq]
  chains := fun c hc => h.chains c (hp.mem_iff.mpr hc)
  tables := fun i hi => by
    obtain ⟨c, hc, hind, htok⟩ := h.tables i hi
    exact ⟨c, hp.mem_iff.mp hc, hind, htok⟩

theorem Inv.length_le_numUsed {q : VirtQueue SIZE} {cs : List Chain} (h : q.Inv cs) :
    cs.length ≤ q.numUsed := by
  have hone : ∀ n ∈ cs.map (fun c => (q.footprint c).length), 1 ≤ n := by
    simp only [List.mem_map]
    rintro n ⟨c, hc, rfl⟩
    exact List.length_pos_of_mem (token_mem_footprint (h.chains c hc).count_pos)
  rw [h.numUsed_eq, List.length_flatMap]
  simpa using List.length_le_sum_of_one_le _ hone

theorem Inv.numUsed_nil {q : VirtQueue SIZE} (h : q.Inv []) : q.numUsed = 0 := by
  simpa using h.numUsed_eq

theorem length_footprint_le (q : VirtQueue SIZE) {c : Chain} (hc : 0 < c.count) :
    (q.footprint c).length ≤ c.count := by
  unfold footprint
  split
  · exact hc
  · simp

theorem numUsed_lt_of_availableDesc {q : VirtQueue SIZE} (h : 3 ≤ q.availableDesc)
    (hle : q.numUsed ≤ SIZE) : q.numUsed < SIZE := by
  unfold availableDesc at h
  split at h
  · split at h
    · omega
    · omega
  · omega

theorem Inv.walk_free_lt {q : VirtQueue SIZE} {cs : List Chain} (h : q.Inv cs) (k : Nat) :
    ∀ j ∈ walk q.nextOf q.freeHead k, j < SIZE :=
  walk_mem_of_closed (s := {j | j < SIZE}) h.freeHead_lt h.next_lt

theorem Inv.mem_free_or_footprint {q : VirtQueue SIZE} {cs : List Chain} (h : q.Inv cs) {i : Nat}
    (hi : i < SIZE) : i ∈ q.freeList ∨ ∃ c ∈ cs, i ∈ q.footprint c := by
  have hlt : ∀ j ∈ q.freeList ++ cs.flatMap q.footprint, j < SIZE := by
    intro j hj
    rcases List.mem_append.mp hj with hj | hj
    · exact h.walk_free_lt _ j hj
    · obtain ⟨c, hc, hjc⟩ := List.mem_flatMap.mp hj
      exact h.lt_of_mem_footprint hc j hjc
  have hlen : SIZE ≤ (q.freeList ++ cs.flatMap q.footprint).length := by
    rw [List.length_append, ← h.numUsed_eq, freeList, length_walk]
    have := h.numUsed_le
    omega
  exact h.partitions.mem_of_lt hlt hlen hi

/-- With room in the queue for a chain it need not make indirect, `add` is `add_direct`
followed by publishing the head. -/
theorem add_of_direct (H : Hal) {q : VirtQueue SIZE} {inputs outputs : List Buf}
    (hne : inputOutputIter inputs outputs ≠ [])
    (hdirect : ¬ (q.indirect = true ∧ 1 < inputs.length + outputs.length))
    (hroom : q.numUsed + (inputs.length + outputs.length) ≤ SIZE) :
    q.add H inputs outputs =
      (q.addDirect H inputs outputs >>= fun r => pure (r.1.publish r.2, r.2)) := by
  have hpos : 0 < inputs.length + outputs.length := by
    rw [← length_inputOutputIter]
    exact List.length_pos_iff.mpr hne
  have hind : (q.indirect && decide (inputs.length + outputs.length > 1)) = false := by
    cases hi : q.indirect
    · rfl
    · simp only [hi, true_and] at hdirect
      simpa using hdirect
  rw [add_eq_branch H hne (by omega) (by omega) (fun _ => hroom), hind]
  rfl

theorem add_eq_of_direct (H : Hal) {q : VirtQueue SIZE} {inputs outputs : List Buf}
    (hne : inputOutputIter inputs outputs ≠ [])
    (hdirect : ¬ (q.indirect = true ∧ 1 < inputs.length + outputs.length))
    (hroom : q.numUsed + (inputs.length + outputs.length) ≤ SIZE)
    (hfit : ∀ p ∈ inputOutputIter inputs outputs, p.1.Fits)
    (hlt : ∀ j ∈ walk q.nextOf q.freeHead (inputs.length + outputs.length), j < SIZE) :
    q.add H inputs outputs = .ok ((q.afterAddDirect H inputs outputs).publish q.freeHead, q.freeHead) := by
  rw [add_of_direct H hne hdirect hroom,
    addDirect_eq H q inputs outputs hne hfit (by rw [length_inputOutputIter]; exact hlt)]
  rfl

theorem add_eq_panic_of_empty (H : Hal) {q : VirtQueue SIZE} {inputs outputs : List Buf}
    {b : Buf} {direction : BufferDirection} {rest : List (Buf × BufferDirection)}
    (hiter : inputOutputIter inputs outputs = (b, direction) :: rest) (hb : b.len = 0)
    (hdirect : ¬ (q.indirect = true ∧ 1 < inputs.length + outputs.length))
    (hroom : q.numUsed + (inputs.length + outputs.length) ≤ SIZE) :
    q.add H inputs outputs = .error .panic := by
  rw [add_of_direct H (by simp [hiter]) hdirect hroom]
  simp [addDirect, hiter, addDirectLoop, hb, assert]

theorem Inv.popUsed_eq_of_direct (H : Hal) {q : VirtQueue SIZE} {cs : List Chain} {c : Chain}
    {used : UsedRing} (h : q.Inv cs) (hc : c ∈ cs) (hd : q.isIndirect c = false)
    (hpop : q.canPop used = true) (htok : (used.ring q.lastUsedSlot).id.toUInt16.toNat = c.token) :
    ∃ us, q.popUsed H used c.token c.inputs c.outputs =
      .ok ((q.afterRecycleDirect c.token c.count).consumeUsed, (used.ring q.lastUsedSlot).len, us) := by
  have hok := h.chains c hc
  have hfpc := footprint_of_direct hd
  have hrec := recycleDescriptors_direct H q c.token c.inputs c.outputs
    (hok.head_indirect.trans hd) hok.count_pos (fun p hp => (hok.fits hd p hp).1)
    (hfpc ▸ h.partitions.nodup_fp hc) (hfpc ▸ h.lt_of_mem_footprint hc) (hok.links hd)
  exact ⟨_, popUsed_of_recycleDescriptors hpop htok hrec⟩

/-- Under the invariant, `add` of a chain it makes indirect returns the head of the free
list, with a table of one entry for each buffer, whenever one descriptor is free and the
buffers fit. -/
theorem Inv.add_eq_of_indirect (H : Hal) {q : VirtQueue SIZE} {cs : List Chain}
    {inputs outputs : List Buf} (h : q.Inv cs) (hind : q.indirect = true)
    (hn : 1 < inputs.length + outputs.length) (hroom : q.numUsed < SIZE)
    (hle : inputs.length + outputs.length ≤ SIZE)
    (hfit : ∀ p ∈ inputOutputIter inputs outputs, p.1.len < 2^32)
    (hsmall : 16 * (inputs.length + outputs.length) < 2^32) :
    ∃ l, l.length = inputs.length + outputs.length ∧
      q.add H inputs outputs = .ok ((q.afterAddIndirect H l).publish q.freeHead, q.freeHead) := by
  -- the free head owns no table: a table belongs to an outstanding chain's head
  have hnone : q.indirectLists q.freeHead = none := by
    by_contra hsome
    obtain ⟨c, hc, hi, htok⟩ := h.tables q.freeHead hsome
    have hfree : q.freeHead ∉ q.footprint c :=
      h.not_mem_footprint_of_mem_walk (n := 1) (by omega) (by simp) hc
    exact hfree (by simp [footprint, hi, htok])
  have hne : inputOutputIter inputs outputs ≠ [] := by
    rw [← List.length_pos_iff, length_inputOutputIter]
    omega
  obtain ⟨l, hlen, hl⟩ := addIndirect_eq H q inputs outputs hne hfit hsmall h.freeHead_lt hnone
  have hbranch : (q.indirect && decide (inputs.length + outputs.length > 1)) = true := by
    simp [hind, hn]
  refine ⟨l, hlen, ?_⟩
  rw [add_eq_branch H hne (by omega) hle (by simp [hind]), if_pos hbranch, hl]
  rfl

/-- Under the invariant, `pop_used` of the indirect chain the device has used next frees
its head and returns the length the device wrote, when none of its buffers is empty. -/
theorem Inv.popUsed_eq_of_indirect (H : Hal) {q : VirtQueue SIZE} {cs : List Chain} {c : Chain}
    {used : UsedRing} (h : q.Inv cs) (hc : c ∈ cs) (hi : q.isIndirect c = true)
    (hne : ∀ p ∈ c.bufs, p.1.len ≠ 0)
    (hpop : q.canPop used = true) (htok : (used.ring q.lastUsedSlot).id.toUInt16.toNat = c.token) :
    ∃ us, q.popUsed H used c.token c.inputs c.outputs =
      .ok ((q.afterRecycleIndirect c.token).consumeUsed, (used.ring q.lastUsedSlot).len, us) := by
  have hok := h.chains c hc
  obtain ⟨l, hl, hlen⟩ := hok.table hi
  obtain ⟨us, hrec⟩ : ∃ us, q.recycleDescriptors H c.token c.inputs c.outputs =
      .ok (q.afterRecycleIndirect c.token, us) :=
    ⟨_, recycleDescriptors_indirect H q c.token c.inputs c.outputs
      (hok.head_indirect.trans hi) hok.token_lt hl hlen hne⟩
  exact ⟨us, popUsed_of_recycleDescriptors hpop htok hrec⟩

end VirtQueue
end VirtioDrivers
